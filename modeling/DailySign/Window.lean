import DailySign.Ledger

/-! # The registration window

The window is counted in 86400-second periods and the grants in dates, so it meets one date
more than `RemainingDays` says unless registration was at local midnight. -/
namespace DailySign

/-- A call's clock readings all fall on the local date of its first one. -/
def SignEnv.OneDay (loc : Location) (e : SignEnv) : Prop := loc.day e.check.now = loc.day e.logNow

instance (loc : Location) (e : SignEnv) : Decidable (e.OneDay loc) :=
  inferInstanceAs (Decidable (_ = _))

/-- The local dates of a run's calls that returned `Success=true`, one per such call. -/
def grantDays (loc : Location) (trace : List (SignEnv × Except String SignResult)) : List Int :=
  (trace.filter fun p => granted p.2).map fun p => loc.day p.1.check.now

def lastReading : Int → List SignEnv → Int
  | t, [] => t
  | _, e :: es => lastReading e.logNow es

theorem grantDays_cons (loc : Location) (e : SignEnv) (r : Except String SignResult)
    (trace : List (SignEnv × Except String SignResult)) :
    grantDays loc ((e, r) :: trace) =
      (if granted r then [loc.day e.check.now] else []) ++ grantDays loc trace := by
  unfold grantDays
  cases h : granted r <;> simp [List.filter_cons, h]

theorem le_lastReading : ∀ {t : Int} {es : List SignEnv}, Clocked t es → t ≤ lastReading t es
  | _, [], _ => Int.le_refl _
  | _, e :: es, ⟨⟨_, _, _, _⟩, hcs⟩ => by
    have := le_lastReading hcs
    show _ ≤ lastReading e.logNow es
    omega

/-! ## One call -/

theorem signDays_doSign {cfg : Config} (s : Store) (userId : Int) {e : SignEnv}
    (hone : e.OneDay cfg.loc) (hw : e.createErr = none) :
    signDays cfg (doSign cfg s userId e).2 userId = signDays cfg s userId ++
      (if granted (doSign cfg s userId e).1 then [cfg.loc.day e.check.now] else []) := by
  rcases doSign_cases cfg s userId e with ⟨_, _, hd⟩ | ⟨_, _, _, _, hd⟩ | ⟨_, _, _, hd⟩ <;>
    rw [hd]
  · simp [granted]
  · simp [granted]
  · rw [signDays, signLogs_grant, hw]
    simpa [granted, signLog, signDays] using Eq.symm hone

theorem doSign_profile {cfg : Config} {s : Store} {userId : Int} (e : SignEnv) {user : User}
    {q : Int} (hu : s.users userId = some { user with quota := q }) :
    ∃ q', (doSign cfg s userId e).2.users userId = some { user with quota := q' } := by
  rcases doSign_cases cfg s userId e with ⟨_, _, hd⟩ | ⟨_, _, _, _, hd⟩ | ⟨_, _, _, hd⟩ <;>
    rw [hd]
  · exact ⟨q, hu⟩
  · exact ⟨q, hu⟩
  · exact ⟨q + cfg.quotaForSign, by simp [hu]⟩

theorem runSigns_profile {cfg : Config} {userId : Int} {user : User} :
    ∀ (es : List SignEnv) (s : Store) (q : Int), s.users userId = some { user with quota := q } →
      ∃ q', (runSigns cfg userId s es).1.users userId = some { user with quota := q' }
  | [], _, q, hu => ⟨q, hu⟩
  | e :: es, _, _, hu => by
    obtain ⟨q', hu'⟩ := doSign_profile e hu
    exact runSigns_profile es _ q' hu'

theorem eligible_of_granted {cfg : Config} {s : Store} {userId : Int} {e : SignEnv}
    (h : granted (doSign cfg s userId e).1 = true) :
    ∃ user, Eligible cfg s userId e.check user := by
  rcases doSign_cases cfg s userId e with ⟨_, _, hd⟩ | ⟨_, _, _, _, hd⟩ | ⟨user, he, _, _⟩
  · simp [hd, granted] at h
  · simp [hd, granted] at h
  · exact ⟨user, he⟩

theorem fresh_date {cfg : Config} (hr : cfg.loc.ExactDays) {s : Store} {userId t : Int}
    {e : SignEnv} (hc : e.ClockedFrom t) (hone : e.OneDay cfg.loc)
    (h : granted (doSign cfg s userId e).1 = true) :
    cfg.loc.day e.check.now ∉ signDays cfg s userId := by
  obtain ⟨user, he⟩ := eligible_of_granted h
  obtain ⟨-, h₁, h₂, h₃⟩ := hc
  intro hmem
  obtain ⟨log, hlog, hday⟩ := List.mem_map.mp hmem
  have := hr.mono h₁
  have := hr.mono h₂
  have := hr.mono h₃
  exact Eligible.no_log_between hr he log hlog ⟨by unfold SignEnv.OneDay at hone; omega, by omega⟩

/-! ## Runs -/

theorem runSigns_granted_window {cfg : Config} {userId : Int} {user : User} :
    ∀ (es : List SignEnv) (s : Store) (t q : Int), Clocked t es →
      s.users userId = some { user with quota := q } →
      ∀ p ∈ (runSigns cfg userId s es).2, granted p.2 = true →
        0 < cfg.quotaForSign ∧ cfg.isGroupSignEnabled user.group = true ∧
        t ≤ p.1.check.now ∧ p.1.check.now ≤ lastReading t es ∧
        (p.1.check.now - user.createdTime).tdiv (24 * 60 * 60) < cfg.signInDays
  | [], _, _, _, _, _, _, hp, _ => by cases hp
  | e :: es, s, t, q, ⟨hc, hcs⟩, hu, p, hp, hg => by
    have hlast := le_lastReading hcs
    rw [runSigns_cons, List.mem_cons] at hp
    rcases hp with rfl | hp
    · dsimp only at hg ⊢
      obtain ⟨u, he⟩ := eligible_of_granted hg
      obtain rfl : u = { user with quota := q } := Option.some.inj (he.found.2.symm.trans hu)
      obtain ⟨_, _, _, _⟩ := hc
      exact ⟨he.enabled, he.group, by omega, by simp only [lastReading]; omega, he.window⟩
    · obtain ⟨q', hu'⟩ := doSign_profile e hu
      obtain ⟨hq, hgroup, ht, hl, hw⟩ := runSigns_granted_window es _ e.logNow q' hcs hu' p hp hg
      obtain ⟨_, _, _, _⟩ := hc
      exact ⟨hq, hgroup, by omega, hl, hw⟩

theorem grantDays_window {cfg : Config} {userId t : Int} {user : User} {es : List SignEnv}
    {s : Store} (hclock : Clocked t es) (huser : s.users userId = some user) :
    ∀ d ∈ grantDays cfg.loc (runSigns cfg userId s es).2,
      0 < cfg.quotaForSign ∧ cfg.isGroupSignEnabled user.group = true ∧
      ∃ c, t ≤ c ∧ c ≤ lastReading t es ∧
        (c - user.createdTime).tdiv (24 * 60 * 60) < cfg.signInDays ∧ d = cfg.loc.day c := by
  intro d hd
  obtain ⟨p, hp, rfl⟩ := List.mem_map.mp hd
  obtain ⟨hp, hg⟩ := List.mem_filter.mp hp
  obtain ⟨hq, hgroup, h₁, h₂, hw⟩ := runSigns_granted_window es s t user.quota hclock huser p hp hg
  exact ⟨hq, hgroup, _, h₁, h₂, hw, rfl⟩

section ExactDays

variable {cfg : Config} (hr : cfg.loc.ExactDays)
include hr

/-- A run whose calls keep their readings on one date and write their logs adds exactly its
granted dates to the user's sign dates, and those are distinct and new. -/
theorem runSigns_grantDays (userId : Int) :
    ∀ (es : List SignEnv) (s : Store) (t : Int), Clocked t es →
      (∀ e ∈ es, e.OneDay cfg.loc ∧ e.createErr = none) →
      signDays cfg (runSigns cfg userId s es).1 userId =
        signDays cfg s userId ++ grantDays cfg.loc (runSigns cfg userId s es).2 ∧
      (grantDays cfg.loc (runSigns cfg userId s es).2).Nodup ∧
      ∀ d ∈ grantDays cfg.loc (runSigns cfg userId s es).2, d ∉ signDays cfg s userId
  | [], s, _, _, _ => ⟨by simp [grantDays], .nil, by simp [grantDays]⟩
  | e :: es, s, t, ⟨hc, hcs⟩, hcalls => by
    obtain ⟨hone, hw⟩ := hcalls e (List.mem_cons_self _ _)
    obtain ⟨hrest, hnodup, hnew⟩ :=
      runSigns_grantDays userId es (doSign cfg s userId e).2 e.logNow hcs
      fun e' h => hcalls e' (List.mem_cons_of_mem _ h)
    have hstep := signDays_doSign s userId hone hw
    simp only [runSigns_cons, grantDays_cons]
    refine ⟨by rw [hrest, hstep, List.append_assoc], ?_, fun d hd => ?_⟩
    · refine List.nodup_append.mpr ⟨by split <;> simp, hnodup, fun d hd hd' => hnew d hd' ?_⟩
      rw [hstep]
      exact List.mem_append_right _ hd
    · rcases List.mem_append.mp hd with hd | hd
      · split at hd
        · rw [List.mem_singleton.mp hd]
          exact fresh_date hr hc hone ‹_›
        · cases hd
      · exact fun hs => hnew d hd (hstep ▸ List.mem_append_left _ hs)

end ExactDays

/-! ## Counting dates -/

theorem length_le_of_between {ds : List Int} (a b : Int) (hd : ds.Nodup)
    (hr : ∀ d ∈ ds, a ≤ d ∧ d ≤ b) : ds.length ≤ (b + 1 - a).toNat := by
  have hsub : ds ⊆ dayRange a b := fun d h => mem_dayRange.mpr (hr d h)
  simpa [dayRange] using (hd.subperm hsub).length_le

theorem length_signed {sd : List Int} {a b : Int} (hd : sd.Nodup)
    (hr : ∀ d ∈ sd, a ≤ d ∧ d ≤ b) :
    (((dayRange a b).map (signStatusOf sd)).filter (·.signed)).length = sd.length := by
  have hperm : ((dayRange a b).filter (· ∈ sd)).Perm sd :=
    (List.perm_ext_iff_of_nodup ((nodup_dayRange _ _).filter _) hd).mpr fun d => by
      simp only [List.mem_filter, decide_eq_true_eq, mem_dayRange]
      exact ⟨fun h => h.2, fun h => ⟨by have := hr d h; omega, h⟩⟩
  rw [List.filter_map, ← hperm.length_eq, List.length_map]
  rfl

theorem day_le_of_window {cfg : Config} {k : Int} (hk : cfg.loc.Fixed k) {c createdTime : Int}
    (hw : (c - createdTime).tdiv (24 * 60 * 60) < cfg.signInDays) :
    cfg.loc.day c ≤ cfg.loc.day createdTime + cfg.signInDays := by
  have := lt_of_tdiv_lt hw
  rw [day_of_fixed hk, day_of_fixed hk]
  omega

theorem getUserSignList_registered {cfg : Config} (hr : cfg.loc.Regular) {s : Store}
    {userId : Int} {user : User} (huser : s.users userId = some user) (hct : 0 < user.createdTime)
    {le : ListEnv} {fuel : Nat} {list : List SignStatus}
    (h : getUserSignList cfg s userId le fuel = some (.ok list)) :
    list = (dayRange (cfg.loc.day user.createdTime)
      (min (cfg.loc.day user.createdTime + cfg.signInDays) (cfg.loc.day le.now))).map
      (signStatusOf (signDays cfg s userId)) := by
  obtain ⟨u, hu, rfl⟩ := getUserSignList_eq hr h
  obtain rfl : u = user := Option.some.inj (hu.symm.trans huser)
  rw [day_signEndTime hr.toExactDays, day_signStartTime hr.toExactDays, if_pos hct]
  rfl

/-! ## Rewards against `RemainingDays` -/

theorem dates_le_remainingDays {loc : Location} {k : Int} (hk : loc.Fixed k)
    {createdTime t signInDays : Int} (ht : createdTime ≤ t) {ds : List Int} (hd : ds.Nodup)
    (hr : ∀ d ∈ ds, loc.day t ≤ d ∧ d ≤ loc.day (createdTime + signInDays * 86400 - 1)) :
    ((ds.filter (· > loc.day t)).length : Int) ≤
        (if signInDays - (t - createdTime).tdiv (24 * 60 * 60) < 0 then 0
          else signInDays - (t - createdTime).tdiv (24 * 60 * 60)) ∧
      (ds.length : Int) ≤
        (if signInDays - (t - createdTime).tdiv (24 * 60 * 60) < 0 then 0
          else signInDays - (t - createdTime).tdiv (24 * 60 * 60)) + 1 := by
  have hafter := length_le_of_between (loc.day t + 1)
    (loc.day (createdTime + signInDays * 86400 - 1))
    (hd.filter fun d => decide (d > loc.day t)) fun d hd => by
      obtain ⟨hd, hgt⟩ := List.mem_filter.mp hd
      have := hr d hd
      simp only [gt_iff_lt, decide_eq_true_eq] at hgt
      omega
  have hall := length_le_of_between _ _ hd hr
  have hq : (t - createdTime).tdiv (24 * 60 * 60) = (t - createdTime) / 86400 :=
    Int.tdiv_eq_ediv (by omega) (by decide)
  have hdt := day_of_fixed hk t
  have hdw := day_of_fixed hk (createdTime + signInDays * 86400 - 1)
  rw [hq]
  constructor <;> split_ifs <;> omega

/-- In a zone with one offset, calls from `t` on are granted on distinct dates: at most
`RemainingDays` after `t`'s date, and at most `RemainingDays + 1` in all. -/
theorem rewards_within_remaining {cfg : Config} {k : Int} (hk : cfg.loc.Fixed k)
    (hN : 0 ≤ cfg.signInDays) {s₀ : Store} {userId : Int} {user : User}
    (huser : s₀.users userId = some user) (hct : 0 < user.createdTime) {ie : InfoEnv}
    (ht : user.createdTime ≤ ie.now) {fuel : Nat} {info : SignInfo}
    (hinfo : getUserSignInfo cfg s₀ userId ie fuel = some (.ok info)) (es : List SignEnv)
    (hclock : Clocked ie.now es) (hcalls : ∀ e ∈ es, e.OneDay cfg.loc ∧ e.createErr = none) :
    (grantDays cfg.loc (runSigns cfg userId s₀ es).2).Nodup ∧
    (((grantDays cfg.loc (runSigns cfg userId s₀ es).2).filter
      (· > cfg.loc.day ie.now)).length : Int) ≤ info.remainingDays ∧
    ((grantDays cfg.loc (runSigns cfg userId s₀ es).2).length : Int) ≤ info.remainingDays + 1 ∧
    ((grantDays cfg.loc (runSigns cfg userId s₀ es).2).length : Int) ≤ cfg.signInDays + 1 := by
  have hnodup := (runSigns_grantDays hk.regular.toExactDays userId es s₀ ie.now hclock hcalls).2.1
  have huser' : ∀ u, getUserById s₀ userId ie.userErr = .ok u → u = user := fun u hu =>
    Option.some.inj ((getUserById_ok.mp hu).2.symm.trans huser)
  rcases getUserSignInfo_cases hinfo with ⟨hwhy, -, -, hrem⟩ | ⟨u, -, hu, -, -, hrem, -⟩
  · have hnone : grantDays cfg.loc (runSigns cfg userId s₀ es).2 = [] := by
      refine List.eq_nil_iff_forall_not_mem.mpr fun d hd => absurd hwhy ?_
      obtain ⟨hq, hgroup, -⟩ := grantDays_window hclock huser d hd
      exact not_early_return hq fun u hu => huser' u hu ▸ ⟨hgroup, hct⟩
    rw [hnone, hrem]
    exact ⟨.nil, by simp, by simp, by simp only [List.length_nil, Nat.cast_zero]; omega⟩
  · obtain rfl := huser' u hu
    have hwin : ∀ d ∈ grantDays cfg.loc (runSigns cfg userId s₀ es).2,
        cfg.loc.day ie.now ≤ d ∧ d ≤ cfg.loc.day (u.createdTime + cfg.signInDays * 86400 - 1) := by
      intro d hd
      obtain ⟨-, -, c, h₁, -, hw, rfl⟩ := grantDays_window hclock huser d hd
      have := lt_of_tdiv_lt hw
      exact ⟨hk.regular.mono h₁, hk.regular.mono (by omega)⟩
    obtain ⟨hafter, hall⟩ := dates_le_remainingDays hk ht hnodup hwin
    have hq : 0 ≤ (ie.now - u.createdTime).tdiv (24 * 60 * 60) :=
      Int.tdiv_nonneg (by omega) (by decide)
    rw [hrem]
    refine ⟨hnodup, hafter, hall, ?_⟩
    split_ifs at hall <;> omega

def noonConfig : Config := ⟨1000, 1, fun _ => true, fun _ => "", Location.fixed 0⟩

def noonUser : User := ⟨"u", "default", 43200, 0⟩

def soloStore (createdTime : Int) : Store :=
  ⟨fun i => if i = 1 then some ⟨"u", "default", createdTime, 0⟩ else none, [], []⟩

def InfoEnv.instant (t : Int) : InfoEnv :=
  ⟨none, t, none, ⟨t, t, none⟩, ⟨none, t, t, none⟩, ⟨none, t, ⟨t, t, none⟩⟩⟩

def noonInfo : SignInfo :=
  { enabled := true, quotaPerSign := 1000, signInDays := 1, canSign := true, remainingDays := 1,
    signList := [⟨0, false⟩] }

def noonRun : List SignEnv := [.instant 43200, .instant 90000]

theorem rewards_within_remaining_noon :
    noonConfig.loc.Fixed 0 ∧ 0 ≤ noonConfig.signInDays ∧
    (soloStore 43200).users 1 = some noonUser ∧ 0 < noonUser.createdTime ∧
    noonUser.createdTime ≤ (InfoEnv.instant 43200).now ∧
    getUserSignInfo noonConfig (soloStore 43200) 1 (.instant 43200) 3 = some (.ok noonInfo) ∧
    Clocked (InfoEnv.instant 43200).now noonRun ∧
    (∀ e ∈ noonRun, e.OneDay noonConfig.loc ∧ e.createErr = none) ∧
    ((grantDays noonConfig.loc (runSigns noonConfig 1 (soloStore 43200) noonRun).2).Nodup ∧
      (((grantDays noonConfig.loc (runSigns noonConfig 1 (soloStore 43200) noonRun).2).filter
          (· > noonConfig.loc.day (InfoEnv.instant 43200).now)).length : Int) ≤
        noonInfo.remainingDays ∧
      ((grantDays noonConfig.loc (runSigns noonConfig 1 (soloStore 43200) noonRun).2).length :
        Int) ≤ noonInfo.remainingDays + 1 ∧
      ((grantDays noonConfig.loc (runSigns noonConfig 1 (soloStore 43200) noonRun).2).length :
        Int) ≤ noonConfig.signInDays + 1) :=
  ⟨fixed_is_fixed 0, by decide, rfl, by decide, by decide, rfl, by decide, by decide,
    @rewards_within_remaining noonConfig 0 (fixed_is_fixed 0) (by decide) (soloStore 43200) 1
      noonUser rfl (by decide) (.instant 43200) (by decide) 3 noonInfo rfl noonRun (by decide)
      (by decide)⟩

def SignEnv.checkedAt (c t : Int) : SignEnv := ⟨⟨none, c, ⟨t, t, none⟩⟩, none, none, t, none⟩

/-- A zone whose clocks spring forward an hour at `93600`, 02:00 of date 1. -/
def springForwardZone : Location := ⟨0, [⟨93600, 3600⟩], by decide⟩

theorem springForwardZone_lookup (t : Int) : springForwardZone.lookup t =
    if t < 93600 then ⟨0, none, some 93600⟩ else ⟨3600, some 93600, none⟩ := by
  simp only [Location.lookup, springForwardZone, lookupFrom]

theorem springForwardZone_wall (t : Int) :
    springForwardZone.wall t = if t < 93600 then t else t + 3600 := by
  simp only [Location.wall, Location.offset, springForwardZone_lookup, apply_ite Zone.offset]
  split_ifs <;> omega

theorem springForwardZone_resolve (x : Int) :
    springForwardZone.resolve x = if x < 97200 then x else x - 3600 := by
  unfold Location.resolve
  by_cases h : x < 93600
  · simp only [springForwardZone_lookup, if_pos h, if_pos (show x < 97200 by omega), ite_true]
  · simp only [springForwardZone_lookup, if_neg h, Zone.outside, Bool.or_false, decide_eq_true_eq,
      if_neg (show (3600 : Int) ≠ 0 by decide), apply_ite Zone.offset]
    split_ifs <;> omega

theorem springForwardZone_regular : springForwardZone.Regular where
  mono h := by
    simp only [Location.day, springForwardZone_wall]
    split_ifs <;> omega
  resolve_day x := by
    simp only [Location.day, springForwardZone_wall, springForwardZone_resolve]
    split_ifs <;> omega
  midnight d := by
    simp only [Location.date, springForwardZone_wall, springForwardZone_resolve]
    split_ifs <;> omega
  first t := by
    simp only [Location.date, Location.day, springForwardZone_wall, springForwardZone_resolve]
    split_ifs <;> omega
  last t := by
    simp only [Location.date, Location.day, springForwardZone_wall, springForwardZone_resolve]
    split_ifs <;> omega

def springConfig : Config := ⟨1000, 2, fun _ => true, fun _ => "", springForwardZone⟩

/-- A one-date window in UTC that grants twice, and three times when the first log write fails
or two calls straddle a midnight. -/
theorem rewards_exceed_signInDays :
    (getUserSignInfo noonConfig (soloStore 43200) 1 (.instant 43200) 3 = some (.ok noonInfo) ∧
      noonInfo.remainingDays = 1 ∧ noonConfig.signInDays = 1 ∧
      Clocked 43200 noonRun ∧
      ((runSigns noonConfig 1 (soloStore 43200) noonRun).2.map fun p => granted p.2) =
        [true, true]) ∧
    (Clocked 43200 [{ SignEnv.instant 43200 with createErr := some "timeout" }, .instant 50000,
        .instant 90000] ∧
      ((runSigns noonConfig 1 (soloStore 43200)
        [{ SignEnv.instant 43200 with createErr := some "timeout" }, .instant 50000,
          .instant 90000]).2.map fun p => granted p.2) = [true, true, true]) ∧
    (Clocked 86399 [.instant 86399, .checkedAt 86399 86400, .checkedAt 172798 172800] ∧
      ((runSigns noonConfig 1 (soloStore 86399)
        [.instant 86399, .checkedAt 86399 86400, .checkedAt 172798 172800]).2.map
          fun p => granted p.2) = [true, true, true]) :=
  ⟨⟨rfl, rfl, rfl, by decide, by decide⟩, by decide, by decide⟩

/-! ## Granted dates against the calendar -/

/-- In a zone with one offset the calendar lists every granted date, the view counts as many
logs as signed entries, and the window ends on the calendar's last date. -/
theorem granted_days_listed {cfg : Config} {k : Int} (hk : cfg.loc.Fixed k) {s₀ : Store}
    {userId : Int} {user : User} (huser : s₀.users userId = some user)
    (hct : 0 < user.createdTime) (hnone : signLogs s₀ userId = []) (es : List SignEnv)
    (hclock : Clocked user.createdTime es)
    (hcalls : ∀ e ∈ es, e.OneDay cfg.loc ∧ e.createErr = none) :
    (∀ log ∈ signLogs (runSigns cfg userId s₀ es).1 userId,
      ∀ (le : ListEnv) (fuel : Nat) (list : List SignStatus),
        lastReading user.createdTime es ≤ le.now →
        getUserSignList cfg (runSigns cfg userId s₀ es).1 userId le fuel = some (.ok list) →
        ⟨cfg.loc.day log.createdAt, true⟩ ∈ list) ∧
    (∀ (ie : InfoEnv) (fuel : Nat) (info : SignInfo),
      lastReading user.createdTime es ≤ ie.list.now →
      getUserSignInfo cfg (runSigns cfg userId s₀ es).1 userId ie fuel = some (.ok info) →
      info.totalSignDays = ((info.signList.filter (·.signed)).length : Int)) ∧
    ∀ c : Int, (c - user.createdTime).tdiv (24 * 60 * 60) < cfg.signInDays →
      cfg.loc.day c ≤ cfg.loc.day (cfg.loc.addDate user.createdTime cfg.signInDays) := by
  have hr := hk.regular
  obtain ⟨hdays, hnodup, -⟩ :=
    runSigns_grantDays hr.toExactDays userId es s₀ user.createdTime hclock hcalls
  rw [show signDays cfg s₀ userId = [] by simp [signDays, hnone], List.nil_append] at hdays
  rw [← hdays] at hnodup
  obtain ⟨q, hq⟩ := runSigns_profile es s₀ user.quota huser
  have hrange : ∀ d ∈ signDays cfg (runSigns cfg userId s₀ es).1 userId,
      cfg.loc.day user.createdTime ≤ d ∧ d ≤ cfg.loc.day user.createdTime + cfg.signInDays ∧
      d ≤ cfg.loc.day (lastReading user.createdTime es) := by
    rw [hdays]
    intro d hd
    obtain ⟨-, -, c, h₁, h₂, hw, rfl⟩ := grantDays_window hclock huser d hd
    exact ⟨hr.mono h₁, day_le_of_window hk hw, hr.mono h₂⟩
  refine ⟨fun log hlog le fuel list hle h => ?_, fun ie fuel info hle h => ?_,
    fun c hw => by rw [day_addDate hr.toExactDays]; exact day_le_of_window hk hw⟩
  · have hd : cfg.loc.day log.createdAt ∈ signDays cfg (runSigns cfg userId s₀ es).1 userId :=
      List.mem_map_of_mem _ hlog
    have := hrange _ hd
    have := hr.mono hle
    have hl := getUserSignList_registered hr hq hct h
    dsimp only at hl
    rw [hl]
    refine List.mem_map.mpr ⟨cfg.loc.day log.createdAt, mem_dayRange.mpr ?_,
      by simp [signStatusOf, hd]⟩
    omega
  · rcases getUserSignInfo_cases h with ⟨-, hnil, htotal, -⟩ | ⟨-, -, -, -, -, -, hcount, -, hl⟩
    · rw [hnil, htotal]
      rfl
    · have := hr.mono hle
      have hl := getUserSignList_registered hr hq hct hl
      dsimp only at hl
      rw [countSignLogs_ok hcount, hl, length_signed hnodup fun d hd => by
        have := hrange d hd; omega]
      simp [signDays]

theorem granted_days_listed_noon :
    noonConfig.loc.Fixed 0 ∧ (soloStore 43200).users 1 = some noonUser ∧
    0 < noonUser.createdTime ∧ signLogs (soloStore 43200) 1 = [] ∧
    Clocked noonUser.createdTime noonRun ∧
    (∀ e ∈ noonRun, e.OneDay noonConfig.loc ∧ e.createErr = none) ∧
    ((∀ log ∈ signLogs (runSigns noonConfig 1 (soloStore 43200) noonRun).1 1,
      ∀ (le : ListEnv) (fuel : Nat) (list : List SignStatus),
        lastReading noonUser.createdTime noonRun ≤ le.now →
        getUserSignList noonConfig (runSigns noonConfig 1 (soloStore 43200) noonRun).1 1 le fuel =
          some (.ok list) →
        ⟨noonConfig.loc.day log.createdAt, true⟩ ∈ list) ∧
    (∀ (ie : InfoEnv) (fuel : Nat) (info : SignInfo),
      lastReading noonUser.createdTime noonRun ≤ ie.list.now →
      getUserSignInfo noonConfig (runSigns noonConfig 1 (soloStore 43200) noonRun).1 1 ie fuel =
        some (.ok info) →
      info.totalSignDays = ((info.signList.filter (·.signed)).length : Int)) ∧
    ∀ c : Int, (c - noonUser.createdTime).tdiv (24 * 60 * 60) < noonConfig.signInDays →
      noonConfig.loc.day c ≤
        noonConfig.loc.day (noonConfig.loc.addDate noonUser.createdTime noonConfig.signInDays)) :=
  ⟨fixed_is_fixed 0, rfl, by decide, rfl, by decide, by decide,
    @granted_days_listed noonConfig 0 (fixed_is_fixed 0) (soloStore 43200) 1 noonUser rfl
      (by decide) rfl noonRun (by decide) (by decide)⟩

/-- In `springForwardZone` the skipped hour stretches a two-date window to 00:29:59 of date
3: a grant there is dated past the calendar's last date, date 2. -/
theorem granted_day_unlisted :
    springForwardZone.Regular ∧ Clocked 84600 [.instant 257399] ∧
    ((runSigns springConfig 1 (soloStore 84600) [.instant 257399]).2.map fun p => granted p.2) =
      [true] ∧
    signDays springConfig (runSigns springConfig 1 (soloStore 84600) [.instant 257399]).1 1 = [3] ∧
    getUserSignList springConfig (runSigns springConfig 1 (soloStore 84600) [.instant 257399]).1 1
      ⟨none, 257399, 257399, none⟩ 5 = some (.ok [⟨0, false⟩, ⟨1, false⟩, ⟨2, false⟩]) ∧
    (∃ info, getUserSignInfo springConfig
      (runSigns springConfig 1 (soloStore 84600) [.instant 257399]).1 1 (.instant 257399) 5 =
        some (.ok info) ∧ info.totalSignDays = 1 ∧
        info.signList.filter (·.signed) = []) ∧
    ((257399 : Int) - 84600).tdiv (24 * 60 * 60) < 2 ∧ springForwardZone.day 257399 = 3 ∧
    springForwardZone.day (springForwardZone.addDate 84600 2) = 2 :=
  ⟨springForwardZone_regular, by decide, by decide, by decide, rfl, ⟨_, rfl, rfl, rfl⟩, by decide,
    by decide, by decide⟩

end DailySign
