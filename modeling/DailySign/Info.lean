import DailySign.Calendar

/-! # The info view

`GetUserSignInfo`, the day range against the calendar, and the isolation of users. -/
namespace DailySign

/-- The user lookup, the `GetTimestamp()` reading, the total count, then the environments of
the `HasUserSignedToday`, `GetUserSignList` and `CheckUserSignEligibility` calls it makes. -/
structure InfoEnv where
  userErr : Option String := none
  now : Int
  countErr : Option String := none
  today : TodayEnv
  list : ListEnv
  check : CheckEnv
  deriving DecidableEq, Repr

def getUserSignInfo (cfg : Config) (s : Store) (userId : Int) (e : InfoEnv) (fuel : Nat) :
    Option (Except String SignInfo) :=
  let info : SignInfo :=
    { enabled := decide (cfg.quotaForSign > 0), quotaPerSign := cfg.quotaForSign,
      signInDays := cfg.signInDays }
  if !info.enabled then some (.ok { info with message := "签到功能未启用" }) else
  match getUserById s userId e.userErr with
  | .error err => some (.error err)
  | .ok user =>
    if !cfg.isGroupSignEnabled user.group then
      some (.ok { info with message := "您所在的用户组不允许签到", canSign := false }) else
    if user.createdTime ≤ 0 then
      some (.ok { info with
        message := "签到功能仅限新注册用户", canSign := false, remainingDays := 0 }) else
    let registeredDays := (e.now - user.createdTime).tdiv (24 * 60 * 60)
    let remainingDays := cfg.signInDays - registeredDays
    let info := { info with remainingDays := if remainingDays < 0 then 0 else remainingDays }
    match countSignLogs s userId e.countErr with
    | .error err => some (.error err)
    | .ok count =>
      let info := { info with totalSignDays := count }
      match hasUserSignedToday cfg.loc s userId e.today with
      | .error err => some (.error err)
      | .ok signedToday =>
        let info := { info with signedToday }
        match getUserSignList cfg s userId e.list fuel with
        | none => none
        | some (.error err) => some (.error err)
        | some (.ok signList) =>
          let info := { info with signList }
          let (canSign, reason) := checkUserSignEligibility cfg s userId e.check
          some (.ok { info with canSign, message := if !canSign then reason else info.message })

theorem getUserSignInfo_cases {cfg : Config} {s : Store} {userId : Int} {e : InfoEnv}
    {fuel : Nat} {info : SignInfo} (h : getUserSignInfo cfg s userId e fuel = some (.ok info)) :
    ((cfg.quotaForSign ≤ 0 ∨ ∃ user, getUserById s userId e.userErr = .ok user ∧
        (cfg.isGroupSignEnabled user.group = false ∨ user.createdTime ≤ 0)) ∧
      info.signList = [] ∧ info.totalSignDays = 0 ∧ info.remainingDays = 0) ∨
    ∃ user, 0 < cfg.quotaForSign ∧ getUserById s userId e.userErr = .ok user ∧
      cfg.isGroupSignEnabled user.group = true ∧ 0 < user.createdTime ∧
      info.remainingDays =
        (if cfg.signInDays - (e.now - user.createdTime).tdiv (24 * 60 * 60) < 0 then 0
          else cfg.signInDays - (e.now - user.createdTime).tdiv (24 * 60 * 60)) ∧
      countSignLogs s userId e.countErr = .ok info.totalSignDays ∧
      hasUserSignedToday cfg.loc s userId e.today = .ok info.signedToday ∧
      getUserSignList cfg s userId e.list fuel = some (.ok info.signList) := by
  unfold getUserSignInfo at h
  dsimp only at h
  split at h
  next hoff => cases h; exact .inl ⟨.inl (Int.not_lt.mp (by simpa using hoff)), rfl, rfl, rfl⟩
  next henabled =>
  split at h
  · cases h
  next user huser =>
  split at h
  next hgroup =>
    cases h; exact .inl ⟨.inr ⟨user, huser, .inl (by simpa using hgroup)⟩, rfl, rfl, rfl⟩
  next hgroup =>
  split at h
  next hct => cases h; exact .inl ⟨.inr ⟨user, huser, .inr hct⟩, rfl, rfl, rfl⟩
  next hct =>
  split at h
  · cases h
  next count hcount =>
  split at h
  · cases h
  next signedToday hsigned =>
  rcases hlist : getUserSignList cfg s userId e.list fuel with _ | _ | signList <;>
    rw [hlist] at h <;> cases h
  exact .inr ⟨user, by simpa using henabled, huser, by simpa using hgroup, by omega, rfl, hcount,
    hsigned, rfl⟩

theorem not_early_return {cfg : Config} {s : Store} {userId : Int} {err : Option String}
    (hq : 0 < cfg.quotaForSign)
    (hu : ∀ u, getUserById s userId err = .ok u →
      cfg.isGroupSignEnabled u.group = true ∧ 0 < u.createdTime) :
    ¬ (cfg.quotaForSign ≤ 0 ∨ ∃ user, getUserById s userId err = .ok user ∧
        (cfg.isGroupSignEnabled user.group = false ∨ user.createdTime ≤ 0)) := by
  rintro (hoff | ⟨u, hu', hoff | hoff⟩)
  · omega
  · rw [(hu u hu').1] at hoff
    cases hoff
  · have := (hu u hu').2
    omega

theorem hasUserSignedToday_at {loc : Location} (hr : loc.ExactDays) (s : Store) (userId now : Int) :
    hasUserSignedToday loc s userId ⟨now, now, none⟩ =
      .ok (decide (∃ log ∈ signLogs s userId, loc.day log.createdAt = loc.day now)) := by
  simp only [hasUserSignedToday, signLogsBetween, gt_iff_lt, List.length_pos, ne_eq,
    List.filter_eq_nil_iff, decide_eq_true_eq, not_forall, not_not, exists_prop,
    mem_today_iff hr]

/-- Where `time.Date` bounds dates exactly, the day range read at `now` holds exactly `now`'s
date, so `HasUserSignedToday` and `SignedToday` agree with the calendar. -/
theorem today_range_exact {cfg : Config} (hr : cfg.loc.ExactDays) :
    (∀ (s : Store) (userId now : Int), hasUserSignedToday cfg.loc s userId ⟨now, now, none⟩ =
      .ok (decide (∃ log ∈ signLogs s userId, cfg.loc.day log.createdAt = cfg.loc.day now))) ∧
    (∀ now t, (getTodayStartTimestamp cfg.loc now ≤ t ∧ t ≤ getTodayEndTimestamp cfg.loc now) ↔
      cfg.loc.day t = cfg.loc.day now) ∧
    (∀ now, getTodayStartTimestamp cfg.loc now ≤ now ∧ now ≤ getTodayEndTimestamp cfg.loc now) ∧
    (∀ now now' t, cfg.loc.day now ≠ cfg.loc.day now' →
      ¬ ((getTodayStartTimestamp cfg.loc now ≤ t ∧ t ≤ getTodayEndTimestamp cfg.loc now) ∧
        (getTodayStartTimestamp cfg.loc now' ≤ t ∧ t ≤ getTodayEndTimestamp cfg.loc now'))) ∧
    (∀ (s : Store) (userId : Int) (e : InfoEnv) (fuel : Nat) (info : SignInfo) (now : Int),
      e.today.startNow = now → e.today.endNow = now →
      getUserSignInfo cfg s userId e fuel = some (.ok info) →
      ∀ st ∈ info.signList, st.date = cfg.loc.day now → st.signed = info.signedToday) := by
  have hmem := mem_today_iff hr
  refine ⟨hasUserSignedToday_at hr, hmem, fun now => (hmem now now).mpr rfl,
    fun now now' t hne ⟨h₁, h₂⟩ => hne ((hmem now t).mp h₁ ▸ (hmem now' t).mp h₂), ?_⟩
  intro s userId e fuel info now hs he h st hst hdate
  rcases getUserSignInfo_cases h with ⟨-, hnil, -⟩ | ⟨-, -, -, -, -, -, -, hsigned, hlist⟩
  · rw [hnil] at hst; cases hst
  · have htoday : e.today = ⟨now, now, none⟩ :=
      calc e.today = ⟨e.today.startNow, e.today.endNow, e.today.countErr⟩ := rfl
        _ = ⟨now, now, none⟩ := by rw [hs, he, (hasUserSignedToday_ok hsigned).1]
    rw [htoday, hasUserSignedToday_at hr] at hsigned
    rw [getUserSignList_signed hlist st hst, hdate]
    exact (Except.ok.inj hsigned)

theorem today_range_exact_utc :
    utcConfig.loc.ExactDays ∧
    (∀ (s : Store) (userId now : Int), hasUserSignedToday utcConfig.loc s userId ⟨now, now, none⟩ =
      .ok (decide (∃ log ∈ signLogs s userId,
        utcConfig.loc.day log.createdAt = utcConfig.loc.day now))) ∧
    (∀ now t, (getTodayStartTimestamp utcConfig.loc now ≤ t ∧
      t ≤ getTodayEndTimestamp utcConfig.loc now) ↔ utcConfig.loc.day t = utcConfig.loc.day now) ∧
    (∀ now, getTodayStartTimestamp utcConfig.loc now ≤ now ∧
      now ≤ getTodayEndTimestamp utcConfig.loc now) ∧
    (∀ now now' t, utcConfig.loc.day now ≠ utcConfig.loc.day now' →
      ¬ ((getTodayStartTimestamp utcConfig.loc now ≤ t ∧
          t ≤ getTodayEndTimestamp utcConfig.loc now) ∧
        (getTodayStartTimestamp utcConfig.loc now' ≤ t ∧
          t ≤ getTodayEndTimestamp utcConfig.loc now'))) ∧
    (∀ (s : Store) (userId : Int) (e : InfoEnv) (fuel : Nat) (info : SignInfo) (now : Int),
      e.today.startNow = now → e.today.endNow = now →
      getUserSignInfo utcConfig s userId e fuel = some (.ok info) →
      ∀ st ∈ info.signList, st.date = utcConfig.loc.day now → st.signed = info.signedToday) :=
  ⟨(fixed_is_fixed 0).regular.toExactDays, today_range_exact (fixed_is_fixed 0).regular.toExactDays⟩

/-- There `GetTodayStartTimestamp` at date 1 is 23:00 of date 0, so a sign log written then
counts as today's although its date is the day before. -/
theorem hasUserSignedToday_counts_yesterday :
    getTodayStartTimestamp midnightGapZone 97200 = 93600 ∧ midnightGapZone.day 93600 = 0 ∧
    midnightGapZone.day 97200 = 1 ∧
    hasUserSignedToday midnightGapZone ⟨fun _ => none, [⟨1, "u", 93600, .sign, "", 1000⟩], []⟩ 1
      ⟨97200, 97200, none⟩ = .ok true ∧
    ¬ ∃ log ∈ signLogs ⟨fun _ => none, [⟨1, "u", 93600, .sign, "", 1000⟩], []⟩ 1,
      midnightGapZone.day log.createdAt = midnightGapZone.day 97200 :=
  ⟨by decide, by decide, by decide, rfl, by decide⟩

/-! ## One user's calls see only that user's data -/

def SameFor (s s' : Store) (userId : Int) : Prop :=
  s'.users userId = s.users userId ∧ signLogs s' userId = signLogs s userId

section Same

variable {s s' : Store} {userId : Int} (h : SameFor s s' userId)
include h

theorem getUserById_same (fault : Option String) :
    getUserById s' userId fault = getUserById s userId fault := by
  simp only [getUserById, h.1]

theorem hasUserSignedToday_same (loc : Location) (e : TodayEnv) :
    hasUserSignedToday loc s' userId e = hasUserSignedToday loc s userId e := by
  simp only [hasUserSignedToday, signLogsBetween, h.2]

theorem checkUserSignEligibility_same (cfg : Config) (e : CheckEnv) :
    checkUserSignEligibility cfg s' userId e = checkUserSignEligibility cfg s userId e := by
  simp only [checkUserSignEligibility, getUserById_same h, hasUserSignedToday_same h]

theorem getUserSignList_same (cfg : Config) (e : ListEnv) (fuel : Nat) :
    getUserSignList cfg s' userId e fuel = getUserSignList cfg s userId e fuel := by
  simp only [getUserSignList, getUserById_same h, findSignLogs, h.2]

theorem getUserSignInfo_same (cfg : Config) (e : InfoEnv) (fuel : Nat) :
    getUserSignInfo cfg s' userId e fuel = getUserSignInfo cfg s userId e fuel := by
  simp only [getUserSignInfo, getUserById_same h, countSignLogs, h.2,
    hasUserSignedToday_same h, getUserSignList_same h, checkUserSignEligibility_same h]

end Same

theorem doSign_sameFor (cfg : Config) (s : Store) {u v : Int} (huv : u ≠ v) (e : SignEnv) :
    SameFor s (doSign cfg s u e).2 v := by
  rcases doSign_cases cfg s u e with ⟨_, _, hd⟩ | ⟨_, _, _, _, hd⟩ | ⟨_, _, _, hd⟩ <;>
    rw [hd]
  · exact ⟨rfl, rfl⟩
  · exact ⟨rfl, rfl⟩
  · refine ⟨by simp [Ne.symm huv], ?_⟩
    cases e.createErr <;> simp [createSignLog, signLogs, signLog, huv]

/-- One user's `DoSign`, whatever its outcome, changes no other user's balance and no result
of any later call made for another user. -/
theorem doSign_isolated (cfg : Config) (s : Store) (u v : Int) (huv : u ≠ v) (e : SignEnv) :
    ((doSign cfg s u e).2.users v).map (·.quota) = (s.users v).map (·.quota) ∧
    (∀ env, checkUserSignEligibility cfg (doSign cfg s u e).2 v env =
      checkUserSignEligibility cfg s v env) ∧
    (∀ env, hasUserSignedToday cfg.loc (doSign cfg s u e).2 v env =
      hasUserSignedToday cfg.loc s v env) ∧
    (∀ env fuel, getUserSignList cfg (doSign cfg s u e).2 v env fuel =
      getUserSignList cfg s v env fuel) ∧
    (∀ env fuel, getUserSignInfo cfg (doSign cfg s u e).2 v env fuel =
      getUserSignInfo cfg s v env fuel) := by
  have h := doSign_sameFor cfg s huv e
  exact ⟨by rw [h.1], checkUserSignEligibility_same h cfg, hasUserSignedToday_same h cfg.loc,
    getUserSignList_same h cfg, getUserSignInfo_same h cfg⟩

def sampleSignEnv : SignEnv :=
  ⟨⟨none, 1036800, ⟨1036800, 1036800, none⟩⟩, none, none, 1036800, none⟩

def pairStore : Store :=
  ⟨fun i => if i = 1 then some sampleUser else
      if i = 2 then some ⟨"v", "default", 777600, 500⟩ else none,
    [⟨1, "u", 950400, .sign, "", 1000⟩, ⟨2, "v", 950400, .sign, "", 1000⟩], []⟩

theorem doSign_isolated_users_one_two :
    (1 : Int) ≠ 2 ∧
    ((doSign utcConfig pairStore 1 sampleSignEnv).2.users 2).map (·.quota) =
      (pairStore.users 2).map (·.quota) ∧
    (∀ env,
      checkUserSignEligibility utcConfig (doSign utcConfig pairStore 1 sampleSignEnv).2 2 env =
      checkUserSignEligibility utcConfig pairStore 2 env) ∧
    (∀ env,
      hasUserSignedToday utcConfig.loc (doSign utcConfig pairStore 1 sampleSignEnv).2 2 env =
      hasUserSignedToday utcConfig.loc pairStore 2 env) ∧
    (∀ env fuel,
      getUserSignList utcConfig (doSign utcConfig pairStore 1 sampleSignEnv).2 2 env fuel =
      getUserSignList utcConfig pairStore 2 env fuel) ∧
    (∀ env fuel,
      getUserSignInfo utcConfig (doSign utcConfig pairStore 1 sampleSignEnv).2 2 env fuel =
      getUserSignInfo utcConfig pairStore 2 env fuel) :=
  ⟨by decide, doSign_isolated utcConfig pairStore 1 2 (by decide) sampleSignEnv⟩

/-! ## The view's verdict is the grant's -/

theorem getUserSignInfo_verdict {cfg : Config} {s : Store} {userId : Int} {e : InfoEnv}
    {fuel : Nat} {info : SignInfo} (h : getUserSignInfo cfg s userId e fuel = some (.ok info))
    (hu : e.userErr = e.check.userErr) :
    checkUserSignEligibility cfg s userId e.check = (info.canSign, info.message) := by
  unfold getUserSignInfo at h
  dsimp only at h
  split at h
  next hoff =>
    cases h
    simp only [checkUserSignEligibility, if_pos (Int.not_lt.mp (by simpa using hoff))]
  next hon =>
  have hq : ¬ cfg.quotaForSign ≤ 0 := Int.not_le.mpr (by simpa using hon)
  split at h
  · cases h
  next user huser =>
  rw [hu] at huser
  split at h
  next hg => cases h; simp only [checkUserSignEligibility, if_neg hq, huser, if_pos hg]
  next hg =>
  split at h
  next hct => cases h; simp only [checkUserSignEligibility, if_neg hq, huser, if_neg hg, if_pos hct]
  next hct =>
  split at h
  · cases h
  split at h
  · cases h
  split at h <;> try cases h
  rcases hc : checkUserSignEligibility cfg s userId e.check with ⟨_ | _, r⟩
  · rfl
  · rw [checkUserSignEligibility_reason hc]
    rfl

/-- The view foretells `DoSign` made with its check readings: same verdict and reason, then no
change, or the grant, or the `IncreaseUserQuota` error. -/
theorem doSign_as_viewed {cfg : Config} {s : Store} {userId : Int} {e : InfoEnv} {fuel : Nat}
    {info : SignInfo} (h : getUserSignInfo cfg s userId e fuel = some (.ok info))
    (hu : e.userErr = e.check.userErr) (se : SignEnv) (hse : se.check = e.check) :
    checkUserSignEligibility cfg s userId e.check = (info.canSign, info.message) ∧
    (info.canSign = false → doSign cfg s userId se = (.ok ⟨false, info.message, 0⟩, s)) ∧
    (info.canSign = true →
      (se.increaseErr = none ∧ (doSign cfg s userId se).1 =
        .ok ⟨true, "签到成功，获得 " ++ cfg.logQuota cfg.quotaForSign, cfg.quotaForSign⟩) ∨
      ∃ err, se.increaseErr = some err ∧
        doSign cfg s userId se = (.error ("增加额度失败：" ++ err), s)) := by
  have hv := getUserSignInfo_verdict h hu
  refine ⟨hv, fun hc => by simp [doSign, hse, hv, hc], fun hc => ?_⟩
  cases hi : se.increaseErr with
  | some err => exact .inr ⟨err, rfl, by simp [doSign, hse, hv, hc, hi, increaseUserQuota]⟩
  | none => exact .inl ⟨rfl, by simp [doSign, hse, hv, hc, hi, increaseUserQuota]⟩

def sampleInfoEnv : InfoEnv :=
  ⟨none, 1036800, none, ⟨1036800, 1036800, none⟩, sampleListEnv, sampleSignEnv.check⟩

def sampleInfo : SignInfo :=
  { enabled := true, quotaPerSign := 1000, signInDays := 7, canSign := true, remainingDays := 6,
    totalSignDays := 1, signList := [⟨10, false⟩, ⟨11, true⟩, ⟨12, false⟩] }

theorem doSign_as_viewed_sample :
    getUserSignInfo utcConfig sampleStore 1 sampleInfoEnv 5 = some (.ok sampleInfo) ∧
    sampleInfoEnv.userErr = sampleInfoEnv.check.userErr ∧
    sampleSignEnv.check = sampleInfoEnv.check ∧
    checkUserSignEligibility utcConfig sampleStore 1 sampleInfoEnv.check =
      (sampleInfo.canSign, sampleInfo.message) ∧
    (sampleInfo.canSign = false → doSign utcConfig sampleStore 1 sampleSignEnv =
      (.ok ⟨false, sampleInfo.message, 0⟩, sampleStore)) ∧
    (sampleInfo.canSign = true →
      (sampleSignEnv.increaseErr = none ∧ (doSign utcConfig sampleStore 1 sampleSignEnv).1 =
        .ok ⟨true, "签到成功，获得 " ++ utcConfig.logQuota utcConfig.quotaForSign,
          utcConfig.quotaForSign⟩) ∨
      ∃ err, sampleSignEnv.increaseErr = some err ∧
        doSign utcConfig sampleStore 1 sampleSignEnv = (.error ("增加额度失败：" ++ err), sampleStore)) :=
  ⟨rfl, rfl, rfl,
    @doSign_as_viewed utcConfig sampleStore 1 sampleInfoEnv 5 sampleInfo rfl rfl sampleSignEnv rfl⟩

/-- `RemainingDays` is never negative, and a view that says the user can sign, read at the
instant its check reads, leaves at least one day. -/
theorem getUserSignInfo_remainingDays {cfg : Config} {s : Store} {userId : Int} {e : InfoEnv}
    {fuel : Nat} {info : SignInfo} (h : getUserSignInfo cfg s userId e fuel = some (.ok info)) :
    0 ≤ info.remainingDays ∧
    (e.userErr = e.check.userErr → e.now = e.check.now → info.canSign = true →
      0 < info.remainingDays) := by
  rcases getUserSignInfo_cases h with ⟨hwhy, -, -, hrem⟩ | ⟨u, -, hu, -, -, hrem, -⟩
  · refine ⟨hrem ▸ Int.le_refl 0, fun hsame _ hcan => absurd hwhy ?_⟩
    obtain ⟨user, he⟩ := eligible_of_check (hcan ▸ getUserSignInfo_verdict h hsame)
    refine not_early_return he.enabled fun u hu => ?_
    obtain rfl := Option.some.inj ((getUserById_ok.mp hu).2.symm.trans he.found.2)
    exact ⟨he.group, he.registered⟩
  · rw [hrem]
    refine ⟨by split_ifs <;> omega, fun hsame hnow hcan => ?_⟩
    obtain ⟨user, he⟩ := eligible_of_check (hcan ▸ getUserSignInfo_verdict h hsame)
    obtain rfl : u = user :=
      Option.some.inj ((getUserById_ok.mp (hsame ▸ hu)).2.symm.trans he.found.2)
    have := he.window
    rw [← hnow] at this
    split_ifs <;> omega

theorem getUserSignInfo_remainingDays_sample :
    getUserSignInfo utcConfig sampleStore 1 sampleInfoEnv 5 = some (.ok sampleInfo) ∧
    0 ≤ sampleInfo.remainingDays ∧
    (sampleInfoEnv.userErr = sampleInfoEnv.check.userErr →
      sampleInfoEnv.now = sampleInfoEnv.check.now → sampleInfo.canSign = true →
      0 < sampleInfo.remainingDays) :=
  ⟨rfl, @getUserSignInfo_remainingDays utcConfig sampleStore 1 sampleInfoEnv 5 sampleInfo rfl⟩

end DailySign
