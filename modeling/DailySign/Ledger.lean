import DailySign.Info
import Mathlib

/-! # The ledger over runs of `DoSign`

Calls for one user made one at a time, each on the store the previous one left. -/
namespace DailySign

/-- The final store, and each call with its result. -/
def runSigns (cfg : Config) (userId : Int) :
    Store → List SignEnv → Store × List (SignEnv × Except String SignResult)
  | s, [] => (s, [])
  | s, e :: es =>
    let step := doSign cfg s userId e
    let rest := runSigns cfg userId step.2 es
    (rest.1, (e, step.1) :: rest.2)

def granted : Except String SignResult → Bool
  | .ok r => r.success
  | .error _ => false

def SignEnv.ClockedFrom (e : SignEnv) (t : Int) : Prop :=
  t ≤ e.check.now ∧ e.check.now ≤ e.check.today.startNow ∧
    e.check.today.startNow ≤ e.check.today.endNow ∧ e.check.today.endNow ≤ e.logNow

instance (e : SignEnv) (t : Int) : Decidable (e.ClockedFrom t) :=
  inferInstanceAs (Decidable (_ ≤ _ ∧ _ ≤ _ ∧ _ ≤ _ ∧ _ ≤ _))

/-- The calls of a run read the clock in order, the first never before `t`. -/
def Clocked (t : Int) : List SignEnv → Prop
  | [] => True
  | e :: es => e.ClockedFrom t ∧ Clocked e.logNow es

instance Clocked.decidable : ∀ (t : Int) (es : List SignEnv), Decidable (Clocked t es)
  | _, [] => isTrue trivial
  | t, e :: es =>
    haveI := Clocked.decidable e.logNow es
    inferInstanceAs (Decidable (e.ClockedFrom t ∧ Clocked e.logNow es))

def SignEnv.instant (t : Int) : SignEnv := ⟨⟨none, t, ⟨t, t, none⟩⟩, none, none, t, none⟩

def signDays (cfg : Config) (s : Store) (userId : Int) : List Int :=
  (signLogs s userId).map fun log => cfg.loc.day log.createdAt

@[simp] theorem runSigns_nil (cfg : Config) (userId : Int) (s : Store) :
    runSigns cfg userId s [] = (s, []) := rfl

@[simp] theorem runSigns_cons (cfg : Config) (userId : Int) (s : Store) (e : SignEnv)
    (es : List SignEnv) :
    runSigns cfg userId s (e :: es) =
      ((runSigns cfg userId (doSign cfg s userId e).2 es).1,
        (e, (doSign cfg s userId e).1) :: (runSigns cfg userId (doSign cfg s userId e).2 es).2) :=
  rfl

/-! ## One call -/

theorem signLogs_grant (cfg : Config) (s : Store) (userId : Int) (username : String)
    (logNow : Int) (fault : Option String) :
    signLogs (createSignLog (s.credit userId cfg.quotaForSign)
      (signLog cfg userId username logNow) fault) userId =
      signLogs s userId ++ (if fault = none then [signLog cfg userId username logNow] else []) := by
  cases fault <;> simp [createSignLog, signLogs, signLog, List.filter_append]

theorem doSign_refused {cfg : Config} {s : Store} {userId : Int} {e : SignEnv}
    (h : granted (doSign cfg s userId e).1 = false) : (doSign cfg s userId e).2 = s := by
  rcases doSign_cases cfg s userId e with ⟨_, _, hd⟩ | ⟨_, _, _, _, hd⟩ | ⟨_, _, _, hd⟩
  · rw [hd]
  · rw [hd]
  · rw [hd] at h; simp [granted] at h

/-- Whatever `GetUsernameById` and `LOG_DB.Create` meet, `DoSign` returns the same result and
leaves the same balances; a failed log write leaves the logs and writes one system log line. -/
theorem doSign_best_effort (cfg : Config) (s : Store) (userId : Int) (e : SignEnv)
    (nameErr createErr : Option String) :
    (doSign cfg s userId { e with nameErr, createErr }).1 = (doSign cfg s userId e).1 ∧
    (doSign cfg s userId { e with nameErr, createErr }).2.users =
      (doSign cfg s userId e).2.users ∧
    ∀ err, createErr = some err → granted (doSign cfg s userId e).1 = true →
      (doSign cfg s userId { e with nameErr, createErr }).2.logs = s.logs ∧
      (doSign cfg s userId { e with nameErr, createErr }).2.sysLog =
        s.sysLog ++ ["failed to record sign log: " ++ err] := by
  simp only [doSign]
  rcases checkUserSignEligibility cfg s userId e.check with ⟨_ | _, reason⟩
  · simp [granted]
  · cases e.increaseErr with
    | some err => simp [increaseUserQuota, granted]
    | none =>
      refine ⟨rfl, by simp [increaseUserQuota], ?_⟩
      rintro err rfl -
      simp [increaseUserQuota, createSignLog]

theorem doSign_ledger (cfg : Config) (s : Store) (userId : Int) (e : SignEnv)
    (hw : e.createErr = none) :
    ∃ appended : List Log, (doSign cfg s userId e).2.logs = s.logs ++ appended ∧
      (∀ log ∈ appended, log.userId = userId ∧ log.type = .sign) ∧
      ((doSign cfg s userId e).2.users userId).map (·.quota) =
        ((s.users userId).map (·.quota)).map (· + (appended.map (·.quota)).sum) := by
  rcases doSign_cases cfg s userId e with ⟨_, _, hd⟩ | ⟨_, _, _, _, hd⟩ | ⟨_, _, _, hd⟩ <;>
    rw [hd]
  · exact ⟨[], by simp, by simp, by simp [Function.comp_def]⟩
  · exact ⟨[], by simp, by simp, by simp [Function.comp_def]⟩
  · refine ⟨[signLog cfg userId (getUsernameById s userId e.nameErr) e.logNow], ?_, ?_, ?_⟩
    · simp [createSignLog_logs, hw]
    · simp [signLog]
    · simp [Option.map_map, Function.comp_def, signLog]

theorem runSigns_ledger (cfg : Config) (userId : Int) :
    ∀ (es : List SignEnv) (s : Store), (∀ e ∈ es, e.createErr = none) →
    ∃ appended : List Log, (runSigns cfg userId s es).1.logs = s.logs ++ appended ∧
      (∀ log ∈ appended, log.userId = userId ∧ log.type = .sign) ∧
      ((runSigns cfg userId s es).1.users userId).map (·.quota) =
        ((s.users userId).map (·.quota)).map (· + (appended.map (·.quota)).sum)
  | [], s, _ => ⟨[], by simp, by simp, by simp [Function.comp_def]⟩
  | e :: es, s, hw => by
    obtain ⟨a₁, hl₁, hu₁, hq₁⟩ := doSign_ledger cfg s userId e (hw e (List.mem_cons_self _ _))
    obtain ⟨a₂, hl₂, hu₂, hq₂⟩ :=
      runSigns_ledger cfg userId es (doSign cfg s userId e).2 fun e' h =>
        hw e' (List.mem_cons_of_mem _ h)
    refine ⟨a₁ ++ a₂, by simp [hl₂, hl₁], fun log h => ?_, ?_⟩
    · rcases List.mem_append.mp h with h | h
      · exact hu₁ log h
      · exact hu₂ log h
    · simp only [runSigns_cons, hq₂, hq₁, Option.map_map, Function.comp_def, List.map_append,
        List.sum_append, Int.add_assoc]

/-! ## Users with no registration time -/

theorem doSign_unregistered {cfg : Config} {s : Store} {userId : Int} {user : User}
    (hu : s.users userId = some user) (hct : user.createdTime ≤ 0) (e : SignEnv) :
    doSign cfg s userId e =
      (.ok ⟨false, (checkUserSignEligibility cfg s userId e.check).2, 0⟩, s) ∧
    (0 < cfg.quotaForSign → e.check.userErr = none → cfg.isGroupSignEnabled user.group = true →
      (checkUserSignEligibility cfg s userId e.check).2 = "签到功能仅限新注册用户") := by
  refine ⟨?_, fun hq herr hg => ?_⟩
  · rcases doSign_cases cfg s userId e with ⟨_, hc, hd⟩ | ⟨u, _, he, _⟩ | ⟨u, he, _⟩
    · rw [hd, hc]
    all_goals
      obtain rfl : u = user := Option.some.inj (he.found.2.symm.trans hu)
      exact absurd he.registered (Int.not_lt.mpr hct)
  · simp [checkUserSignEligibility, getUserById, herr, hu, hg, hct, Int.not_le.mpr hq]

/-- Such a user never becomes eligible: every call of any run is refused, and the run leaves the
store as it found it. -/
theorem runSigns_unregistered {cfg : Config} {userId : Int} {user : User}
    (hct : user.createdTime ≤ 0) :
    ∀ (s : Store) (es : List SignEnv), s.users userId = some user →
      (runSigns cfg userId s es).1 = s ∧ ∀ p ∈ (runSigns cfg userId s es).2,
        p.2 = .ok ⟨false, (checkUserSignEligibility cfg s userId p.1.check).2, 0⟩ ∧
        (0 < cfg.quotaForSign → p.1.check.userErr = none →
          cfg.isGroupSignEnabled user.group = true →
          (checkUserSignEligibility cfg s userId p.1.check).2 = "签到功能仅限新注册用户")
  | s, [], _ => ⟨rfl, by simp⟩
  | s, e :: es, hu => by
    obtain ⟨hd, hreason⟩ := doSign_unregistered hu hct e
    obtain ⟨hrest, hall⟩ := runSigns_unregistered hct s es hu
    rw [runSigns_cons, hd]
    refine ⟨hrest, fun p hp => ?_⟩
    rcases List.mem_cons.mp hp with rfl | hp
    · exact ⟨rfl, hreason⟩
    · exact hall p hp

def oldUser : User := ⟨"u", "default", 0, 0⟩

def oldStore : Store := ⟨fun i => if i = 1 then some oldUser else none, [], []⟩

theorem runSigns_unregistered_old :
    oldUser.createdTime ≤ 0 ∧ oldStore.users 1 = some oldUser ∧
    (runSigns utcConfig 1 oldStore [.instant 1000, .instant 90000]).1 = oldStore ∧
    ∀ p ∈ (runSigns utcConfig 1 oldStore [.instant 1000, .instant 90000]).2,
      p.2 = .ok ⟨false, (checkUserSignEligibility utcConfig oldStore 1 p.1.check).2, 0⟩ ∧
      (0 < utcConfig.quotaForSign → p.1.check.userErr = none →
        utcConfig.isGroupSignEnabled oldUser.group = true →
        (checkUserSignEligibility utcConfig oldStore 1 p.1.check).2 = "签到功能仅限新注册用户") :=
  ⟨by decide, rfl,
    @runSigns_unregistered utcConfig 1 oldUser (by decide) oldStore [.instant 1000, .instant 90000]
      rfl⟩

section ExactDays

variable {cfg : Config} (hr : cfg.loc.ExactDays)
include hr

theorem Eligible.no_log_between {s : Store} {userId : Int} {e : CheckEnv} {user : User}
    (he : Eligible cfg s userId e user) (log : Log) (hlog : log ∈ signLogs s userId) :
    ¬ (cfg.loc.day e.today.startNow ≤ cfg.loc.day log.createdAt ∧
      cfg.loc.day log.createdAt ≤ cfg.loc.day e.today.endNow) := by
  intro hin
  have hbetween : log ∈ signLogsBetween s userId (getTodayStartTimestamp cfg.loc e.today.startNow)
      (getTodayEndTimestamp cfg.loc e.today.endNow) :=
    List.mem_filter.mpr ⟨hlog, decide_eq_true ((mem_range_iff hr _ _ _).mpr hin)⟩
  rw [he.unsigned.2] at hbetween
  cases hbetween

theorem fresh_day {s : Store} {userId t : Int} {e : SignEnv} {user : User}
    (he : Eligible cfg s userId e.check user) (hpast : ∀ log ∈ signLogs s userId, log.createdAt ≤ t)
    (hc : e.ClockedFrom t) : cfg.loc.day e.logNow ∉ signDays cfg s userId := by
  obtain ⟨h₁, h₂, h₃, h₄⟩ := hc
  intro hmem
  obtain ⟨log, hlog, hday⟩ := List.mem_map.mp hmem
  have := hpast log hlog
  have := hr.mono (show log.createdAt ≤ e.check.today.startNow by omega)
  have := hr.mono (show e.check.today.startNow ≤ e.logNow by omega)
  have := hr.mono h₃
  exact Eligible.no_log_between hr he log hlog ⟨by omega, by omega⟩

theorem doSign_keeps_days {s : Store} {userId t : Int} {e : SignEnv}
    (hd : (signDays cfg s userId).Nodup) (hpast : ∀ log ∈ signLogs s userId, log.createdAt ≤ t)
    (hc : e.ClockedFrom t) :
    (signDays cfg (doSign cfg s userId e).2 userId).Nodup ∧
      ∀ log ∈ signLogs (doSign cfg s userId e).2 userId, log.createdAt ≤ e.logNow := by
  have hle : t ≤ e.logNow := by obtain ⟨_, _, _, _⟩ := hc; omega
  rcases doSign_cases cfg s userId e with ⟨_, _, hd'⟩ | ⟨_, _, _, _, hd'⟩ | ⟨user, he, _, hd'⟩ <;>
    rw [hd']
  · exact ⟨hd, fun log h => Int.le_trans (hpast log h) hle⟩
  · exact ⟨hd, fun log h => Int.le_trans (hpast log h) hle⟩
  · have hfresh := fresh_day hr he hpast hc
    simp only [signDays, signLogs_grant] at hfresh ⊢
    split_ifs
    · refine ⟨?_, fun log h => ?_⟩
      · rw [List.map_append, List.nodup_append]
        exact ⟨hd, List.nodup_singleton _, List.disjoint_singleton.mpr hfresh⟩
      · rcases List.mem_append.mp h with h | h
        · exact Int.le_trans (hpast log h) hle
        · simp [List.mem_singleton.mp h, signLog]
    · simpa using ⟨hd, fun log h => Int.le_trans (hpast log h) hle⟩

theorem runSigns_keeps_days {userId : Int} :
    ∀ (es : List SignEnv) (s : Store) (t : Int), (signDays cfg s userId).Nodup →
      (∀ log ∈ signLogs s userId, log.createdAt ≤ t) → Clocked t es →
      (signDays cfg (runSigns cfg userId s es).1 userId).Nodup
  | [], _, _, hd, _, _ => hd
  | e :: es, s, t, hd, hpast, ⟨hc, hcs⟩ => by
    obtain ⟨hd', hpast'⟩ := doSign_keeps_days hr hd hpast hc
    exact runSigns_keeps_days es _ _ hd' hpast' hcs

end ExactDays

/-- Where `time.Date` bounds dates exactly, a view read on a fresh grant's date says the user
has signed today and counts one sign log more. -/
theorem view_after_grant {cfg : Config} (hr : cfg.loc.ExactDays) {s : Store} {userId : Int}
    {se : SignEnv} (hg : granted (doSign cfg s userId se).1 = true) (hw : se.createErr = none)
    {e : InfoEnv} {fuel : Nat} {info : SignInfo}
    (h : getUserSignInfo cfg (doSign cfg s userId se).2 userId e fuel = some (.ok info))
    (hstart : cfg.loc.day e.today.startNow = cfg.loc.day se.logNow)
    (hend : cfg.loc.day e.today.endNow = cfg.loc.day se.logNow) :
    info.signedToday = true ∧ info.totalSignDays = (signLogs s userId).length + 1 := by
  rcases doSign_cases cfg s userId se with ⟨_, _, hd⟩ | ⟨_, _, _, _, hd⟩ | ⟨user, he, _, hd⟩
  · rw [hd] at hg; cases hg
  · rw [hd] at hg; cases hg
  rw [hd] at h
  have hlogs := signLogs_grant cfg s userId (getUsernameById s userId se.nameErr) se.logNow
    se.createErr
  rw [if_pos hw] at hlogs
  have huser : (createSignLog (s.credit userId cfg.quotaForSign)
      (signLog cfg userId (getUsernameById s userId se.nameErr) se.logNow) se.createErr).users
      userId = some { user with quota := user.quota + cfg.quotaForSign } := by
    simp [he.found.2]
  rcases getUserSignInfo_cases h with ⟨hwhy, -⟩ | ⟨u, -, -, -, -, -, hcount, hsigned, -⟩
  · refine absurd hwhy (not_early_return he.enabled fun u hu => ?_)
    obtain rfl := Option.some.inj ((getUserById_ok.mp hu).2.symm.trans huser)
    exact ⟨he.group, he.registered⟩
  · have hmem : signLog cfg userId (getUsernameById s userId se.nameErr) se.logNow ∈
        signLogs (createSignLog (s.credit userId cfg.quotaForSign)
          (signLog cfg userId (getUsernameById s userId se.nameErr) se.logNow) se.createErr)
          userId :=
      hlogs ▸ List.mem_append_right _ (List.mem_singleton_self _)
    exact ⟨hasUserSignedToday_of_log hr hsigned hmem hstart.le hend.ge,
      by rw [countSignLogs_ok hcount, hlogs, List.length_append]; rfl⟩

def signedInfo : SignInfo :=
  { enabled := true, quotaPerSign := 1000, signInDays := 7, signedToday := true,
    message := "今天已经签到过了", remainingDays := 6, totalSignDays := 2,
    signList := [⟨10, false⟩, ⟨11, true⟩, ⟨12, true⟩] }

theorem view_after_grant_sample :
    utcConfig.loc.ExactDays ∧ granted (doSign utcConfig sampleStore 1 sampleSignEnv).1 = true ∧
    sampleSignEnv.createErr = none ∧
    getUserSignInfo utcConfig (doSign utcConfig sampleStore 1 sampleSignEnv).2 1 sampleInfoEnv 5 =
      some (.ok signedInfo) ∧
    utcConfig.loc.day sampleInfoEnv.today.startNow = utcConfig.loc.day sampleSignEnv.logNow ∧
    utcConfig.loc.day sampleInfoEnv.today.endNow = utcConfig.loc.day sampleSignEnv.logNow ∧
    signedInfo.signedToday = true ∧
    signedInfo.totalSignDays = (signLogs sampleStore 1).length + 1 :=
  ⟨(fixed_is_fixed 0).regular.toExactDays, rfl, rfl, rfl, rfl, rfl,
    @view_after_grant utcConfig (fixed_is_fixed 0).regular.toExactDays sampleStore 1 sampleSignEnv
      rfl rfl sampleInfoEnv 5 signedInfo rfl rfl rfl⟩


/-- One user's calls one at a time, each on one date and writing its log: the balance grows by
the logs' quotas, no two logs share a date, and a refused call changes nothing. -/
theorem sign_ledger {cfg : Config} (hr : cfg.loc.ExactDays) (userId t : Int)
    (s₀ : Store) (es : List SignEnv) (hdays : (signDays cfg s₀ userId).Nodup)
    (hpast : ∀ log ∈ signLogs s₀ userId, log.createdAt ≤ t) (hclock : Clocked t es)
    (hwrites : ∀ e ∈ es, e.createErr = none) :
    (∃ appended : List Log, (runSigns cfg userId s₀ es).1.logs = s₀.logs ++ appended ∧
      (∀ log ∈ appended, log.userId = userId ∧ log.type = .sign) ∧
      ((runSigns cfg userId s₀ es).1.users userId).map (·.quota) =
        ((s₀.users userId).map (·.quota)).map (· + (appended.map (·.quota)).sum)) ∧
    (signDays cfg (runSigns cfg userId s₀ es).1 userId).Nodup ∧
    ∀ (s : Store) (e : SignEnv), granted (doSign cfg s userId e).1 = false →
      (doSign cfg s userId e).2 = s :=
  ⟨runSigns_ledger cfg userId es s₀ hwrites, runSigns_keeps_days hr es s₀ t hdays hpast hclock,
    fun _ _ => doSign_refused⟩

theorem sign_ledger_utc :
    utcConfig.loc.ExactDays ∧ (signDays utcConfig sampleStore 1).Nodup ∧
    (∀ log ∈ signLogs sampleStore 1, log.createdAt ≤ 950400) ∧
    Clocked 950400 [sampleSignEnv] ∧ (∀ e ∈ [sampleSignEnv], e.createErr = none) ∧
    ((∃ appended : List Log, (runSigns utcConfig 1 sampleStore [sampleSignEnv]).1.logs =
        sampleStore.logs ++ appended ∧
      (∀ log ∈ appended, log.userId = 1 ∧ log.type = .sign) ∧
      ((runSigns utcConfig 1 sampleStore [sampleSignEnv]).1.users 1).map (·.quota) =
        ((sampleStore.users 1).map (·.quota)).map (· + (appended.map (·.quota)).sum)) ∧
    (signDays utcConfig (runSigns utcConfig 1 sampleStore [sampleSignEnv]).1 1).Nodup ∧
    ∀ (s : Store) (e : SignEnv), granted (doSign utcConfig s 1 e).1 = false →
      (doSign utcConfig s 1 e).2 = s) :=
  ⟨(fixed_is_fixed 0).regular.toExactDays, by decide, by decide, by decide, by decide,
    sign_ledger (fixed_is_fixed 0).regular.toExactDays 1 950400 sampleStore [sampleSignEnv]
      (by decide) (by decide) (by decide) (by decide)⟩

def midnightCrossingEnv : SignEnv :=
  ⟨⟨none, 950399, ⟨950399, 950399, none⟩⟩, none, none, 950400, none⟩

/-- In UTC, with a sign log already on date 11, a call that checks at 23:59:59 of date 10 and
writes at midnight leaves two sign logs on date 11. -/
theorem sign_ledger_breaks :
    (signDays utcConfig sampleStore 1).Nodup ∧ Clocked 950399 [midnightCrossingEnv] ∧
    (∀ e ∈ [midnightCrossingEnv], e.createErr = none) ∧
    ¬ (signDays utcConfig (runSigns utcConfig 1 sampleStore [midnightCrossingEnv]).1 1).Nodup := by
  decide

/-- A zone whose clocks fall back from 01:00 to 00:00 as date 1 begins: two hours east of UTC
until `82800`, one hour east after it, so the first hour of date 1 happens twice. -/
def midnightRepeatZone : Location := ⟨7200, [⟨82800, 3600⟩], by decide⟩

def repeatConfig : Config := ⟨1000, 30, fun _ => true, fun _ => "", midnightRepeatZone⟩

def freshStore : Store := ⟨fun i => if i = 1 then some ⟨"u", "default", 1, 0⟩ else none, [], []⟩

end DailySign
