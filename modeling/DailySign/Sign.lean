import DailySign.Store

/-! # Eligibility and the grant

Every clock reading and storage outcome a call meets is a field of its environment, in the
order the code makes them. -/
namespace DailySign

structure TodayEnv where
  startNow : Int
  endNow : Int
  countErr : Option String := none
  deriving DecidableEq, Repr

structure CheckEnv where
  userErr : Option String := none
  now : Int
  today : TodayEnv
  deriving DecidableEq, Repr

/-- `CheckUserSignEligibility`, `GetUsernameById`, `IncreaseUserQuota`, the reading stored
in `CreatedAt`, and `LOG_DB.Create`. -/
structure SignEnv where
  check : CheckEnv
  nameErr : Option String := none
  increaseErr : Option String := none
  logNow : Int
  createErr : Option String := none
  deriving DecidableEq, Repr

def signLogsBetween (s : Store) (userId start stop : Int) : List Log :=
  (signLogs s userId).filter fun log => decide (start ≤ log.createdAt ∧ log.createdAt ≤ stop)

def hasUserSignedToday (loc : Location) (s : Store) (userId : Int) (e : TodayEnv) :
    Except String Bool :=
  let todayStart := getTodayStartTimestamp loc e.startNow
  let todayEnd := getTodayEndTimestamp loc e.endNow
  match e.countErr with
  | some err => .error err
  | none => .ok (decide ((signLogsBetween s userId todayStart todayEnd).length > 0))

def checkUserSignEligibility (cfg : Config) (s : Store) (userId : Int) (e : CheckEnv) :
    Bool × String :=
  if cfg.quotaForSign ≤ 0 then (false, "签到功能未启用") else
  match getUserById s userId e.userErr with
  | .error _ => (false, "获取用户信息失败")
  | .ok user =>
    if !cfg.isGroupSignEnabled user.group then (false, "您所在的用户组不允许签到") else
    if user.createdTime ≤ 0 then (false, "签到功能仅限新注册用户") else
    let registeredDays := (e.now - user.createdTime).tdiv (24 * 60 * 60)
    if registeredDays ≥ cfg.signInDays then
      (false, "签到仅限注册后" ++ toString cfg.signInDays ++ "天内的用户") else
    match hasUserSignedToday cfg.loc s userId e.today with
    | .error _ => (false, "检查签到状态失败")
    | .ok true => (false, "今天已经签到过了")
    | .ok false => (true, "")

def signLog (cfg : Config) (userId : Int) (username : String) (createdAt : Int) : Log :=
  ⟨userId, username, createdAt, .sign, "签到获得 " ++ cfg.logQuota cfg.quotaForSign,
    cfg.quotaForSign⟩

/-- `DoSign`: the result and the store it leaves. A failed `LOG_DB.Create` only goes to the
system log; the quota already added stays. -/
def doSign (cfg : Config) (s : Store) (userId : Int) (e : SignEnv) :
    Except String SignResult × Store :=
  let (eligible, reason) := checkUserSignEligibility cfg s userId e.check
  if !eligible then (.ok ⟨false, reason, 0⟩, s) else
  let username := getUsernameById s userId e.nameErr
  let quota := cfg.quotaForSign
  match increaseUserQuota s userId quota e.increaseErr with
  | .error err => (.error ("增加额度失败：" ++ err), s)
  | .ok s₁ =>
    (.ok ⟨true, "签到成功，获得 " ++ cfg.logQuota quota, quota⟩,
      createSignLog s₁ (signLog cfg userId username e.logNow) e.createErr)

theorem hasUserSignedToday_ok {loc : Location} {s : Store} {userId : Int} {e : TodayEnv}
    {b : Bool} (h : hasUserSignedToday loc s userId e = .ok b) :
    e.countErr = none ∧ (b = false ↔ signLogsBetween s userId
      (getTodayStartTimestamp loc e.startNow) (getTodayEndTimestamp loc e.endNow) = []) := by
  unfold hasUserSignedToday at h
  cases hc : e.countErr with
  | some err => simp [hc] at h
  | none =>
    simp only [hc, Except.ok.injEq] at h
    subst h
    simp [List.length_pos]

theorem hasUserSignedToday_of_log {loc : Location} (hr : loc.ExactDays) {s : Store} {userId : Int}
    {e : TodayEnv} {b : Bool} (h : hasUserSignedToday loc s userId e = .ok b) {log : Log}
    (hlog : log ∈ signLogs s userId) (h₁ : loc.day e.startNow ≤ loc.day log.createdAt)
    (h₂ : loc.day log.createdAt ≤ loc.day e.endNow) : b = true := by
  have hin : log ∈ signLogsBetween s userId (getTodayStartTimestamp loc e.startNow)
      (getTodayEndTimestamp loc e.endNow) :=
    List.mem_filter.mpr ⟨hlog, decide_eq_true ((mem_range_iff hr _ _ _).mpr ⟨h₁, h₂⟩)⟩
  cases b
  · rw [((hasUserSignedToday_ok h).2).mp rfl] at hin
    cases hin
  · rfl

structure Eligible (cfg : Config) (s : Store) (userId : Int) (e : CheckEnv) (user : User) :
    Prop where
  enabled : 0 < cfg.quotaForSign
  found : e.userErr = none ∧ s.users userId = some user
  group : cfg.isGroupSignEnabled user.group = true
  registered : 0 < user.createdTime
  window : (e.now - user.createdTime).tdiv (24 * 60 * 60) < cfg.signInDays
  unsigned : e.today.countErr = none ∧ signLogsBetween s userId
    (getTodayStartTimestamp cfg.loc e.today.startNow)
    (getTodayEndTimestamp cfg.loc e.today.endNow) = []

/-- Go's `/` truncates toward zero; still, a difference whose quotient by a day is below `n`
is below `n` days. -/
theorem lt_of_tdiv_lt {x n : Int} (h : x.tdiv (24 * 60 * 60) < n) : x < n * 86400 := by
  change x.tdiv 86400 < n at h
  by_cases hx : x < 0
  · have hneg : (-x).tdiv 86400 = -x / 86400 := Int.tdiv_eq_ediv (by omega) (by decide)
    rw [Int.neg_tdiv] at hneg
    omega
  · rw [Int.tdiv_eq_ediv (by omega) (by decide)] at h
    omega

theorem Eligible.now_lt {cfg : Config} {s : Store} {userId : Int} {e : CheckEnv} {user : User}
    (he : Eligible cfg s userId e user) : e.now < user.createdTime + cfg.signInDays * 86400 := by
  have := lt_of_tdiv_lt he.window
  omega

theorem eligible_of_check {cfg : Config} {s : Store} {userId : Int} {e : CheckEnv}
    {reason : String} (h : checkUserSignEligibility cfg s userId e = (true, reason)) :
    ∃ user, Eligible cfg s userId e user := by
  unfold checkUserSignEligibility at h
  split_ifs at h with hq
  · simp at h
  rcases hu : getUserById s userId e.userErr with err | user <;> rw [hu] at h
  · simp at h
  dsimp only at h
  split_ifs at h with hg hc hw <;> try simp only [Prod.mk.injEq, Bool.false_eq_true, false_and] at h
  rcases ht : hasUserSignedToday cfg.loc s userId e.today with err | _ | _ <;> rw [ht] at h
  · simp at h
  · obtain ⟨hce, hnil⟩ := hasUserSignedToday_ok ht
    exact ⟨user, ⟨by omega, getUserById_ok.mp hu, by simpa using hg, by omega, by omega, hce,
      hnil.mp rfl⟩⟩
  · simp at h

theorem checkUserSignEligibility_reason {cfg : Config} {s : Store} {userId : Int} {e : CheckEnv}
    {r : String} (h : checkUserSignEligibility cfg s userId e = (true, r)) : r = "" := by
  unfold checkUserSignEligibility at h
  dsimp only at h
  repeat' split at h
  all_goals cases h <;> rfl

/-- What one `DoSign` call does: refuse and change nothing, fail in `IncreaseUserQuota` and
change nothing, or grant `QuotaForSign` and write the sign log (or the system log line). -/
theorem doSign_cases (cfg : Config) (s : Store) (userId : Int) (e : SignEnv) :
    (∃ reason, checkUserSignEligibility cfg s userId e.check = (false, reason) ∧
      doSign cfg s userId e = (.ok ⟨false, reason, 0⟩, s)) ∨
    (∃ user err, Eligible cfg s userId e.check user ∧ e.increaseErr = some err ∧
      doSign cfg s userId e = (.error ("增加额度失败：" ++ err), s)) ∨
    (∃ user, Eligible cfg s userId e.check user ∧ e.increaseErr = none ∧
      doSign cfg s userId e = (.ok ⟨true, "签到成功，获得 " ++ cfg.logQuota cfg.quotaForSign,
        cfg.quotaForSign⟩, createSignLog (s.credit userId cfg.quotaForSign)
          (signLog cfg userId (getUsernameById s userId e.nameErr) e.logNow) e.createErr)) := by
  rcases hc : checkUserSignEligibility cfg s userId e.check with ⟨_ | _, reason⟩
  · exact .inl ⟨reason, rfl, by simp [doSign, hc]⟩
  · obtain ⟨user, he⟩ := eligible_of_check hc
    cases hi : e.increaseErr with
    | some err =>
      exact .inr (.inl ⟨user, err, he, rfl, by simp [doSign, hc, hi, increaseUserQuota]⟩)
    | none => exact .inr (.inr ⟨user, he, rfl, by simp [doSign, hc, hi, increaseUserQuota]⟩)

end DailySign
