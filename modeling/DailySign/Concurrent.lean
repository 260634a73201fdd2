import DailySign.Window

/-! # Concurrent requests

`DoSign` takes no lock, so a request is `DoSign` cut at its storage calls, and a schedule says
which request moves next. -/
namespace DailySign

/-- `CheckUserSignEligibility` up to its `HasUserSignedToday` call: the reason it refuses, or
`none` to go on and count. -/
def checkBeforeCount (cfg : Config) (s : Store) (userId : Int) (e : CheckEnv) : Option String :=
  if cfg.quotaForSign ≤ 0 then some "签到功能未启用" else
  match getUserById s userId e.userErr with
  | .error _ => some "获取用户信息失败"
  | .ok user =>
    if !cfg.isGroupSignEnabled user.group then some "您所在的用户组不允许签到" else
    if user.createdTime ≤ 0 then some "签到功能仅限新注册用户" else
    let registeredDays := (e.now - user.createdTime).tdiv (24 * 60 * 60)
    if registeredDays ≥ cfg.signInDays then
      some ("签到仅限注册后" ++ toString cfg.signInDays ++ "天内的用户") else none

def checkCount (loc : Location) (s : Store) (userId : Int) (e : TodayEnv) : Bool × String :=
  match hasUserSignedToday loc s userId e with
  | .error _ => (false, "检查签到状态失败")
  | .ok true => (false, "今天已经签到过了")
  | .ok false => (true, "")

theorem checkUserSignEligibility_split (cfg : Config) (s : Store) (userId : Int) (e : CheckEnv) :
    checkUserSignEligibility cfg s userId e =
      match checkBeforeCount cfg s userId e with
      | some reason => (false, reason)
      | none => checkCount cfg.loc s userId e.today := by
  unfold checkUserSignEligibility checkBeforeCount checkCount
  rcases getUserById s userId e.userErr with _ | user <;> dsimp only <;> split_ifs <;> rfl

/-- Where a request stands: before one of its storage calls, or returned. -/
inductive Pc where
  | start
  | counting
  | naming
  | increasing (username : String)
  | logging (username : String)
  | done (result : Except String SignResult)

def Pc.granted : Pc → Bool
  | .done r => DailySign.granted r
  | _ => false

/-- One atomic step of a `DoSign` request for `userId` on the shared store. -/
def signStep (cfg : Config) (userId : Int) (e : SignEnv) (s : Store) : Pc → Pc × Store
  | .start =>
    match checkBeforeCount cfg s userId e.check with
    | some reason => (.done (.ok ⟨false, reason, 0⟩), s)
    | none => (.counting, s)
  | .counting =>
    match checkCount cfg.loc s userId e.check.today with
    | (true, _) => (.naming, s)
    | (false, reason) => (.done (.ok ⟨false, reason, 0⟩), s)
  | .naming => (.increasing (getUsernameById s userId e.nameErr), s)
  | .increasing username =>
    match increaseUserQuota s userId cfg.quotaForSign e.increaseErr with
    | .error err => (.done (.error ("增加额度失败：" ++ err)), s)
    | .ok s₁ => (.logging username, s₁)
  | .logging username =>
    (.done (.ok ⟨true, "签到成功，获得 " ++ cfg.logQuota cfg.quotaForSign, cfg.quotaForSign⟩),
      createSignLog s (signLog cfg userId username e.logNow) e.createErr)
  | .done r => (.done r, s)

def signSteps (cfg : Config) (userId : Int) (e : SignEnv) : Nat → Pc × Store → Pc × Store
  | 0, p => p
  | n + 1, p => signSteps cfg userId e n (signStep cfg userId e p.2 p.1)

theorem signSteps_doSign (cfg : Config) (userId : Int) (e : SignEnv) (s : Store) :
    signSteps cfg userId e 5 (.start, s) =
      (.done (doSign cfg s userId e).1, (doSign cfg s userId e).2) := by
  simp only [doSign, checkUserSignEligibility_split]
  rcases hb : checkBeforeCount cfg s userId e.check with _ | reason
  · rcases hc : checkCount cfg.loc s userId e.check.today with ⟨_ | _, reason⟩
    · simp [signSteps, signStep, hb, hc]
    · cases hi : increaseUserQuota s userId cfg.quotaForSign e.increaseErr <;>
        simp [signSteps, signStep, hb, hc, hi]
  · simp [signSteps, signStep, hb]

/-- The shared store and where each request stands; request `i` runs with the `i`-th
environment. -/
structure System where
  store : Store
  pcs : Nat → Pc

def System.step (cfg : Config) (userId : Int) (envs : List SignEnv) (sys : System) (i : Nat) :
    System :=
  match envs[i]? with
  | none => sys
  | some e =>
    let next := signStep cfg userId e sys.store (sys.pcs i)
    ⟨next.2, Function.update sys.pcs i next.1⟩

def runSchedule (cfg : Config) (userId : Int) (envs : List SignEnv) (sys : System)
    (sched : List Nat) : System :=
  sched.foldl (System.step cfg userId envs) sys

def serialSchedule (off n : Nat) : List Nat :=
  (List.range' off n).flatMap fun i => List.replicate 5 i

def grantedPcs (sys : System) (n : Nat) : List Bool :=
  (List.range n).map fun i => (sys.pcs i).granted

theorem runSchedule_append (cfg : Config) (userId : Int) (envs : List SignEnv) (sys : System)
    (a b : List Nat) :
    runSchedule cfg userId envs sys (a ++ b) =
      runSchedule cfg userId envs (runSchedule cfg userId envs sys a) b :=
  List.foldl_append _ _ _ _

theorem runSchedule_replicate (cfg : Config) (userId : Int) {envs : List SignEnv} {i : Nat}
    {e : SignEnv} (he : envs[i]? = some e) :
    ∀ (n : Nat) (sys : System), runSchedule cfg userId envs sys (List.replicate n i) =
      ⟨(signSteps cfg userId e n (sys.pcs i, sys.store)).2,
        Function.update sys.pcs i (signSteps cfg userId e n (sys.pcs i, sys.store)).1⟩
  | 0, sys => by simp [runSchedule, signSteps]
  | n + 1, sys => by
    rw [List.replicate_succ, runSchedule, List.foldl_cons, ← runSchedule,
      runSchedule_replicate cfg userId he n]
    simp [System.step, he, signSteps]

theorem runSchedule_serial (cfg : Config) (userId : Int) (envs : List SignEnv) :
    ∀ (es : List SignEnv) (off : Nat) (sys : System),
      (∀ j < es.length, envs[off + j]? = es[j]? ∧ sys.pcs (off + j) = .start) →
      (runSchedule cfg userId envs sys (serialSchedule off es.length)).store =
        (runSigns cfg userId sys.store es).1 ∧
      (List.range' off es.length).map
        (runSchedule cfg userId envs sys (serialSchedule off es.length)).pcs =
        (runSigns cfg userId sys.store es).2.map (fun p => .done p.2) ∧
      ∀ i < off, (runSchedule cfg userId envs sys (serialSchedule off es.length)).pcs i = sys.pcs i
  | [], _, _, _ => ⟨rfl, rfl, fun _ _ => rfl⟩
  | e :: es, off, sys, h => by
    obtain ⟨he, hs⟩ := h 0 (Nat.succ_pos _)
    rw [Nat.add_zero] at he hs
    rw [List.getElem?_cons_zero] at he
    have hsched : serialSchedule off (e :: es).length =
        List.replicate 5 off ++ serialSchedule (off + 1) es.length := rfl
    have hfirst := runSchedule_replicate cfg userId he 5 sys
    rw [hs, signSteps_doSign] at hfirst
    obtain ⟨hstore, hpcs, hkeep⟩ := runSchedule_serial cfg userId envs es (off + 1)
      (runSchedule cfg userId envs sys (List.replicate 5 off)) fun j hj => by
        obtain ⟨he', hs'⟩ := h (j + 1) (by simp; omega)
        rw [List.getElem?_cons_succ] at he'
        rw [hfirst, show off + 1 + j = off + (j + 1) by omega]
        exact ⟨he', by dsimp only; rw [Function.update_noteq (by omega), hs']⟩
    rw [hsched, runSchedule_append]
    refine ⟨by rw [hstore, hfirst]; rfl, ?_, fun i hi => by
      rw [hkeep i (by omega), hfirst]; dsimp only; rw [Function.update_noteq (by omega)]⟩
    rw [List.length_cons, List.range'_succ, List.map_cons, hpcs, hkeep off (by omega), hfirst]
    simp

theorem serial_refines_runSigns (cfg : Config) (userId : Int) (s : Store) (es : List SignEnv) :
    (runSchedule cfg userId es ⟨s, fun _ => .start⟩ (serialSchedule 0 es.length)).store =
      (runSigns cfg userId s es).1 ∧
    (List.range es.length).map
      (runSchedule cfg userId es ⟨s, fun _ => .start⟩ (serialSchedule 0 es.length)).pcs =
      (runSigns cfg userId s es).2.map (fun p => .done p.2) := by
  obtain ⟨hstore, hpcs, -⟩ := runSchedule_serial cfg userId es es 0 ⟨s, fun _ => .start⟩
    fun j _ => ⟨by rw [Nat.zero_add], rfl⟩
  exact ⟨hstore, by rw [List.range_eq_range', hpcs]⟩

theorem runSigns_balance (cfg : Config) (userId : Int) :
    ∀ (es : List SignEnv) (s : Store),
      ((runSigns cfg userId s es).1.users userId).map (·.quota) = (s.users userId).map
        (·.quota + cfg.quotaForSign * (grantDays cfg.loc (runSigns cfg userId s es).2).length)
  | [], s => by simp [grantDays]
  | e :: es, s => by
    rw [runSigns_cons, grantDays_cons, runSigns_balance cfg userId es]
    rcases doSign_cases cfg s userId e with ⟨_, _, hd⟩ | ⟨_, _, _, _, hd⟩ | ⟨_, _, _, hd⟩ <;>
      rw [hd]
    · simp [granted]
    · simp [granted]
    · rcases hu : s.users userId with _ | u
      · simp [hu]
      · simp [hu, granted]
        ring

/-- Serial requests are `runSigns`, with the balance grown by `QuotaForSign` per grant; where
`time.Date` bounds dates exactly, the grants fall on distinct dates. -/
theorem serial_signs_once_a_day (cfg : Config) (userId t : Int) (s₀ : Store)
    (es : List SignEnv) :
    (runSchedule cfg userId es ⟨s₀, fun _ => .start⟩ (serialSchedule 0 es.length)).store =
      (runSigns cfg userId s₀ es).1 ∧
    (List.range es.length).map
      (runSchedule cfg userId es ⟨s₀, fun _ => .start⟩ (serialSchedule 0 es.length)).pcs =
      (runSigns cfg userId s₀ es).2.map (fun p => .done p.2) ∧
    ((runSchedule cfg userId es ⟨s₀, fun _ => .start⟩ (serialSchedule 0 es.length)).store.users
      userId).map (·.quota) = (s₀.users userId).map
        (·.quota + cfg.quotaForSign * (grantDays cfg.loc (runSigns cfg userId s₀ es).2).length) ∧
    (cfg.loc.ExactDays → Clocked t es → (∀ e ∈ es, e.OneDay cfg.loc ∧ e.createErr = none) →
      (grantDays cfg.loc (runSigns cfg userId s₀ es).2).Nodup) := by
  obtain ⟨hstore, hpcs⟩ := serial_refines_runSigns cfg userId s₀ es
  exact ⟨hstore, hpcs, by rw [hstore, runSigns_balance],
    fun hr hclock hcalls => (runSigns_grantDays hr userId es s₀ t hclock hcalls).2.1⟩

theorem serial_signs_once_a_day_noon :
    noonConfig.loc.ExactDays ∧ Clocked 43200 noonRun ∧
    (∀ e ∈ noonRun, e.OneDay noonConfig.loc ∧ e.createErr = none) ∧
    ((runSchedule noonConfig 1 noonRun ⟨soloStore 43200, fun _ => .start⟩
      (serialSchedule 0 noonRun.length)).store =
      (runSigns noonConfig 1 (soloStore 43200) noonRun).1 ∧
    (List.range noonRun.length).map (runSchedule noonConfig 1 noonRun
        ⟨soloStore 43200, fun _ => .start⟩ (serialSchedule 0 noonRun.length)).pcs =
      (runSigns noonConfig 1 (soloStore 43200) noonRun).2.map (fun p => .done p.2) ∧
    ((runSchedule noonConfig 1 noonRun ⟨soloStore 43200, fun _ => .start⟩
      (serialSchedule 0 noonRun.length)).store.users 1).map (·.quota) =
        ((soloStore 43200).users 1).map (·.quota + noonConfig.quotaForSign *
          (grantDays noonConfig.loc (runSigns noonConfig 1 (soloStore 43200) noonRun).2).length) ∧
    (noonConfig.loc.ExactDays → Clocked 43200 noonRun →
      (∀ e ∈ noonRun, e.OneDay noonConfig.loc ∧ e.createErr = none) →
      (grantDays noonConfig.loc (runSigns noonConfig 1 (soloStore 43200) noonRun).2).Nodup)) :=
  ⟨(fixed_is_fixed 0).regular.toExactDays, by decide, by decide,
    serial_signs_once_a_day noonConfig 1 43200 (soloStore 43200) noonRun⟩

/-! ## Any schedule -/

/-- The request has added `QuotaForSign` to the balance: it is writing its log, or returned
`Success=true`. -/
def Pc.credited : Pc → Bool
  | .logging _ => true
  | .done r => DailySign.granted r
  | _ => false

def creditedCount (sys : System) (n : Nat) : Nat :=
  (List.range n).countP fun i => (sys.pcs i).credited

theorem signStep_credit (cfg : Config) (userId : Int) (e : SignEnv) (s : Store) (pc : Pc) :
    (((signStep cfg userId e s pc).2.users userId).map (·.quota) =
        (s.users userId).map (·.quota + cfg.quotaForSign) ∧
      pc.credited = false ∧ (signStep cfg userId e s pc).1.credited = true) ∨
    (((signStep cfg userId e s pc).2.users userId).map (·.quota) = (s.users userId).map (·.quota) ∧
      (signStep cfg userId e s pc).1.credited = pc.credited) := by
  cases pc with
  | start =>
    refine .inr ?_
    simp only [signStep]
    split <;> exact ⟨rfl, rfl⟩
  | counting =>
    refine .inr ?_
    simp only [signStep]
    split <;> exact ⟨rfl, rfl⟩
  | naming => exact .inr ⟨rfl, rfl⟩
  | increasing username =>
    simp only [signStep, increaseUserQuota]
    cases e.increaseErr with
    | some err => exact .inr ⟨rfl, rfl⟩
    | none => exact .inl ⟨by simp [Option.map_map, Function.comp_def], rfl, rfl⟩
  | logging username => exact .inr ⟨by simp [signStep], rfl⟩
  | done r => exact .inr ⟨rfl, rfl⟩

theorem countP_update_of_mem (q : Pc → Bool) (f : Nat → Pc) {i : Nat} (p : Pc) {l : List Nat}
    (hl : l.Nodup) (hi : i ∈ l) :
    (l.countP fun j => q (Function.update f i p j)) + (if q (f i) then 1 else 0) =
      (l.countP fun j => q (f j)) + (if q p then 1 else 0) := by
  have hout : i ∉ l.erase i := hl.not_mem_erase
  have htail : ((l.erase i).countP fun j => q (Function.update f i p j)) =
      (l.erase i).countP fun j => q (f j) :=
    List.countP_congr fun j hj => by rw [Function.update_noteq (ne_of_mem_of_not_mem hj hout)]
  rw [(List.perm_cons_erase hi).countP_eq, (List.perm_cons_erase hi).countP_eq _,
    List.countP_cons, List.countP_cons, htail, Function.update_same]
  omega

theorem step_balance (cfg : Config) (userId : Int) (envs : List SignEnv) (s₀ : Store)
    (sys : System) (i : Nat)
    (h : (sys.store.users userId).map (·.quota) =
      (s₀.users userId).map (·.quota + cfg.quotaForSign * creditedCount sys envs.length)) :
    ((sys.step cfg userId envs i).store.users userId).map (·.quota) = (s₀.users userId).map
      (·.quota + cfg.quotaForSign * creditedCount (sys.step cfg userId envs i) envs.length) := by
  unfold System.step
  rcases he : envs[i]? with _ | e
  · exact h
  · have hc := countP_update_of_mem Pc.credited sys.pcs
      (signStep cfg userId e sys.store (sys.pcs i)).1 (List.nodup_range envs.length)
      (List.mem_range.mpr (List.getElem?_eq_some_iff.mp he).1)
    simp only [creditedCount] at h ⊢
    rcases signStep_credit cfg userId e sys.store (sys.pcs i) with ⟨hb, h₁, h₂⟩ | ⟨hb, h₁⟩
    · rw [h₁, h₂] at hc
      simp only [Bool.false_eq_true, if_false, if_true] at hc
      rw [hb, show ((List.range envs.length).countP fun j =>
        (Function.update sys.pcs i (signStep cfg userId e sys.store (sys.pcs i)).1 j).credited) =
          ((List.range envs.length).countP fun j => (sys.pcs j).credited) + 1 by omega]
      rcases hv : sys.store.users userId with _ | v <;> rcases hw : s₀.users userId with _ | w <;>
        simp only [hv, hw, Option.map_none', Option.map_some', Option.some.injEq] at h ⊢ <;>
        first | cases h | (rw [h]; push_cast; ring)
    · rw [h₁] at hc
      rw [hb, h, show ((List.range envs.length).countP fun j =>
        (Function.update sys.pcs i (signStep cfg userId e sys.store (sys.pcs i)).1 j).credited) =
          ((List.range envs.length).countP fun j => (sys.pcs j).credited) by omega]

/-- Under any schedule the balance is the starting one plus `QuotaForSign` for each request
past `IncreaseUserQuota`: the increment, one atomic update of the row, loses none. -/
theorem runSchedule_balance (cfg : Config) (userId : Int) (envs : List SignEnv) (s₀ : Store) :
    ∀ (sched : List Nat) (sys : System),
      (sys.store.users userId).map (·.quota) =
        (s₀.users userId).map (·.quota + cfg.quotaForSign * creditedCount sys envs.length) →
      ((runSchedule cfg userId envs sys sched).store.users userId).map (·.quota) =
        (s₀.users userId).map (·.quota + cfg.quotaForSign *
          creditedCount (runSchedule cfg userId envs sys sched) envs.length)
  | [], _, h => h
  | i :: sched, sys, h =>
    runSchedule_balance cfg userId envs s₀ sched _ (step_balance cfg userId envs s₀ sys i h)

theorem creditedCount_start (s : Store) (n : Nat) : creditedCount ⟨s, fun _ => .start⟩ n = 0 :=
  List.countP_eq_zero.mpr fun _ _ => Bool.false_ne_true

theorem creditedCount_of_returned {sys : System} {n : Nat}
    (hdone : ∀ i < n, ∃ r, sys.pcs i = .done r) :
    creditedCount sys n = (List.range n).countP fun i => (sys.pcs i).granted :=
  List.countP_congr fun i hi => by
    obtain ⟨r, hr⟩ := hdone i (List.mem_range.mp hi)
    rw [hr]
    rfl

/-- From fresh requests, under any schedule, once every request has returned the balance has
grown by exactly `QuotaForSign` for each `Success=true`. -/
theorem balance_of_returned (cfg : Config) (userId : Int) (envs : List SignEnv) (s₀ : Store)
    (sched : List Nat)
    (hdone : ∀ i < envs.length,
      ∃ r, (runSchedule cfg userId envs ⟨s₀, fun _ => .start⟩ sched).pcs i = .done r) :
    ((runSchedule cfg userId envs ⟨s₀, fun _ => .start⟩ sched).store.users userId).map
      (·.quota) = (s₀.users userId).map (·.quota + cfg.quotaForSign *
        (List.range envs.length).countP fun i =>
          ((runSchedule cfg userId envs ⟨s₀, fun _ => .start⟩ sched).pcs i).granted) := by
  rw [runSchedule_balance cfg userId envs s₀ sched _ (by simp [creditedCount_start]),
    creditedCount_of_returned hdone]

def raceEnvs : List SignEnv := [.instant 50000, .instant 50000]

def raceSchedule : List Nat := [0, 1, 0, 1, 0, 1, 0, 1, 0, 1]

theorem race_returns : ∀ i < raceEnvs.length, ∃ r,
    (runSchedule noonConfig 1 raceEnvs ⟨soloStore 43200, fun _ => .start⟩ raceSchedule).pcs i =
      .done r
  | 0, _ => ⟨_, rfl⟩
  | 1, _ => ⟨_, rfl⟩
  | _ + 2, h => by simp [raceEnvs] at h

theorem balance_of_returned_race :
    (∀ i < raceEnvs.length, ∃ r, (runSchedule noonConfig 1 raceEnvs
      ⟨soloStore 43200, fun _ => .start⟩ raceSchedule).pcs i = .done r) ∧
    ((runSchedule noonConfig 1 raceEnvs ⟨soloStore 43200, fun _ => .start⟩
      raceSchedule).store.users 1).map (·.quota) =
      ((soloStore 43200).users 1).map (·.quota + noonConfig.quotaForSign *
        (List.range raceEnvs.length).countP fun i => ((runSchedule noonConfig 1 raceEnvs
          ⟨soloStore 43200, fun _ => .start⟩ raceSchedule).pcs i).granted) :=
  ⟨race_returns,
    balance_of_returned noonConfig 1 raceEnvs (soloStore 43200) raceSchedule race_returns⟩

/-! ## The ledger under any schedule -/

theorem signStep_log (cfg : Config) (userId : Int) (e : SignEnv) (s : Store) (pc : Pc)
    (hw : e.createErr = none) :
    ((∃ username,
      (signStep cfg userId e s pc).2.logs = s.logs ++ [signLog cfg userId username e.logNow]) ∧
      pc.granted = false ∧ (signStep cfg userId e s pc).1.granted = true) ∨
    ((signStep cfg userId e s pc).2.logs = s.logs ∧
      (signStep cfg userId e s pc).1.granted = pc.granted) := by
  cases pc with
  | start =>
    refine .inr ?_
    simp only [signStep]
    split <;> exact ⟨rfl, rfl⟩
  | counting =>
    refine .inr ?_
    simp only [signStep]
    split <;> exact ⟨rfl, rfl⟩
  | naming => exact .inr ⟨rfl, rfl⟩
  | increasing username =>
    refine .inr ?_
    simp only [signStep, increaseUserQuota]
    cases e.increaseErr <;> exact ⟨rfl, rfl⟩
  | logging username => exact .inl ⟨⟨username, by simp [signStep, createSignLog, hw]⟩, rfl, rfl⟩
  | done r => exact .inr ⟨rfl, rfl⟩

theorem signStep_keeps_logs (cfg : Config) (userId : Int) (e : SignEnv) (s : Store) (pc : Pc)
    (hw : e.createErr = none) {log : Log} (hlog : log ∈ signLogs s userId) :
    log ∈ signLogs (signStep cfg userId e s pc).2 userId := by
  unfold signLogs at hlog ⊢
  rcases signStep_log cfg userId e s pc hw with ⟨⟨u, hl⟩, -⟩ | ⟨hl, -⟩ <;> rw [hl]
  · rw [List.filter_append]
    exact List.mem_append_left _ hlog
  · exact hlog

def LogsSince (cfg : Config) (userId : Int) (s₀ : Store) (n : Nat) (sys : System) : Prop :=
  ∃ appended : List Log, sys.store.logs = s₀.logs ++ appended ∧
    (∀ log ∈ appended, log.userId = userId ∧ log.type = .sign ∧ log.quota = cfg.quotaForSign) ∧
    appended.length = (List.range n).countP fun i => (sys.pcs i).granted

theorem step_logsSince (cfg : Config) (userId : Int) (envs : List SignEnv) (s₀ : Store)
    (hwrites : ∀ e ∈ envs, e.createErr = none) (sys : System) (i : Nat)
    (h : LogsSince cfg userId s₀ envs.length sys) :
    LogsSince cfg userId s₀ envs.length (sys.step cfg userId envs i) := by
  obtain ⟨appended, hlogs, hall, hlen⟩ := h
  unfold System.step LogsSince
  rcases he : envs[i]? with _ | e
  · exact ⟨appended, hlogs, hall, hlen⟩
  · have hc := countP_update_of_mem Pc.granted sys.pcs
      (signStep cfg userId e sys.store (sys.pcs i)).1 (List.nodup_range envs.length)
      (List.mem_range.mpr (List.getElem?_eq_some_iff.mp he).1)
    dsimp only
    rcases signStep_log cfg userId e sys.store (sys.pcs i) (hwrites e (List.getElem?_mem he)) with
      ⟨⟨u, hl⟩, h₁, h₂⟩ | ⟨hl, hg⟩
    · rw [h₁, h₂] at hc
      simp only [Bool.false_eq_true, if_false, if_true] at hc
      refine ⟨appended ++ [signLog cfg userId u e.logNow], by rw [hl, hlogs, List.append_assoc],
        fun log hlog => ?_, ?_⟩
      · rcases List.mem_append.mp hlog with h | h
        · exact hall log h
        · rw [List.mem_singleton.mp h]
          exact ⟨rfl, rfl, rfl⟩
      · rw [List.length_append, List.length_singleton, hlen]
        omega
    · rw [hg] at hc
      exact ⟨appended, by rw [hl, hlogs], hall, by rw [hlen]; omega⟩

theorem runSchedule_logsSince (cfg : Config) (userId : Int) (envs : List SignEnv) (s₀ : Store)
    (hwrites : ∀ e ∈ envs, e.createErr = none) :
    ∀ (sched : List Nat) (sys : System), LogsSince cfg userId s₀ envs.length sys →
      LogsSince cfg userId s₀ envs.length (runSchedule cfg userId envs sys sched)
  | [], _, h => h
  | i :: sched, sys, h =>
    runSchedule_logsSince cfg userId envs s₀ hwrites sched _
      (step_logsSince cfg userId envs s₀ hwrites sys i h)

/-- Under any schedule with every log write succeeding, once all have returned the log holds
one new sign log per grant and the balance has grown by their quotas. -/
theorem ledger_any_schedule (cfg : Config) (userId : Int) (envs : List SignEnv) (s₀ : Store)
    (sched : List Nat) (hwrites : ∀ e ∈ envs, e.createErr = none)
    (hdone : ∀ i < envs.length,
      ∃ r, (runSchedule cfg userId envs ⟨s₀, fun _ => .start⟩ sched).pcs i = .done r) :
    ∃ appended : List Log,
      (runSchedule cfg userId envs ⟨s₀, fun _ => .start⟩ sched).store.logs = s₀.logs ++ appended ∧
      (∀ log ∈ appended, log.userId = userId ∧ log.type = .sign ∧ log.quota = cfg.quotaForSign) ∧
      appended.length = (List.range envs.length).countP
        (fun i => ((runSchedule cfg userId envs ⟨s₀, fun _ => .start⟩ sched).pcs i).granted) ∧
      ((runSchedule cfg userId envs ⟨s₀, fun _ => .start⟩ sched).store.users userId).map
        (·.quota) = ((s₀.users userId).map (·.quota)).map (· + (appended.map (·.quota)).sum) := by
  obtain ⟨appended, hlogs, hall, hlen⟩ := runSchedule_logsSince cfg userId envs s₀ hwrites sched
    ⟨s₀, fun _ => .start⟩ ⟨[], by simp, by simp, by simp [Pc.granted]⟩
  have hsum : (appended.map (·.quota)).sum = cfg.quotaForSign * appended.length := by
    rw [List.map_congr_left fun log h => (hall log h).2.2, List.map_const', List.sum_replicate,
      nsmul_eq_mul, mul_comm]
  refine ⟨appended, hlogs, hall, hlen, ?_⟩
  rw [runSchedule_balance cfg userId envs s₀ sched _ (by simp [creditedCount_start]),
    creditedCount_of_returned hdone, Option.map_map, hsum, hlen]
  rfl

theorem ledger_any_schedule_race :
    (∀ e ∈ raceEnvs, e.createErr = none) ∧
    (∀ i < raceEnvs.length, ∃ r, (runSchedule noonConfig 1 raceEnvs
      ⟨soloStore 43200, fun _ => .start⟩ raceSchedule).pcs i = .done r) ∧
    ∃ appended : List Log,
      (runSchedule noonConfig 1 raceEnvs ⟨soloStore 43200, fun _ => .start⟩
        raceSchedule).store.logs = (soloStore 43200).logs ++ appended ∧
      (∀ log ∈ appended, log.userId = 1 ∧ log.type = .sign ∧ log.quota = noonConfig.quotaForSign) ∧
      appended.length = (List.range raceEnvs.length).countP (fun i => ((runSchedule noonConfig 1
        raceEnvs ⟨soloStore 43200, fun _ => .start⟩ raceSchedule).pcs i).granted) ∧
      ((runSchedule noonConfig 1 raceEnvs ⟨soloStore 43200, fun _ => .start⟩
        raceSchedule).store.users 1).map (·.quota) =
        (((soloStore 43200).users 1).map (·.quota)).map (· + (appended.map (·.quota)).sum) :=
  ⟨by decide, race_returns, ledger_any_schedule noonConfig 1 raceEnvs (soloStore 43200)
    raceSchedule (by decide) race_returns⟩

/-! ## Under a per-user lock -/

def Pc.critical : Pc → Bool
  | .naming | .increasing _ | .logging _ => true
  | _ => false

def Pc.atCount : Pc → Bool
  | .counting => true
  | _ => false

def Pc.passed (pc : Pc) : Bool := pc.critical || pc.granted

/-- The schedule keeps a per-user lock from each count to its log write: no request counts while
another holds it. -/
def Locked (cfg : Config) (userId : Int) (envs : List SignEnv) : System → List Nat → Prop
  | _, [] => True
  | sys, i :: sched =>
    ((sys.pcs i).atCount = true → ∀ j < envs.length, j ≠ i → (sys.pcs j).critical = false) ∧
      Locked cfg userId envs (sys.step cfg userId envs i) sched

instance Locked.decidable (cfg : Config) (userId : Int) (envs : List SignEnv) :
    ∀ (sys : System) (sched : List Nat), Decidable (Locked cfg userId envs sys sched)
  | _, [] => isTrue trivial
  | sys, i :: sched =>
    haveI := Locked.decidable cfg userId envs (sys.step cfg userId envs i) sched
    inferInstanceAs (Decidable (_ ∧ _))

theorem signStep_passed (cfg : Config) (userId : Int) (e : SignEnv) (s : Store) (pc : Pc)
    (h : (signStep cfg userId e s pc).1.passed = true) :
    pc.passed = true ∨
      (pc.atCount = true ∧ (checkCount cfg.loc s userId e.check.today).1 = true) := by
  cases pc with
  | start =>
    simp only [signStep] at h
    split at h <;> simp [Pc.passed, Pc.critical, Pc.granted, granted] at h
  | counting =>
    simp only [signStep] at h
    split at h
    next hc => exact .inr ⟨rfl, by rw [hc]⟩
    next => simp [Pc.passed, Pc.critical, Pc.granted, granted] at h
  | naming => exact .inl rfl
  | increasing u => exact .inl rfl
  | logging u => exact .inl rfl
  | done r => exact .inl h

theorem checkCount_blocked {loc : Location} (hr : loc.ExactDays) {s : Store} {userId : Int}
    {e : SignEnv} (hc : e.ClockedFrom e.check.now) (hone : e.OneDay loc) {log : Log}
    (hlog : log ∈ signLogs s userId) (hday : loc.day log.createdAt = loc.day e.check.now) :
    (checkCount loc s userId e.check.today).1 = false := by
  obtain ⟨-, h₁, h₂, h₃⟩ := hc
  have := hr.mono h₁
  have := hr.mono h₂
  have := hr.mono h₃
  unfold SignEnv.OneDay at hone
  unfold checkCount
  rcases hh : hasUserSignedToday loc s userId e.check.today with _ | _ | _
  · rfl
  · cases hasUserSignedToday_of_log hr hh hlog (by omega) (by omega)
  · rfl

/-- What a locked run keeps: each request that returned `Success=true` left a sign log on its
check date, and no two requests past their count share a check date. -/
structure OnceADay (cfg : Config) (userId : Int) (envs : List SignEnv) (sys : System) : Prop where
  logged : ∀ i e, envs[i]? = some e → (sys.pcs i).granted = true →
    ∃ log ∈ signLogs sys.store userId, cfg.loc.day log.createdAt = cfg.loc.day e.check.now
  apart : ∀ i j ei ej, envs[i]? = some ei → envs[j]? = some ej → i ≠ j →
    (sys.pcs i).passed = true → (sys.pcs j).passed = true →
    cfg.loc.day ei.check.now ≠ cfg.loc.day ej.check.now

theorem onceADay_start (cfg : Config) (userId : Int) (envs : List SignEnv) (s : Store) :
    OnceADay cfg userId envs ⟨s, fun _ => .start⟩ :=
  ⟨fun _ _ _ h => (nomatch h), fun _ _ _ _ _ _ _ h => (nomatch h)⟩

section Lock

variable {cfg : Config} (hr : cfg.loc.ExactDays) {userId : Int} {envs : List SignEnv}
  (hcalls : ∀ e ∈ envs, e.ClockedFrom e.check.now ∧ e.OneDay cfg.loc ∧ e.createErr = none)
include hr hcalls

omit hr in
theorem step_logged {sys : System} {k : Nat} (h : OnceADay cfg userId envs sys) :
    ∀ i e, envs[i]? = some e → ((sys.step cfg userId envs k).pcs i).granted = true →
      ∃ log ∈ signLogs (sys.step cfg userId envs k).store userId,
        cfg.loc.day log.createdAt = cfg.loc.day e.check.now := by
  unfold System.step
  rcases he : envs[k]? with _ | e
  · exact h.logged
  obtain ⟨-, hone, hw⟩ := hcalls e (List.getElem?_mem he)
  intro i ei hei hg
  dsimp only at hg ⊢
  by_cases hik : i = k
  · subst hik
    obtain rfl : ei = e := Option.some.inj (hei.symm.trans he)
    rw [Function.update_same] at hg
    rcases signStep_log cfg userId ei sys.store (sys.pcs i) hw with ⟨⟨u, hl⟩, -⟩ | ⟨-, hg'⟩
    · refine ⟨signLog cfg userId u ei.logNow, ?_, hone.symm⟩
      unfold signLogs
      rw [hl, List.filter_append]
      exact List.mem_append_right _ (by simp [signLog])
    · obtain ⟨log, hlog, hday⟩ := h.logged i ei hei (hg' ▸ hg)
      exact ⟨log, signStep_keeps_logs cfg userId ei sys.store _ hw hlog, hday⟩
  · rw [Function.update_noteq hik] at hg
    obtain ⟨log, hlog, hday⟩ := h.logged i ei hei hg
    exact ⟨log, signStep_keeps_logs cfg userId e sys.store _ hw hlog, hday⟩

theorem signStep_apart {sys : System} {k : Nat} {e : SignEnv} (he : envs[k]? = some e)
    (hlock : (sys.pcs k).atCount = true →
      ∀ j < envs.length, j ≠ k → (sys.pcs j).critical = false)
    (h : OnceADay cfg userId envs sys) {j : Nat} {ej : SignEnv} (hej : envs[j]? = some ej)
    (hjk : j ≠ k) (hpj : (sys.pcs j).passed = true)
    (hpk : (signStep cfg userId e sys.store (sys.pcs k)).1.passed = true) :
    cfg.loc.day e.check.now ≠ cfg.loc.day ej.check.now := by
  obtain ⟨hc, hone, -⟩ := hcalls e (List.getElem?_mem he)
  rcases signStep_passed cfg userId e sys.store (sys.pcs k) hpk with hold | ⟨hat, hcount⟩
  · exact h.apart k j e ej he hej (Ne.symm hjk) hold hpj
  · have hcrit := hlock hat j (List.getElem?_eq_some_iff.mp hej).1 hjk
    simp only [Pc.passed, hcrit, Bool.false_or] at hpj
    obtain ⟨log, hlog, hday⟩ := h.logged j ej hej hpj
    intro hsame
    rw [checkCount_blocked hr hc hone hlog (hday.trans hsame.symm)] at hcount
    cases hcount

theorem step_onceADay {sys : System} {k : Nat}
    (hlock : (sys.pcs k).atCount = true →
      ∀ j < envs.length, j ≠ k → (sys.pcs j).critical = false)
    (h : OnceADay cfg userId envs sys) : OnceADay cfg userId envs (sys.step cfg userId envs k) := by
  refine ⟨step_logged hcalls h, ?_⟩
  unfold System.step
  rcases he : envs[k]? with _ | e
  · exact h.apart
  intro i j ei ej hei hej hij hpi hpj
  dsimp only at hpi hpj
  by_cases hik : i = k <;> by_cases hjk : j = k
  · exact absurd (hik.trans hjk.symm) hij
  · subst hik
    obtain rfl : ei = e := Option.some.inj (hei.symm.trans he)
    rw [Function.update_same] at hpi
    rw [Function.update_noteq hjk] at hpj
    exact signStep_apart hr hcalls he hlock h hej hjk hpj hpi
  · subst hjk
    obtain rfl : ej = e := Option.some.inj (hej.symm.trans he)
    rw [Function.update_same] at hpj
    rw [Function.update_noteq hik] at hpi
    exact (signStep_apart hr hcalls he hlock h hei hik hpi hpj).symm
  · rw [Function.update_noteq hik] at hpi
    rw [Function.update_noteq hjk] at hpj
    exact h.apart i j ei ej hei hej hij hpi hpj

theorem runSchedule_onceADay :
    ∀ (sched : List Nat) (sys : System), Locked cfg userId envs sys sched →
      OnceADay cfg userId envs sys →
      OnceADay cfg userId envs (runSchedule cfg userId envs sys sched)
  | [], _, _, h => h
  | _ :: sched, _, ⟨hl, hrest⟩, h =>
    runSchedule_onceADay sched _ hrest (step_onceADay hr hcalls hl h)

end Lock

/-- Under a per-user lock from count to log write, where `time.Date` bounds dates exactly, no
two granted requests were checked on the same date. -/
theorem locked_signs_once_a_day {cfg : Config} (hr : cfg.loc.ExactDays) (userId : Int)
    (s₀ : Store) (envs : List SignEnv) (sched : List Nat)
    (hcalls : ∀ e ∈ envs, e.ClockedFrom e.check.now ∧ e.OneDay cfg.loc ∧ e.createErr = none)
    (hlock : Locked cfg userId envs ⟨s₀, fun _ => .start⟩ sched) :
    (∀ i j (ei ej : SignEnv), envs[i]? = some ei → envs[j]? = some ej → i ≠ j →
      ((runSchedule cfg userId envs ⟨s₀, fun _ => .start⟩ sched).pcs i).granted = true →
      ((runSchedule cfg userId envs ⟨s₀, fun _ => .start⟩ sched).pcs j).granted = true →
      cfg.loc.day ei.check.now ≠ cfg.loc.day ej.check.now) ∧
    ((∀ i < envs.length,
      ∃ r, (runSchedule cfg userId envs ⟨s₀, fun _ => .start⟩ sched).pcs i = .done r) →
      ((runSchedule cfg userId envs ⟨s₀, fun _ => .start⟩ sched).store.users userId).map
        (·.quota) = (s₀.users userId).map (·.quota + cfg.quotaForSign *
          (List.range envs.length).countP fun i =>
            ((runSchedule cfg userId envs ⟨s₀, fun _ => .start⟩ sched).pcs i).granted)) := by
  have hinv := runSchedule_onceADay hr hcalls sched _ hlock (onceADay_start cfg userId envs s₀)
  refine ⟨fun i j ei ej hei hej hij hgi hgj => hinv.apart i j ei ej hei hej hij
    (by simp [Pc.passed, hgi]) (by simp [Pc.passed, hgj]), fun hdone => ?_⟩
  rw [runSchedule_balance cfg userId envs s₀ sched _ (by simp [creditedCount_start]),
    creditedCount_of_returned hdone]

def lockedEnvs : List SignEnv := [.instant 50000, .instant 60000]

def lockedSchedule : List Nat := [0, 1, 0, 0, 0, 0, 1]

theorem locked_signs_once_a_day_turns :
    noonConfig.loc.ExactDays ∧
    (∀ e ∈ lockedEnvs, e.ClockedFrom e.check.now ∧ e.OneDay noonConfig.loc ∧
      e.createErr = none) ∧
    Locked noonConfig 1 lockedEnvs ⟨soloStore 43200, fun _ => .start⟩ lockedSchedule ∧
    (∀ i j (ei ej : SignEnv), lockedEnvs[i]? = some ei → lockedEnvs[j]? = some ej → i ≠ j →
      ((runSchedule noonConfig 1 lockedEnvs ⟨soloStore 43200, fun _ => .start⟩
        lockedSchedule).pcs i).granted = true →
      ((runSchedule noonConfig 1 lockedEnvs ⟨soloStore 43200, fun _ => .start⟩
        lockedSchedule).pcs j).granted = true →
      noonConfig.loc.day ei.check.now ≠ noonConfig.loc.day ej.check.now) ∧
    ((∀ i < lockedEnvs.length, ∃ r, (runSchedule noonConfig 1 lockedEnvs
      ⟨soloStore 43200, fun _ => .start⟩ lockedSchedule).pcs i = .done r) →
      ((runSchedule noonConfig 1 lockedEnvs ⟨soloStore 43200, fun _ => .start⟩
        lockedSchedule).store.users 1).map (·.quota) =
        ((soloStore 43200).users 1).map (·.quota + noonConfig.quotaForSign *
          (List.range lockedEnvs.length).countP fun i => ((runSchedule noonConfig 1 lockedEnvs
            ⟨soloStore 43200, fun _ => .start⟩ lockedSchedule).pcs i).granted)) :=
  ⟨(fixed_is_fixed 0).regular.toExactDays, by decide, by decide,
    locked_signs_once_a_day (fixed_is_fixed 0).regular.toExactDays 1 (soloStore 43200) lockedEnvs
      lockedSchedule (by decide) (by decide)⟩

/-- Under the lock in `midnightRepeatZone`, requests at the first and the second 00:30 of
date 1 are both granted: the second range starts at the second midnight. -/
theorem locked_grants_twice :
    Locked repeatConfig 1 [.instant 81000, .instant 84600] ⟨freshStore, fun _ => .start⟩
      (serialSchedule 0 2) ∧
    grantedPcs (runSchedule repeatConfig 1 [.instant 81000, .instant 84600]
      ⟨freshStore, fun _ => .start⟩ (serialSchedule 0 2)) 2 = [true, true] ∧
    midnightRepeatZone.day 81000 = midnightRepeatZone.day 84600 ∧
    getTodayStartTimestamp midnightRepeatZone 84600 = 82800 := by
  decide

end DailySign
