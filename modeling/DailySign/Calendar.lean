import DailySign.Sign
import Mathlib.Data.List.Chain
import Mathlib.Data.List.Range
import Mathlib.Data.List.Nodup

/-! # The sign calendar

`GetUserSignList`. `AddDate(0, 0, 1)` can return the same instant where the clocks jump a day,
so the loop runs with fuel. -/
namespace DailySign

/-- The user lookup, the `time.Now()` behind the fallback start (read only when
`CreatedTime ≤ 0`), the `time.Now()` for the end time, and the log query. -/
structure ListEnv where
  userErr : Option String := none
  fallbackNow : Int
  now : Int
  findErr : Option String := none
  deriving DecidableEq, Repr

def signStartTime (loc : Location) (user : User) (fallbackNow : Int) : Int :=
  if user.createdTime > 0 then user.createdTime else loc.addDate fallbackNow (-30)

def signEndTime (loc : Location) (signInDays startTime now : Int) : Int :=
  let endTime := loc.date (loc.day now) (23 * 3600 + 59 * 60 + 59)
  let signDeadline := loc.addDate startTime signInDays
  if signDeadline < endTime then signDeadline else endTime

/-- `for !currentDate.After(endTime)`, for at most `fuel` rounds. -/
def signLoop (loc : Location) (signedDates : List Int) (endTime : Int) :
    Nat → Int → Option (List SignStatus)
  | 0, _ => none
  | fuel + 1, currentDate =>
    if currentDate > endTime then some []
    else (signLoop loc signedDates endTime fuel (loc.addDate currentDate 1)).map
      (⟨loc.day currentDate, decide (loc.day currentDate ∈ signedDates)⟩ :: ·)

def getUserSignList (cfg : Config) (s : Store) (userId : Int) (e : ListEnv) (fuel : Nat) :
    Option (Except String (List SignStatus)) :=
  match getUserById s userId e.userErr with
  | .error err => some (.error err)
  | .ok user =>
    let startTime := signStartTime cfg.loc user e.fallbackNow
    let endTime := signEndTime cfg.loc cfg.signInDays startTime e.now
    match findSignLogs s userId e.findErr with
    | .error err => some (.error err)
    | .ok signLogs =>
      let signedDates := signLogs.map fun log => cfg.loc.day log.createdAt
      (signLoop cfg.loc signedDates endTime fuel (cfg.loc.date (cfg.loc.day startTime) 0)).map .ok

theorem signLoop_stuck {loc : Location} {signedDates : List Int} {endTime t : Int}
    (hfix : loc.addDate t 1 = t) (hle : t ≤ endTime) (fuel : Nat) :
    signLoop loc signedDates endTime fuel t = none := by
  induction fuel with
  | zero => rfl
  | succ fuel ih => simp [signLoop, hfix, ih, Int.not_lt.mpr hle]

theorem signLoop_signed {loc : Location} {signedDates : List Int} {endTime : Int} :
    ∀ {fuel : Nat} {t : Int} {list : List SignStatus},
      signLoop loc signedDates endTime fuel t = some list →
      ∀ st ∈ list, st.signed = decide (st.date ∈ signedDates)
  | 0, _, _, h => by cases h
  | fuel + 1, t, list, h => by
    unfold signLoop at h
    split_ifs at h
    · cases h; simp
    · obtain ⟨rest, hrest, rfl⟩ := Option.map_eq_some'.mp h
      intro st hst
      rcases List.mem_cons.mp hst with rfl | hst
      · rfl
      · exact signLoop_signed hrest st hst

theorem getUserSignList_ok {cfg : Config} {s : Store} {userId : Int} {e : ListEnv}
    {fuel : Nat} {list : List SignStatus}
    (h : getUserSignList cfg s userId e fuel = some (.ok list)) :
    ∃ user, getUserById s userId e.userErr = .ok user ∧ e.findErr = none ∧
      signLoop cfg.loc ((signLogs s userId).map fun log => cfg.loc.day log.createdAt)
        (signEndTime cfg.loc cfg.signInDays (signStartTime cfg.loc user e.fallbackNow) e.now) fuel
        (cfg.loc.date (cfg.loc.day (signStartTime cfg.loc user e.fallbackNow)) 0) = some list := by
  unfold getUserSignList at h
  split at h
  · cases h
  rename_i user huser
  cases hf : e.findErr with
  | some err => simp [findSignLogs, hf] at h
  | none =>
    simp only [findSignLogs, hf, Option.map_eq_some', Except.ok.injEq, exists_eq_right] at h
    exact ⟨user, huser, rfl, h⟩

theorem getUserSignList_signed {cfg : Config} {s : Store} {userId : Int} {e : ListEnv}
    {fuel : Nat} {list : List SignStatus}
    (h : getUserSignList cfg s userId e fuel = some (.ok list)) :
    ∀ st ∈ list, st.signed =
      decide (∃ log ∈ signLogs s userId, cfg.loc.day log.createdAt = st.date) := by
  obtain ⟨_, -, -, hl⟩ := getUserSignList_ok h
  intro st hst
  rw [signLoop_signed hl st hst]
  simp

/-! ## Consecutive dates -/

def dayRange (a b : Int) : List Int := (List.range (b + 1 - a).toNat).map fun k : Nat => a + k

theorem mem_dayRange {a b d : Int} : d ∈ dayRange a b ↔ a ≤ d ∧ d ≤ b := by
  simp only [dayRange, List.mem_map, List.mem_range]
  exact ⟨fun ⟨k, hk, hd⟩ => by omega, fun h => ⟨(d - a).toNat, by omega, by omega⟩⟩

theorem nodup_dayRange (a b : Int) : (dayRange a b).Nodup :=
  List.Nodup.map (fun _ _ h => Int.ofNat.inj (Int.add_left_cancel h)) (List.nodup_range _)

theorem chain'_dayRange (a b : Int) : (dayRange a b).Chain' fun x y => y = x + 1 := by
  rw [dayRange, List.chain'_map]
  rcases (b + 1 - a).toNat with _ | n
  · exact List.chain'_nil
  · exact (List.chain'_range_succ _ n).mpr fun k _ => by rw [Int.ofNat_succ]; omega

theorem dayRange_nil {a b : Int} (h : b < a) : dayRange a b = [] := by
  rw [dayRange, show (b + 1 - a).toNat = 0 by omega, List.range_zero, List.map_nil]

theorem dayRange_cons {a b : Int} (h : a ≤ b) : dayRange a b = a :: dayRange (a + 1) b := by
  rw [dayRange, dayRange, show (b + 1 - a).toNat = (b + 1 - (a + 1)).toNat + 1 by omega,
    List.range_succ_eq_map, List.map_cons, List.map_map]
  congr 1
  · simp
  · exact congrArg (List.map · _) (funext fun k => by simp only [Function.comp_apply]; omega)

def signStatusOf (signedDates : List Int) (d : Int) : SignStatus :=
  ⟨d, decide (d ∈ signedDates)⟩

section ExactDays

variable {loc : Location} (hr : loc.ExactDays)
include hr

theorem midnight_past_iff (d endTime : Int) : loc.date d 0 > endTime ↔ loc.day endTime < d := by
  have hd := day_date hr d 0 (Int.le_refl 0) (by decide)
  constructor
  · intro h
    have h₁ := hr.mono (Int.le_of_lt h)
    have h₂ := hr.first endTime
    by_contra h₃
    rw [show loc.day endTime = d by omega] at h₂
    omega
  · intro h
    by_contra h₁
    have := hr.mono (Int.not_lt.mp h₁)
    omega

theorem day_signStartTime (user : User) (fallbackNow : Int) :
    loc.day (signStartTime loc user fallbackNow) =
      if user.createdTime > 0 then loc.day user.createdTime else loc.day fallbackNow - 30 := by
  unfold signStartTime
  split_ifs
  · rfl
  · rw [day_addDate hr]; omega

theorem day_signEndTime (signInDays startTime now : Int) :
    loc.day (signEndTime loc signInDays startTime now) =
      min (loc.day startTime + signInDays) (loc.day now) := by
  have hd := day_addDate hr startTime signInDays
  have hn := day_date hr (loc.day now) (23 * 3600 + 59 * 60 + 59) (by decide) (by decide)
  unfold signEndTime
  dsimp only
  split_ifs with h
  · have := hr.mono (Int.le_of_lt h)
    omega
  · have := hr.mono (Int.not_lt.mp h)
    omega

end ExactDays

theorem signLoop_of_regular {loc : Location} (hr : loc.Regular) (signedDates : List Int)
    (endTime : Int) (fuel : Nat) (d : Int) :
    signLoop loc signedDates endTime fuel (loc.date d 0) =
      if (loc.day endTime + 1 - d).toNat < fuel then
        some ((dayRange d (loc.day endTime)).map (signStatusOf signedDates)) else none := by
  induction fuel generalizing d with
  | zero => simp [signLoop]
  | succ fuel ih =>
    unfold signLoop
    by_cases hpast : loc.date d 0 > endTime
    · have hlt := (midnight_past_iff hr.toExactDays d endTime).mp hpast
      rw [if_pos hpast, if_pos (by omega), dayRange_nil hlt, List.map_nil]
    · have hle := Int.not_lt.mp (mt (midnight_past_iff hr.toExactDays d endTime).mpr hpast)
      rw [if_neg hpast, addDate_midnight hr, ih (d + 1),
        day_date hr.toExactDays d 0 (Int.le_refl 0) (by decide)]
      by_cases hrounds : (loc.day endTime + 1 - (d + 1)).toNat < fuel
      · rw [if_pos hrounds, if_pos (by omega), Option.map_some', dayRange_cons hle, List.map_cons]
        rfl
      · rw [if_neg hrounds, if_neg (by omega)]
        rfl

theorem getUserSignList_of_regular {cfg : Config} (hr : cfg.loc.Regular) {s : Store}
    {userId : Int} {e : ListEnv} {user : User} (hu : e.userErr = none)
    (huser : s.users userId = some user) (hf : e.findErr = none) {fuel : Nat}
    (hfuel : (cfg.loc.day (signEndTime cfg.loc cfg.signInDays
      (signStartTime cfg.loc user e.fallbackNow) e.now) + 1 -
        cfg.loc.day (signStartTime cfg.loc user e.fallbackNow)).toNat < fuel) :
    getUserSignList cfg s userId e fuel = some (.ok ((dayRange
      (cfg.loc.day (signStartTime cfg.loc user e.fallbackNow))
      (cfg.loc.day (signEndTime cfg.loc cfg.signInDays
        (signStartTime cfg.loc user e.fallbackNow) e.now))).map
      (signStatusOf ((signLogs s userId).map fun log => cfg.loc.day log.createdAt)))) := by
  simp only [getUserSignList, getUserById, hu, huser, findSignLogs, hf,
    signLoop_of_regular hr, if_pos hfuel, Option.map_some']

theorem getUserSignList_eq {cfg : Config} (hr : cfg.loc.Regular) {s : Store}
    {userId : Int} {e : ListEnv} {fuel : Nat} {list : List SignStatus}
    (h : getUserSignList cfg s userId e fuel = some (.ok list)) :
    ∃ user, s.users userId = some user ∧ list = (dayRange
      (cfg.loc.day (signStartTime cfg.loc user e.fallbackNow))
      (cfg.loc.day (signEndTime cfg.loc cfg.signInDays
        (signStartTime cfg.loc user e.fallbackNow) e.now))).map
      (signStatusOf ((signLogs s userId).map fun log => cfg.loc.day log.createdAt)) := by
  obtain ⟨user, huser, -, hl⟩ := getUserSignList_ok h
  rw [signLoop_of_regular hr] at hl
  split_ifs at hl
  exact ⟨user, (getUserById_ok.mp huser).2, (Option.some.inj hl).symm⟩

/-- In a regular zone `GetUserSignList` returns, given rounds enough, one entry per date from
the start date to the earlier of today and `SignInDays` dates on, signed on the logs' dates. -/
theorem getUserSignList_calendar {cfg : Config} (hr : cfg.loc.Regular) (s : Store)
    (userId : Int) (e : ListEnv) (user : User) (huser : s.users userId = some user)
    (hu : e.userErr = none) (hf : e.findErr = none) :
    let d₀ := if user.createdTime > 0 then cfg.loc.day user.createdTime
      else cfg.loc.day e.fallbackNow - 30
    let d₁ := min (d₀ + cfg.signInDays) (cfg.loc.day e.now)
    ∃ list : List SignStatus,
      (∀ fuel, (d₁ + 1 - d₀).toNat < fuel → getUserSignList cfg s userId e fuel = some (.ok list)) ∧
      list.length = (d₁ + 1 - d₀).toNat ∧
      (∀ (i : Nat) (h : i < list.length), list[i].date = d₀ + i) ∧
      (list.map (·.date)).Chain' (fun a b => b = a + 1) ∧
      (list.map (·.date)).Nodup ∧
      ∀ st ∈ list, st.signed = true ↔
        ∃ log ∈ signLogs s userId, cfg.loc.day log.createdAt = st.date := by
  intro d₀ d₁
  have h₀ : cfg.loc.day (signStartTime cfg.loc user e.fallbackNow) = d₀ :=
    day_signStartTime hr.toExactDays user e.fallbackNow
  have h₁ : cfg.loc.day (signEndTime cfg.loc cfg.signInDays
      (signStartTime cfg.loc user e.fallbackNow) e.now) = d₁ := by
    rw [day_signEndTime hr.toExactDays, h₀]
  have hdates : ∀ sd : List Int, ((dayRange d₀ d₁).map (signStatusOf sd)).map (·.date) =
      dayRange d₀ d₁ := fun sd => by simp [Function.comp_def, signStatusOf]
  refine ⟨(dayRange d₀ d₁).map (signStatusOf ((signLogs s userId).map
    fun log => cfg.loc.day log.createdAt)), fun fuel hfuel => ?_, ?_, fun i h => ?_, ?_, ?_, ?_⟩
  · rw [getUserSignList_of_regular hr hu huser hf (by rw [h₀, h₁]; exact hfuel), h₀, h₁]
  · simp [dayRange]
  · simp [dayRange, signStatusOf]
  · rw [hdates]; exact chain'_dayRange _ _
  · rw [hdates]; exact nodup_dayRange _ _
  · intro st hst
    obtain ⟨d, -, rfl⟩ := List.mem_map.mp hst
    simp [signStatusOf, eq_comm]

def sampleUser : User := ⟨"u", "default", 864005, 0⟩

def sampleStore : Store :=
  ⟨fun i => if i = 1 then some sampleUser else none, [⟨1, "u", 950400, .sign, "", 1000⟩], []⟩

def utcConfig : Config := ⟨1000, 7, fun _ => true, fun _ => "", Location.fixed 0⟩

def sampleListEnv : ListEnv := ⟨none, 0, 1036800, none⟩

theorem getUserSignList_calendar_utc :
    utcConfig.loc.Regular ∧ sampleStore.users 1 = some sampleUser ∧
    sampleListEnv.userErr = none ∧ sampleListEnv.findErr = none ∧
    let d₀ := if sampleUser.createdTime > 0 then utcConfig.loc.day sampleUser.createdTime
      else utcConfig.loc.day sampleListEnv.fallbackNow - 30
    let d₁ := min (d₀ + utcConfig.signInDays) (utcConfig.loc.day sampleListEnv.now)
    ∃ list : List SignStatus,
      (∀ fuel, (d₁ + 1 - d₀).toNat < fuel →
        getUserSignList utcConfig sampleStore 1 sampleListEnv fuel = some (.ok list)) ∧
      list.length = (d₁ + 1 - d₀).toNat ∧
      (∀ (i : Nat) (h : i < list.length), list[i].date = d₀ + i) ∧
      (list.map (·.date)).Chain' (fun a b => b = a + 1) ∧
      (list.map (·.date)).Nodup ∧
      ∀ st ∈ list, st.signed = true ↔
        ∃ log ∈ signLogs sampleStore 1, utcConfig.loc.day log.createdAt = st.date :=
  ⟨(fixed_is_fixed 0).regular, rfl, rfl, rfl, getUserSignList_calendar (fixed_is_fixed 0).regular
    sampleStore 1 sampleListEnv sampleUser rfl rfl rfl⟩

/-- A zone that skips local midnight of date 1, as São Paulo's did when daylight saving
began: three hours west of UTC until `97200`, two hours west from then on. -/
def midnightGapZone : Location := ⟨-10800, [⟨97200, -7200⟩], by decide⟩

/-- A zone whose clocks jump a whole day, as Samoa's did at the end of 2011: ten hours west of
UTC until `122400`, fourteen hours east after it, so local date 1 never happens. -/
def dayJumpZone : Location := ⟨-36000, [⟨122400, 50400⟩], by decide⟩

/-- In `dayJumpZone` `AddDate(0, 0, 1)` maps date 0's midnight to itself and the loop never
ends; in `midnightGapZone` date 1 begins at 23:00 of date 0, and date 0 is listed twice. -/
theorem getUserSignList_diverges :
    (¬ ∃ fuel, (getUserSignList ⟨1, 1, fun _ => true, fun _ => "", dayJumpZone⟩
      ⟨fun _ => some ⟨"u", "default", 36000, 0⟩, [], []⟩ 1 ⟨none, 36000, 36000, none⟩
        fuel).isSome) ∧
    getUserSignList ⟨1, 30, fun _ => true, fun _ => "", midnightGapZone⟩
      ⟨fun _ => some ⟨"u", "default", 20000, 0⟩, [], []⟩ 1 ⟨none, 300000, 300000, none⟩ 40 =
      some (.ok [⟨0, false⟩, ⟨0, false⟩, ⟨1, false⟩, ⟨2, false⟩, ⟨3, false⟩]) := by
  refine ⟨?_, rfl⟩
  rintro ⟨fuel, h⟩
  have hend : signEndTime dayJumpZone 1 36000 36000 = 36000 := by decide
  have hstart : dayJumpZone.date (dayJumpZone.day 36000) 0 = 36000 := by decide
  simp only [getUserSignList, getUserById, signStartTime, findSignLogs,
    if_pos (show (36000 : Int) > 0 by decide), hend, hstart] at h
  rw [signLoop_stuck (by decide) (Int.le_refl _) fuel] at h
  cases h

end DailySign
