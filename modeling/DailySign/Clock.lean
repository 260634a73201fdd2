import Mathlib.Data.List.Basic

/-! # Go's local clock

The parts of `time` the sign-in code uses, over whole Unix seconds. A local date is a day
number counted from 1970-01-01, as `Format("2006-01-02")` and `time.Date` see it. -/
namespace DailySign

structure ZoneTrans where
  when : Int
  offset : Int
  deriving DecidableEq, Repr

/-- A `time.Location`: the offset in use before the first transition, then the transitions in
ascending order. -/
structure Location where
  first : Int
  tx : List ZoneTrans
  ascending : tx.Pairwise (·.when < ·.when)

structure Zone where
  offset : Int
  start : Option Int
  stop : Option Int
  deriving DecidableEq, Repr

def lookupFrom (offset : Int) (start : Option Int) : List ZoneTrans → Int → Zone
  | [], _ => ⟨offset, start, none⟩
  | z :: tx, sec =>
    if sec < z.when then ⟨offset, start, some z.when⟩ else lookupFrom z.offset (some z.when) tx sec

def Location.lookup (loc : Location) (sec : Int) : Zone := lookupFrom loc.first none loc.tx sec

def Location.offset (loc : Location) (t : Int) : Int := (loc.lookup t).offset

def Location.wall (loc : Location) (t : Int) : Int := t + loc.offset t

/-- The local date of `t`: what `time.Unix(t, 0).Format("2006-01-02")` names. -/
def Location.day (loc : Location) (t : Int) : Int := loc.wall t / 86400

def Zone.outside (z : Zone) (utc : Int) : Bool :=
  (match z.start with | some s => decide (utc < s) | none => false) ||
  (match z.stop with | some e => decide (e ≤ utc) | none => false)

/-- The zone step of `time.Date`: look `unix` up as an instant, and again at the corrected
instant when that leaves the period found. -/
def Location.resolve (loc : Location) (unix : Int) : Int :=
  let z := loc.lookup unix
  if z.offset = 0 then unix
  else if z.outside (unix - z.offset) then unix - (loc.lookup (unix - z.offset)).offset
  else unix - z.offset

/-- `time.Date(y, m, d, 0, 0, sec, 0, loc)` for the date `(y, m, d)` numbered `day`. -/
def Location.date (loc : Location) (day sec : Int) : Int := loc.resolve (day * 86400 + sec)

/-- `t.AddDate(0, 0, days)`: the wall clock of `t` moved by `days` dates, then `time.Date`. -/
def Location.addDate (loc : Location) (t days : Int) : Int :=
  loc.resolve (loc.wall t + days * 86400)

def getTodayStartTimestamp (loc : Location) (now : Int) : Int := loc.date (loc.day now) 0

/-- `GetTodayEndTimestamp`; `Unix()` drops the 999999999 nanoseconds. -/
def getTodayEndTimestamp (loc : Location) (now : Int) : Int :=
  loc.date (loc.day now) (23 * 3600 + 59 * 60 + 59)

def Location.fixed (k : Int) : Location := ⟨k, [], .nil⟩

def Location.Fixed (loc : Location) (k : Int) : Prop := ∀ t, loc.offset t = k

theorem fixed_is_fixed (k : Int) : (Location.fixed k).Fixed k := fun _ => rfl

section Fixed

variable {loc : Location} {k : Int} (hk : loc.Fixed k)
include hk

theorem resolve_of_fixed (unix : Int) : loc.resolve unix = unix - k := by
  have hz : (loc.lookup unix).offset = k := hk unix
  unfold Location.resolve
  simp only [hz]
  split_ifs
  · omega
  · exact congrArg (unix - ·) (hk _)
  · rfl

theorem wall_of_fixed (t : Int) : loc.wall t = t + k := by
  rw [Location.wall, hk]

theorem day_of_fixed (t : Int) : loc.day t = (t + k) / 86400 := by
  rw [Location.day, wall_of_fixed hk]

theorem date_of_fixed (d sec : Int) : loc.date d sec = d * 86400 + sec - k :=
  resolve_of_fixed hk _

end Fixed

/-- A zone where `time.Date` bounds every date exactly: dates never go back, `time.Date` keeps
the date it is asked for, and each instant lies between its date's 00:00:00 and 23:59:59. -/
structure Location.ExactDays (loc : Location) : Prop where
  mono : ∀ {t t' : Int}, t ≤ t' → loc.day t ≤ loc.day t'
  resolve_day : ∀ x, loc.day (loc.resolve x) = x / 86400
  first : ∀ t, loc.date (loc.day t) 0 ≤ t
  last : ∀ t, t ≤ loc.date (loc.day t) (23 * 3600 + 59 * 60 + 59)

/-- Offset changes keep clear of midnight, so each midnight also shows 00:00:00. -/
structure Location.Regular (loc : Location) extends Location.ExactDays loc : Prop where
  midnight : ∀ d, loc.wall (loc.date d 0) = d * 86400

theorem Location.Fixed.regular {loc : Location} {k : Int} (hk : loc.Fixed k) : loc.Regular where
  mono h := by rw [day_of_fixed hk, day_of_fixed hk]; omega
  resolve_day x := by rw [day_of_fixed hk, resolve_of_fixed hk]; omega
  midnight d := by rw [wall_of_fixed hk, date_of_fixed hk]; omega
  first t := by rw [date_of_fixed hk, day_of_fixed hk]; omega
  last t := by rw [date_of_fixed hk, day_of_fixed hk]; omega

section ExactDays

variable {loc : Location} (hr : loc.ExactDays)
include hr

theorem day_date (d sec : Int) (h₀ : 0 ≤ sec) (h₁ : sec < 86400) :
    loc.day (loc.date d sec) = d := by
  rw [Location.date, hr.resolve_day]
  omega

theorem day_addDate (t days : Int) : loc.day (loc.addDate t days) = loc.day t + days := by
  rw [Location.addDate, hr.resolve_day]
  unfold Location.day
  omega

theorem date_mono {d d' : Int} (sec : Int) (h₀ : 0 ≤ sec) (h₁ : sec < 86400) (h : d ≤ d') :
    loc.date d sec ≤ loc.date d' sec := by
  by_contra hlt
  have := hr.mono (Int.le_of_lt (Int.not_le.mp hlt))
  rw [day_date hr d' sec h₀ h₁, day_date hr d sec h₀ h₁] at this
  obtain rfl : d = d' := by omega
  exact hlt (Int.le_refl _)

theorem mem_range_iff (a b t : Int) :
    (getTodayStartTimestamp loc a ≤ t ∧ t ≤ getTodayEndTimestamp loc b) ↔
      loc.day a ≤ loc.day t ∧ loc.day t ≤ loc.day b := by
  constructor
  · rintro ⟨h₁, h₂⟩
    have h₃ := hr.mono h₁
    have h₄ := hr.mono h₂
    rw [getTodayStartTimestamp, day_date hr _ _ (Int.le_refl 0) (by decide)] at h₃
    rw [getTodayEndTimestamp, day_date hr _ _ (by decide) (by decide)] at h₄
    exact ⟨h₃, h₄⟩
  · rintro ⟨h₁, h₂⟩
    exact ⟨Int.le_trans (date_mono hr 0 (Int.le_refl 0) (by decide) h₁) (hr.first t),
      Int.le_trans (hr.last t) (date_mono hr _ (by decide) (by decide) h₂)⟩

theorem mem_today_iff (now t : Int) :
    (getTodayStartTimestamp loc now ≤ t ∧ t ≤ getTodayEndTimestamp loc now) ↔
      loc.day t = loc.day now := by
  rw [mem_range_iff hr]
  omega

end ExactDays

theorem addDate_midnight {loc : Location} (hr : loc.Regular) (d : Int) :
    loc.addDate (loc.date d 0) 1 = loc.date (d + 1) 0 := by
  rw [Location.addDate, hr.midnight, Location.date]
  congr 1
  omega

end DailySign
