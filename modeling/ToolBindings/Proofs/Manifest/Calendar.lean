import Mathlib.Tactic.Ring
import ToolBindings.Manifest.Timestamp

/-!
# The calendar

The numbers of days count the dates of the calendar one by one (`dayNumber_next`). They go with the
order of the dates (`dayNumber_lt_iff`), and the date that is worked out from a number is the one that
has it (`valid_ofDayNumber`, `dayNumber_ofDayNumber`).
-/

namespace ToolBindings.CalendarDate

/-- The month is one of twelve, and it has the day. -/
structure Valid (d : CalendarDate) : Prop where
  month : 1 ≤ d.month ∧ d.month ≤ 12
  day : 1 ≤ d.day ∧ d.day ≤ monthLength d.year d.month

/-! ## Lengths -/

theorem monthLength_bounds (year : Int) (month : Nat) :
    28 ≤ monthLength year month ∧ monthLength year month ≤ 31 := by
  unfold monthLength
  split
  · split <;> omega
  all_goals omega

/-- The days before a month are those before the last one and its own. -/
theorem daysBeforeMonth_succ (year : Int) {month : Nat} (h : 1 ≤ month) :
    daysBeforeMonth year (month + 1) = daysBeforeMonth year month + monthLength year month := by
  obtain ⟨m, rfl⟩ : ∃ m, month = m + 1 := ⟨month - 1, by omega⟩
  unfold daysBeforeMonth
  simp only [Nat.add_sub_cancel]
  rw [List.range_succ, List.foldl_append]
  rfl

/-- Later months begin later, by at least the length of each month between. -/
theorem daysBeforeMonth_le (year : Int) {month later : Nat} (hmonth : 1 ≤ month)
    (h : month < later) :
    daysBeforeMonth year month + monthLength year month ≤ daysBeforeMonth year later := by
  induction later with
  | zero => omega
  | succ later ih =>
    rcases Nat.lt_succ_iff_lt_or_eq.1 h with hbefore | rfl
    · have hlater : 1 ≤ later := by omega
      have hmore := daysBeforeMonth_succ year hlater
      have hless := ih hbefore
      omega
    · rw [daysBeforeMonth_succ year hmonth]

/-- Twelve months make a year of 365 days, or of 366 in a leap year. -/
theorem daysBeforeMonth_thirteen (year : Int) :
    daysBeforeMonth year 13 = if isLeap year then 366 else 365 := by
  unfold daysBeforeMonth
  cases hleap : isLeap year <;> simp [List.range_succ, monthLength, hleap]

theorem daysBeforeYear_eq (year : Int) : daysBeforeYear year
    = (year - 1) * 365 + (year - 1) / 4 - (year - 1) / 100 + (year - 1) / 400 := rfl

/-- The months of a year fill it. -/
theorem daysBeforeYear_succ (year : Int) :
    daysBeforeYear (year + 1) = daysBeforeYear year + daysBeforeMonth year 13 := by
  rw [daysBeforeMonth_thirteen, daysBeforeYear_eq, daysBeforeYear_eq]
  unfold isLeap
  by_cases h4 : year % 4 = 0 <;> by_cases h100 : year % 100 = 0 <;> by_cases h400 : year % 400 = 0 <;>
    simp [h4, h100, h400] <;> omega

theorem daysBeforeYear_mono {year later : Int} (h : year ≤ later) :
    daysBeforeYear year ≤ daysBeforeYear later := by
  rw [daysBeforeYear_eq, daysBeforeYear_eq]
  omega

/-! ## Dates in their order -/

/-- A date comes before another one. -/
def Before (a b : CalendarDate) : Prop :=
  a.year < b.year ∨ a.year = b.year ∧ (a.month < b.month ∨ a.month = b.month ∧ a.day < b.day)

/-- A date lies within its year. -/
theorem Valid.dayNumber_bounds {d : CalendarDate} (h : d.Valid) :
    daysBeforeYear d.year < d.dayNumber ∧ d.dayNumber ≤ daysBeforeYear (d.year + 1) := by
  obtain ⟨⟨hmonth, hmonths⟩, hday, hdays⟩ := h
  have hend : daysBeforeMonth d.year d.month + monthLength d.year d.month
      ≤ daysBeforeMonth d.year 13 := daysBeforeMonth_le d.year hmonth (by omega)
  rw [daysBeforeYear_succ]
  unfold dayNumber
  omega

theorem dayNumber_lt_of_before {a b : CalendarDate} (ha : a.Valid) (hb : b.Valid)
    (h : a.Before b) : a.dayNumber < b.dayNumber := by
  obtain ⟨-, hlast⟩ := ha.dayNumber_bounds
  obtain ⟨hfirst, -⟩ := hb.dayNumber_bounds
  rcases h with hyear | ⟨hyear, hmonth | ⟨hmonth, hday⟩⟩
  · -- the years between lie between
    have hnext : a.year + 1 ≤ b.year := hyear
    have hyears := daysBeforeYear_mono hnext
    omega
  · have hmonths := daysBeforeMonth_le a.year ha.month.1 hmonth
    obtain ⟨-, hdays⟩ := ha.day
    have hone := hb.day.1
    unfold dayNumber
    rw [← hyear]
    omega
  · unfold dayNumber
    rw [← hyear, ← hmonth]
    omega

/-- Of two dates one comes before the other, or they are the same. -/
theorem before_trichotomy (a b : CalendarDate) : a.Before b ∨ a = b ∨ b.Before a := by
  obtain ⟨year, month, day⟩ := a
  obtain ⟨year', month', day'⟩ := b
  unfold Before
  simp only [CalendarDate.mk.injEq]
  omega

theorem dayNumber_lt_iff {a b : CalendarDate} (ha : a.Valid) (hb : b.Valid) :
    a.dayNumber < b.dayNumber ↔ a.Before b := by
  constructor
  · intro h
    rcases before_trichotomy a b with hbefore | rfl | hafter
    · exact hbefore
    · omega
    · have := dayNumber_lt_of_before hb ha hafter
      omega
  · exact dayNumber_lt_of_before ha hb

theorem dayNumber_inj {a b : CalendarDate} (ha : a.Valid) (hb : b.Valid)
    (h : a.dayNumber = b.dayNumber) : a = b := by
  rcases before_trichotomy a b with hbefore | heq | hafter
  · have := dayNumber_lt_of_before ha hb hbefore
    omega
  · exact heq
  · have := dayNumber_lt_of_before hb ha hafter
    omega

/-! ## The following day -/

/-- The day after a date. -/
def next (d : CalendarDate) : CalendarDate :=
  if d.day < monthLength d.year d.month then ⟨d.year, d.month, d.day + 1⟩
  else if d.month < 12 then ⟨d.year, d.month + 1, 1⟩
  else ⟨d.year + 1, 1, 1⟩

theorem Valid.next {d : CalendarDate} (h : d.Valid) : d.next.Valid := by
  have hlong (year : Int) (month : Nat) : 1 ≤ monthLength year month := by
    have := (monthLength_bounds year month).1
    omega
  obtain ⟨⟨hmonth, hmonths⟩, hday, -⟩ := h
  unfold CalendarDate.next
  split
  · rename_i hmore
    exact ⟨⟨hmonth, hmonths⟩, Nat.le_add_left 1 _, hmore⟩
  · split
    · rename_i hmore
      exact ⟨⟨Nat.le_add_left 1 _, hmore⟩, Nat.le_refl 1, hlong _ _⟩
    · exact ⟨⟨Nat.le_refl 1, Nat.le_add_left 1 11⟩, Nat.le_refl 1, hlong _ _⟩

/-- Day numbers count the days. -/
theorem dayNumber_next {d : CalendarDate} (h : d.Valid) : d.next.dayNumber = d.dayNumber + 1 := by
  obtain ⟨⟨hmonth, hmonths⟩, -, hdays⟩ := h
  unfold next
  split
  · unfold dayNumber
    push_cast
    ring
  · split
    · have hmore := daysBeforeMonth_succ d.year hmonth
      unfold dayNumber
      simp only
      omega
    · -- the last day of December
      have hlast : d.month = 12 := by omega
      have hmore := daysBeforeMonth_succ d.year hmonth
      have hyear := daysBeforeYear_succ d.year
      have hfirst : daysBeforeMonth (d.year + 1) 1 = 0 := rfl
      rw [hlast] at hmore hdays
      norm_num at hmore
      unfold dayNumber
      simp only [hlast, hfirst] at *
      omega

/-! ## The date of a number -/

/-- A number lies within its year. -/
theorem yearOf_bounds (number : Int) :
    daysBeforeYear (yearOf number) < number ∧ number ≤ daysBeforeYear (yearOf number + 1) := by
  -- in the mean a year has 146097 / 400 days, from which no beginning of a year is two days away
  have hestimate : daysBeforeYear ((number - 1) * 400 / 146097 + 1 - 1) < number ∧
      number ≤ daysBeforeYear ((number - 1) * 400 / 146097 + 1 + 1 + 1) := by
    rw [daysBeforeYear_eq, daysBeforeYear_eq]
    omega
  unfold yearOf
  simp only
  split
  · exact ⟨‹_›, hestimate.2⟩
  · split
    · exact ⟨‹_›, by omega⟩
    · exact ⟨hestimate.1, by rw [Int.sub_add_cancel]; omega⟩

/-- A month and a day in it that lie as far into the year as a day counted from the start of an
earlier month. -/
structure Splits (year : Int) (month months day : Nat) (result : Nat × Nat) : Prop where
  least : month ≤ result.1
  most : result.1 ≤ month + months
  first : 1 ≤ result.2
  last : result.2 ≤ monthLength year result.1
  total : daysBeforeMonth year result.1 + result.2 = daysBeforeMonth year month + day

theorem splits_splitMonths (year : Int) {month months day : Nat} (hmonth : 1 ≤ month)
    (hday : 1 ≤ day)
    (hend : daysBeforeMonth year month + day ≤ daysBeforeMonth year (month + months + 1)) :
    Splits year month months day (splitMonths year month months day) := by
  -- months are taken away as long as there are more days than theirs
  have hmore := daysBeforeMonth_succ year hmonth
  induction months generalizing month day with
  | zero =>
    rw [Nat.add_zero] at hend
    exact ⟨Nat.le_refl month, Nat.le_refl month, hday, by simp only [splitMonths]; omega, rfl⟩
  | succ months ih =>
    rw [splitMonths]
    split
    · exact ⟨Nat.le_refl month, Nat.le_add_right month _, hday, ‹_›, rfl⟩
    · have hnext : month + 1 + months + 1 = month + (months + 1) + 1 := by omega
      have hstart : 1 ≤ month + 1 := by omega
      have hrest : 1 ≤ day - monthLength year month := by omega
      obtain ⟨hleast, hmost, hfirst, hlast, htotal⟩ := ih hstart hrest
        (by rw [hnext]; omega) (daysBeforeMonth_succ year hstart)
      exact ⟨by omega, by omega, hfirst, hlast, by omega⟩

/-- The day of its year that a number is, split into month and day. -/
private theorem splits_dayOfYear (number : Int) :
    ∃ day : Nat, daysBeforeYear (yearOf number) + day = number ∧
      ofDayNumber number = ⟨yearOf number, (splitMonths (yearOf number) 1 11 day).1,
        (splitMonths (yearOf number) 1 11 day).2⟩ ∧
      Splits (yearOf number) 1 11 day (splitMonths (yearOf number) 1 11 day) := by
  obtain ⟨hfirst, hlast⟩ := yearOf_bounds number
  rw [daysBeforeYear_succ] at hlast
  have hstart : daysBeforeMonth (yearOf number) 1 = 0 := rfl
  have hlength : (1 : Nat) + 11 + 1 = 13 := rfl
  refine ⟨(number - daysBeforeYear (yearOf number)).toNat, by omega, rfl, ?_⟩
  exact splits_splitMonths _ (Nat.le_refl 1) (by omega) (by rw [hlength]; omega)

/-- The date of a number is in the calendar. -/
theorem valid_ofDayNumber (number : Int) : (ofDayNumber number).Valid := by
  obtain ⟨day, -, hdate, hsplits⟩ := splits_dayOfYear number
  rw [hdate]
  exact ⟨⟨hsplits.least, hsplits.most⟩, hsplits.first, hsplits.last⟩

/-- The date of a number has this number. -/
theorem dayNumber_ofDayNumber (number : Int) : (ofDayNumber number).dayNumber = number := by
  obtain ⟨day, hnumber, hdate, hsplits⟩ := splits_dayOfYear number
  have htotal := hsplits.total
  have hstart : daysBeforeMonth (yearOf number) 1 = 0 := rfl
  rw [hdate]
  unfold dayNumber
  simp only
  omega

end ToolBindings.CalendarDate
