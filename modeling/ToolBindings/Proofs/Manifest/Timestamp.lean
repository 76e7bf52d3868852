import Mathlib.Tactic.Ring
import ToolBindings.Proofs.Manifest.Calendar
import ToolBindings.Proofs.Text.Digits

/-!
# Timestamps and instants

A local time falls into one second of UTC (`exists_fallsInto`), and its timestamp depends on that second
alone. It is there exactly if the second lies in the years 1 to 9999. In the years with four digits it
is read back as that second, and texts are ordered as the seconds are (`denotes_ofLocal`).
-/

namespace ToolBindings

/-! ## Numerals of one width -/

namespace Text

/-- Texts with fronts of one length are ordered by the fronts, and then by what follows. -/
theorem append_lt_append_iff {x y s t : List Char} (h : x.length = y.length) :
    x ++ s < y ++ t ↔ x < y ∨ x = y ∧ s < t := by
  induction x generalizing y with
  | nil =>
    rw [List.length_nil, eq_comm, List.length_eq_zero_iff] at h
    simp [h]
  | cons c x ih =>
    cases y with
    | nil => simp at h
    | cons d y =>
      simp only [List.cons_append, List.cons_lt_cons_iff, List.cons.injEq, ih (Nat.succ.inj h)]
      tauto

theorem paddedDecimal_succ {width : Nat} (hwidth : 1 ≤ width) (n : Nat) :
    paddedDecimal (width + 1) n = paddedDecimal width (n / 10) ++ [(n % 10).digitChar] := by
  obtain ⟨w, rfl⟩ : ∃ w, width = w + 1 := ⟨width - 1, by omega⟩
  unfold paddedDecimal
  by_cases hn : n < 10
  · have hone : decimal n = [n.digitChar] := Nat.toDigits_of_lt_base hn
    have hzero : decimal 0 = ['0'] := rfl
    have hrest : n / 10 = 0 := by omega
    simp [hone, hzero, hrest, Nat.mod_eq_of_lt hn, List.replicate_succ']
  · have hmore : decimal n = decimal (n / 10) ++ [(n % 10).digitChar] :=
      Nat.toDigits_of_base_le (by decide) (by omega)
    simp [hmore]

theorem length_paddedDecimal {width n : Nat} (hwidth : 1 ≤ width) (hn : n < 10 ^ width) :
    (paddedDecimal width n).length = width := by
  induction width, hwidth using Nat.le_induction generalizing n with
  | base =>
    have hone : decimal n = [n.digitChar] := Nat.toDigits_of_lt_base (by simpa using hn)
    simp [paddedDecimal, hone]
  | succ width hwidth ih =>
    rw [pow_succ] at hn
    rw [paddedDecimal_succ hwidth, List.length_append, ih (by omega)]
    rfl

theorem digitChar_lt_iff {m n : Nat} (hm : m < 10) (hn : n < 10) :
    m.digitChar < n.digitChar ↔ m < n := by
  have hall : ∀ i j : Fin 10, i.val.digitChar < j.val.digitChar ↔ i.val < j.val := by decide
  exact hall ⟨m, hm⟩ ⟨n, hn⟩

theorem paddedDecimal_inj {width m n : Nat} (h : paddedDecimal width m = paddedDecimal width n) :
    m = n := by
  rw [← decimalValue_paddedDecimal width m, h, decimalValue_paddedDecimal]

/-- Numerals of one width are ordered as their numbers are. -/
theorem paddedDecimal_lt_iff {width m n : Nat} (hwidth : 1 ≤ width) (hm : m < 10 ^ width)
    (hn : n < 10 ^ width) : paddedDecimal width m < paddedDecimal width n ↔ m < n := by
  induction width, hwidth using Nat.le_induction generalizing m n with
  | base =>
    rw [pow_one] at hm hn
    have hone {k : Nat} (hk : k < 10) : paddedDecimal 1 k = [k.digitChar] := by
      have hdigit : decimal k = [k.digitChar] := Nat.toDigits_of_lt_base hk
      simp [paddedDecimal, hdigit]
    rw [hone hm, hone hn, List.cons_lt_cons_iff, digitChar_lt_iff hm hn]
    simp
  | succ width hwidth ih =>
    rw [pow_succ] at hm hn
    have hlength : (paddedDecimal width (m / 10)).length = (paddedDecimal width (n / 10)).length := by
      rw [length_paddedDecimal hwidth (by omega), length_paddedDecimal hwidth (by omega)]
    rw [paddedDecimal_succ hwidth, paddedDecimal_succ hwidth, append_lt_append_iff hlength,
      ih (by omega) (by omega), List.cons_lt_cons_iff,
      digitChar_lt_iff (Nat.mod_lt m (by decide)) (Nat.mod_lt n (by decide))]
    have hsame : paddedDecimal width (m / 10) = paddedDecimal width (n / 10) ↔ m / 10 = n / 10 :=
      ⟨paddedDecimal_inj, fun h => by rw [h]⟩
    rw [hsame]
    simp
    omega

/-- Two texts that begin with numerals of one width and the same separator. -/
theorem field_lt_iff {width m n : Nat} (hwidth : 1 ≤ width) (hm : m < 10 ^ width)
    (hn : n < 10 ^ width) (separator : Char) (s t : List Char) :
    paddedDecimal width m ++ separator :: s < paddedDecimal width n ++ separator :: t
      ↔ m < n ∨ m = n ∧ s < t := by
  have hlength : (paddedDecimal width m).length = (paddedDecimal width n).length := by
    rw [length_paddedDecimal hwidth hm, length_paddedDecimal hwidth hn]
  have hsame : paddedDecimal width m = paddedDecimal width n ↔ m = n :=
    ⟨paddedDecimal_inj, fun h => by rw [h]⟩
  rw [append_lt_append_iff hlength, paddedDecimal_lt_iff hwidth hm hn, hsame,
    List.cons_lt_cons_iff]
  simp

end Text

/-! ## Seconds of UTC -/

/-- A second of UTC, by its date and the time of day. -/
structure UtcTime where
  date : CalendarDate
  hour : Nat
  minute : Nat
  second : Nat

namespace UtcTime

/-- The date is in the calendar, and the day has the second. -/
structure Valid (u : UtcTime) : Prop where
  date : u.date.Valid
  hour : u.hour < 24
  minute : u.minute < 60
  second : u.second < 60

/-- Seconds from the start of day 0. -/
def instant (u : UtcTime) : Int :=
  u.date.dayNumber * 86400 + u.hour * 3600 + u.minute * 60 + u.second

/-- The second of an instant. -/
def ofInstant (instant : Int) : UtcTime :=
  let second := (instant % 86400).toNat
  ⟨CalendarDate.ofDayNumber (instant / 86400), second / 3600, second / 60 % 60, second % 60⟩

variable {u v : UtcTime}

theorem valid_ofInstant (instant : Int) : (ofInstant instant).Valid := by
  refine ⟨CalendarDate.valid_ofDayNumber _, ?_, Nat.mod_lt _ (by decide), Nat.mod_lt _ (by decide)⟩
  show (instant % 86400).toNat / 3600 < 24
  omega

theorem instant_ofInstant (n : Int) : (ofInstant n).instant = n := by
  have hday := CalendarDate.dayNumber_ofDayNumber (n / 86400)
  unfold instant ofInstant
  simp only [hday]
  omega

/-- A second comes before another one. -/
def Before (u v : UtcTime) : Prop :=
  u.date.year < v.date.year ∨ u.date.year = v.date.year ∧
    (u.date.month < v.date.month ∨ u.date.month = v.date.month ∧
      (u.date.day < v.date.day ∨ u.date.day = v.date.day ∧
        (u.hour < v.hour ∨ u.hour = v.hour ∧
          (u.minute < v.minute ∨ u.minute = v.minute ∧ u.second < v.second))))

/-- Seconds go by in the order of their dates and times. -/
theorem instant_lt_iff (hu : u.Valid) (hv : v.Valid) : u.instant < v.instant ↔ u.Before v := by
  have hdates := CalendarDate.dayNumber_lt_iff hu.date hv.date
  have hlater := CalendarDate.dayNumber_lt_iff hv.date hu.date
  obtain ⟨-, hhour, hminute, hsecond⟩ := hu
  obtain ⟨-, hhour', hminute', hsecond'⟩ := hv
  unfold CalendarDate.Before at hdates hlater
  unfold Before instant
  -- either date may be the earlier one, or they are the same
  rcases Int.lt_trichotomy u.date.dayNumber v.date.dayNumber with h | h | h <;> omega

theorem instant_inj (hu : u.Valid) (hv : v.Valid) (h : u.instant = v.instant) : u = v := by
  obtain ⟨hdate, hhour, hminute, hsecond⟩ := hu
  obtain ⟨hdate', hhour', hminute', hsecond'⟩ := hv
  unfold instant at h
  have hday : u.date = v.date := CalendarDate.dayNumber_inj hdate hdate' (by omega)
  have htime : u.hour = v.hour ∧ u.minute = v.minute ∧ u.second = v.second := by
    rw [hday] at h
    omega
  cases u
  cases v
  simp only [UtcTime.mk.injEq]
  exact ⟨hday, htime⟩

end UtcTime

/-- A local time falls into a second of UTC. -/
structure LocalTime.FallsInto (t : LocalTime) (u : UtcTime) : Prop where
  valid : u.Valid
  begun : u.instant * 1000000 ≤ t.moment
  lasting : t.moment < (u.instant + 1) * 1000000

theorem LocalTime.FallsInto.instant_eq {t : LocalTime} {u : UtcTime} (h : t.FallsInto u) :
    t.instant = u.instant := by
  obtain ⟨-, hbegun, hlasting⟩ := h
  unfold LocalTime.instant
  omega

/-- Every local time falls into a second. -/
theorem LocalTime.exists_fallsInto (t : LocalTime) : ∃ u, t.FallsInto u := by
  refine ⟨UtcTime.ofInstant t.instant, UtcTime.valid_ofInstant _, ?_, ?_⟩
  all_goals
    rw [UtcTime.instant_ofInstant]
    unfold LocalTime.instant
    omega

/-! ## Texts of seconds -/

namespace Timestamp

/-- The number that a numeral of some width writes at the front of a text, before a separator, and
what follows the separator. -/
def readField? (width : Nat) (separator : Char) (s : List Char) : Option (Nat × List Char) :=
  if (s.take width).length = width ∧ (s.take width).all Char.isDigit ∧
      (s.drop width).head? = some separator then
    some (Text.decimalValue (s.take width), s.drop (width + 1))
  else none

/-- The second that a text of the form `YYYY-MM-DDTHH:MM:SSZ` writes. -/
def read? (s : List Char) : Option UtcTime := do
  let (year, s) ← readField? 4 '-' s
  let (month, s) ← readField? 2 '-' s
  let (day, s) ← readField? 2 'T' s
  let (hour, s) ← readField? 2 ':' s
  let (minute, s) ← readField? 2 ':' s
  let (second, s) ← readField? 2 'Z' s
  if s = [] then some ⟨⟨year, month, day⟩, hour, minute, second⟩ else none

/-- The text of a second. -/
def layOut (u : UtcTime) : List Char :=
  yearText u.date.year ++ '-' :: (Text.paddedDecimal 2 u.date.month ++
    '-' :: (Text.paddedDecimal 2 u.date.day ++ 'T' :: (Text.paddedDecimal 2 u.hour ++
      ':' :: (Text.paddedDecimal 2 u.minute ++ ':' :: (Text.paddedDecimal 2 u.second ++
        'Z' :: [])))))

/-- A second whose year has four digits. -/
structure InFourDigits (u : UtcTime) : Prop where
  least : 1000 ≤ u.date.year
  most : u.date.year ≤ 9999

variable {t t' : LocalTime} {u v : UtcTime}

theorem yearText_of_fourDigits (hyear : InFourDigits u) :
    yearText u.date.year = Text.paddedDecimal 4 u.date.year.toNat := by
  have hmore {n : Nat} (hn : 10 ≤ n) :
      (Text.decimal n).length = (Text.decimal (n / 10)).length + 1 := by
    have hdigits : Text.decimal n = Text.decimal (n / 10) ++ [(n % 10).digitChar] :=
      Nat.toDigits_of_base_le (by decide) hn
    rw [hdigits, List.length_append]
    rfl
  have hleast := hyear.least
  obtain ⟨n, hn⟩ : ∃ n : Nat, u.date.year = n := ⟨u.date.year.toNat, by omega⟩
  rw [hn]
  have hlength : 4 ≤ (Text.decimal n).length := by
    have hone := List.length_pos_iff.2 (Text.decimal_ne_nil (n / 10 / 10 / 10))
    rw [hmore (by omega), hmore (by omega), hmore (by omega)]
    omega
  show Text.decimal n = List.replicate (4 - (Text.decimal n).length) '0' ++ Text.decimal n
  rw [Nat.sub_eq_zero_of_le hlength]
  rfl

/-- What the timestamp of a local time is. -/
theorem ofLocal?_eq (h : t.FallsInto u) : ofLocal? t =
    if 1 ≤ u.date.year ∧ u.date.year ≤ 9999 then some (String.ofList (layOut u)) else none := by
  have hu : UtcTime.ofInstant t.instant = u :=
    UtcTime.instant_inj (UtcTime.valid_ofInstant _) h.valid
      ((UtcTime.instant_ofInstant _).trans h.instant_eq)
  rw [← hu]
  unfold ofLocal? ofInstant? layOut
  simp only [List.append_assoc, List.cons_append]
  rfl

/-- There is a timestamp exactly in the years 1 to 9999. -/
theorem ofLocal?_eq_none (h : t.FallsInto u) :
    ofLocal? t = none ↔ u.date.year < 1 ∨ 9999 < u.date.year := by
  rw [ofLocal?_eq h]
  split
  · simp
    omega
  · simp
    omega

theorem ofLocal?_of_fourDigits (h : t.FallsInto u) (hyear : InFourDigits u) :
    ofLocal? t = some (String.ofList (layOut u)) := by
  have hleast := hyear.least
  rw [ofLocal?_eq h, if_pos ⟨by omega, hyear.most⟩]

theorem readField?_numeral {width n : Nat} (hwidth : 1 ≤ width) (hn : n < 10 ^ width)
    (separator : Char) (s : List Char) :
    readField? width separator (Text.paddedDecimal width n ++ separator :: s) = some (n, s) := by
  have hlength := Text.length_paddedDecimal hwidth hn
  have hdigits : (Text.paddedDecimal width n).all Char.isDigit = true := by
    rw [List.all_eq_true]
    exact fun c hc => Text.isDigit_of_mem_paddedDecimal hc
  have htake : (Text.paddedDecimal width n ++ separator :: s).take width
      = Text.paddedDecimal width n := List.take_left' hlength
  have hdrop : (Text.paddedDecimal width n ++ separator :: s).drop width = separator :: s :=
    List.drop_left' hlength
  have hrest : (Text.paddedDecimal width n ++ separator :: s).drop (width + 1) = s := by
    rw [← List.drop_drop, hdrop]
    rfl
  unfold readField?
  rw [htake, hdrop, hrest, if_pos ⟨hlength, hdigits, rfl⟩, Text.decimalValue_paddedDecimal]

/-- The fields of a second are short enough for their widths. -/
private theorem fields_lt (h : u.Valid) (hyear : InFourDigits u) :
    u.date.year.toNat < 10 ^ 4 ∧ u.date.month < 10 ^ 2 ∧ u.date.day < 10 ^ 2 ∧
      u.hour < 10 ^ 2 ∧ u.minute < 10 ^ 2 ∧ u.second < 10 ^ 2 := by
  have hlong := (CalendarDate.monthLength_bounds u.date.year u.date.month).2
  have hmonth := h.date.month.2
  have hday := h.date.day.2
  have hmost := hyear.most
  obtain ⟨-, hhour, hminute, hsecond⟩ := h
  omega

theorem read?_layOut (h : u.Valid) (hyear : InFourDigits u) : read? (layOut u) = some u := by
  obtain ⟨hy, hmo, hd, hh, hmi, hs⟩ := fields_lt h hyear
  have hyearBack : ((u.date.year.toNat : Nat) : Int) = u.date.year := by
    have := hyear.least
    omega
  unfold read? layOut
  rw [yearText_of_fourDigits hyear]
  simp only [readField?_numeral (by decide) hy, readField?_numeral (by decide) hmo,
    readField?_numeral (by decide) hd, readField?_numeral (by decide) hh,
    readField?_numeral (by decide) hmi, readField?_numeral (by decide) hs, Option.bind_eq_bind,
    Option.bind_some, if_true, hyearBack]

theorem layOut_lt_iff (hu : u.Valid) (hv : v.Valid) (hyear : InFourDigits u)
    (hyear' : InFourDigits v) : layOut u < layOut v ↔ u.instant < v.instant := by
  obtain ⟨hy, hmo, hd, hh, hmi, hs⟩ := fields_lt hu hyear
  obtain ⟨hy', hmo', hd', hh', hmi', hs'⟩ := fields_lt hv hyear'
  have hyears : (u.date.year.toNat < v.date.year.toNat ↔ u.date.year < v.date.year) ∧
      (u.date.year.toNat = v.date.year.toNat ↔ u.date.year = v.date.year) := by
    have := hyear.least
    have := hyear'.least
    omega
  unfold layOut
  rw [yearText_of_fourDigits hyear, yearText_of_fourDigits hyear',
    Text.field_lt_iff (by decide) hy hy', Text.field_lt_iff (by decide) hmo hmo',
    Text.field_lt_iff (by decide) hd hd', Text.field_lt_iff (by decide) hh hh',
    Text.field_lt_iff (by decide) hmi hmi', Text.field_lt_iff (by decide) hs hs', hyears.1,
    hyears.2, UtcTime.instant_lt_iff hu hv]
  unfold UtcTime.Before
  simp

/-- What the timestamp of a local time says of the second that the time falls into. -/
structure Denotes (t : LocalTime) (u : UtcTime) : Prop where
  second : t.FallsInto u
  absent : ofLocal? t = none ↔ u.date.year < 1 ∨ 9999 < u.date.year
  readBack : InFourDigits u → ∃ text, ofLocal? t = some text ∧ read? text.toList = some u

/-- A timestamp denotes the second that the local time falls into: it depends on this second alone, is
there exactly in the years 1 to 9999, and in the years with four digits is read back as the second and
ordered as the seconds are. -/
theorem denotes_ofLocal (t t' : LocalTime) :
    ∃ u u', Denotes t u ∧ Denotes t' u' ∧ (u.instant = u'.instant → ofLocal? t = ofLocal? t') ∧
      (InFourDigits u → InFourDigits u' → ∀ text text', ofLocal? t = some text →
        ofLocal? t' = some text' → (text < text' ↔ u.instant < u'.instant)) := by
  have hdenotes {t : LocalTime} {u : UtcTime} (h : t.FallsInto u) : Denotes t u := by
    refine ⟨h, ofLocal?_eq_none h, ?_⟩
    intro hyear
    refine ⟨_, ofLocal?_of_fourDigits h hyear, ?_⟩
    rw [String.toList_ofList]
    exact read?_layOut h.valid hyear
  obtain ⟨u, hu⟩ := t.exists_fallsInto
  obtain ⟨u', hu'⟩ := t'.exists_fallsInto
  refine ⟨u, u', hdenotes hu, hdenotes hu', ?_, ?_⟩
  · intro hinstant
    rw [ofLocal?_eq hu, ofLocal?_eq hu', UtcTime.instant_inj hu.valid hu'.valid hinstant]
  · intro hyear hyear' text text' htext htext'
    rw [ofLocal?_of_fourDigits hu hyear, Option.some.injEq] at htext
    rw [ofLocal?_of_fourDigits hu' hyear', Option.some.injEq] at htext'
    rw [← htext, ← htext', String.lt_iff, String.toList_ofList, String.toList_ofList]
    exact layOut_lt_iff hu.valid hu'.valid hyear hyear'

/-- Half a second of an offset carries into the next month. -/
example : ofLocal? ⟨⟨2024, 2, 29⟩, 23, 59, 59, 500000, ⟨-500000⟩⟩ = some "2024-03-01T00:00:00Z" := by
  decide +kernel

end Timestamp
end ToolBindings
