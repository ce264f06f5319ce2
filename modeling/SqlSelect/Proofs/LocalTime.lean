import Mathlib.Data.List.Forall2
import Mathlib.Tactic.Tauto
import SqlSelect.Literal
import SqlSelect.Proofs.Digits

/-!
# Local time in literals

The literal of a date-time is a row of seven numbers, each with leading zeros to a fixed width and a mark behind it
(`DateTime.layout`). In such a row the numbers are found again by counting characters, and no number runs over its width,
so the row says which numbers they are (`fixedRow_injective`). As all rows have their marks at the same places, they are
compared character by character as the numbers are one by one (`fixedRow_lt_iff`).

A year before year 0 brings a minus sign along, which pushes the row aside: such literals are still told apart, but they
do not sort.
-/

namespace SqlSelect

/-! ## Rows of numbers in fixed widths -/

/-- The numbers one behind the other, each filled up to its width and with its mark behind it. -/
def fixedRow : List (Nat × Char) → List Nat → List Char
  | (width, mark) :: layout, n :: fields => Numeral.padded width n ++ mark :: fixedRow layout fields
  | _, _ => []

/-- As many numbers as places, each with room for its number. -/
def Fits (layout : List (Nat × Char)) (fields : List Nat) : Prop :=
  List.Forall₂ (fun place n => 0 < place.1 ∧ n < 10 ^ place.1) layout fields

section Row
variable {layout : List (Nat × Char)} {fields fields' : List Nat}

theorem length_fixedRow (h : Fits layout fields) (h' : Fits layout fields') :
    (fixedRow layout fields).length = (fixedRow layout fields').length := by
  induction h generalizing fields' with
  | nil => cases h'; rfl
  | cons hplace _ ih =>
    cases h' with
    | cons hplace' htail' =>
      rw [fixedRow, fixedRow, List.length_append, List.length_append, List.length_cons, List.length_cons, ih htail',
        Numeral.length_padded_of_lt hplace.1 hplace.2, Numeral.length_padded_of_lt hplace'.1 hplace'.2]

/-- Of two lists with beginnings of equal length, these are compared first. -/
theorem append_lt_append_iff {a a' b b' : List Char} (h : a.length = a'.length) :
    a ++ b < a' ++ b' ↔ a < a' ∨ a = a' ∧ b < b' := by
  induction a generalizing a' with
  | nil =>
    obtain rfl : a' = [] := List.eq_nil_of_length_eq_zero h.symm
    simp
  | cons c a ih =>
    cases a' with
    | nil => cases h
    | cons c' a' =>
      rw [List.cons_append, List.cons_append, List.cons_lt_cons_iff, List.cons_lt_cons_iff, ih (Nat.succ.inj h),
        List.cons.injEq]
      tauto

theorem padded_lt_iff {width m n : Nat} (hw : 0 < width) (hm : m < 10 ^ width) (hn : n < 10 ^ width) :
    Numeral.padded width m < Numeral.padded width n ↔ m < n := by
  have hlength : (Numeral.padded width m).length = (Numeral.padded width n).length := by
    rw [Numeral.length_padded_of_lt hw hm, Numeral.length_padded_of_lt hw hn]
  rw [Numeral.lt_iff_value_lt (Numeral.isRow_padded _ _) (Numeral.isRow_padded _ _) hlength, Numeral.value_padded,
    Numeral.value_padded]

theorem padded_injective (width : Nat) : Function.Injective (Numeral.padded width) := by
  intro m n h
  rw [← Numeral.value_padded width m, h, Numeral.value_padded]

theorem fixedRow_injective (h : Fits layout fields) (h' : Fits layout fields')
    (heq : fixedRow layout fields = fixedRow layout fields') : fields = fields' := by
  induction h generalizing fields' with
  | nil => cases h'; rfl
  | cons hplace _ ih =>
    cases h' with
    | cons hplace' htail' =>
      have hlength := (Numeral.length_padded_of_lt hplace.1 hplace.2).trans
        (Numeral.length_padded_of_lt hplace'.1 hplace'.2).symm
      obtain ⟨hfield, hrest⟩ := List.append_inj heq hlength
      rw [padded_injective _ hfield, ih htail' (List.cons.inj hrest).2]

theorem fixedRow_lt_iff (h : Fits layout fields) (h' : Fits layout fields') :
    fixedRow layout fields < fixedRow layout fields' ↔ fields < fields' := by
  induction h generalizing fields' with
  | nil => cases h'; simp
  | cons hplace _ ih =>
    cases h' with
    | cons hplace' htail' =>
      have hlength := (Numeral.length_padded_of_lt hplace.1 hplace.2).trans
        (Numeral.length_padded_of_lt hplace'.1 hplace'.2).symm
      rw [fixedRow, fixedRow, append_lt_append_iff hlength, padded_lt_iff hplace.1 hplace.2 hplace'.2,
        (padded_injective _).eq_iff, List.cons_lt_cons_iff, List.cons_lt_cons_iff, ih htail']
      simp

end Row

/-! ## Date-times -/

namespace DateTime

/-- The widths of year, month, day, hour, minute, second and microsecond, and what stands behind each of them. -/
def layout : List (Nat × Char) :=
  [(4, '-'), (2, '-'), (2, ' '), (2, ':'), (2, ':'), (2, '.'), (6, '\'')]

/-- What calendar and clock show, down to the microsecond. -/
def fields (t : DateTime) : List Int :=
  [t.date.year, t.date.month, t.date.day, t.time.hour, t.time.minute, t.time.second, t.time.microsecond]

/-- The fields without the sign of the year. -/
def sizes (t : DateTime) : List Nat :=
  [t.date.year.natAbs, t.date.month, t.date.day, t.time.hour, t.time.minute, t.time.second, t.time.microsecond]

theorem toList_text (t : DateTime) :
    t.text.toList = '\'' :: (if t.date.year < 0 then ['-'] else []) ++ fixedRow layout t.sizes := by
  simp only [text, String.toList_ofList, Date.chars, TimeOfDay.chars, layout, sizes, fixedRow, List.cons_append,
    List.append_assoc]

theorem day_lt (d : Date) : d.day < 32 := by
  have hmonth : daysInMonth d.year d.month ≤ 31 := by
    unfold daysInMonth
    split_ifs <;> omega
  have := d.day_range
  omega

theorem fits_sizes (t : DateTime) : Fits layout t.sizes := by
  have := t.date.year_range; have := t.date.month_range; have := day_lt t.date
  have := t.time.hour_lt; have := t.time.minute_lt; have := t.time.second_lt; have := t.time.microsecond_lt
  simp only [Fits, layout, sizes, List.forall₂_cons, List.forall₂_nil_left_iff, and_true]
  omega

theorem fields_eq_iff (t u : DateTime) :
    t.fields = u.fields ↔ (t.date.year < 0 ↔ u.date.year < 0) ∧ t.sizes = u.sizes := by
  simp only [fields, sizes, List.cons.injEq, and_true]
  omega

theorem fields_eq_of_year {t : DateTime} (h : 0 ≤ t.date.year) : t.fields = t.sizes.map (Nat.cast : Nat → Int) := by
  simp only [fields, sizes, List.map_cons, List.map_nil, Int.natAbs_of_nonneg h]

theorem map_natCast_lt_iff {l l' : List Nat} : l.map (Nat.cast : Nat → Int) < l'.map Nat.cast ↔ l < l' := by
  induction l generalizing l' with
  | nil => cases l' <;> simp
  | cons n l ih =>
    cases l' with
    | nil => simp
    | cons n' l' =>
      rw [List.map_cons, List.map_cons, List.cons_lt_cons_iff, List.cons_lt_cons_iff, ih, Int.ofNat_lt, Int.natCast_inj]

theorem length_text {t u : DateTime} (ht : 0 ≤ t.date.year) (hu : 0 ≤ u.date.year) : t.text.length = u.text.length := by
  rw [← String.length_toList, ← String.length_toList, toList_text, toList_text, if_neg (by omega), if_neg (by omega),
    List.singleton_append, List.singleton_append, List.length_cons, List.length_cons,
    length_fixedRow t.fits_sizes u.fits_sizes]

theorem isDigit_of_fixedRow_eq {t : DateTime} {c : Char} {rest : List Char} (h : fixedRow layout t.sizes = c :: rest) :
    c.isDigit = true := by
  have hpadded := Numeral.isRow_padded 4 t.date.year.natAbs
  have hlength := Numeral.length_padded 4 t.date.year.natAbs
  rw [layout, sizes, fixedRow] at h
  cases hl : Numeral.padded 4 t.date.year.natAbs with
  | nil =>
    rw [hl, List.length_nil] at hlength
    omega
  | cons d digits =>
    rw [hl, List.cons_append] at h
    rw [hl, Numeral.isRow_cons_iff] at hpadded
    rw [← (List.cons.inj h).1]
    exact hpadded.1

/-- A minus sign is no digit. -/
theorem minus_fixedRow_ne (t u : DateTime) : '-' :: fixedRow layout t.sizes ≠ fixedRow layout u.sizes := by
  intro h
  exact absurd (isDigit_of_fixedRow_eq h.symm) (by decide)

theorem text_eq_iff (t u : DateTime) : t.text = u.text ↔ t.fields = u.fields := by
  have hrow : fixedRow layout t.sizes = fixedRow layout u.sizes ↔ t.sizes = u.sizes :=
    ⟨fixedRow_injective t.fits_sizes u.fits_sizes, congrArg _⟩
  rw [fields_eq_iff, ← String.toList_inj, toList_text, toList_text]
  by_cases ht : t.date.year < 0 <;> by_cases hu : u.date.year < 0
  · simp [ht, hu, hrow]
  · simp [ht, hu, minus_fixedRow_ne t u]
  · simp [ht, hu, (minus_fixedRow_ne u t).symm]
  · simp [ht, hu, hrow]

theorem text_lt_iff {t u : DateTime} (ht : 0 ≤ t.date.year) (hu : 0 ≤ u.date.year) :
    t.text < u.text ↔ t.fields < u.fields := by
  change t.text.toList < u.text.toList ↔ _
  rw [toList_text, toList_text, if_neg (by omega), if_neg (by omega), List.singleton_append, List.singleton_append,
    List.cons_lt_cons_iff, fixedRow_lt_iff t.fits_sizes u.fits_sizes, fields_eq_of_year ht, fields_eq_of_year hu,
    map_natCast_lt_iff]
  simp

end DateTime

/-- **The literal of a date-time says what calendar and clock show, and sorts by it.** The order is that of the years
from 0 on: those before bring a minus sign along and sort the other way round. -/
theorem Literal.text_dateTime (t u : DateTime) :
    ((Literal.dateTime t).text = (Literal.dateTime u).text ↔ t.fields = u.fields) ∧
      (0 ≤ t.date.year → 0 ≤ u.date.year →
        (Literal.dateTime t).text.length = (Literal.dateTime u).text.length ∧
          ((Literal.dateTime t).text < (Literal.dateTime u).text ↔ t.fields < u.fields)) := by
  exact ⟨DateTime.text_eq_iff t u, fun ht hu => ⟨DateTime.length_text ht hu, DateTime.text_lt_iff ht hu⟩⟩

/-- The last moment of a day in one place and the first of the next day in another: the fractions are cut off, so there
is no carry, and the text sorts the later local time behind the earlier one although it is the earlier moment. -/
theorem Literal.text_dateTime_at_midnight :
    let t : DateTime := ⟨⟨999, 12, 31, by decide, by decide, by decide⟩,
      ⟨23, 59, 59, 999999999, by decide, by decide, by decide, by decide⟩, -3600⟩
    let u : DateTime := ⟨⟨1000, 1, 1, by decide, by decide, by decide⟩,
      ⟨0, 0, 0, 999, by decide, by decide, by decide, by decide⟩, 3600⟩
    0 ≤ t.date.year ∧ 0 ≤ u.date.year ∧ (Literal.dateTime t).text = "'0999-12-31 23:59:59.999999'" ∧
      (Literal.dateTime u).text = "'1000-01-01 00:00:00.000000'" ∧
      (Literal.dateTime t).text < (Literal.dateTime u).text ∧ u.instant < t.instant := by
  intro t u
  have ht : 0 ≤ t.date.year := by decide
  have hu : 0 ≤ u.date.year := by decide
  refine ⟨ht, hu, by decide, by decide, ?_, by decide⟩
  exact (((Literal.text_dateTime t u).2 ht hu).2).2 (by decide)

end SqlSelect
