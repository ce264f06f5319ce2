import Mathlib.Data.List.DropRight
import Mathlib.Data.Rat.Cast.Order
import Mathlib.Tactic.FieldSimp
import Mathlib.Tactic.Positivity
import Mathlib.Tactic.Ring
import SqlSelect.Number.Decimal
import SqlSelect.Proofs.Digits
import SqlSelect.Proofs.Words

/-!
# Positional numerals

A numeral is a sign, digits and perhaps a point with further digits (`Positional`). Its text says which numeral it is
(`Positional.text_injective`). It is canonical if no zero in it can be left out.

The digits that count begin and end with one that is not zero (`Numeral.significant`). A row has no more of them than any
way of writing its value as `c * 10 ^ b` has digits for `c` (`Numeral.length_significant_le`).

The text of a `Decimal` is that of a canonical numeral of the same value (`Decimal.positional`).
-/

namespace SqlSelect

/-! ## Digits that count -/

namespace Numeral
variable {row : List Char}

/-- The row without the zeros at both ends. -/
def significant (row : List Char) : List Char :=
  (row.dropWhile (· == '0')).rdropWhile (· == '0')

theorem exists_eq_rdropWhile_append (row : List Char) :
    ∃ zeros, row = row.rdropWhile (· == '0') ++ List.replicate zeros '0' := by
  have hzeros : ∀ c ∈ row.rtakeWhile (· == '0'), c = '0' := fun c hc => by simpa using List.mem_rtakeWhile_imp hc
  refine ⟨(row.rtakeWhile (· == '0')).length, ?_⟩
  rw [← List.eq_replicate_of_mem hzeros, List.rdropWhile_append_rtakeWhile]

theorem getLast?_rdropWhile (row : List Char) : (row.rdropWhile (· == '0')).getLast? ≠ some '0' := by
  intro h
  have hne : row.rdropWhile (· == '0') ≠ [] := by
    intro hnil
    rw [hnil] at h
    cases h
  rw [List.getLast?_eq_some_getLast hne, Option.some.injEq] at h
  exact List.rdropWhile_last_not (· == '0') row hne (beq_iff_eq.2 h)

theorem exists_eq_append_dropWhile (row : List Char) :
    ∃ zeros, row = List.replicate zeros '0' ++ row.dropWhile (· == '0') := by
  have hzeros : ∀ c ∈ row.takeWhile (· == '0'), c = '0' := fun c hc => by simpa using List.mem_takeWhile_imp hc
  refine ⟨(row.takeWhile (· == '0')).length, ?_⟩
  rw [← List.eq_replicate_of_mem hzeros, List.takeWhile_append_dropWhile]

theorem exists_eq_significant (row : List Char) :
    ∃ m n, row = List.replicate m '0' ++ (significant row ++ List.replicate n '0') := by
  obtain ⟨m, hm⟩ := exists_eq_append_dropWhile row
  obtain ⟨n, hn⟩ := exists_eq_rdropWhile_append (row.dropWhile (· == '0'))
  exact ⟨m, n, by rw [significant, ← hn, ← hm]⟩

theorem value_append_zeros (row : List Char) (n : Nat) : value (row ++ List.replicate n '0') = value row * 10 ^ n := by
  rw [value_append, value_replicate_zero, List.length_replicate, Nat.add_zero]

theorem value_eq_significant (row : List Char) : ∃ n, value row = value (significant row) * 10 ^ n := by
  obtain ⟨m, n, hrow⟩ := exists_eq_significant row
  refine ⟨n, ?_⟩
  conv_lhs => rw [hrow, value_append, value_replicate_zero, Nat.zero_mul, Nat.zero_add, value_append_zeros]

theorem isRow_significant (h : IsRow row) : IsRow (significant row) := by
  obtain ⟨m, n, hrow⟩ := exists_eq_significant row
  intro c hc
  refine h c ?_
  rw [hrow]
  exact List.mem_append_right _ (List.mem_append_left _ hc)

theorem head_significant {c : Char} {rest : List Char} (h : significant row = c :: rest) : c ≠ '0' := by
  obtain ⟨t, ht⟩ := List.rdropWhile_prefix (· == '0') (row.dropWhile (· == '0'))
  have hhead : (row.dropWhile (· == '0')).head? = some c := by
    rw [← ht]
    change (significant row ++ t).head? = some c
    rw [h]
    rfl
  have hnot := List.head?_dropWhile_not (· == '0') row
  rw [hhead] at hnot
  simpa using hnot

theorem getLast_significant (h : significant row ≠ []) : (significant row).getLast h ≠ '0' := by
  intro hzero
  exact getLast?_rdropWhile _ ((List.getLast?_eq_some_getLast h).trans (congrArg some hzero))

theorem pos_of_isDigit {c : Char} (h : c.isDigit = true) (h0 : c ≠ '0') :
    0 < c.toNat - '0'.toNat ∧ c.toNat - '0'.toNat < 10 := by
  have hrange := toNat_of_isDigit h
  have hne : c.toNat ≠ 48 := fun heq => h0 (Char.toNat_inj.1 heq)
  change 0 < c.toNat - 48 ∧ c.toNat - 48 < 10
  omega

theorem pow_le_value_significant (h : IsRow row) {s : Nat} (hs : s < (significant row).length) :
    10 ^ s ≤ value (significant row) := by
  cases hl : significant row with
  | nil =>
    rw [hl] at hs
    cases hs
  | cons c rest =>
    have hc := (isRow_cons_iff.1 (hl ▸ isRow_significant h)).1
    rw [hl, List.length_cons] at hs
    rw [value_cons]
    calc 10 ^ s ≤ 10 ^ rest.length := Nat.pow_le_pow_right (by decide) (by omega)
      _ ≤ (c.toNat - '0'.toNat) * 10 ^ rest.length :=
          Nat.le_mul_of_pos_left _ (pos_of_isDigit hc (head_significant hl)).1
      _ ≤ _ := Nat.le_add_right _ _

theorem not_ten_dvd_value_significant (h : IsRow row) (hne : significant row ≠ []) :
    ¬ 10 ∣ value (significant row) := by
  have hlast := isRow_significant h _ (List.getLast_mem hne)
  have hdigit := pos_of_isDigit hlast (getLast_significant hne)
  rw [← List.dropLast_append_getLast hne, value_append, value_cons]
  simp only [List.length_singleton, List.length_nil, value_nil, pow_one, pow_zero]
  omega

/-- What is no multiple of ten is the smallest that can stand in front of a power of ten. -/
theorem le_of_mul_pow_eq {a b c v : Nat} (hv : ¬ 10 ∣ v) (h : v * 10 ^ a = c * 10 ^ b) : v ≤ c := by
  rcases Nat.lt_or_ge a b with hlt | hle
  · obtain ⟨i, rfl⟩ := Nat.exists_eq_add_of_lt hlt
    have hcancel : v = c * 10 ^ i * 10 := by
      refine Nat.eq_of_mul_eq_mul_right (Nat.pow_pos (n := a) (by decide : 0 < 10)) ?_
      rw [h]
      ring
    exact absurd (hcancel ▸ Nat.dvd_mul_left 10 _) hv
  · obtain ⟨i, rfl⟩ := Nat.exists_eq_add_of_le hle
    have hcancel : v * 10 ^ i = c := by
      refine Nat.eq_of_mul_eq_mul_right (Nat.pow_pos (n := b) (by decide : 0 < 10)) ?_
      rw [← h]
      ring
    exact hcancel ▸ Nat.le_mul_of_pos_right v (Nat.pow_pos (by decide))

theorem length_significant_le (h : IsRow row) {a b c s : Nat} (hc : c < 10 ^ s)
    (heq : value row * 10 ^ a = c * 10 ^ b) : (significant row).length ≤ s := by
  by_contra hlt
  have hne : significant row ≠ [] := by
    intro hnil
    rw [hnil] at hlt
    exact hlt (Nat.zero_le s)
  obtain ⟨n, hn⟩ := value_eq_significant row
  have hle : value (significant row) ≤ c := by
    refine le_of_mul_pow_eq (a := n + a) (b := b) (not_ten_dvd_value_significant h hne) ?_
    rw [← heq, hn]
    ring
  have hge := pow_le_value_significant h (Nat.lt_of_not_le hlt)
  omega

/-- A zero in front is the whole row. -/
theorem eq_nil_of_digits_eq {n : Nat} {rest : List Char} (h : digits n = '0' :: rest) : rest = [] := by
  by_contra hne
  have hrest : IsRow rest := (isRow_cons_iff.1 (h ▸ isRow_digits n)).2
  have hn : n = value rest := by
    rw [← value_digits n, h, value_cons]
    simp
  have hlength : (digits n).length ≤ rest.length :=
    (Nat.length_toDigits_le_iff (by decide) (List.length_pos_iff.2 hne)).2 (hn ▸ value_lt hrest)
  rw [h, List.length_cons] at hlength
  omega

end Numeral

/-! ## Numerals -/

/-- A numeral as it is written; without digits behind the point there is no point. -/
@[ext]
structure Positional where
  negative : Bool
  whole : List Char
  fraction : List Char
  whole_ne_nil : whole ≠ []
  isRow_whole : Numeral.IsRow whole
  isRow_fraction : Numeral.IsRow fraction

namespace Positional
variable {n n' : Positional}

def sign (n : Positional) : String :=
  if n.negative then "-" else ""

def pointed (n : Positional) : String :=
  match n.fraction with
  | [] => ""
  | fraction => String.ofList ('.' :: fraction)

def text (n : Positional) : String :=
  n.sign ++ (String.ofList n.whole ++ n.pointed)

/-- The value without the sign. -/
def size (n : Positional) : ℚ :=
  Numeral.value n.whole + Numeral.value n.fraction / 10 ^ n.fraction.length

def significant (n : Positional) : List Char :=
  Numeral.significant (n.whole ++ n.fraction)

/-- A zero begins the numeral only alone, and none ends its fraction. -/
structure Canonical (n : Positional) : Prop where
  whole : ∀ rest, n.whole = '0' :: rest → rest = []
  fraction : n.fraction.getLast? ≠ some '0'

theorem isRow (n : Positional) : Numeral.IsRow (n.whole ++ n.fraction) :=
  n.isRow_whole.append n.isRow_fraction

theorem size_mul_pow (n : Positional) :
    n.size * 10 ^ n.fraction.length = Numeral.value (n.whole ++ n.fraction) := by
  rw [size, Numeral.value_append]
  push_cast
  field_simp

theorem size_nonneg (n : Positional) : 0 ≤ n.size := by
  rw [size]
  positivity

theorem stops_pointed (n : Positional) : Stops Char.isDigit n.pointed := by
  unfold pointed
  split
  · exact stops_empty _
  · exact stops_of_head (c := '.') (by simp) (by decide)

theorem stops_digits (n : Positional) : Stops (· == '-') (String.ofList n.whole ++ n.pointed) := by
  intro c hc
  cases hl : n.whole with
  | nil => exact absurd hl n.whole_ne_nil
  | cons d rest =>
    have hd : d.isDigit = true := n.isRow_whole d (hl ▸ List.mem_cons_self)
    simp only [hl, String.toList_append, String.toList_ofList, List.cons_append, List.head?_cons, Option.some.injEq]
      at hc
    subst hc
    by_contra hminus
    simp only [Bool.not_eq_false, beq_iff_eq] at hminus
    rw [hminus] at hd
    exact absurd hd (by decide)

theorem isDigit_of_mem_whole (n : Positional) : ∀ c ∈ (String.ofList n.whole).toList, c.isDigit = true := by
  rw [String.toList_ofList]
  exact n.isRow_whole

theorem isMinus_of_mem_sign (n : Positional) : ∀ c ∈ n.sign.toList, (c == '-') = true := by
  unfold sign
  split <;> simp

/-- A numeral has digits, and at most a sign and a point besides. -/
theorem not_mem_text (n : Positional) {c : Char} (hdigit : c.isDigit = false) (hsign : c ≠ '-')
    (hpoint : c ≠ '.') : c ∉ n.text.toList := by
  have hrow : ∀ {row : List Char}, Numeral.IsRow row → c ∉ row := by
    intro row h hc
    exact absurd (hdigit.symm.trans (h c hc)) (by decide)
  have hpointed : c ∉ n.pointed.toList := by
    unfold pointed
    split
    · simp
    · rw [String.toList_ofList, List.mem_cons, not_or]
      exact ⟨hpoint, hrow n.isRow_fraction⟩
  refine not_mem_append ?_ (not_mem_append ?_ hpointed)
  · intro hc
    exact hsign (beq_iff_eq.1 (n.isMinus_of_mem_sign c hc))
  · rw [String.toList_ofList]
    exact hrow n.isRow_whole

theorem negative_eq_of_sign (h : n.sign = n'.sign) : n.negative = n'.negative := by
  unfold sign at h
  split_ifs at h <;> simp_all

theorem fraction_eq_of_pointed (h : n.pointed = n'.pointed) : n.fraction = n'.fraction := by
  unfold pointed at h
  split at h <;> split at h
  · simp_all
  · simp at h
  · simp at h
  · exact (List.cons.inj (String.ofList_injective h)).2

/-- The sign ends where the digits begin, and these end where the point is. -/
theorem text_injective : Function.Injective text := by
  intro n n' h
  obtain ⟨hsign, hrest⟩ :=
    append_inj_of_stops n.isMinus_of_mem_sign n'.isMinus_of_mem_sign n.stops_digits n'.stops_digits h
  obtain ⟨hwhole, hpointed⟩ :=
    append_inj_of_stops n.isDigit_of_mem_whole n'.isDigit_of_mem_whole n.stops_pointed n'.stops_pointed hrest
  exact Positional.ext (negative_eq_of_sign hsign) (String.ofList_injective hwhole) (fraction_eq_of_pointed hpointed)

end Positional

/-! ## Decimal fractions -/

namespace Decimal
variable (d : Decimal)

def value : ℚ :=
  d.units / 10 ^ d.places

theorem fraction_eq : d.fraction = (Numeral.padded d.places (d.units % 10 ^ d.places)).rdropWhile (· == '0') :=
  rfl

theorem isRow_fraction : Numeral.IsRow d.fraction := by
  intro c hc
  rw [fraction_eq] at hc
  exact Numeral.isRow_padded _ _ c ((List.rdropWhile_prefix _ _).subset hc)

/-- The numeral that `text` writes, behind a sign. -/
def positional (negative : Bool) : Positional where
  negative := negative
  whole := Numeral.digits d.whole
  fraction := d.fraction
  whole_ne_nil := Numeral.digits_ne_nil _
  isRow_whole := Numeral.isRow_digits _
  isRow_fraction := d.isRow_fraction

theorem text_positional (negative : Bool) :
    (d.positional negative).text = (if negative then "-" else "") ++ d.text := by
  have hchars : d.text = String.ofList (Numeral.digits d.whole) ++ (d.positional negative).pointed := by
    unfold text chars Positional.pointed
    change String.ofList (match d.fraction with | [] => _ | fraction => _) =
      _ ++ match d.fraction with | [] => _ | fraction => _
    split <;> simp
  rw [hchars]
  rfl

theorem canonical_positional (negative : Bool) : (d.positional negative).Canonical where
  whole _ h := Numeral.eq_nil_of_digits_eq h
  fraction := Numeral.getLast?_rdropWhile _

/-- The zeros dropped at the end do not count, nor do those in front: these hold the place of the others. -/
theorem value_fraction :
    (Numeral.value d.fraction : ℚ) / 10 ^ d.fraction.length = (d.units % 10 ^ d.places : Nat) / 10 ^ d.places := by
  obtain ⟨zeros, hpadded⟩ := Numeral.exists_eq_rdropWhile_append (Numeral.padded d.places (d.units % 10 ^ d.places))
  rw [← fraction_eq] at hpadded
  have hvalue : d.units % 10 ^ d.places = Numeral.value d.fraction * 10 ^ zeros := by
    rw [← Numeral.value_padded d.places (d.units % 10 ^ d.places), hpadded, Numeral.value_append_zeros]
  rcases Nat.eq_zero_or_pos d.places with hplaces | hplaces
  · have hzero : Numeral.value d.fraction = 0 := by
      rw [hplaces, pow_zero, Nat.mod_one, eq_comm, Nat.mul_eq_zero] at hvalue
      exact hvalue.resolve_right (by positivity)
    rw [hvalue, hzero]
    simp
  · have hlength := Numeral.length_padded_of_lt hplaces (Nat.mod_lt d.units (by positivity))
    rw [hpadded, List.length_append, List.length_replicate] at hlength
    rw [hvalue, ← hlength, pow_add]
    push_cast
    field_simp

theorem size_positional (negative : Bool) : (d.positional negative).size = d.value := by
  have hunits : ((d.whole * 10 ^ d.places + d.units % 10 ^ d.places : Nat) : ℚ) = d.units :=
    congrArg Nat.cast d.whole_mul_add_mod
  change (Numeral.value (Numeral.digits d.whole) : ℚ) + Numeral.value d.fraction / 10 ^ d.fraction.length = _
  rw [Numeral.value_digits, value_fraction, value, ← hunits]
  push_cast
  field_simp

end Decimal

end SqlSelect
