import Mathlib.Algebra.Group.Nat.Defs
import SqlSelect.Number.Decimal

/-!
# Reading digits

`Numeral.value` reads a row of digits as a number, whatever zeros stand in front.

* `value_digits`, `value_padded`: what is written is read back;
* `value_append`: the digits of one row behind those of another;
* `value_lt`: a row of a given length has room for the numbers below a power of ten;
* `lt_iff_value_lt`: comparing rows of equal length digit by digit compares their values.
-/

namespace SqlSelect.Numeral

def value (row : List Char) : Nat :=
  Nat.ofDigitChars 10 row 0

/-- Nothing but digits. -/
def IsRow (row : List Char) : Prop :=
  ∀ c ∈ row, c.isDigit = true

theorem value_nil : value [] = 0 := rfl

theorem value_append (a b : List Char) : value (a ++ b) = value a * 10 ^ b.length + value b := by
  rw [value, Nat.ofDigitChars_append, Nat.ofDigitChars_eq_ofDigitChars_zero, Nat.mul_comm]
  rfl

theorem value_cons (c : Char) (row : List Char) :
    value (c :: row) = (c.toNat - '0'.toNat) * 10 ^ row.length + value row := by
  rw [← List.singleton_append, value_append]
  congr 2
  rw [value, Nat.ofDigitChars_cons, Nat.ofDigitChars_nil, Nat.mul_zero, Nat.zero_add]

theorem value_digits (n : Nat) : value (digits n) = n :=
  Nat.ofDigitChars_ten_toDigits

theorem value_replicate_zero (n : Nat) : value (List.replicate n '0') = 0 := by
  rw [value, Nat.ofDigitChars_replicate_zero, Nat.mul_zero]

theorem value_padded (width n : Nat) : value (padded width n) = n := by
  rw [padded, List.leftpad, value_append, value_replicate_zero, Nat.zero_mul, Nat.zero_add, value_digits]

/-! ## Rows of digits -/

theorem isRow_digits (n : Nat) : IsRow (digits n) :=
  fun _ hc => isDigit_of_mem_digits hc

theorem IsRow.append {a b : List Char} (ha : IsRow a) (hb : IsRow b) : IsRow (a ++ b) := by
  intro c hc
  rcases List.mem_append.1 hc with hc | hc
  · exact ha c hc
  · exact hb c hc

theorem isRow_replicate_zero (n : Nat) : IsRow (List.replicate n '0') := by
  intro c hc
  rw [List.eq_of_mem_replicate hc]
  decide

theorem isRow_padded (width n : Nat) : IsRow (padded width n) :=
  (isRow_replicate_zero _).append (isRow_digits n)

theorem isRow_cons_iff {c : Char} {row : List Char} : IsRow (c :: row) ↔ c.isDigit = true ∧ IsRow row :=
  List.forall_mem_cons

theorem length_padded_of_lt {width n : Nat} (hw : 0 < width) (hn : n < 10 ^ width) :
    (padded width n).length = width := by
  rw [length_padded, Nat.max_eq_left]
  exact (Nat.length_toDigits_le_iff (by decide) hw).2 hn

section Order
variable {row row' : List Char}

theorem toNat_of_isDigit {c : Char} (h : c.isDigit = true) : 48 ≤ c.toNat ∧ c.toNat ≤ 57 :=
  Char.isDigit_iff_toNat.1 h

theorem value_lt (h : IsRow row) : value row < 10 ^ row.length := by
  induction row with
  | nil => decide
  | cons c row ih =>
    obtain ⟨hc, hrow⟩ := isRow_cons_iff.1 h
    have hdigit : c.toNat - '0'.toNat ≤ 9 := Nat.sub_le_of_le_add (toNat_of_isDigit hc).2
    have hle : (c.toNat - '0'.toNat) * 10 ^ row.length ≤ 9 * 10 ^ row.length := Nat.mul_le_mul_right _ hdigit
    have := ih hrow
    rw [value_cons, List.length_cons, Nat.pow_succ]
    omega

/-- The first digits decide, unless they are equal. -/
theorem add_lt_add_iff_of_lt {a b k v w : Nat} (hv : v < k) (hw : w < k) :
    a * k + v < b * k + w ↔ a < b ∨ a = b ∧ v < w := by
  rcases Nat.lt_trichotomy a b with hab | rfl | hab
  · have hle : (a + 1) * k ≤ b * k := Nat.mul_le_mul_right k hab
    rw [Nat.succ_mul] at hle
    omega
  · omega
  · have hle : (b + 1) * k ≤ a * k := Nat.mul_le_mul_right k hab
    rw [Nat.succ_mul] at hle
    omega

theorem lt_iff_value_lt (h : IsRow row) (h' : IsRow row') (hlength : row.length = row'.length) :
    row < row' ↔ value row < value row' := by
  induction row generalizing row' with
  | nil =>
    obtain rfl : row' = [] := List.eq_nil_of_length_eq_zero hlength.symm
    simp
  | cons c row ih =>
    cases row' with
    | nil => cases hlength
    | cons c' row' =>
      obtain ⟨hc, hrow⟩ := isRow_cons_iff.1 h
      obtain ⟨hc', hrow'⟩ := isRow_cons_iff.1 h'
      have htail : row.length = row'.length := Nat.succ.inj hlength
      have hlt : c < c' ↔ c.toNat - '0'.toNat < c'.toNat - '0'.toNat := by
        have := toNat_of_isDigit hc; have := toNat_of_isDigit hc'
        change c.toNat < c'.toNat ↔ c.toNat - 48 < c'.toNat - 48
        omega
      have heq : c = c' ↔ c.toNat - '0'.toNat = c'.toNat - '0'.toNat := by
        have := toNat_of_isDigit hc; have := toNat_of_isDigit hc'
        rw [← Char.toNat_inj]
        change c.toNat = c'.toNat ↔ c.toNat - 48 = c'.toNat - 48
        omega
      have hv' : value row' < 10 ^ row.length := htail ▸ value_lt hrow'
      rw [List.cons_lt_cons_iff, ih hrow hrow' htail, hlt, heq, value_cons, value_cons, ← htail,
        add_lt_add_iff_of_lt (value_lt hrow) hv']

end Order

end SqlSelect.Numeral
