/-!
# Decimal numbers

* `Numeral`: the digits of natural numbers, plain or filled up with zeros to a width, and signed
  integers.
* `Decimal`: a natural number of units in a fixed decimal place. Its text is positional at every
  size: all zeros are written out, zeros at the end of the fraction are dropped, and a fraction that
  vanishes takes its point along.
* `ReadingRange`: a number that is kept with limited precision stands for a range of decimals, all
  that are read back as it, and `ReadingRange.shortest` is the one with the fewest digits.
-/

namespace SqlSelect

/-! ## Numerals -/

namespace Numeral

def digits (n : Nat) : List Char :=
  Nat.toDigits 10 n

/-- At least `width` digits; a number with more keeps them all. -/
def padded (width n : Nat) : List Char :=
  (digits n).leftpad width '0'

def signed (n : Int) : String :=
  (if n < 0 then "-" else "") ++ String.ofList (digits n.natAbs)

theorem digits_ne_nil (n : Nat) : digits n ≠ [] :=
  Nat.toDigits_ne_nil

theorem isDigit_of_mem_digits {c : Char} {n : Nat} (h : c ∈ digits n) : c.isDigit = true :=
  Nat.isDigit_of_mem_toDigits (by decide) (by decide) h

theorem digits_injective : Function.Injective digits := by
  intro m n h
  unfold digits at h
  rw [← Nat.ofDigitChars_ten_toDigits (n := m), h, Nat.ofDigitChars_ten_toDigits]

theorem toList_signed (n : Int) : (signed n).toList = (if n < 0 then ['-'] else []) ++ digits n.natAbs := by
  by_cases h : n < 0 <;> simp [signed, h]

/-- A numeral begins with its sign or a digit. -/
theorem head_signed {n : Int} {c : Char} (h : (signed n).toList.head? = some c) : c = '-' ∨ c.isDigit = true := by
  rw [toList_signed] at h
  by_cases hn : n < 0
  · rw [if_pos hn] at h
    exact Or.inl (Option.some.inj h).symm
  · rw [if_neg hn] at h
    exact Or.inr (isDigit_of_mem_digits (List.mem_of_head? h))

theorem signed_injective : Function.Injective signed := by
  intro m n h
  have hl : (signed m).toList = (signed n).toList := by rw [h]
  have hminus : ∀ k l : Nat, '-' :: digits k ≠ digits l := by
    intro k l hkl
    have hdigit : '-' ∈ digits l := hkl ▸ List.mem_cons_self
    exact absurd (isDigit_of_mem_digits hdigit) (by decide)
  rw [toList_signed, toList_signed] at hl
  by_cases hm : m < 0 <;> by_cases hn : n < 0
  · simp only [hm, hn, if_true, List.cons_append, List.nil_append, List.cons.injEq, true_and] at hl
    have := digits_injective hl
    omega
  · simp only [hm, hn, if_true, if_false, List.cons_append, List.nil_append] at hl
    exact absurd hl (hminus _ _)
  · simp only [hm, hn, if_true, if_false, List.cons_append, List.nil_append] at hl
    exact absurd hl.symm (hminus _ _)
  · simp only [hm, hn, if_false, List.nil_append] at hl
    have := digits_injective hl
    omega

theorem length_padded (width n : Nat) : (padded width n).length = max width (digits n).length :=
  List.length_leftpad

end Numeral

/-! ## Decimal fractions -/

/-- The number `units / 10 ^ places`. -/
structure Decimal where
  units : Nat
  places : Nat
  deriving DecidableEq, Repr

namespace Decimal

def whole (d : Decimal) : Nat :=
  d.units / Nat.pow 10 d.places

/-- The digits after the point, up to the last one that is not zero. -/
def fraction (d : Decimal) : List Char :=
  ((Numeral.padded d.places (d.units % Nat.pow 10 d.places)).reverse.dropWhile (· == '0')).reverse

def chars (d : Decimal) : List Char :=
  match d.fraction with
  | [] => Numeral.digits d.whole
  | fraction => Numeral.digits d.whole ++ '.' :: fraction

def text (d : Decimal) : String :=
  String.ofList d.chars

theorem whole_mul_add_mod (d : Decimal) :
    d.whole * Nat.pow 10 d.places + d.units % Nat.pow 10 d.places = d.units := by
  rw [whole, Nat.mul_comm]
  exact Nat.div_add_mod _ _

end Decimal

/-! ## The shortest decimal of a range

A range is scaled so that its ends and the number itself are natural numbers.

* Fewer digits means a multiple of a higher power of ten. If a range around a value holds a multiple
  of `unit`, it holds one of the two next to the value, so `nearest?` looks at no other.
* Of two such members the nearer is taken, and the greater if they are equally near.
-/

/-- The ends belong to the range iff it is `closed`. -/
structure ReadingRange where
  low : Nat
  value : Nat
  high : Nat
  closed : Bool
  low_le_value : low ≤ value
  value_le_high : value ≤ high

namespace ReadingRange

def contains (r : ReadingRange) (n : Nat) : Bool :=
  if r.closed then r.low ≤ n && n ≤ r.high else r.low < n && n < r.high

/-- The multiple of `unit` in the range that is nearest to the value. -/
def nearest? (r : ReadingRange) (unit : Nat) : Option Nat :=
  let below := r.value / unit * unit
  let above := below + unit
  match r.contains below, r.contains above with
  | true, true => some (if r.value - below < above - r.value then below else above)
  | true, false => some below
  | false, true => some above
  | false, false => none

/-- The nearest multiple of the highest power of ten that has one, up to `10 ^ zeros`. -/
def roundest (r : ReadingRange) : Nat → Nat
  | 0 => r.value
  | zeros + 1 => (r.nearest? (Nat.pow 10 (zeros + 1))).getD (r.roundest zeros)

def shortest (r : ReadingRange) : Nat :=
  r.roundest (Numeral.digits r.value).length

theorem contains_of_nearest? {r : ReadingRange} {unit n : Nat} (h : r.nearest? unit = some n) :
    r.contains n = true := by
  unfold nearest? at h
  simp only at h
  split at h
  · next hb ha => cases h; split <;> assumption
  · next hb ha => cases h; exact hb
  · next hb ha => cases h; exact ha
  · cases h

theorem dvd_of_nearest? {r : ReadingRange} {unit n : Nat} (h : r.nearest? unit = some n) :
    unit ∣ n := by
  have hb : unit ∣ r.value / unit * unit := Nat.dvd_mul_left _ _
  have ha : unit ∣ r.value / unit * unit + unit := Nat.dvd_add hb (Nat.dvd_refl _)
  unfold nearest? at h
  simp only at h
  split at h
  · cases h; split <;> assumption
  · cases h; exact hb
  · cases h; exact ha
  · cases h

end ReadingRange

end SqlSelect
