import SqlSelect.Literal
import SqlSelect.Proofs.Positional

/-!
# Integers as literals

Integers of eight types become literals, and so do optional ones, optional optional ones and so on.

* `IntegerType`: the eight types, and `IntegerType.value`, the integer that a value of such a type is;
* `Layered`: the values that may be absent at each of some layers, and `Layered.present`, a value that is there at all
  of them;
* `Positional.ofInt`: the numeral of an integer, of which `Numeral.signed` is the text.

The layers leave no trace (`Layered.toLiteral_present`), and widening to 64 bits, with a sign or without, keeps the
value (`IntegerType.toLiteral_eq`). So the literal is the numeral of the value, in whichever way it came about
(`IntegerType.text_toLiteral`).
-/

namespace SqlSelect

/-! ## Numerals of integers -/

/-- The number that a numeral is read as. -/
def Positional.number (n : Positional) : ℚ :=
  if n.negative then -n.size else n.size

/-- The numeral that `Numeral.signed` writes. -/
def Positional.ofInt (z : Int) : Positional where
  negative := z < 0
  whole := Numeral.digits z.natAbs
  fraction := []
  whole_ne_nil := Numeral.digits_ne_nil _
  isRow_whole := Numeral.isRow_digits _
  isRow_fraction := List.forall_mem_nil _

theorem Positional.text_ofInt (z : Int) : (ofInt z).text = Numeral.signed z := by
  unfold text sign pointed Numeral.signed
  by_cases hz : z < 0 <;> simp [ofInt, hz]

theorem Positional.canonical_ofInt (z : Int) : (ofInt z).Canonical where
  whole _ h := Numeral.eq_nil_of_digits_eq h
  fraction := by simp [ofInt]

theorem Positional.number_ofInt (z : Int) : (ofInt z).number = z := by
  have hsize : (ofInt z).size = (z.natAbs : ℚ) := by
    simp only [size, ofInt, Numeral.value_digits, Numeral.value_nil, Nat.cast_zero, zero_div, add_zero]
  unfold number
  rw [hsize, Nat.cast_natAbs]
  by_cases hz : z < 0
  · simp [ofInt, hz, abs_of_neg hz]
  · simp [ofInt, hz, abs_of_nonneg (not_lt.1 hz)]

theorem Numeral.signed_ne_null (z : Int) : signed z ≠ "NULL" := by
  intro h
  have hletter : 'N' ∉ (signed z).toList := by
    rw [← Positional.text_ofInt]
    exact (Positional.ofInt z).not_mem_text (by decide) (by decide) (by decide)
  rw [h] at hletter
  exact hletter (by decide)

/-! ## Integer types -/

inductive IntegerType where
  | int8
  | int16
  | int32
  | int64
  | uint8
  | uint16
  | uint32
  | uint64
  deriving DecidableEq, Repr

namespace IntegerType

@[reducible] def Carrier : IntegerType → Type
  | int8 => Int8
  | int16 => Int16
  | int32 => Int32
  | int64 => Int64
  | uint8 => UInt8
  | uint16 => UInt16
  | uint32 => UInt32
  | uint64 => UInt64

def isSigned : IntegerType → Bool
  | int8 | int16 | int32 | int64 => true
  | uint8 | uint16 | uint32 | uint64 => false

def value : (τ : IntegerType) → τ.Carrier → Int
  | int8, n => n.toInt
  | int16, n => n.toInt
  | int32, n => n.toInt
  | int64, n => n.toInt
  | uint8, n => n.toNat
  | uint16, n => n.toNat
  | uint32, n => n.toNat
  | uint64, n => n.toNat

instance : (τ : IntegerType) → ToLiteral τ.Carrier
  | int8 => inferInstanceAs (ToLiteral Int8)
  | int16 => inferInstanceAs (ToLiteral Int16)
  | int32 => inferInstanceAs (ToLiteral Int32)
  | int64 => inferInstanceAs (ToLiteral Int64)
  | uint8 => inferInstanceAs (ToLiteral UInt8)
  | uint16 => inferInstanceAs (ToLiteral UInt16)
  | uint32 => inferInstanceAs (ToLiteral UInt32)
  | uint64 => inferInstanceAs (ToLiteral UInt64)

/-- Widening keeps the value. -/
theorem toLiteral_eq (τ : IntegerType) (v : τ.Carrier) :
    if τ.isSigned then ∃ n : Int64, toLiteral v = .signed n ∧ n.toInt = τ.value v
    else ∃ n : UInt64, toLiteral v = .unsigned n ∧ (n.toNat : Int) = τ.value v := by
  cases τ with
  | int8 => exact ⟨v.toInt64, rfl, Int8.toInt_toInt64 v⟩
  | int16 => exact ⟨v.toInt64, rfl, Int16.toInt_toInt64 v⟩
  | int32 => exact ⟨v.toInt64, rfl, Int32.toInt_toInt64 v⟩
  | int64 => exact ⟨v, rfl, rfl⟩
  | uint8 => exact ⟨v.toUInt64, rfl, congrArg Nat.cast (UInt8.toNat_toUInt64 v)⟩
  | uint16 => exact ⟨v.toUInt64, rfl, congrArg Nat.cast (UInt16.toNat_toUInt64 v)⟩
  | uint32 => exact ⟨v.toUInt64, rfl, congrArg Nat.cast (UInt32.toNat_toUInt64 v)⟩
  | uint64 => exact ⟨v, rfl, rfl⟩

theorem text_toLiteral (τ : IntegerType) (v : τ.Carrier) : (toLiteral v).text = Numeral.signed (τ.value v) := by
  have hliteral := τ.toLiteral_eq v
  split at hliteral
  · obtain ⟨n, hn, hvalue⟩ := hliteral
    rw [hn, ← hvalue]
    rfl
  · obtain ⟨n, hn, hvalue⟩ := hliteral
    rw [hn, ← hvalue]
    unfold Literal.text Numeral.signed
    rw [if_neg (by omega), String.empty_append, Int.natAbs_natCast]

theorem value_range (τ : IntegerType) (v : τ.Carrier) : -2 ^ 63 ≤ τ.value v ∧ τ.value v < 2 ^ 64 := by
  have hliteral := τ.toLiteral_eq v
  split at hliteral
  · obtain ⟨n, -, hvalue⟩ := hliteral
    have := n.le_toInt; have := n.toInt_lt
    omega
  · obtain ⟨n, -, hvalue⟩ := hliteral
    have := n.toNat_lt
    omega

theorem exists_value_eq {z : Int} (hlow : -2 ^ 63 ≤ z) (hhigh : z < 2 ^ 64) :
    ∃ (τ : IntegerType) (v : τ.Carrier), τ.value v = z := by
  by_cases hz : z < 2 ^ 63
  · exact ⟨int64, .ofInt z, Int64.toInt_ofInt_of_le hlow hz⟩
  · refine ⟨uint64, .ofNat z.toNat, ?_⟩
    change ((UInt64.ofNat z.toNat).toNat : Int) = z
    rw [UInt64.toNat_ofNat']
    omega

end IntegerType

/-! ## Layers -/

/-- A value that may be absent at each of `n` layers. -/
def Layered (α : Type) : Nat → Type
  | 0 => α
  | n + 1 => Option (Layered α n)

namespace Layered
variable {α : Type}

def present : (n : Nat) → α → Layered α n
  | 0, v => v
  | n + 1, v => some (present n v)

/-- The literal of an optional value, layer by layer. -/
instance toLiteralLayered [inst : ToLiteral α] : (n : Nat) → ToLiteral (Layered α n)
  | 0 => inst
  | n + 1 => @instToLiteralOption (Layered α n) (toLiteralLayered n)

theorem toLiteral_present [ToLiteral α] (n : Nat) (v : α) : toLiteral (present n v) = toLiteral v := by
  induction n with
  | zero => rfl
  | succ n ih => exact (toLiteral_some (present n v)).trans ih

end Layered

/-- **The literal of an integer is the canonical numeral of its value.** Neither the type of the integer can be told
from it nor the optional layers around it. -/
theorem Literal.text_integer :
    (∀ (τ : IntegerType) (depth : Nat) (v : τ.Carrier),
      let literal := toLiteral (Layered.present depth v)
      (if τ.isSigned then ∃ n : Int64, literal = .signed n ∧ n.toInt = τ.value v
        else ∃ n : UInt64, literal = .unsigned n ∧ (n.toNat : Int) = τ.value v) ∧
      (∃ numeral : Positional, literal.text = numeral.text ∧
        (∀ other : Positional, literal.text = other.text → other = numeral) ∧ numeral.Canonical ∧
        numeral.fraction = [] ∧ (numeral.negative = true ↔ τ.value v < 0) ∧ numeral.number = τ.value v) ∧
      literal.text ≠ "NULL") ∧
    (∀ (τ τ' : IntegerType) (depth depth' : Nat) (v : τ.Carrier) (v' : τ'.Carrier),
      (toLiteral (Layered.present depth v)).text = (toLiteral (Layered.present depth' v')).text ↔
        τ.value v = τ'.value v') ∧
    (∀ z : Int, (∃ (τ : IntegerType) (v : τ.Carrier), τ.value v = z) ↔ -2 ^ 63 ≤ z ∧ z < 2 ^ 64) ∧
    ∀ (α : Type) [ToLiteral α] (depth : Nat),
      let literal := toLiteral (Layered.present depth (none : Option α))
      literal = .null ∧ literal.text = "NULL" := by
  refine ⟨fun τ depth v => ?_, fun τ τ' depth depth' v v' => ?_, fun z => ⟨?_, ?_⟩, fun α _ depth => ?_⟩
  · intro literal
    have hliteral : literal = toLiteral v := Layered.toLiteral_present depth v
    have htext : literal.text = (Positional.ofInt (τ.value v)).text := by
      rw [hliteral, τ.text_toLiteral, Positional.text_ofInt]
    refine ⟨?_, ⟨.ofInt (τ.value v), htext, ?_, Positional.canonical_ofInt _, rfl, ?_, Positional.number_ofInt _⟩, ?_⟩
    · rw [hliteral]
      exact τ.toLiteral_eq v
    · intro other hother
      exact Positional.text_injective (hother.symm.trans htext)
    · exact decide_eq_true_iff
    · rw [hliteral, τ.text_toLiteral]
      exact Numeral.signed_ne_null _
  · rw [Layered.toLiteral_present, Layered.toLiteral_present, τ.text_toLiteral, τ'.text_toLiteral,
      Numeral.signed_injective.eq_iff]
  · rintro ⟨τ, v, rfl⟩
    exact τ.value_range v
  · rintro ⟨hlow, hhigh⟩
    exact IntegerType.exists_value_eq hlow hhigh
  · intro literal
    have hliteral : literal = .null := Layered.toLiteral_present depth none
    exact ⟨hliteral, congrArg Literal.text hliteral⟩

/-- Fives of two types, one of them optional; the least value of all; the largest value of a signed type beside the
next one, which only an unsigned type has; and a value that is absent behind a layer that is there. -/
theorem Literal.text_integer_at_limits :
    let five : Int8 := 5
    let five' : UInt16 := 5
    let top : Int64 := 0x7FFFFFFFFFFFFFFF
    let next : UInt64 := 0x8000000000000000
    (toLiteral (some five)).text = (toLiteral five').text ∧ (toLiteral five').text = "5" ∧
      (toLiteral (some (some Int64.minValue))).text = "-9223372036854775808" ∧
      (toLiteral (some top)).text ≠ (toLiteral next).text ∧ (toLiteral next).text = "9223372036854775808" ∧
      (toLiteral (some (none : Option Int8))).text = "NULL" := by
  intro five five' top next
  obtain ⟨-, hequal, -, hnone⟩ := Literal.text_integer
  refine ⟨?_, by decide, by decide, ?_, by decide, (hnone Int8 1).2⟩
  · exact (hequal .int8 .uint16 1 0 five five').2 (by decide)
  · intro htext
    exact absurd ((hequal .int64 .uint64 1 0 top next).1 htext) (by decide)

end SqlSelect
