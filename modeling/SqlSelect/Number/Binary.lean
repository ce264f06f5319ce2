import SqlSelect.Number.Decimal

/-!
# Binary numbers

A `Binary64` is the 64 bits of a double-precision number of IEEE 754: a sign, eleven bits of
exponent and a fraction of 52 bits.

* `numEq`: equality of the numbers, not of the bits. The zeros are equal and no NaN equals anything.
* `range`: the decimals that are read back as the number.
* `text`: the shortest of them, positional, after the sign.

A `Binary32` is a single-precision number. It is also a double-precision one: `Binary32.widen`.
-/

namespace SqlSelect

structure Binary64 where
  bits : UInt64
  deriving DecidableEq, Repr

namespace Binary64

/-! ## Fields -/

def isNegative (x : Binary64) : Bool :=
  Nat.pow 2 63 ≤ x.bits.toNat

def exponentField (x : Binary64) : Nat :=
  x.bits.toNat / Nat.pow 2 52 % 2048

def fractionField (x : Binary64) : Nat :=
  x.bits.toNat % Nat.pow 2 52

def ofFields (negative : Bool) (exponent fraction : Nat) : Binary64 :=
  ⟨.ofNat ((if negative then Nat.pow 2 63 else 0) + exponent * Nat.pow 2 52 + fraction)⟩

def isFinite (x : Binary64) : Bool :=
  x.exponentField != 2047

def isNaN (x : Binary64) : Bool :=
  x.exponentField == 2047 && x.fractionField != 0

def isZero (x : Binary64) : Bool :=
  x.exponentField == 0 && x.fractionField == 0

theorem exponentField_lt (x : Binary64) : x.exponentField < 2048 :=
  Nat.mod_lt _ (by decide)

theorem fractionField_lt (x : Binary64) : x.fractionField < Nat.pow 2 52 :=
  Nat.mod_lt _ (by decide)

/-! ## Equality of numbers -/

def numEq (x y : Binary64) : Bool :=
  !x.isNaN && !y.isNaN && (x.bits == y.bits || x.isZero && y.isZero)

theorem numEq_comm (x y : Binary64) : x.numEq y = y.numEq x := by
  simp only [numEq, Bool.beq_comm (a := x.bits), Bool.and_comm x.isZero, Bool.and_comm !x.isNaN]

theorem numEq_self (x : Binary64) : x.numEq x = !x.isNaN := by
  simp [numEq]

/-! ## Size

A finite number has the size `significand * 2 ^ (scale - 1075)`.
-/

/-- A number in the lowest binade lacks the leading one of the others. -/
def significand (x : Binary64) : Nat :=
  if x.exponentField = 0 then x.fractionField else Nat.pow 2 52 + x.fractionField

def scale (x : Binary64) : Nat :=
  max x.exponentField 1

/-! ## Text -/

/-- The number of decimal places in which the number and the ends of its range are exact: these are
multiples of `2 ^ (scale - 1077)`. -/
def places (x : Binary64) : Nat :=
  1077 - x.scale

/-- How many units of the last of these places make up `2 ^ (scale - 1077)`. -/
def quarter (x : Binary64) : Nat :=
  Nat.pow 2 (x.scale - 1077) * Nat.pow 5 x.places

/-- Quarters from the number down to the lower end of its range. The neighbour below a power of two is
at half the distance of the one above, except where the lowest two binades meet. -/
def reachBelow (x : Binary64) : Nat :=
  if x.fractionField = 0 ∧ 1 < x.exponentField then 1 else 2

/-- The range reaches halfway to both neighbours. Of two numbers equally near the one with an even
significand is read, so it owns the ends of its range. -/
def range (x : Binary64) : ReadingRange where
  low := (4 * x.significand - x.reachBelow) * x.quarter
  value := 4 * x.significand * x.quarter
  high := (4 * x.significand + 2) * x.quarter
  closed := x.significand % 2 == 0
  low_le_value := Nat.mul_le_mul_right _ (by omega)
  value_le_high := Nat.mul_le_mul_right _ (by omega)

def shortest (x : Binary64) : Decimal :=
  ⟨x.range.shortest, x.places⟩

def text (x : Binary64) : String :=
  if x.isNaN then "NaN"
  else (if x.isNegative then "-" else "") ++ (if x.isFinite then x.shortest.text else "inf")

end Binary64

/-! ## Single precision -/

structure Binary32 where
  bits : UInt32
  deriving DecidableEq, Repr

namespace Binary32

def isNegative (x : Binary32) : Bool :=
  Nat.pow 2 31 ≤ x.bits.toNat

def exponentField (x : Binary32) : Nat :=
  x.bits.toNat / Nat.pow 2 23 % 256

def fractionField (x : Binary32) : Nat :=
  x.bits.toNat % Nat.pow 2 23

/-- The same number with the wider fields. The exponents count from 127 and from 1023. A number in
the lowest binade of single precision has a leading one in double precision: its highest bit. -/
def widen (x : Binary32) : Binary64 :=
  if x.exponentField = 255 then .ofFields x.isNegative 2047 (x.fractionField * Nat.pow 2 29)
  else if x.exponentField ≠ 0 then
    .ofFields x.isNegative (x.exponentField + 896) (x.fractionField * Nat.pow 2 29)
  else if x.fractionField = 0 then .ofFields x.isNegative 0 0
  else
    let top := x.fractionField.log2
    .ofFields x.isNegative (top + 874) ((x.fractionField - Nat.pow 2 top) * Nat.pow 2 (52 - top))

end Binary32

end SqlSelect
