import Mathlib.Algebra.Order.Field.Power
import Mathlib.Tactic.Ring
import SqlSelect.Number.Binary
import SqlSelect.Proofs.Nearest

/-!
# Single-precision numbers in double precision

A single-precision number has the size `significand * 2 ^ (max exponentField 1 - 150)`. Widening keeps the sign and the
size (`Binary32.widensTo_widen`). The exponent of a number with a leading one is counted from another place, and the
fraction gets zeros behind it. A number in the lowest binade is shifted until its highest bit is the leading one, which
takes as much from the exponent.
-/

namespace SqlSelect

namespace Binary64
variable {negative : Bool} {exponent fraction : Nat}

theorem toNat_ofFields (he : exponent < 2048) (hf : fraction < 2 ^ 52) :
    (ofFields negative exponent fraction).bits.toNat =
      (if negative then 2 ^ 63 else 0) + exponent * 2 ^ 52 + fraction := by
  simp only [ofFields, UInt64.toNat_ofNat', Nat.pow_eq]
  refine Nat.mod_eq_of_lt ?_
  split <;> omega

theorem isNegative_ofFields (he : exponent < 2048) (hf : fraction < 2 ^ 52) :
    (ofFields negative exponent fraction).isNegative = negative := by
  rw [isNegative, toNat_ofFields he hf, Nat.pow_eq]
  cases negative with
  | false =>
    simp only [Bool.false_eq_true, if_false, decide_eq_false_iff_not]
    omega
  | true =>
    simp only [if_true, decide_eq_true_eq]
    omega

theorem exponentField_ofFields (he : exponent < 2048) (hf : fraction < 2 ^ 52) :
    (ofFields negative exponent fraction).exponentField = exponent := by
  rw [exponentField, toNat_ofFields he hf, Nat.pow_eq]
  split <;> omega

theorem fractionField_ofFields (he : exponent < 2048) (hf : fraction < 2 ^ 52) :
    (ofFields negative exponent fraction).fractionField = fraction := by
  rw [fractionField, toNat_ofFields he hf, Nat.pow_eq]
  split <;> omega

theorem isFinite_ofFields (he : exponent < 2047) (hf : fraction < 2 ^ 52) :
    (ofFields negative exponent fraction).isFinite = true := by
  rw [isFinite, exponentField_ofFields (by omega) hf]
  simp only [bne_iff_ne, ne_eq]
  omega

/-- With a leading one. -/
theorem size_ofFields (hpos : 0 < exponent) (he : exponent < 2048) (hf : fraction < 2 ^ 52) :
    (ofFields negative exponent fraction).size = (2 ^ 52 + fraction : Nat) * 2 ^ ((exponent : ℤ) - 1075) := by
  rw [size, significand, scale, exponentField_ofFields he hf, fractionField_ofFields he hf, if_neg (by omega),
    Nat.max_eq_left hpos, Nat.pow_eq]

end Binary64

namespace Binary32
variable {x : Binary32}

def isFinite (x : Binary32) : Bool :=
  x.exponentField != 255

def significand (x : Binary32) : Nat :=
  if x.exponentField = 0 then x.fractionField else 2 ^ 23 + x.fractionField

/-- The number without its sign. -/
def size (x : Binary32) : ℚ :=
  x.significand * 2 ^ (((max x.exponentField 1 : Nat) : ℤ) - 150)

theorem exponentField_lt (x : Binary32) : x.exponentField < 256 :=
  Nat.mod_lt _ (by decide)

theorem fractionField_lt (x : Binary32) : x.fractionField < 2 ^ 23 :=
  Nat.mod_lt _ (by decide)

/-- Bits moved from the power into the significand. -/
theorem mul_two_pow_mul_zpow (n i : Nat) (e : ℤ) : ((n * 2 ^ i : Nat) : ℚ) * 2 ^ e = n * 2 ^ (i + e) := by
  push_cast
  rw [mul_assoc, ← zpow_natCast, ← zpow_add₀ (by norm_num)]

/-- Shifted so far that the highest bit is the leading one. -/
theorem leading_one_add {n : Nat} (hn : n ≠ 0) (hlt : n < 2 ^ 23) :
    2 ^ 52 + (n - 2 ^ n.log2) * 2 ^ (52 - n.log2) = n * 2 ^ (52 - n.log2) ∧
      (n - 2 ^ n.log2) * 2 ^ (52 - n.log2) < 2 ^ 52 := by
  have htop : n.log2 < 23 := (Nat.log2_lt hn).2 hlt
  have hle : 2 ^ n.log2 ≤ n := Nat.log2_self_le hn
  have hnext : n < 2 ^ (n.log2 + 1) := Nat.lt_log2_self
  have hone : 2 ^ n.log2 * 2 ^ (52 - n.log2) = 2 ^ 52 := by
    rw [← pow_add, Nat.add_sub_of_le (by omega)]
  constructor
  · rw [← hone, ← Nat.add_mul, Nat.add_sub_of_le hle]
  · rw [← hone]
    exact Nat.mul_lt_mul_of_pos_right (by rw [pow_succ] at hnext; omega) (by positivity)

/-- The same number in the wider format. -/
structure WidensTo (x : Binary32) (y : Binary64) : Prop where
  isFinite : y.isFinite = true
  isNegative : y.isNegative = x.isNegative
  size : y.size = x.size

theorem widensTo_zero (he : x.exponentField = 0) (hf : x.fractionField = 0) :
    x.WidensTo (.ofFields x.isNegative 0 0) where
  isFinite := Binary64.isFinite_ofFields (by decide) (by decide)
  isNegative := Binary64.isNegative_ofFields (by decide) (by decide)
  size := by
    have hzero : (Binary64.ofFields x.isNegative 0 0).significand = 0 := by
      rw [Binary64.significand, Binary64.exponentField_ofFields (by decide) (by decide),
        Binary64.fractionField_ofFields (by decide) (by decide), if_pos rfl]
    rw [Binary64.size, hzero, size, significand, if_pos he, hf, Nat.cast_zero, zero_mul, zero_mul]

theorem widensTo_of_lowest_binade (he : x.exponentField = 0) (hf : x.fractionField ≠ 0) :
    x.WidensTo (.ofFields x.isNegative (x.fractionField.log2 + 874)
      ((x.fractionField - 2 ^ x.fractionField.log2) * 2 ^ (52 - x.fractionField.log2))) := by
  obtain ⟨hone, hlt⟩ := leading_one_add hf x.fractionField_lt
  have htop : x.fractionField.log2 < 23 := (Nat.log2_lt hf).2 x.fractionField_lt
  have hscale : (52 - x.fractionField.log2 : Nat) + ((x.fractionField.log2 + 874 : Nat) - 1075 : ℤ) =
      ((max 0 1 : Nat) : ℤ) - 150 := by
    omega
  refine ⟨Binary64.isFinite_ofFields (by omega) hlt, Binary64.isNegative_ofFields (by omega) hlt, ?_⟩
  rw [Binary64.size_ofFields (Nat.succ_pos _) (by omega) hlt, hone, mul_two_pow_mul_zpow, hscale, size, significand,
    if_pos he, he]

theorem widensTo_of_leading_one (he : x.exponentField ≠ 0) (hx : x.exponentField ≠ 255) :
    x.WidensTo (.ofFields x.isNegative (x.exponentField + 896) (x.fractionField * 2 ^ 29)) := by
  have hexponent := x.exponentField_lt
  have hfraction := x.fractionField_lt
  have hlt : x.fractionField * 2 ^ 29 < 2 ^ 52 := by omega
  have hshift : 2 ^ 52 + x.fractionField * 2 ^ 29 = (2 ^ 23 + x.fractionField) * 2 ^ 29 := by omega
  have hscale : ((29 : Nat) : ℤ) + ((x.exponentField + 896 : Nat) - 1075 : ℤ) =
      (max x.exponentField 1 : Nat) - 150 := by
    omega
  refine ⟨Binary64.isFinite_ofFields (by omega) hlt, Binary64.isNegative_ofFields (by omega) hlt, ?_⟩
  rw [Binary64.size_ofFields (Nat.succ_pos _) (by omega) hlt, hshift, mul_two_pow_mul_zpow, hscale, size, significand,
    if_neg he]

theorem widensTo_widen (hx : x.isFinite = true) : x.WidensTo x.widen := by
  have hfinite : x.exponentField ≠ 255 := by simpa [isFinite] using hx
  simp only [widen, Nat.pow_eq, if_neg hfinite]
  split_ifs with he hf
  · exact widensTo_of_leading_one he hfinite
  · exact widensTo_zero (not_not.1 he) hf
  · exact widensTo_of_lowest_binade (not_not.1 he) hf

end Binary32

end SqlSelect
