import Mathlib.Algebra.Order.Ring.Abs
import Mathlib.Data.Rat.Cast.Order
import Mathlib.Order.Monotone.Basic
import Mathlib.Tactic.Linarith
import Mathlib.Tactic.Ring
import SqlSelect.Number.Binary

/-!
# The double-precision number nearest to a size

A size is read as the finite number that is nearest to it, and as the one with the even significand if two are equally
near (`Binary64.Nearest`). Sizes from halfway between the largest number and the next power of two are too large for that.

Without their signs, the numbers are in the order of their bits (`Binary64.rank`, `strictMono_sizeAt`), and neighbours
have significands of different parity. So the sizes that are read as a number reach halfway to its two neighbours, and
both or none of these ends belong to them (`nearest_iff`), and no size is read as two numbers (`Nearest.rank_eq`).
-/

namespace SqlSelect.Binary64

/-- The number without its sign. -/
def size (x : Binary64) : ℚ :=
  x.significand * 2 ^ ((x.scale : ℤ) - 1075)

/-- Sizes from here on are read as infinite. -/
def overflow : ℚ :=
  2 ^ 1024 - 2 ^ 970

/-- Of the finite numbers, `x` is the one that the size `q` is read as. -/
structure Nearest (q : ℚ) (x : Binary64) : Prop where
  isFinite : x.isFinite = true
  lt_overflow : q < overflow
  dist_le : ∀ y : Binary64, y.isFinite = true → |q - x.size| ≤ |q - y.size|
  even_of_tie : ∀ y : Binary64, y.isFinite = true → y.size ≠ x.size → |q - x.size| = |q - y.size| →
    x.significand % 2 = 0

/-! ## Ranks -/

/-- All bits but the sign. -/
def rank (x : Binary64) : Nat :=
  x.bits.toNat % 2 ^ 63

theorem exponentField_eq (x : Binary64) : x.exponentField = x.rank / 2 ^ 52 := by
  have := x.bits.toNat_lt
  simp only [exponentField, rank, Nat.pow_eq]
  omega

theorem fractionField_eq (x : Binary64) : x.fractionField = x.rank % 2 ^ 52 := by
  simp only [fractionField, rank, Nat.pow_eq]
  omega

def significandAt (n : Nat) : Nat :=
  if n < 2 ^ 52 then n else 2 ^ 52 + n % 2 ^ 52

def scaleAt (n : Nat) : Nat :=
  max (n / 2 ^ 52) 1

theorem significand_eq (x : Binary64) : x.significand = significandAt x.rank := by
  simp only [significand, exponentField_eq, fractionField_eq, significandAt, Nat.pow_eq]
  split_ifs <;> omega

theorem scale_eq (x : Binary64) : x.scale = scaleAt x.rank := by
  rw [scale, exponentField_eq, scaleAt]

theorem isFinite_iff {x : Binary64} : x.isFinite = true ↔ x.rank < 2047 * 2 ^ 52 := by
  have : x.rank < 2 ^ 63 := Nat.mod_lt _ (by decide)
  simp only [isFinite, exponentField_eq, bne_iff_ne, ne_eq]
  omega

/-- The number without a sign that has the given rank. -/
def ofRank (n : Nat) : Binary64 :=
  ⟨.ofNat n⟩

theorem rank_ofRank {n : Nat} (h : n < 2 ^ 63) : (ofRank n).rank = n := by
  simp only [ofRank, rank, UInt64.toNat_ofNat']
  omega

theorem eq_of_rank_eq {x y : Binary64} (hs : x.isNegative = y.isNegative) (hr : x.rank = y.rank) : x = y := by
  have hbits : x.bits.toNat = y.bits.toNat := by
    have := x.bits.toNat_lt; have := y.bits.toNat_lt
    simp only [isNegative, Nat.pow_eq, decide_eq_decide] at hs
    simp only [rank] at hr
    omega
  cases x; cases y
  congr
  exact UInt64.toNat_inj.1 hbits

/-! ## Sizes in the order of ranks -/

def sizeAt (n : Nat) : ℚ :=
  significandAt n * 2 ^ ((scaleAt n : ℤ) - 1075)

/-- How far the next number is away. -/
def gapAt (n : Nat) : ℚ :=
  2 ^ ((scaleAt n : ℤ) - 1075)

theorem size_eq (x : Binary64) : x.size = sizeAt x.rank := by
  rw [size, significand_eq, scale_eq, sizeAt]

theorem gapAt_pos (n : Nat) : 0 < gapAt n :=
  zpow_pos (by norm_num) _

/-- One more in the significand or, behind the largest one, the next binade. -/
theorem next_rank (n : Nat) :
    (scaleAt (n + 1) = scaleAt n ∧ significandAt (n + 1) = significandAt n + 1) ∨
      (scaleAt (n + 1) = scaleAt n + 1 ∧ significandAt (n + 1) = 2 ^ 52 ∧ significandAt n = 2 ^ 53 - 1) := by
  unfold scaleAt significandAt
  split_ifs <;> omega

theorem sizeAt_succ (n : Nat) : sizeAt (n + 1) = sizeAt n + gapAt n := by
  unfold sizeAt gapAt
  rcases next_rank n with ⟨hscale, hsig⟩ | ⟨hscale, hsig, hsig'⟩
  · rw [hscale, hsig]
    push_cast
    ring
  · have hpow : (2 : ℚ) ^ ((scaleAt n + 1 : ℤ) - 1075) = 2 * 2 ^ ((scaleAt n : ℤ) - 1075) := by
      rw [← zpow_one_add₀ (by norm_num)]
      congr 1
      ring
    rw [hscale, hsig, hsig']
    push_cast
    rw [hpow]
    ring

theorem strictMono_sizeAt : StrictMono sizeAt := by
  refine strictMono_nat_of_lt_succ fun n => ?_
  rw [sizeAt_succ]
  linarith [gapAt_pos n]

theorem significandAt_mod_two (n : Nat) : significandAt n % 2 = n % 2 := by
  unfold significandAt
  split_ifs <;> omega

/-! ## Ends -/

/-- Halfway to the next number. -/
def upperAt (n : Nat) : ℚ :=
  sizeAt n + gapAt n / 2

theorem upperAt_eq (n : Nat) : 2 * upperAt n = sizeAt n + sizeAt (n + 1) := by
  rw [upperAt, sizeAt_succ]
  ring

theorem strictMono_upperAt : StrictMono upperAt := by
  refine strictMono_nat_of_lt_succ fun n => ?_
  have hmono : sizeAt n + sizeAt (n + 1) < sizeAt (n + 1) + sizeAt (n + 1 + 1) :=
    add_lt_add (strictMono_sizeAt n.lt_succ_self) (strictMono_sizeAt (n + 1).lt_succ_self)
  rw [← upperAt_eq, ← upperAt_eq] at hmono
  linarith

/-- The rank of the largest finite number. -/
def maxRank : Nat :=
  2047 * 2 ^ 52 - 1

theorem upperAt_maxRank : upperAt maxRank = overflow := by
  have hsig : significandAt maxRank = 2 ^ 53 - 1 := by decide
  have hscale : scaleAt maxRank = 2046 := by decide
  have hgap : (2 : ℚ) ^ (((2046 : ℕ) : ℤ) - 1075) = 2 * 2 ^ 970 := by
    rw [← zpow_natCast, ← zpow_one_add₀ (by norm_num)]
    rfl
  have htop : (2 : ℚ) ^ 1024 = 2 ^ 54 * 2 ^ 970 := by
    rw [← pow_add]
  rw [upperAt, sizeAt, gapAt, hsig, hscale, overflow, hgap, htop]
  generalize (2 : ℚ) ^ 970 = p
  norm_num
  ring

/-- Of two numbers, a size is nearer to the smaller one if it lies below the middle. -/
theorem dist_le_iff {a b q : ℚ} (h : a < b) : |q - a| ≤ |q - b| ↔ 2 * q ≤ a + b := by
  rw [← sq_le_sq]
  constructor
  · intro hsq
    nlinarith
  · intro hq
    nlinarith

theorem dist_ge_iff {a b q : ℚ} (h : a < b) : |q - b| ≤ |q - a| ↔ a + b ≤ 2 * q := by
  rw [← sq_le_sq]
  constructor
  · intro hsq
    nlinarith
  · intro hq
    nlinarith

theorem two_mul_eq_of_dist_eq {a b q : ℚ} (h : a ≠ b) (hdist : |q - a| = |q - b|) : 2 * q = a + b := by
  rcases lt_or_gt_of_ne h with hab | hab
  · exact le_antisymm ((dist_le_iff hab).1 hdist.le) ((dist_ge_iff hab).1 hdist.ge)
  · rw [add_comm]
    exact le_antisymm ((dist_le_iff hab).1 hdist.ge) ((dist_ge_iff hab).1 hdist.le)

/-! ## Which sizes are read as a number -/

/-- Halfway to the number before; there is none before zero. -/
def lowerAt : Nat → ℚ
  | 0 => 0
  | n + 1 => upperAt n

section
variable {q : ℚ} {x y : Binary64}

theorem size_lt_size_iff : x.size < y.size ↔ x.rank < y.rank := by
  rw [size_eq, size_eq, strictMono_sizeAt.lt_iff_lt]

theorem Nearest.two_mul_le (h : Nearest q x) (hy : y.isFinite = true) (hlt : x.size < y.size) :
    2 * q ≤ x.size + y.size ∧ (x.significand % 2 ≠ 0 → 2 * q < x.size + y.size) := by
  have hle := (dist_le_iff hlt).1 (h.dist_le y hy)
  refine ⟨hle, fun hodd => lt_of_le_of_ne hle fun heq => hodd ?_⟩
  exact h.even_of_tie y hy hlt.ne' (le_antisymm (h.dist_le y hy) ((dist_ge_iff hlt).2 heq.ge))

theorem Nearest.le_two_mul (h : Nearest q x) (hy : y.isFinite = true) (hlt : y.size < x.size) :
    y.size + x.size ≤ 2 * q ∧ (x.significand % 2 ≠ 0 → y.size + x.size < 2 * q) := by
  have hle := (dist_ge_iff hlt).1 (h.dist_le y hy)
  refine ⟨hle, fun hodd => lt_of_le_of_ne hle fun heq => hodd ?_⟩
  exact h.even_of_tie y hy hlt.ne (le_antisymm (h.dist_le y hy) ((dist_le_iff hlt).2 heq.ge))

theorem isFinite_ofRank {n : Nat} (h : n ≤ maxRank) : (ofRank n).isFinite = true ∧ (ofRank n).size = sizeAt n := by
  have hmax : maxRank < 2 ^ 63 := by decide
  have hmax' : maxRank < 2047 * 2 ^ 52 := by decide
  have hrank : (ofRank n).rank = n := rank_ofRank (by omega)
  rw [isFinite_iff, size_eq, hrank]
  exact ⟨by omega, rfl⟩

theorem le_maxRank (hx : x.isFinite = true) : x.rank ≤ maxRank := by
  have := isFinite_iff.1 hx
  unfold maxRank
  omega

theorem Nearest.le_upperAt (h : Nearest q x) :
    q ≤ upperAt x.rank ∧ (x.significand % 2 ≠ 0 → q < upperAt x.rank) := by
  rcases Nat.lt_or_eq_of_le (le_maxRank h.isFinite) with hlt | hmax
  · obtain ⟨hy, hsize⟩ := isFinite_ofRank (Nat.succ_le_of_lt hlt)
    have hstep : x.size < (ofRank (x.rank + 1)).size := by
      rw [hsize, size_eq]
      exact strictMono_sizeAt x.rank.lt_succ_self
    have htwo := h.two_mul_le hy hstep
    rw [hsize, size_eq x, ← upperAt_eq] at htwo
    exact ⟨by linarith [htwo.1], fun hodd => by linarith [htwo.2 hodd]⟩
  · rw [hmax, upperAt_maxRank]
    exact ⟨h.lt_overflow.le, fun _ => h.lt_overflow⟩

theorem Nearest.lowerAt_le (h : Nearest q x) (hq : 0 ≤ q) :
    lowerAt x.rank ≤ q ∧ (x.significand % 2 ≠ 0 → lowerAt x.rank < q) := by
  cases hrank : x.rank with
  | zero =>
    refine ⟨hq, fun hodd => absurd ?_ hodd⟩
    rw [significand_eq, significandAt_mod_two, hrank]
  | succ m =>
    have hm : m ≤ maxRank := by
      have := le_maxRank h.isFinite
      omega
    obtain ⟨hy, hsize⟩ := isFinite_ofRank hm
    have hstep : (ofRank m).size < x.size := by
      rw [hsize, size_eq, hrank]
      exact strictMono_sizeAt m.lt_succ_self
    have htwo := h.le_two_mul hy hstep
    rw [hsize, size_eq x, hrank, ← upperAt_eq] at htwo
    exact ⟨by rw [lowerAt]; linarith [htwo.1], fun hodd => by rw [lowerAt]; linarith [htwo.2 hodd]⟩

/-- Below the lower end, the numbers before are not farther. -/
theorem size_add_size_le_of_lt (h : y.rank < x.rank) : y.size + x.size ≤ 2 * lowerAt x.rank := by
  rw [size_eq, size_eq]
  cases hrank : x.rank with
  | zero => omega
  | succ m =>
    rw [lowerAt, upperAt_eq]
    have hle : sizeAt y.rank ≤ sizeAt m := strictMono_sizeAt.monotone (by omega)
    linarith

theorem le_size_add_size_of_lt (h : x.rank < y.rank) : 2 * upperAt x.rank ≤ x.size + y.size := by
  rw [size_eq, size_eq, upperAt_eq]
  have hle : sizeAt (x.rank + 1) ≤ sizeAt y.rank := strictMono_sizeAt.monotone h
  linarith

theorem nearest_of_between (hx : x.isFinite = true) (hlow : lowerAt x.rank ≤ q) (hhigh : q ≤ upperAt x.rank)
    (hodd : x.significand % 2 ≠ 0 → lowerAt x.rank < q ∧ q < upperAt x.rank) : Nearest q x where
  isFinite := hx
  lt_overflow := by
    rw [← upperAt_maxRank]
    rcases Nat.lt_or_eq_of_le (le_maxRank hx) with hlt | hmax
    · exact lt_of_le_of_lt hhigh (strictMono_upperAt hlt)
    · have hsig : x.significand % 2 ≠ 0 := by
        rw [significand_eq, hmax]
        decide
      exact hmax ▸ (hodd hsig).2
  dist_le y hy := by
    rcases Nat.lt_trichotomy y.rank x.rank with hlt | heq | hlt
    · exact (dist_ge_iff (size_lt_size_iff.2 hlt)).2 (by linarith [size_add_size_le_of_lt hlt])
    · rw [size_eq, size_eq, heq]
    · exact (dist_le_iff (size_lt_size_iff.2 hlt)).2 (by linarith [le_size_add_size_of_lt hlt])
  even_of_tie y hy hne htie := by
    by_contra hsig
    obtain ⟨hlow', hhigh'⟩ := hodd hsig
    have hmiddle := two_mul_eq_of_dist_eq hne.symm htie
    rcases Nat.lt_trichotomy y.rank x.rank with hlt | heq | hlt
    · linarith [size_add_size_le_of_lt hlt]
    · exact hne (by rw [size_eq, size_eq, heq])
    · linarith [le_size_add_size_of_lt hlt]

theorem nearest_iff (hx : x.isFinite = true) (hq : 0 ≤ q) :
    Nearest q x ↔ lowerAt x.rank ≤ q ∧ q ≤ upperAt x.rank ∧
      (x.significand % 2 ≠ 0 → lowerAt x.rank < q ∧ q < upperAt x.rank) := by
  constructor
  · intro h
    obtain ⟨hlow, hlow'⟩ := h.lowerAt_le hq
    obtain ⟨hhigh, hhigh'⟩ := h.le_upperAt
    exact ⟨hlow, hhigh, fun hodd => ⟨hlow' hodd, hhigh' hodd⟩⟩
  · rintro ⟨hlow, hhigh, hodd⟩
    exact nearest_of_between hx hlow hhigh hodd

/-- If the middle between two numbers were read as both, both would be even. Then there is a number between them, which
is nearer. -/
theorem Nearest.not_rank_lt (hx : Nearest q x) (hy : Nearest q y) : ¬ x.rank < y.rank := by
  intro hlt
  have hsize := size_lt_size_iff.2 hlt
  obtain ⟨hle, hle'⟩ := hx.two_mul_le hy.isFinite hsize
  obtain ⟨hge, hge'⟩ := hy.le_two_mul hx.isFinite hsize
  have hxeven : x.rank % 2 = 0 := by
    rw [← significandAt_mod_two, ← significand_eq]
    by_contra hodd
    linarith [hle' hodd]
  have hyeven : y.rank % 2 = 0 := by
    rw [← significandAt_mod_two, ← significand_eq]
    by_contra hodd
    linarith [hge' hodd]
  have hnext : x.rank + 1 < y.rank := by omega
  obtain ⟨hz, hzsize⟩ := isFinite_ofRank (hnext.le.trans (le_maxRank hy.isFinite))
  have hxz : x.size < (ofRank (x.rank + 1)).size := by
    rw [hzsize, size_eq]
    exact strictMono_sizeAt x.rank.lt_succ_self
  have hzy : (ofRank (x.rank + 1)).size < y.size := by
    rw [hzsize, size_eq y]
    exact strictMono_sizeAt hnext
  linarith [(hx.two_mul_le hz hxz).1]

theorem Nearest.rank_eq (hx : Nearest q x) (hy : Nearest q y) : x.rank = y.rank :=
  Nat.le_antisymm (Nat.le_of_not_lt (hy.not_rank_lt hx)) (Nat.le_of_not_lt (hx.not_rank_lt hy))

/-- A number is read as itself. -/
theorem nearest_size (hx : x.isFinite = true) : Nearest x.size x where
  isFinite := hx
  lt_overflow := by
    rw [← upperAt_maxRank, size_eq]
    refine lt_of_lt_of_le ?_ (strictMono_upperAt.monotone (le_maxRank hx))
    rw [upperAt]
    linarith [gapAt_pos x.rank]
  dist_le y _ := by
    rw [sub_self, abs_zero]
    exact abs_nonneg _
  even_of_tie y _ hne htie := by
    rw [sub_self, abs_zero, eq_comm, abs_eq_zero, sub_eq_zero] at htie
    exact absurd htie.symm hne

end

end SqlSelect.Binary64
