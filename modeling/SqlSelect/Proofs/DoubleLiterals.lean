import Mathlib.Tactic.FieldSimp
import Mathlib.Tactic.LinearCombination
import SqlSelect.Literal
import SqlSelect.Proofs.Nearest
import SqlSelect.Proofs.Positional
import SqlSelect.Proofs.Roundest
import SqlSelect.Proofs.Widening

/-!
# Literals of floating-point numbers

The literal of a finite number is a canonical numeral that is read as this number and as no other, and no numeral with
fewer digits is (`Literal.text_double`).

`Binary64.range` holds what is read as the number, in units of a decimal place in which the ends are whole
(`Binary64.nearest_iff_covers`). The lower end is at half the gap below the number, and this gap is not always the one
above: at the first number of a binade it is half as wide (`Binary64.reachBelow_mul_gapAt`).
-/

namespace SqlSelect

namespace Binary64
variable {q : ℚ} {x y : Binary64}

/-! ## The range of a number -/

theorem four_mul_quarter (x : Binary64) : 4 * (x.quarter : ℚ) = gapAt x.rank * 10 ^ x.places := by
  rw [gapAt, ← scale_eq, quarter, places, Nat.pow_eq, Nat.pow_eq]
  rcases le_total x.scale 1077 with h | h
  · obtain ⟨i, hi⟩ := Nat.exists_eq_add_of_le h
    have hscale : (x.scale : ℤ) - 1075 = 2 - i := by omega
    rw [Nat.sub_eq_zero_of_le h, hi, Nat.add_sub_cancel_left, hscale, zpow_sub₀ (by norm_num), zpow_natCast]
    push_cast
    have hten : (10 : ℚ) ^ i = 2 ^ i * 5 ^ i := by rw [← mul_pow]; norm_num
    rw [hten]
    field_simp
  · obtain ⟨i, hi⟩ := Nat.exists_eq_add_of_le h
    have hscale : (x.scale : ℤ) - 1075 = (2 + i : Nat) := by omega
    rw [Nat.sub_eq_zero_of_le h, hscale, zpow_natCast, hi, Nat.add_sub_cancel_left]
    push_cast
    ring

theorem reachBelow_mul_gapAt {n : Nat} (h : x.rank = n + 1) : x.reachBelow * gapAt (n + 1) = 2 * gapAt n := by
  rw [reachBelow, fractionField_eq, exponentField_eq, h]
  unfold gapAt
  split
  · have hscale : scaleAt (n + 1) = scaleAt n + 1 := by
      unfold scaleAt
      omega
    rw [hscale, Nat.cast_one, one_mul, ← zpow_one_add₀ (by norm_num)]
    congr 1
    push_cast
    ring
  · have hscale : scaleAt (n + 1) = scaleAt n := by
      unfold scaleAt
      omega
    rw [hscale, Nat.cast_ofNat]

theorem value_range (x : Binary64) : (x.range.value : ℚ) = x.size * 10 ^ x.places := by
  have hquarter := four_mul_quarter x
  simp only [range]
  push_cast
  calc (4 * x.significand * x.quarter : ℚ) = x.significand * (4 * x.quarter) := by ring
    _ = x.size * 10 ^ x.places := by
      rw [hquarter, size_eq, sizeAt, gapAt, significand_eq]
      ring

theorem high_range (x : Binary64) : (x.range.high : ℚ) = upperAt x.rank * 10 ^ x.places := by
  have hquarter := four_mul_quarter x
  have hvalue := value_range x
  simp only [range] at hvalue ⊢
  push_cast at hvalue ⊢
  rw [upperAt, ← size_eq]
  linear_combination hvalue + hquarter / 2

theorem low_range (x : Binary64) : (x.range.low : ℚ) = lowerAt x.rank * 10 ^ x.places := by
  cases hrank : x.rank with
  | zero =>
    have hsig : x.significand = 0 := by
      rw [significand_eq, hrank]
      rfl
    simp only [range, hsig, Nat.mul_zero, Nat.zero_sub, Nat.cast_zero, lowerAt, zero_mul]
  | succ n =>
    have hreach : x.reachBelow ≤ 4 * x.significand := by
      have hsig : 0 < x.significand := by
        rw [significand_eq, hrank]
        unfold significandAt
        split <;> omega
      unfold reachBelow
      split <;> omega
    have hquarter := four_mul_quarter x
    have hvalue := value_range x
    have hgap := reachBelow_mul_gapAt hrank
    have hsize := sizeAt_succ n
    rw [← hrank, ← size_eq] at hsize
    rw [hrank] at hquarter
    simp only [range] at hvalue ⊢
    push_cast [Nat.cast_sub hreach] at hvalue ⊢
    rw [lowerAt, upperAt]
    linear_combination hvalue - x.reachBelow / 4 * hquarter - 10 ^ x.places / 4 * hgap + 10 ^ x.places * hsize

theorem closed_range : x.range.closed = false ↔ x.significand % 2 ≠ 0 := by
  simp [range]

/-- The range holds the sizes that are read as the number. -/
theorem nearest_iff_covers (hx : x.isFinite = true) (hq : 0 ≤ q) :
    Nearest q x ↔ x.range.Covers (q * 10 ^ x.places) := by
  have hpow : (0 : ℚ) < 10 ^ x.places := by positivity
  rw [nearest_iff hx hq, ReadingRange.Covers, closed_range, low_range, high_range, mul_le_mul_iff_left₀ hpow,
    mul_le_mul_iff_left₀ hpow, mul_lt_mul_iff_left₀ hpow, mul_lt_mul_iff_left₀ hpow]

theorem size_nonneg (x : Binary64) : 0 ≤ x.size := by
  rw [size]
  positivity

theorem covers_value (hx : x.isFinite = true) : x.range.Covers x.range.value := by
  rw [value_range, ← nearest_iff_covers hx x.size_nonneg]
  exact nearest_size hx

/-- Only zero is so near to zero. -/
theorem value_range_of_covers_zero (h : x.range.Covers 0) : x.range.value = 0 := by
  have hlow := h.1
  rw [low_range] at hlow
  cases hrank : x.rank with
  | zero =>
    have hvalue := value_range x
    rw [size_eq, hrank, sizeAt, show significandAt 0 = 0 from rfl, Nat.cast_zero, zero_mul, zero_mul] at hvalue
    exact_mod_cast hvalue
  | succ n =>
    have hupper : 0 < upperAt n := by
      have hsize : 0 ≤ sizeAt n := by
        rw [sizeAt]
        positivity
      rw [upperAt]
      linarith [gapAt_pos n]
    rw [hrank, lowerAt] at hlow
    have hpow : (0 : ℚ) < 10 ^ x.places := by positivity
    exact absurd hlow (not_le.2 (mul_pos hupper hpow))

/-! ## The text of a number -/

/-- The numeral that `text` writes for a finite number. -/
def numeral (x : Binary64) : Positional :=
  x.shortest.positional x.isNegative

theorem isNaN_of_isFinite (hx : x.isFinite = true) : x.isNaN = false := by
  simp only [isFinite, bne_iff_ne, ne_eq] at hx
  simp [isNaN, hx]

theorem text_eq (hx : x.isFinite = true) : x.text = x.numeral.text := by
  rw [text, isNaN_of_isFinite hx, hx, numeral, Decimal.text_positional]
  rfl

theorem size_numeral (x : Binary64) : x.numeral.size * 10 ^ x.places = x.range.shortest := by
  have hsize : x.numeral.size = x.range.shortest / 10 ^ x.places := Decimal.size_positional x.shortest x.isNegative
  rw [hsize]
  field_simp

theorem nearest_numeral (hx : x.isFinite = true) : Nearest x.numeral.size x := by
  rw [nearest_iff_covers hx x.numeral.size_nonneg, size_numeral]
  exact ReadingRange.covers_shortest (covers_value hx)

theorem length_significant_numeral_le (hx : x.isFinite = true) {n : Positional} (hn : Nearest n.size x) :
    x.numeral.significant.length ≤ n.significant.length := by
  obtain ⟨zeros, hzeros⟩ := Numeral.value_eq_significant (n.whole ++ n.fraction)
  have hlt := Numeral.value_lt (Numeral.isRow_significant n.isRow)
  have hsize : n.size * 10 ^ x.places =
      (Numeral.value n.significant : ℚ) * 10 ^ ((zeros + x.places : ℤ) - n.fraction.length) := by
    have hrow := n.size_mul_pow
    rw [hzeros] at hrow
    push_cast at hrow
    rw [zpow_sub₀ (by norm_num), zpow_add₀ (by norm_num), zpow_natCast, zpow_natCast, zpow_natCast,
      Positional.significant]
    field_simp
    exact hrow
  have hcovers := (nearest_iff_covers hx n.size_nonneg).1 hn
  rw [hsize] at hcovers
  obtain ⟨c, k, hshortest, hc⟩ :=
    ReadingRange.exists_shortest_eq (covers_value hx) value_range_of_covers_zero hlt hcovers
  refine Numeral.length_significant_le x.numeral.isRow (a := x.places) (b := k + x.numeral.fraction.length) hc ?_
  have hrow : (Numeral.value (x.numeral.whole ++ x.numeral.fraction) : ℚ) * 10 ^ x.places =
      c * 10 ^ (k + x.numeral.fraction.length) := by
    have hshortest' := x.size_numeral
    rw [hshortest] at hshortest'
    push_cast at hshortest'
    rw [← Positional.size_mul_pow, pow_add]
    linear_combination 10 ^ x.numeral.fraction.length * hshortest'
  exact_mod_cast hrow

end Binary64

/-- The numeral is read as the number. -/
structure Positional.Reads (n : Positional) (x : Binary64) : Prop where
  negative : n.negative = x.isNegative
  nearest : Binary64.Nearest n.size x

theorem Positional.Reads.unique {n : Positional} {x y : Binary64} (hx : n.Reads x) (hy : n.Reads y) : x = y :=
  Binary64.eq_of_rank_eq (hx.negative.symm.trans hy.negative) (hx.nearest.rank_eq hy.nearest)

theorem Binary64.reads_numeral {x : Binary64} (hx : x.isFinite = true) : x.numeral.Reads x :=
  ⟨rfl, nearest_numeral hx⟩

theorem Binary64.text_injOn {x y : Binary64} (hx : x.isFinite = true) (hy : y.isFinite = true)
    (h : x.text = y.text) : x = y := by
  rw [text_eq hx, text_eq hy] at h
  have hreads := reads_numeral hy
  rw [← Positional.text_injective h] at hreads
  exact (reads_numeral hx).unique hreads

/-- **The literal of a finite number is read back as the number, and is the shortest that is.** Digits are counted
without the zeros at either end, which say nothing but the size. -/
theorem Literal.text_double :
    (∀ x : Binary64, x.isFinite = true → ∃ n : Positional, (Literal.double x).text = n.text ∧ n.Canonical ∧ n.Reads x ∧
      (∀ y, n.Reads y → y = x) ∧
      ∀ n' : Positional, Binary64.Nearest n'.size x → n.significant.length ≤ n'.significant.length) ∧
    (∀ x y : Binary64, x.isFinite = true → y.isFinite = true → (Literal.double x).text = (Literal.double y).text →
      x = y) ∧
    ∀ y : Binary32, y.isFinite = true → ∃ n : Positional, (toLiteral y).text = n.text ∧ (∃ x, n.Reads x) ∧
      ∀ x, n.Reads x → x.isNegative = y.isNegative ∧ x.size = y.size := by
  refine ⟨fun x hx => ?_, fun x y hx hy => Binary64.text_injOn hx hy, fun y hy => ?_⟩
  · have hreads := Binary64.reads_numeral hx
    exact ⟨x.numeral, Binary64.text_eq hx, Decimal.canonical_positional _ _, hreads, fun y hy => hy.unique hreads,
      fun n' hn' => Binary64.length_significant_numeral_le hx hn'⟩
  · have hwiden := Binary32.widensTo_widen hy
    have hreads := Binary64.reads_numeral hwiden.isFinite
    refine ⟨y.widen.numeral, Binary64.text_eq hwiden.isFinite, ⟨y.widen, hreads⟩, fun x hx => ?_⟩
    rw [hx.unique hreads]
    exact ⟨hwiden.isNegative, hwiden.size⟩

/-- A number just below `10 ^ 23`. This power of ten is halfway to the next number and is read as the one with the
even significand. A tenth in single precision has the literal of the number it is, not that of a tenth. -/
theorem Literal.text_double_halfway :
    let x : Binary64 := ⟨0x44B52D02C7E14AF6⟩
    let y : Binary32 := ⟨0x3DCCCCCD⟩
    x.isFinite = true ∧ y.isFinite = true ∧ (Literal.double x).text = "100000000000000000000000" ∧
      x.size = 10 ^ 23 - 2 ^ 23 ∧ Binary64.Nearest (10 ^ 23) x ∧ (toLiteral y).text = "0.10000000149011612" ∧
      ∃ n z, Positional.text n = "0.10000000149011612" ∧ n.Reads z ∧ z.size = 13421773 / 2 ^ 27 := by
  intro x y
  have hx : x.isFinite = true := by decide
  have hy : y.isFinite = true := by decide
  have hxtext : (Literal.double x).text = "100000000000000000000000" := by decide +kernel
  have hytext : (toLiteral y).text = "0.10000000149011612" := by decide +kernel
  obtain ⟨hdouble, -, hsingle⟩ := Literal.text_double
  refine ⟨hx, hy, hxtext, ?_, ?_, hytext, ?_⟩
  · have hsig : x.significand = 5960464477539062 := by decide +kernel
    have hscale : x.scale = 1099 := by decide +kernel
    rw [Binary64.size, hsig, hscale]
    norm_num
  · let n : Positional :=
      ⟨false, Numeral.digits (10 ^ 23), [], Numeral.digits_ne_nil _, Numeral.isRow_digits _, List.forall_mem_nil _⟩
    have hsize : n.size = 10 ^ 23 := by
      norm_num [n, Positional.size, Numeral.value_digits, Numeral.value_nil]
    obtain ⟨n', htext, -, hreads, -⟩ := hdouble x hx
    have hn : n' = n := Positional.text_injective (htext.symm.trans (hxtext.trans (by decide +kernel)))
    rw [← hsize, ← hn]
    exact hreads.nearest
  · obtain ⟨n, htext, ⟨z, hz⟩, hexact⟩ := hsingle y hy
    have hsig : y.significand = 13421773 := by decide +kernel
    have hexponent : y.exponentField = 123 := by decide +kernel
    refine ⟨n, z, htext.symm.trans hytext, hz, ?_⟩
    rw [(hexact z hz).2, Binary32.size, hsig, hexponent]
    norm_num

end SqlSelect
