import Mathlib.Algebra.Order.Field.Power
import Mathlib.Data.Rat.Cast.Order
import Mathlib.Tactic.Linarith
import Mathlib.Tactic.Positivity
import Mathlib.Tactic.Ring
import SqlSelect.Number.Decimal

/-!
# The member of a range with the fewest digits

Of a size `c * 10 ^ e`, the digits of `c` count and the power does not. `ReadingRange.shortest` looks for the highest
power of ten that has a multiple in the range, and takes one of its multiples. That no member of the range has fewer
digits, whole or not (`exists_shortest_eq`), is seen in three steps.

* If the multiples next to the value are outside, all are, because the range has no gaps (`not_covers_of_nearest?`).
* So no higher power of ten than the one taken has a multiple in the range (`roundest_spec`).
* Between a member with fewer digits and the one taken there would be a power of ten with more zeros.
-/

namespace SqlSelect.ReadingRange
variable {r : ReadingRange}

/-- The sizes in the range, whole or not. -/
def Covers (r : ReadingRange) (q : ℚ) : Prop :=
  r.low ≤ q ∧ q ≤ r.high ∧ (r.closed = false → r.low < q ∧ q < r.high)

theorem contains_iff {n : Nat} : r.contains n = true ↔ r.Covers n := by
  simp only [contains, Covers, Nat.cast_le, Nat.cast_lt]
  cases r.closed with
  | true => simp
  | false =>
    simp only [Bool.false_eq_true, if_false, Bool.and_eq_true, decide_eq_true_eq, true_implies]
    omega

theorem Covers.between {a b q : ℚ} (ha : r.Covers a) (hb : r.Covers b) (haq : a ≤ q) (hqb : q ≤ b) : r.Covers q :=
  ⟨ha.1.trans haq, hqb.trans hb.2.1, fun h => ⟨(ha.2.2 h).1.trans_le haq, hqb.trans_lt (hb.2.2 h).2⟩⟩

/-! ## Multiples next to the value -/

section Nearest
variable {unit : Nat}

theorem not_contains_of_nearest? (h : r.nearest? unit = none) :
    r.contains (r.value / unit * unit) = false ∧ r.contains (r.value / unit * unit + unit) = false := by
  unfold nearest? at h
  simp only at h
  split at h
  · cases h
  · cases h
  · cases h
  · exact ⟨‹_›, ‹_›⟩

theorem not_covers_of_nearest? (hunit : 0 < unit) (hvalue : r.Covers r.value) (h : r.nearest? unit = none) (m : Nat) :
    ¬ r.Covers (m * unit : Nat) := by
  intro hm
  obtain ⟨hbelow, habove⟩ := not_contains_of_nearest? h
  rcases Nat.lt_or_ge (r.value / unit) m with hlt | hle
  · have hvalue' : r.value ≤ r.value / unit * unit + unit := by
      have := Nat.lt_div_mul_add (a := r.value) hunit
      omega
    have hm' : r.value / unit * unit + unit ≤ m * unit := by
      rw [← Nat.succ_mul]
      exact Nat.mul_le_mul_right unit hlt
    rw [contains_iff.2 (hvalue.between hm (by exact_mod_cast hvalue') (by exact_mod_cast hm'))] at habove
    cases habove
  · have hm' : m * unit ≤ r.value / unit * unit := Nat.mul_le_mul_right unit hle
    have hvalue' : r.value / unit * unit ≤ r.value := Nat.div_mul_le_self _ _
    rw [contains_iff.2 (hm.between hvalue (by exact_mod_cast hm') (by exact_mod_cast hvalue'))] at hbelow
    cases hbelow

theorem le_of_nearest? {n : Nat} (h : r.nearest? unit = some n) : n ≤ r.value + unit := by
  have hbelow : r.value / unit * unit ≤ r.value := Nat.div_mul_le_self _ _
  unfold nearest? at h
  simp only at h
  split at h
  · cases h
    split <;> omega
  · cases h
    omega
  · cases h
    omega
  · cases h

/-- Zero is below each unit, and nothing is nearer to zero. -/
theorem nearest?_of_value_eq_zero (hunit : 0 < unit) (hvalue : r.Covers r.value) (h : r.value = 0) :
    r.nearest? unit = some 0 := by
  have hzero : r.contains 0 = true := by
    rw [contains_iff, ← h]
    exact hvalue
  unfold nearest?
  simp only [h, Nat.zero_div, Nat.zero_mul, Nat.zero_add, hzero]
  cases r.contains unit with
  | true => simp [hunit]
  | false => rfl

end Nearest

/-! ## Powers of ten -/

theorem roundest_spec (hvalue : r.Covers r.value) (zeros : Nat) :
    ∃ k ≤ zeros, 10 ^ k ∣ r.roundest zeros ∧ r.Covers (r.roundest zeros) ∧ r.roundest zeros ≤ r.value + 10 ^ k ∧
      ∀ j, k < j → j ≤ zeros → ∀ m : Nat, ¬ r.Covers (m * 10 ^ j : Nat) := by
  induction zeros with
  | zero => exact ⟨0, le_rfl, one_dvd _, hvalue, Nat.le_add_right _ _, fun j hj hj' => by omega⟩
  | succ zeros ih =>
    rw [roundest, Nat.pow_eq]
    cases hnearest : r.nearest? (10 ^ (zeros + 1)) with
    | some n =>
      refine ⟨zeros + 1, le_rfl, dvd_of_nearest? hnearest, ?_, le_of_nearest? hnearest, fun j hj hj' => by omega⟩
      exact contains_iff.1 (contains_of_nearest? hnearest)
    | none =>
      obtain ⟨k, hk, hdvd, hcovers, hle, hnone⟩ := ih
      refine ⟨k, by omega, hdvd, hcovers, hle, fun j hj hj' => ?_⟩
      rcases Nat.lt_or_eq_of_le hj' with hlt | rfl
      · exact hnone j hj (by omega)
      · exact not_covers_of_nearest? (by positivity) hvalue hnearest

theorem roundest_of_value_eq_zero (hvalue : r.Covers r.value) (h : r.value = 0) (zeros : Nat) :
    r.roundest zeros = 0 := by
  cases zeros with
  | zero => exact h
  | succ zeros =>
    rw [roundest, Nat.pow_eq, nearest?_of_value_eq_zero (by positivity) hvalue h]
    rfl

theorem covers_shortest (hvalue : r.Covers r.value) : r.Covers r.shortest := by
  obtain ⟨k, -, -, hcovers, -⟩ := roundest_spec hvalue (Numeral.digits r.value).length
  exact hcovers

theorem value_lt_pow_length (r : ReadingRange) : r.value < 10 ^ (Numeral.digits r.value).length :=
  (Nat.length_toDigits_le_iff (by decide) (List.length_pos_iff.2 (Numeral.digits_ne_nil _))).1 le_rfl

/-- A member with fewer digits is a multiple of a higher power of ten, or there is a power of ten with more zeros between
the two. -/
theorem Covers.exists_coarser {c c' k s : Nat} {e : ℤ} (hq : r.Covers (c * 10 ^ e))
    (hr : r.Covers (10 ^ k * c' : Nat)) (hc : c < 10 ^ (s + 1)) (hc' : 10 ^ (s + 1) ≤ c') :
    ∃ m : Nat, r.Covers (m * 10 ^ (k + 1) : Nat) := by
  rcases lt_or_ge (k : ℤ) e with hke | hke
  · obtain ⟨i, hi⟩ := Int.le.dest (Int.add_one_le_of_lt hke)
    have hpow : (10 : ℚ) ^ e = 10 ^ i * 10 ^ (k + 1) := by
      rw [← pow_add, ← zpow_natCast, ← hi]
      congr 1
      push_cast
      ring
    refine ⟨c * 10 ^ i, ?_⟩
    push_cast
    rwa [mul_assoc, ← hpow]
  · have hstep : 10 ^ s * 10 ^ (k + 1) = 10 ^ k * 10 ^ (s + 1) := by ring
    have hpow : (10 : ℚ) ^ e ≤ 10 ^ k := by
      rw [← zpow_natCast]
      exact zpow_le_zpow_right₀ (by norm_num) hke
    refine ⟨10 ^ s, hq.between hr ?_ ?_⟩
    · calc (c : ℚ) * 10 ^ e ≤ 10 ^ (s + 1) * 10 ^ k :=
            mul_le_mul (by exact_mod_cast hc.le) hpow (by positivity) (by positivity)
        _ = ((10 ^ s * 10 ^ (k + 1) : Nat) : ℚ) := by
            rw [hstep]
            push_cast
            ring
    · rw [hstep]
      exact_mod_cast Nat.mul_le_mul_left _ hc'

/-- If there is a member with at most `s` digits, the one taken has no more. -/
theorem exists_shortest_eq (hvalue : r.Covers r.value) (hzero : r.Covers 0 → r.value = 0) {c s : Nat} {e : ℤ}
    (hc : c < 10 ^ s) (hq : r.Covers (c * 10 ^ e)) : ∃ c' k, r.shortest = c' * 10 ^ k ∧ c' < 10 ^ s := by
  by_cases hv : r.value = 0
  · exact ⟨0, 0, roundest_of_value_eq_zero hvalue hv _, by positivity⟩
  cases s with
  | zero =>
    obtain rfl : c = 0 := Nat.lt_one_iff.1 hc
    exact absurd (hzero (by simpa using hq)) hv
  | succ s =>
    obtain ⟨k, hk, ⟨c', hc'⟩, hcovers, hle, hnone⟩ := roundest_spec hvalue (Numeral.digits r.value).length
    refine ⟨c', k, hc'.trans (Nat.mul_comm _ _), ?_⟩
    by_contra hge
    rcases Nat.lt_or_eq_of_le hk with hlt | hmax
    · obtain ⟨m, hm⟩ := hq.exists_coarser (hc' ▸ hcovers) hc (Nat.le_of_not_lt hge)
      exact hnone (k + 1) k.lt_succ_self hlt m hm
    · -- The power has more zeros than the value has digits, so only zero and the power itself are next to the value.
      have hvalue' : r.value < 10 ^ k := hmax ▸ r.value_lt_pow_length
      have hten : 10 ≤ 10 ^ (s + 1) := Nat.le_self_pow (by omega) 10
      have htwo : 10 ^ k * 2 ≤ 10 ^ k * c' := Nat.mul_le_mul_left _ (by omega)
      omega

end SqlSelect.ReadingRange
