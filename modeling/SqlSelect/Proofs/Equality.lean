import SqlSelect.Proofs.Clean
import SqlSelect.Proofs.DoubleLiterals
import SqlSelect.Proofs.Instants

/-!
# Equality of literals and of their texts

Two literals are equal if they mean the same, and a statement shows what is meant by a text. The two mostly go together,
and `Literal.beq_text` says exactly where they do not:

* the zeros are one number and have two texts, as one of them has a sign;
* an instant has a text for each distance from UTC, and a text leaves open from which of them it is;
* what is not a number has a text and does not even equal itself.

Equality is symmetric and transitive. Literals of most kinds are equal only to themselves; numbers are equal by their
values (`Binary64.numEq_iff_value_eq`) and date-times by their instants (`DateTime.instant_eq_iff`).
-/

namespace SqlSelect

/-! ## Numbers -/

namespace Binary64
variable {x y z : Binary64}

theorem numEq_iff :
    x.numEq y = true ↔
      x.isNaN = false ∧ y.isNaN = false ∧ (x = y ∨ x.isZero = true ∧ y.isZero = true) := by
  have hbits : x.bits = y.bits ↔ x = y := by
    cases x; cases y
    simp
  simp only [numEq, Bool.and_eq_true, Bool.not_eq_true', Bool.or_eq_true, beq_iff_eq, hbits, and_assoc]

theorem numEq_trans (hxy : x.numEq y = true) (hyz : y.numEq z = true) : x.numEq z = true := by
  rw [numEq_iff] at hxy hyz ⊢
  obtain ⟨hx, -, hxy⟩ := hxy
  obtain ⟨-, hz, hyz⟩ := hyz
  refine ⟨hx, hz, ?_⟩
  rcases hxy with rfl | ⟨hx0, hy0⟩
  · exact hyz
  · rcases hyz with rfl | ⟨-, hz0⟩
    · exact .inr ⟨hx0, hy0⟩
    · exact .inr ⟨hx0, hz0⟩

/-! Of zero there are two, and of all other numbers one. -/

theorem isZero_iff : x.isZero = true ↔ x.rank = 0 := by
  simp only [isZero, exponentField_eq, fractionField_eq, Bool.and_eq_true, beq_iff_eq]
  omega

theorem size_eq_iff : x.size = y.size ↔ x.rank = y.rank := by
  rw [size_eq, size_eq, strictMono_sizeAt.injective.eq_iff]

theorem size_eq_zero_iff : x.size = 0 ↔ x.isZero = true := by
  have hzero : sizeAt 0 = 0 := by
    rw [sizeAt, show significandAt 0 = 0 from rfl, Nat.cast_zero, zero_mul]
  rw [size_eq, ← hzero, strictMono_sizeAt.injective.eq_iff, isZero_iff]

theorem eq_of_isZero (hx : x.isZero = true) (hy : y.isZero = true) (hsign : x.isNegative = y.isNegative) : x = y :=
  eq_of_rank_eq hsign ((isZero_iff.1 hx).trans (isZero_iff.1 hy).symm)

/-- The size with the sign. -/
def value (x : Binary64) : ℚ :=
  if x.isNegative then -x.size else x.size

theorem value_eq_zero_iff : x.value = 0 ↔ x.isZero = true := by
  unfold value
  split <;> simp only [neg_eq_zero, size_eq_zero_iff]

theorem abs_value (x : Binary64) : |x.value| = x.size := by
  unfold value
  split
  · rw [abs_neg, abs_of_nonneg x.size_nonneg]
  · exact abs_of_nonneg x.size_nonneg

theorem value_eq_iff : x.value = y.value ↔ x = y ∨ x.isZero = true ∧ y.isZero = true := by
  constructor
  · intro h
    have hsize : x.size = y.size := by rw [← abs_value, h, abs_value]
    by_cases hsign : x.isNegative = y.isNegative
    · exact .inl (eq_of_rank_eq hsign (size_eq_iff.1 hsize))
    · -- Only zero is its own negative.
      have hopposite : x.value = -y.value := by
        unfold value
        rw [hsize, Bool.eq_not.2 hsign]
        cases y.isNegative <;> simp
      have hzero : y.value = 0 := self_eq_neg.1 (h.symm.trans hopposite)
      exact .inr ⟨value_eq_zero_iff.1 (h.trans hzero), value_eq_zero_iff.1 hzero⟩
  · rintro (rfl | ⟨hx, hy⟩)
    · rfl
    · rw [value_eq_zero_iff.2 hx, value_eq_zero_iff.2 hy]

theorem numEq_iff_value_eq (hx : x.isFinite = true) (hy : y.isFinite = true) :
    x.numEq y = true ↔ x.value = y.value := by
  rw [numEq_iff, value_eq_iff, isNaN_of_isFinite hx, isNaN_of_isFinite hy, eq_self, true_and, true_and]

/-! ## Texts of numbers -/

theorem text_of_not_isFinite (hx : x.isFinite = false) :
    x.text = if x.isNaN then "NaN" else if x.isNegative then "-inf" else "inf" := by
  unfold text
  rw [hx]
  split
  · rfl
  · split <;> rfl

theorem rank_of_not_isFinite (hx : x.isFinite = false) (hnan : x.isNaN = false) : x.rank = 2047 * 2 ^ 52 := by
  simp only [isFinite, isNaN, exponentField_eq, fractionField_eq, bne_eq_false_iff_eq] at hx hnan
  rw [hx, beq_self_eq_true, Bool.true_and, bne_eq_false_iff_eq] at hnan
  omega

theorem text_ne_of_isFinite (hx : x.isFinite = true) (hy : y.isFinite = false) : x.text ≠ y.text := by
  intro h
  -- One of these letters is in `NaN`, the other in `inf`, and neither is in a numeral.
  have hcapital : 'N' ∉ x.text.toList := by
    rw [text_eq hx]
    exact x.numeral.not_mem_text (by decide) (by decide) (by decide)
  have hsmall : 'n' ∉ x.text.toList := by
    rw [text_eq hx]
    exact x.numeral.not_mem_text (by decide) (by decide) (by decide)
  rw [h, text_of_not_isFinite hy] at hcapital hsmall
  split at hcapital
  · exact hcapital (by decide)
  · rename_i hnan
    rw [if_neg hnan] at hsmall
    split at hsmall <;> exact hsmall (by decide)

/-- The text of a number, an infinite one included, is that of no other double. -/
theorem eq_of_text_eq (hx : x.isNaN = false) (h : x.text = y.text) : x = y := by
  cases hxf : x.isFinite <;> cases hyf : y.isFinite
  · rw [text_of_not_isFinite hxf, text_of_not_isFinite hyf, hx] at h
    have hfields : y.isNaN = false ∧ x.isNegative = y.isNegative := by
      revert h
      cases y.isNaN <;> cases x.isNegative <;> cases y.isNegative <;> decide
    apply eq_of_rank_eq hfields.2
    rw [rank_of_not_isFinite hxf hx, rank_of_not_isFinite hyf hfields.1]
  · exact absurd h.symm (text_ne_of_isFinite hyf hxf)
  · exact absurd h (text_ne_of_isFinite hxf hyf)
  · exact text_injOn hxf hyf h

theorem text_eq_iff_of_numEq (h : x.numEq y = true) :
    x.text = y.text ↔ ¬ (x.isZero = true ∧ y.isZero = true ∧ x.isNegative ≠ y.isNegative) := by
  obtain ⟨hx, -, hxy⟩ := numEq_iff.1 h
  constructor
  · intro htext hzeros
    exact hzeros.2.2 (congrArg isNegative (eq_of_text_eq hx htext))
  · intro hzeros
    rcases hxy with rfl | ⟨hx0, hy0⟩
    · rfl
    · have hsign : x.isNegative = y.isNegative := by
        by_contra hsign
        exact hzeros ⟨hx0, hy0, hsign⟩
      rw [eq_of_isZero hx0 hy0 hsign]

end Binary64

/-! ## Texts of instants -/

theorem DateTime.text_eq_iff_of_instant_eq {t u : DateTime} (h : t.instant = u.instant) :
    t.text = u.text ↔ t.offset = u.offset := by
  rw [text_eq_iff]
  constructor
  · intro hfields
    by_contra hoffset
    exact fields_ne_of_offset_ne h hoffset hfields
  · intro hoffset
    obtain ⟨hdate, htime⟩ := (instant_eq_iff hoffset).1 h
    unfold fields
    rw [hdate, htime]

/-! ## Literals -/

namespace Literal
variable {a b c : Literal}

def isNaN : Literal → Bool
  | double x => x.isNaN
  | _ => false

/-- Zeros, one with a sign and one without. -/
inductive OppositeZeros : Literal → Literal → Prop
  | doubles {x y : Binary64} (left : x.isZero = true) (right : y.isZero = true) (sign : x.isNegative ≠ y.isNegative) :
    OppositeZeros (double x) (double y)

/-- Date-times at different distances from UTC. -/
inductive OffsetsDiffer : Literal → Literal → Prop
  | dateTimes {t u : DateTime} (offset : t.offset ≠ u.offset) : OffsetsDiffer (dateTime t) (dateTime u)

theorem beq_self (a : Literal) : (a == a) = !a.isNaN := by
  cases a with
  | double x => exact x.numEq_self
  | _ => simp [beq_def, sameMeaning, isNaN]

theorem beq_dateTime_iff {t u : DateTime} : (dateTime t == dateTime u) = true ↔ t.instant = u.instant := by
  rw [beq_def, sameMeaning, beq_iff_eq]

/-- Equal literals are numbers of one value, date-times of one instant, or the same. -/
theorem beq_cases (h : (a == b) = true) :
    (∃ x y, a = double x ∧ b = double y ∧ x.numEq y = true) ∨
      (∃ t u, a = dateTime t ∧ b = dateTime u ∧ t.instant = u.instant) ∨ a = b := by
  rw [beq_def] at h
  unfold sameMeaning at h
  split at h
  case h_5 x y => exact .inl ⟨x, y, rfl, rfl, h⟩
  case h_7 t u => exact .inr (.inl ⟨t, u, rfl, rfl, beq_iff_eq.1 h⟩)
  case h_8 => cases h
  -- What is left are the kinds whose values are compared as they are.
  all_goals simp_all

theorem beq_symm (h : (a == b) = true) : (b == a) = true := by
  rcases beq_cases h with ⟨x, y, rfl, rfl, hxy⟩ | ⟨t, u, rfl, rfl, htu⟩ | rfl
  · exact (y.numEq_comm x).trans hxy
  · exact beq_dateTime_iff.2 htu.symm
  · exact h

theorem beq_comm (a b : Literal) : (a == b) = (b == a) :=
  Bool.eq_iff_iff.2 ⟨beq_symm, beq_symm⟩

theorem beq_trans (hab : (a == b) = true) (hbc : (b == c) = true) : (a == c) = true := by
  rcases beq_cases hab with ⟨x, y, rfl, rfl, hxy⟩ | ⟨t, u, rfl, rfl, htu⟩ | rfl
  · rcases beq_cases hbc with ⟨y', z, hy, rfl, hyz⟩ | ⟨u, v, hu, -, -⟩ | rfl
    · cases hy
      exact Binary64.numEq_trans hxy hyz
    · cases hu
    · exact hab
  · rcases beq_cases hbc with ⟨y, z, hy, -, -⟩ | ⟨u', v, hu, rfl, huv⟩ | rfl
    · cases hy
    · cases hu
      exact beq_dateTime_iff.2 (htu.trans huv)
    · exact hab
  · exact hbc

theorem ctorIdx_eq_of_beq (h : (a == b) = true) : a.ctorIdx = b.ctorIdx := by
  rcases beq_cases h with ⟨x, y, rfl, rfl, -⟩ | ⟨t, u, rfl, rfl, -⟩ | rfl <;> rfl

theorem text_eq_iff_of_beq (h : (a == b) = true) :
    a.text = b.text ↔ ¬ OppositeZeros a b ∧ ¬ OffsetsDiffer a b := by
  rcases beq_cases h with ⟨x, y, rfl, rfl, hxy⟩ | ⟨t, u, rfl, rfl, htu⟩ | rfl
  · have hzeros : OppositeZeros (double x) (double y) ↔
        x.isZero = true ∧ y.isZero = true ∧ x.isNegative ≠ y.isNegative :=
      ⟨fun ⟨hx, hy, hsign⟩ => ⟨hx, hy, hsign⟩, fun ⟨hx, hy, hsign⟩ => ⟨hx, hy, hsign⟩⟩
    have hoffsets : ¬ OffsetsDiffer (double x) (double y) := nofun
    rw [hzeros, and_iff_left hoffsets]
    exact Binary64.text_eq_iff_of_numEq hxy
  · have hzeros : ¬ OppositeZeros (dateTime t) (dateTime u) := nofun
    have hoffsets : OffsetsDiffer (dateTime t) (dateTime u) ↔ t.offset ≠ u.offset :=
      ⟨fun ⟨hoffset⟩ => hoffset, .dateTimes⟩
    rw [hoffsets, and_iff_right hzeros, not_not]
    exact DateTime.text_eq_iff_of_instant_eq htu
  · refine iff_of_true rfl ⟨?_, ?_⟩
    · rintro ⟨-, -, hsign⟩
      exact hsign rfl
    · rintro ⟨hoffset⟩
      exact hoffset rfl

/-- Among literals of one kind a text has one meaning, date-times apart. -/
theorem beq_of_text_eq (hkind : a.ctorIdx = b.ctorIdx) (htext : a.text = b.text) (hnan : a.isNaN = false)
    (htime : ∀ t, a ≠ dateTime t) : (a == b) = true := by
  have hab : a = b := by
    cases a <;> cases b <;> try cases hkind
    case null.null => rfl
    case bool.bool m n => rw [text_bool_injective htext]
    case signed.signed m n => rw [Int64.toInt_inj.1 (Numeral.signed_injective htext)]
    case unsigned.unsigned m n =>
      rw [UInt64.toNat_inj.1 (Numeral.digits_injective (String.ofList_injective htext))]
    case double.double x y => rw [Binary64.eq_of_text_eq hnan htext]
    case string.string s t => exact congrArg string htext
    case dateTime.dateTime t u => exact absurd rfl (htime t)
  rw [← hab, beq_self, hnan]
  rfl

end Literal

/-- **Equality of literals is told by their texts, up to three exceptions**: zeros with different signs are equal, what
is not a number equals nothing, and a date-time is shown as its place shows it, to the microsecond. -/
theorem Literal.beq_text :
    (∀ a b : Literal, (a == b) = (b == a)) ∧
    (∀ a b c : Literal, (a == b) = true → (b == c) = true → (a == c) = true) ∧
    (∀ a : Literal, (a == a) = !a.isNaN) ∧
    (∀ a b : Literal, a.ctorIdx ≠ b.ctorIdx → (a == b) = false) ∧
    (∀ x y : Binary64, x.isFinite = true → y.isFinite = true →
      ((Literal.double x == Literal.double y) = true ↔ x.value = y.value)) ∧
    (∀ t u : DateTime, t.offset = u.offset →
      ((Literal.dateTime t == Literal.dateTime u) = true ↔ t.date = u.date ∧ t.time = u.time)) ∧
    (∀ a b : Literal, (a == b) = true → (a.text = b.text ↔ ¬ OppositeZeros a b ∧ ¬ OffsetsDiffer a b)) ∧
    ∀ a b : Literal, a.ctorIdx = b.ctorIdx → a.text = b.text → a.isNaN = false → (∀ t, a ≠ .dateTime t) →
      (a == b) = true := by
  refine ⟨beq_comm, fun a b c => beq_trans, beq_self, fun a b hkind => ?_, fun x y => Binary64.numEq_iff_value_eq,
    fun t u hoffset => ?_, fun a b => text_eq_iff_of_beq, fun a b => beq_of_text_eq⟩
  · rw [← Bool.not_eq_true]
    exact fun h => hkind (ctorIdx_eq_of_beq h)
  · rw [beq_dateTime_iff, DateTime.instant_eq_iff hoffset]

/-- Two zeros; the leap day of year 0 half an hour after midnight, which is still the day before in UTC, and then a
nanosecond later, which the text does not show; what is not a number; and a five of two kinds. -/
theorem Literal.beq_text_around_leap_day :
    let zero : Binary64 := ⟨0⟩
    let minusZero : Binary64 := ⟨0x8000000000000000⟩
    let nan : Binary64 := ⟨0x7FF8000000000000⟩
    let here : DateTime := ⟨⟨0, 2, 29, by decide, by decide, by decide⟩,
      ⟨0, 30, 0, 0, by decide, by decide, by decide, by decide⟩, 3600⟩
    let utc : DateTime := ⟨⟨0, 2, 28, by decide, by decide, by decide⟩,
      ⟨23, 30, 0, 0, by decide, by decide, by decide, by decide⟩, 0⟩
    let later : DateTime := { here with time := { here.time with nanosecond := 1, nanosecond_lt := by decide } }
    ((Literal.double zero == .double minusZero) = true ∧ zero.value = minusZero.value ∧
      (Literal.double zero).text ≠ (Literal.double minusZero).text) ∧
    ((Literal.dateTime here == .dateTime utc) = true ∧ (Literal.dateTime here).text ≠ (Literal.dateTime utc).text) ∧
    ((Literal.dateTime here).text = (Literal.dateTime later).text ∧
      (Literal.dateTime here == .dateTime later) = false ∧ (Literal.dateTime utc == .dateTime later) = false) ∧
    ((Literal.double nan).text = "NaN" ∧ (Literal.double nan == .double nan) = false) ∧
    ((Literal.signed 5).text = (Literal.unsigned 5).text ∧ (Literal.signed 5 == .unsigned 5) = false ∧
      (Literal.signed 5 == .signed 5) = true) := by
  intro zero minusZero nan here utc later
  obtain ⟨-, htrans, hself, hkind, hvalue, hoffset, htext, hconverse⟩ := Literal.beq_text
  have hzeros : (Literal.double zero == .double minusZero) = true := by decide
  have hinstants : (Literal.dateTime here == .dateTime utc) = true := by decide +kernel
  have hlater : (Literal.dateTime here == .dateTime later) ≠ true := by
    intro h
    exact absurd ((hoffset here later rfl).1 h).2 (by decide)
  refine ⟨⟨hzeros, ?_, ?_⟩, ⟨hinstants, ?_⟩, ⟨by decide, Bool.eq_false_iff.2 hlater, ?_⟩, ⟨by decide, ?_⟩,
    ⟨by decide, hkind _ _ (by decide), ?_⟩⟩
  · exact (hvalue zero minusZero (by decide) (by decide)).1 hzeros
  · intro h
    exact ((htext _ _ hzeros).1 h).1 (.doubles (by decide) (by decide) (by decide))
  · intro h
    exact ((htext _ _ hinstants).1 h).2 (.dateTimes (by decide))
  · rw [Bool.eq_false_iff]
    intro h
    exact hlater (htrans _ _ _ hinstants h)
  · have hnan : (Literal.double nan).isNaN = true := by decide
    rw [hself, hnan]
    rfl
  · exact hconverse _ _ rfl rfl rfl (by simp)

end SqlSelect
