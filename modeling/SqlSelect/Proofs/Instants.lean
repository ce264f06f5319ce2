import SqlSelect.Proofs.LocalTime

/-!
# Instants

Each date has a day number of its own: the months of a year do not reach beyond the days that the year has
(`Date.dayOfYear_lt`), and the years themselves do not overlap (`Date.daysBeforeYear_add_le`), before year 0 as well as
behind it. So at places with the same distance from UTC an instant has one date and one time of day
(`DateTime.instant_eq_iff`). At places with different distances the clocks show different times at one instant, and they
differ in whole seconds (`DateTime.fields_ne_of_offset_ne`).
-/

namespace SqlSelect

/-! ## Days -/

namespace Date
variable {d e : Date}

def daysInYear (year : Int) : Nat :=
  if isLeapYear year then 366 else 365

theorem daysBeforeYear_next (year : Int) : daysBeforeYear (year + 1) = daysBeforeYear year + daysInYear year := by
  rw [daysBeforeYear_succ]
  unfold daysInYear
  split <;> rfl

theorem daysBeforeYear_le_add (year : Int) (n : Nat) : daysBeforeYear year ≤ daysBeforeYear (year + n) := by
  induction n with
  | zero => exact Int.le_of_eq (congrArg _ (Int.add_zero year).symm)
  | succ n ih =>
    have hnext := daysBeforeYear_next (year + n)
    have hshift : year + ((n + 1 : Nat) : Int) = year + n + 1 := by omega
    rw [hshift]
    omega

theorem daysBeforeYear_add_le {y z : Int} (h : y < z) : daysBeforeYear y + daysInYear y ≤ daysBeforeYear z := by
  have hz : y + 1 + ((z - y - 1).toNat : Int) = z := by omega
  rw [← daysBeforeYear_next, ← hz]
  exact daysBeforeYear_le_add (y + 1) _

theorem daysBeforeMonth_add_le (year : Int) {m n : Nat} (hm : 1 ≤ m) (h : m < n) :
    daysBeforeMonth year m + daysInMonth year m ≤ daysBeforeMonth year n := by
  rw [← daysBeforeMonth_succ year m hm]
  induction h with
  | refl => exact Nat.le_refl _
  | @step n hn ih =>
    have hpos : 1 ≤ n := Nat.le_trans (Nat.le_succ_of_le hm) hn
    show daysBeforeMonth year (m + 1) ≤ daysBeforeMonth year (n + 1)
    rw [daysBeforeMonth_succ year n hpos]
    exact Nat.le_add_right_of_le ih

/-- The months of a year have as many days as the year. -/
theorem daysBeforeMonth_thirteen (year : Int) : daysBeforeMonth year 13 = daysInYear year := by
  cases h : isLeapYear year <;> simp [daysBeforeMonth, List.range_succ, daysInMonth, daysInYear, h]

/-- Days of the year before this one. -/
def dayOfYear (d : Date) : Nat :=
  daysBeforeMonth d.year d.month + (d.day - 1)

theorem dayNumber_eq (d : Date) : d.dayNumber = daysBeforeYear d.year + d.dayOfYear := by
  have hday := d.day_range
  unfold dayNumber dayOfYear
  omega

theorem dayOfYear_lt (d : Date) : d.dayOfYear < daysInYear d.year := by
  have hmonth := d.month_range
  have hday := d.day_range
  have hle := daysBeforeMonth_add_le d.year hmonth.1 (show d.month < 13 by omega)
  rw [daysBeforeMonth_thirteen] at hle
  unfold dayOfYear
  omega

theorem dayNumber_lt_of_year_lt (h : d.year < e.year) : d.dayNumber < e.dayNumber := by
  have hle := daysBeforeYear_add_le h
  have hlt := d.dayOfYear_lt
  rw [dayNumber_eq, dayNumber_eq]
  omega

theorem dayNumber_lt_of_month_lt (hyear : d.year = e.year) (h : d.month < e.month) : d.dayNumber < e.dayNumber := by
  have hday := d.day_range
  have hle := daysBeforeMonth_add_le d.year d.month_range.1 h
  rw [dayNumber_eq, dayNumber_eq, ← hyear]
  unfold dayOfYear
  rw [← hyear]
  omega

theorem dayNumber_injective : Function.Injective dayNumber := by
  intro d e h
  have hyear : d.year = e.year := by
    rcases Int.lt_trichotomy d.year e.year with hlt | heq | hlt
    · exact absurd h (Int.ne_of_lt (dayNumber_lt_of_year_lt hlt))
    · exact heq
    · exact absurd h.symm (Int.ne_of_lt (dayNumber_lt_of_year_lt hlt))
  have hmonth : d.month = e.month := by
    rcases Nat.lt_trichotomy d.month e.month with hlt | heq | hlt
    · exact absurd h (Int.ne_of_lt (dayNumber_lt_of_month_lt hyear hlt))
    · exact heq
    · exact absurd h.symm (Int.ne_of_lt (dayNumber_lt_of_month_lt hyear.symm hlt))
  have hday : d.day = e.day := by
    unfold dayNumber at h
    rw [hyear, hmonth] at h
    omega
  cases d; cases e
  simp_all

end Date

/-! ## Times of day -/

theorem TimeOfDay.eq_of_secondOfDay_eq {s t : TimeOfDay} (h : s.secondOfDay = t.secondOfDay)
    (hnanosecond : s.nanosecond = t.nanosecond) : s = t := by
  have := s.minute_lt; have := s.second_lt
  have := t.minute_lt; have := t.second_lt
  unfold secondOfDay at h
  have hhour : s.hour = t.hour := by omega
  have hminute : s.minute = t.minute := by omega
  have hsecond : s.second = t.second := by omega
  cases s; cases t
  simp_all

namespace DateTime
variable {t u : DateTime}

/-- Whole seconds by the local clock. -/
def localSeconds (t : DateTime) : Int :=
  t.date.dayNumber * 86400 + t.time.secondOfDay

theorem instant_eq (t : DateTime) : t.instant = (t.localSeconds - t.offset) * 1000000000 + t.time.nanosecond := rfl

/-- Instants are equal if their seconds and their fractions are. -/
theorem instant_eq_instant_iff :
    t.instant = u.instant ↔
      t.localSeconds - t.offset = u.localSeconds - u.offset ∧ t.time.nanosecond = u.time.nanosecond := by
  have := t.time.nanosecond_lt; have := u.time.nanosecond_lt
  rw [instant_eq, instant_eq]
  omega

theorem localSeconds_eq_iff :
    t.localSeconds = u.localSeconds ↔ t.date = u.date ∧ t.time.secondOfDay = u.time.secondOfDay := by
  have := t.time.secondOfDay_lt; have := u.time.secondOfDay_lt
  rw [← Date.dayNumber_injective.eq_iff]
  unfold localSeconds
  omega

theorem instant_eq_iff (h : t.offset = u.offset) : t.instant = u.instant ↔ t.date = u.date ∧ t.time = u.time := by
  rw [instant_eq_instant_iff, h, Int.sub_left_inj, localSeconds_eq_iff]
  constructor
  · rintro ⟨⟨hdate, hsecond⟩, hnanosecond⟩
    exact ⟨hdate, TimeOfDay.eq_of_secondOfDay_eq hsecond hnanosecond⟩
  · rintro ⟨hdate, htime⟩
    exact ⟨⟨hdate, congrArg _ htime⟩, congrArg _ htime⟩

theorem localSeconds_eq_of_fields_eq (h : t.fields = u.fields) : t.localSeconds = u.localSeconds := by
  simp only [fields, List.cons.injEq, Int.natCast_inj, and_true] at h
  obtain ⟨hyear, hmonth, hday, hhour, hminute, hsecond, -⟩ := h
  simp only [localSeconds, Date.dayNumber, TimeOfDay.secondOfDay, hyear, hmonth, hday, hhour, hminute, hsecond]

theorem fields_ne_of_offset_ne (h : t.instant = u.instant) (hoffset : t.offset ≠ u.offset) : t.fields ≠ u.fields := by
  intro hfields
  have hlocal := localSeconds_eq_of_fields_eq hfields
  have hutc := (instant_eq_instant_iff.1 h).1
  omega

end DateTime

end SqlSelect
