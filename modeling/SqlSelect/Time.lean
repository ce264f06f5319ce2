import SqlSelect.Number.Decimal

/-!
# Date and time

The Gregorian calendar, extended to all years from -9999 to 9999; year 0 exists and is a leap year.
`Date.dayNumber` counts days through from the first day of year 0.

A `DateTime` is what calendar and clock show at a place, together with that place's distance from
UTC. `instant` is the moment meant, the same for all places; `text` is what is shown there.
-/

namespace SqlSelect

/-! ## Calendar -/

def isLeapYear (year : Int) : Bool :=
  year % 4 == 0 && (year % 100 != 0 || year % 400 == 0)

def daysInMonth (year : Int) (month : Nat) : Nat :=
  if month = 2 then (if isLeapYear year then 29 else 28)
  else if month = 4 ∨ month = 6 ∨ month = 9 ∨ month = 11 then 30
  else 31

structure Date where
  year : Int
  month : Nat
  day : Nat
  year_range : -9999 ≤ year ∧ year ≤ 9999
  month_range : 1 ≤ month ∧ month ≤ 12
  day_range : 1 ≤ day ∧ day ≤ daysInMonth year month
  deriving DecidableEq, Repr

namespace Date

def ofFields? (year : Int) (month day : Nat) : Option Date :=
  if h : (-9999 ≤ year ∧ year ≤ 9999) ∧ (1 ≤ month ∧ month ≤ 12) ∧
      (1 ≤ day ∧ day ≤ daysInMonth year month) then
    some ⟨year, month, day, h.1, h.2.1, h.2.2⟩
  else none

/-- Days between the starts of year 0 and of `year`. -/
def daysBeforeYear (year : Int) : Int :=
  365 * year + (year + 3) / 4 - (year + 99) / 100 + (year + 399) / 400

/-- Days between the starts of the year and of its month `month`. -/
def daysBeforeMonth (year : Int) (month : Nat) : Nat :=
  (List.range (month - 1)).foldl (fun days m => days + daysInMonth year (m + 1)) 0

def dayNumber (d : Date) : Int :=
  daysBeforeYear d.year + daysBeforeMonth d.year d.month + (d.day - 1)

theorem daysBeforeYear_succ (year : Int) :
    daysBeforeYear (year + 1) = daysBeforeYear year + if isLeapYear year then 366 else 365 := by
  unfold daysBeforeYear isLeapYear
  by_cases h4 : year % 4 = 0 <;> by_cases h100 : year % 100 = 0 <;>
    by_cases h400 : year % 400 = 0 <;> simp [h4, h100, h400] <;> omega

theorem daysBeforeMonth_succ (year : Int) (month : Nat) (h : 1 ≤ month) :
    daysBeforeMonth year (month + 1) = daysBeforeMonth year month + daysInMonth year month := by
  obtain ⟨m, rfl⟩ : ∃ m, month = m + 1 := ⟨month - 1, by omega⟩
  simp [daysBeforeMonth, List.range_succ]

end Date

/-! ## Dates with a time of day -/

/-- As in `2024-01-02`; a minus sign leads in years before year 0. -/
def Date.chars (d : Date) : List Char :=
  (if d.year < 0 then ['-'] else []) ++ Numeral.padded 4 d.year.natAbs ++
    '-' :: Numeral.padded 2 d.month ++ '-' :: Numeral.padded 2 d.day

structure TimeOfDay where
  hour : Nat
  minute : Nat
  second : Nat
  nanosecond : Nat
  hour_lt : hour < 24
  minute_lt : minute < 60
  second_lt : second < 60
  nanosecond_lt : nanosecond < 1000000000
  deriving DecidableEq, Repr

namespace TimeOfDay

def ofFields? (hour minute second nanosecond : Nat) : Option TimeOfDay :=
  if h : hour < 24 ∧ minute < 60 ∧ second < 60 ∧ nanosecond < 1000000000 then
    some ⟨hour, minute, second, nanosecond, h.1, h.2.1, h.2.2.1, h.2.2.2⟩
  else none

/-- Whole seconds since midnight. -/
def secondOfDay (t : TimeOfDay) : Nat :=
  (t.hour * 60 + t.minute) * 60 + t.second

/-- Whole microseconds of the second; what is left of the nanoseconds is cut off. -/
def microsecond (t : TimeOfDay) : Nat :=
  t.nanosecond / 1000

/-- As in `03:04:05.123456`. -/
def chars (t : TimeOfDay) : List Char :=
  Numeral.padded 2 t.hour ++ ':' :: Numeral.padded 2 t.minute ++ ':' :: Numeral.padded 2 t.second ++
    '.' :: Numeral.padded 6 t.microsecond

theorem secondOfDay_lt (t : TimeOfDay) : t.secondOfDay < 86400 := by
  have := t.hour_lt; have := t.minute_lt; have := t.second_lt
  unfold secondOfDay; omega

theorem microsecond_lt (t : TimeOfDay) : t.microsecond < 1000000 := by
  have := t.nanosecond_lt
  unfold microsecond; omega

end TimeOfDay

structure DateTime where
  date : Date
  time : TimeOfDay
  /-- Seconds by which the local clock is ahead of UTC. -/
  offset : Int
  deriving DecidableEq, Repr

namespace DateTime

/-- Nanoseconds since the start of year 0 in UTC. -/
def instant (t : DateTime) : Int :=
  (t.date.dayNumber * 86400 + t.time.secondOfDay - t.offset) * 1000000000 + t.time.nanosecond

/-- The local date and time in quotes; the offset is not shown. -/
def text (t : DateTime) : String :=
  String.ofList ('\'' :: t.date.chars ++ ' ' :: t.time.chars ++ ['\''])

end DateTime

end SqlSelect
