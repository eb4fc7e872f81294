import CatalogSearch.Text.Digit

/-! # Calendar dates

Days of the Gregorian calendar, extended to all years from -262143 to 262142:

* **`Date`**: year, month and day, known to exist;
* **`Date.of? y m d`**: the date of three numbers, if there is such a day;
* **`Date.compare`**: earlier before later;
* **`Date.text`**: the written form, with a sign outside the years 0 to 9999. -/

namespace CatalogSearch

/-- Leap years of the Gregorian rule. -/
def isLeapYear (year : Int) : Bool := year % 4 == 0 && (year % 100 != 0 || year % 400 == 0)

/-- The days of a month, none for a number that is no month. -/
def daysInMonth (year : Int) : Nat → Nat
  | 1 | 3 | 5 | 7 | 8 | 10 | 12 => 31
  | 4 | 6 | 9 | 11 => 30
  | 2 => if isLeapYear year then 29 else 28
  | _ => 0

/-- The first year dates are kept for. -/
def firstYear : Int := -262143

/-- The last year dates are kept for. -/
def lastYear : Int := 262142

/-- **Three numbers name a day**: the year is kept, the month has that many days. -/
def IsDay (year : Int) (month day : Nat) : Prop :=
  firstYear ≤ year ∧ year ≤ lastYear ∧ 1 ≤ day ∧ day ≤ daysInMonth year month

instance (year : Int) (month day : Nat) : Decidable (IsDay year month day) := by
  unfold IsDay
  infer_instance

/-- A day is in one of the twelve months. -/
theorem IsDay.month_le {year : Int} {month day : Nat} (h : IsDay year month day) :
    1 ≤ month ∧ month ≤ 12 := by
  obtain ⟨-, -, h₁, h₂⟩ := h
  have hpos : 0 < daysInMonth year month := by omega
  unfold daysInMonth at hpos
  split at hpos <;> omega

/-- **A calendar date.** -/
structure Date where
  year : Int
  month : Nat
  day : Nat
  /-- There is such a day. -/
  isDay : IsDay year month day
  deriving DecidableEq, Repr

namespace Date

/-- The date of three numbers, if there is such a day. -/
def of? (year : Int) (month day : Nat) : Option Date :=
  if h : IsDay year month day then some ⟨year, month, day, h⟩ else none

/-- Three numbers give a date exactly when they name a day, and then that one. -/
theorem of?_eq_some_iff {year : Int} {month day : Nat} {d : Date} :
    of? year month day = some d ↔ d.year = year ∧ d.month = month ∧ d.day = day := by
  unfold of?
  constructor
  · intro h
    split at h
    · cases h
      exact ⟨rfl, rfl, rfl⟩
    · exact absurd h (by simp)
  · rintro ⟨rfl, rfl, rfl⟩
    simp [d.isDay]

/-- Earlier before later: by year, then month, then day. -/
def compare (a b : Date) : Ordering :=
  (Ord.compare a.year b.year).then ((Ord.compare a.month b.month).then (Ord.compare a.day b.day))

/-- The year in at least four digits, outside 0 to 9999 after its sign. -/
def yearText (year : Int) : List Char :=
  if 0 ≤ year ∧ year ≤ 9999 then Text.padNat 4 year.toNat
  else (if year < 0 then '-' else '+') :: Text.padNat 4 year.natAbs

/-- **The written form of a date**: `2024-05-01`, `-0001-01-01`, `+10000-01-01`. -/
def text (d : Date) : List Char :=
  yearText d.year ++ '-' :: Text.padNat 2 d.month ++ '-' :: Text.padNat 2 d.day

end Date

end CatalogSearch
