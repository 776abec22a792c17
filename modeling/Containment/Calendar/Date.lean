import Containment.Number.Decimal

namespace Containment

/-! Dates of the proleptic Gregorian calendar. -/

def isLeapYear (year : Int) : Bool :=
  year % 4 == 0 && (year % 100 != 0 || year % 400 == 0)

def monthLengths (year : Int) : List Nat :=
  [31, if isLeapYear year then 29 else 28, 31, 30, 31, 30, 31, 31, 30, 31, 30, 31]

def daysInMonth (year : Int) (month : Nat) : Nat :=
  (monthLengths year).getD (month - 1) 0

structure Date where
  year : Int
  month : Nat
  day : Nat
  valid : (-262143 ≤ year ∧ year ≤ 262142) ∧ (1 ≤ month ∧ month ≤ 12) ∧
    (1 ≤ day ∧ day ≤ daysInMonth year month)
  deriving DecidableEq

namespace Date

def ofParts? (year : Int) (month day : Nat) : Option Date :=
  if h : _ then some ⟨year, month, day, h⟩ else none

/-- The number of days from the first day of year one to the first day of a year. -/
def daysBeforeYear (year : Int) : Int :=
  365 * (year - 1) + (year - 1) / 4 - (year - 1) / 100 + (year - 1) / 400

/-- The year that a day falls into. The mean length of a year misses it by one at most. -/
def yearOfDay (day : Int) : Int :=
  let guess := 400 * day / 146097 + 1
  if day < daysBeforeYear guess then guess - 1
  else if daysBeforeYear (guess + 1) ≤ day then guess + 1
  else guess

/-- Month and day of the month for a day counted from the start of the first listed month. -/
def monthAndDay : List Nat → Nat → Nat → Nat × Nat
  | [], month, day => (month, day + 1)
  | length :: rest, month, day =>
      if day < length then (month, day + 1) else monthAndDay rest (month + 1) (day - length)

def ofDayNumber? (day : Int) : Option Date :=
  let year := yearOfDay day
  let (month, dayOfMonth) :=
    monthAndDay (monthLengths year) 1 (day - daysBeforeYear year).toNat
  ofParts? year month dayOfMonth

def toDayNumber (date : Date) : Int :=
  daysBeforeYear date.year +
    ((monthLengths date.year).take (date.month - 1)).foldl Nat.add 0 + (date.day - 1)

/-- Four digits for the years from 0 to 9999, else a sign and at least four digits. -/
def yearChars (year : Int) : List Char :=
  let digits := Decimal.padded 4 year.natAbs
  if 0 ≤ year ∧ year ≤ 9999 then digits
  else (if year < 0 then '-' else '+') :: digits

def renderChars (date : Date) : List Char :=
  yearChars date.year ++ '-' :: Decimal.padded 2 date.month ++
    '-' :: Decimal.padded 2 date.day

def render (date : Date) : String :=
  String.ofList date.renderChars

@[simp] theorem ofParts?_parts (date : Date) :
    ofParts? date.year date.month date.day = some date := by
  rw [ofParts?, dif_pos date.valid]

end Date

end Containment
