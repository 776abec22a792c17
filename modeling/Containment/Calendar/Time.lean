import Containment.Calendar.Date

namespace Containment

/-! Times of day, and dates with a time of day. -/

/-- A time of day. A leap second is any second with a billion more nanoseconds, since the
minutes of a clock that is off by seconds do not end where those of the standard time do. -/
@[ext]
structure Time where
  hour : Nat
  minute : Nat
  second : Nat
  nanos : Nat
  valid : hour < 24 ∧ minute < 60 ∧ second < 60 ∧ nanos < 2000000000
  deriving DecidableEq

namespace Time

/-- Parts make a leap second at the end of a minute only. -/
def ofParts? (hour minute second nanos : Nat) : Option Time :=
  if h : (hour < 24 ∧ minute < 60 ∧ second < 60 ∧ nanos < 2000000000) ∧
      (nanos < 1000000000 ∨ second = 59) then
    some ⟨hour, minute, second, nanos, h.1⟩
  else none

def midnight : Time :=
  ⟨0, 0, 0, 0, by decide⟩

def ofSecondOfDay? (seconds nanos : Nat) : Option Time :=
  ofParts? (seconds / 3600) (seconds / 60 % 60) (seconds % 60) nanos

/-- Nothing for a whole second, else as many groups of three digits as are needed. -/
def fractionChars (nanos : Nat) : List Char :=
  if nanos = 0 then []
  else if nanos % 1000000 = 0 then '.' :: Decimal.padded 3 (nanos / 1000000)
  else if nanos % 1000 = 0 then '.' :: Decimal.padded 6 (nanos / 1000)
  else '.' :: Decimal.padded 9 nanos

def renderChars (time : Time) : List Char :=
  let leap := time.nanos / 1000000000
  Decimal.padded 2 time.hour ++ ':' :: Decimal.padded 2 time.minute ++
    ':' :: Decimal.padded 2 (time.second + leap) ++
    fractionChars (time.nanos % 1000000000)

def render (time : Time) : String :=
  String.ofList time.renderChars

/-- No leap second, but for one at the end of a minute. -/
def Regular (time : Time) : Prop :=
  time.nanos < 1000000000 ∨ time.second = 59

instance (time : Time) : Decidable time.Regular :=
  inferInstanceAs (Decidable (_ ∨ _))

theorem ofParts?_parts {time : Time} (regular : time.Regular) :
    ofParts? time.hour time.minute time.second time.nanos = some time := by
  rw [ofParts?, dif_pos ⟨time.valid, regular⟩]

end Time

structure DateTime where
  date : Date
  time : Time
  deriving DecidableEq

namespace DateTime

def renderWith (mark : Char) (moment : DateTime) : String :=
  String.ofList (moment.date.renderChars ++ mark :: moment.time.renderChars)

def render (moment : DateTime) : String :=
  moment.renderWith ' '

end DateTime

end Containment
