import Containment.Calendar.Time

namespace Containment

/-! Moments given as a count of seconds from the start of 1970. -/

namespace DateTime

/-- The number of the first day of 1970, counted from the first day of year one. -/
def epochDay : Int := 719162

def ofSeconds? (seconds : Int) (nanos : Nat) : Option DateTime := do
  let date ← Date.ofDayNumber? (seconds / 86400 + epochDay)
  let time ← Time.ofSecondOfDay? (seconds % 86400).toNat nanos
  return ⟨date, time⟩

def secondsLimit : Nat := 20000000000

def billion : Nat := 1000000000

/-- The moment of a timestamp, to the nanosecond nearest to the fraction. -/
def ofTimestamp? (timestamp : Binary64) : Option DateTime := do
  let units ← timestamp.units?
  let seconds :=
    if secondsLimit * Binary64.unitsPerOne < units.natAbs then
      timestamp.div (.ofNat 1000)
    else timestamp
  let whole ← seconds.floor?
  let nanos ← ((seconds.sub (.ofInt whole)).mul (.ofNat billion)).round?
  ofSeconds? whole (min nanos.toNat (billion - 1))

end DateTime

end Containment
