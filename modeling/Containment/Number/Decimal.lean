import Containment.Number.Binary64

namespace Containment

/-! Decimal texts of binary64 numbers. The digits are the fewest that read back to the
same number; of two such choices the nearer is taken, and the upper one on a tie. -/

attribute [local instance(1100)] instPowNat

structure Decimal where
  digits : Nat
  exponent : Int
  deriving DecidableEq

namespace Decimal

/-- A unit of binary64 has as many decimal places as binary ones. -/
def unitPlaces : Nat := 1074

/-- The exact value of a finite number, counted in powers of ten. -/
def exactDigits (mantissa scale : Nat) : Nat :=
  mantissa * 2 ^ scale * 5 ^ unitPlaces

/-- Four times the bounds of the interval that rounds to the number, in the count of
`exactDigits`. Below a power of two the neighbour is half as far. -/
def bounds (mantissa scale : Nat) : Nat × Nat :=
  let step := 2 ^ scale * 5 ^ unitPlaces
  let exact := 4 * exactDigits mantissa scale
  (exact - (if mantissa = 2 ^ (52 : Nat) ∧ 0 < scale then step else 2 * step), exact + 2 * step)

/-- The ends belong to the interval exactly where ties are rounded to this number. -/
def readsBack (mantissa scale candidate : Nat) : Bool :=
  let (low, high) := bounds mantissa scale
  if mantissa % 2 = 0 then low ≤ 4 * candidate && 4 * candidate ≤ high
  else low < 4 * candidate && 4 * candidate < high

/-- The better neighbour of the number on the grid of multiples of `10 ^ places`. -/
def onGrid? (mantissa scale places : Nat) : Option Decimal :=
  let exact := exactDigits mantissa scale
  let power := 10 ^ places
  let lower := exact / power
  let exponent : Int := (places : Int) - unitPlaces
  match readsBack mantissa scale (lower * power),
      readsBack mantissa scale ((lower + 1) * power) with
  | true, true =>
      if 2 * (exact % power) < power then some ⟨lower, exponent⟩
      else some ⟨lower + 1, exponent⟩
  | true, false => some ⟨lower, exponent⟩
  | false, true => some ⟨lower + 1, exponent⟩
  | false, false => none

/-- The coarsest grid with a hit. The count falls to the grid of the exact digits. -/
def coarsest (mantissa scale : Nat) : Nat → Decimal
  | 0 => ⟨exactDigits mantissa scale, -unitPlaces⟩
  | places + 1 =>
      match onGrid? mantissa scale (places + 1) with
      | some decimal => decimal
      | none => coarsest mantissa scale places

def shortest (mantissa scale : Nat) : Decimal :=
  if mantissa = 0 then ⟨0, 0⟩
  else coarsest mantissa scale (Nat.toDigits 10 (exactDigits mantissa scale)).length

def padded (width n : Nat) : List Char :=
  let digits := Nat.toDigits 10 n
  List.replicate (width - digits.length) '0' ++ digits

/-- Positional text with at least so many places after the point. -/
def positional (places : Nat) (decimal : Decimal) : List Char :=
  let fraction := (-decimal.exponent).toNat
  let digits := padded (fraction + 1) (decimal.digits * 10 ^ decimal.exponent.toNat)
  let whole := digits.take (digits.length - fraction)
  let rest := digits.drop (digits.length - fraction)
  let rest := rest ++ List.replicate (places - rest.length) '0'
  if rest.isEmpty then whole else whole ++ '.' :: rest

def scientific (decimal : Decimal) : List Char :=
  let digits := Nat.toDigits 10 decimal.digits
  let exponent := decimal.exponent + digits.length - 1
  digits.take 1 ++ (if 1 < digits.length then '.' :: digits.drop 1 else []) ++
    'e' :: (toString exponent).toList

end Decimal

namespace Binary64

def signChars (negative : Bool) : List Char :=
  if negative then ['-'] else []

/-- Whole numbers below ten to the sixteenth are shown with one decimal place, others by
their shortest digits, never with an exponent. -/
def render : Binary64 → String
  | .nan => "nan"
  | .infinite negative => if negative then "-inf" else "inf"
  | .finite negative mantissa scale h =>
      let units := mantissa * 2 ^ scale
      String.ofList (signChars negative ++
        if (finite negative mantissa scale h).toInt?.isSome ∧ units < 10 ^ (16 : Nat) * unitsPerOne then
          Decimal.positional 1 ⟨units / unitsPerOne, 0⟩
        else Decimal.positional 0 (Decimal.shortest mantissa scale))

/-- The text of a number in a structural description: an exponent is used from ten to the
sixteenth on and below a ten-thousandth. -/
def describe : Binary64 → String
  | .nan => "NaN"
  | .infinite negative => if negative then "-inf" else "inf"
  | .finite negative mantissa scale _ =>
      let units := mantissa * 2 ^ scale
      let decimal := Decimal.shortest mantissa scale
      String.ofList (signChars negative ++
        if 10 ^ (16 : Nat) * unitsPerOne ≤ units ∨ (units ≠ 0 ∧ 10 ^ (4 : Nat) * units < unitsPerOne) then
          decimal.scientific
        else decimal.positional 1)

end Binary64

end Containment
