namespace Containment

/-! Numbers of the IEEE 754 binary64 format. A finite number is a whole multiple of the
smallest positive one, so exact reasoning about it is reasoning about integers. Every
operation takes the exact result and rounds it once, to nearest with ties to even. -/

-- Powers of whole numbers, also where powers in monoids are known.
attribute [local instance(1100)] instPowNat

/-- The mantissa fills its 53 bits unless the scale is the smallest one. -/
def Canonical (mantissa scale : Nat) : Prop :=
  mantissa < 2 ^ (53 : Nat) ∧ scale ≤ 2045 ∧ (scale = 0 ∨ 2 ^ (52 : Nat) ≤ mantissa)

instance (mantissa scale : Nat) : Decidable (Canonical mantissa scale) :=
  inferInstanceAs (Decidable (_ ∧ _ ∧ _))

/-- The finite number is `mantissa * 2 ^ scale` units, with a sign. All not-a-numbers are
one. -/
inductive Binary64 where
  | nan
  | infinite (negative : Bool)
  | finite (negative : Bool) (mantissa scale : Nat) (canonical : Canonical mantissa scale)
  deriving DecidableEq

namespace Binary64

/-- The number of units in one: the unit is the smallest positive number. -/
def unitsPerOne : Nat := 2 ^ (1074 : Nat)

def signed (negative : Bool) (n : Nat) : Int :=
  if negative then -(n : Int) else n

def units? : Binary64 → Option Int
  | .finite negative mantissa scale _ => some (signed negative (mantissa * 2 ^ scale))
  | _ => none

def zero (negative : Bool) : Binary64 :=
  .finite negative 0 0 (by decide)

/-- The number with these parts, or infinity where no such finite number is left. -/
def assemble (negative : Bool) (mantissa scale : Nat) : Binary64 :=
  if h : Canonical mantissa scale then .finite negative mantissa scale h
  else .infinite negative

/-- The whole number nearest to a quotient; a tie goes to the even one. -/
def roundHalfEven (numerator denominator : Nat) : Nat :=
  let quotient := numerator / denominator
  let rest := numerator % denominator
  if 2 * rest < denominator then quotient
  else if denominator < 2 * rest then quotient + 1
  else quotient + quotient % 2

def ofUnits (negative : Bool) (numerator denominator : Nat) : Binary64 :=
  let scale := (numerator / denominator).log2 - 52
  let mantissa := roundHalfEven numerator (denominator * 2 ^ scale)
  if mantissa = 2 ^ (53 : Nat) then assemble negative (2 ^ (52 : Nat)) (scale + 1)
  else assemble negative mantissa scale

def ofQuotient (negative : Bool) (numerator denominator : Nat) : Binary64 :=
  ofUnits negative (numerator * unitsPerOne) denominator

def ofNat (n : Nat) : Binary64 :=
  ofQuotient false n 1

def ofInt (n : Int) : Binary64 :=
  ofQuotient (decide (n < 0)) n.natAbs 1

/-- The number nearest to `digits * 10 ^ exponent`. Exponents far outside the range are
decided without computing the power. -/
def ofDecimal (negative : Bool) (digits : Nat) (exponent : Int) : Binary64 :=
  let magnitude := (Nat.toDigits 10 digits).length + exponent
  if digits = 0 ∨ magnitude < -323 then zero negative
  else if 309 < magnitude then .infinite negative
  else ofQuotient negative (digits * 10 ^ exponent.toNat) (10 ^ (-exponent).toNat)

/-- Reads the interchange encoding: sign, eleven bits of exponent, 52 of fraction. -/
def ofBits (bits : UInt64) : Binary64 :=
  let negative := bits.toNat / 2 ^ (63 : Nat) == 1
  let exponent := bits.toNat / 2 ^ (52 : Nat) % 2 ^ (11 : Nat)
  let fraction := bits.toNat % 2 ^ (52 : Nat)
  if exponent = 2047 then
    if fraction = 0 then .infinite negative else .nan
  else if exponent = 0 then assemble negative fraction 0
  else assemble negative (2 ^ (52 : Nat) + fraction) (exponent - 1)

def toBits (x : Binary64) : UInt64 :=
  let encode (negative : Bool) (rest : Nat) : UInt64 :=
    UInt64.ofNat ((if negative then 2 ^ (63 : Nat) else 0) + rest)
  match x with
  | .nan => encode false (2047 * 2 ^ (52 : Nat) + 2 ^ (51 : Nat))
  | .infinite negative => encode negative (2047 * 2 ^ (52 : Nat))
  | .finite negative mantissa scale _ =>
      if mantissa < 2 ^ (52 : Nat) then encode negative mantissa
      else encode negative (scale * 2 ^ (52 : Nat) + mantissa)

def isNan : Binary64 → Bool
  | .nan => true
  | _ => false

/-- Numeric equality: no not-a-number equals anything, and the zeros are equal. -/
def equals : Binary64 → Binary64 → Bool
  | .infinite a, .infinite b => a == b
  | .finite a m s _, .finite b n t _ => signed a (m * 2 ^ s) == signed b (n * 2 ^ t)
  | _, _ => false

/-- Numeric equality where not-a-number equals itself. -/
def agrees (x y : Binary64) : Bool :=
  (x.isNan && y.isNan) || x.equals y

def floor? (x : Binary64) : Option Int :=
  x.units?.map (Int.fdiv · unitsPerOne)

def toInt? (x : Binary64) : Option Int :=
  x.units?.bind fun units =>
    if Int.fmod units unitsPerOne = 0 then some (Int.fdiv units unitsPerOne) else none

def neg : Binary64 → Binary64
  | .nan => .nan
  | .infinite negative => .infinite !negative
  | .finite negative mantissa scale h => .finite (!negative) mantissa scale h

def sub : Binary64 → Binary64 → Binary64
  | .nan, _ => .nan
  | _, .nan => .nan
  | .infinite a, .infinite b => if a = b then .nan else .infinite a
  | .infinite a, .finite .. => .infinite a
  | .finite .., .infinite b => .infinite !b
  | .finite a m s _, .finite b n t _ =>
      let difference := signed a (m * 2 ^ s) - signed b (n * 2 ^ t)
      ofUnits (decide (difference < 0) || (difference == 0 && a && !b)) difference.natAbs 1

def mul : Binary64 → Binary64 → Binary64
  | .nan, _ => .nan
  | _, .nan => .nan
  | .infinite a, .infinite b => .infinite (a != b)
  | .infinite a, .finite b n _ _ => if n = 0 then .nan else .infinite (a != b)
  | .finite a m _ _, .infinite b => if m = 0 then .nan else .infinite (a != b)
  | .finite a m s _, .finite b n t _ =>
      ofUnits (a != b) (m * 2 ^ s * (n * 2 ^ t)) unitsPerOne

def div : Binary64 → Binary64 → Binary64
  | .nan, _ => .nan
  | _, .nan => .nan
  | .infinite _, .infinite _ => .nan
  | .infinite a, .finite b _ _ _ => .infinite (a != b)
  | .finite a _ _ _, .infinite b => zero (a != b)
  | .finite a m s _, .finite b n t _ =>
      if n = 0 then if m = 0 then .nan else .infinite (a != b)
      else ofQuotient (a != b) (m * 2 ^ s) (n * 2 ^ t)

/-- The whole number nearest to a finite number; a tie goes away from zero. -/
def round? : Binary64 → Option Int
  | .finite negative mantissa scale _ =>
      some (signed negative ((2 * (mantissa * 2 ^ scale) + unitsPerOne) / (2 * unitsPerOne)))
  | _ => none

@[simp] theorem units?_nan : units? .nan = none := rfl

@[simp] theorem units?_infinite (negative : Bool) : units? (.infinite negative) = none := rfl

@[simp] theorem units?_finite (negative : Bool) (mantissa scale : Nat)
    (h : Canonical mantissa scale) :
    units? (.finite negative mantissa scale h) =
      some (signed negative (mantissa * 2 ^ scale)) := rfl

theorem assemble_of_canonical (negative : Bool) {mantissa scale : Nat}
    (h : Canonical mantissa scale) :
    assemble negative mantissa scale = .finite negative mantissa scale h := by
  simp [assemble, h]

end Binary64

end Containment
