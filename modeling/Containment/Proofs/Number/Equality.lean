import Containment.Number.Binary64

namespace Containment.Binary64

/-! Numeric equality of floats, and which of them are no numbers. -/

theorem isNan_assemble (negative : Bool) (mantissa scale : Nat) :
    (assemble negative mantissa scale).isNan = false := by
  rw [assemble]
  split <;> rfl

theorem isNan_ofInt (n : Int) : (ofInt n).isNan = false := by
  simp only [ofInt, ofQuotient, ofUnits]
  split
  · exact isNan_assemble _ _ _
  · exact isNan_assemble _ _ _

theorem isNan_eq_false_of_units? {x : Binary64} (finite : x.units?.isSome = true) :
    x.isNan = false := by
  cases x with
  | nan => cases finite
  | infinite => rfl
  | finite => rfl

theorem equals_comm (x y : Binary64) : x.equals y = y.equals x := by
  cases x <;> cases y <;> simp [equals, Bool.beq_comm]

theorem equals_self {x : Binary64} (number : x.isNan = false) : x.equals x = true := by
  cases x with
  | nan => cases number
  | infinite => simp [equals]
  | finite => simp [equals]

theorem equals_iff_units {x y : Binary64} {u v : Int} (left : x.units? = some u)
    (right : y.units? = some v) : x.equals y = true ↔ u = v := by
  cases x with
  | nan | infinite => cases left
  | finite =>
      cases y with
      | nan | infinite => cases right
      | finite =>
          cases left
          cases right
          exact beq_iff_eq

end Containment.Binary64
