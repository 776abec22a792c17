import Containment.Number.Binary64
import Mathlib.Algebra.Order.Group.Unbundled.Int
import Mathlib.Tactic.Ring

namespace Containment.Binary64

/-! How far a rounded result lies from the exact one, and which results are exact. An exact
result is a quotient of an integer and a positive whole number, counted in units. -/

attribute [local instance(1100)] instPowNat

theorem roundHalfEven_near (numerator : Nat) {denominator : Nat} (positive : 0 < denominator) :
    2 * numerator ≤ 2 * (roundHalfEven numerator denominator * denominator) + denominator ∧
      2 * (roundHalfEven numerator denominator * denominator) ≤
        2 * numerator + denominator := by
  have whole := Nat.div_add_mod' numerator denominator
  have rest := Nat.mod_lt numerator positive
  simp only [roundHalfEven]
  split
  case isTrue => omega
  split
  case isTrue => rw [Nat.add_mul, Nat.one_mul]; omega
  rcases Nat.mod_two_eq_zero_or_one (numerator / denominator) with even | odd
  · rw [even, Nat.add_zero]; omega
  · rw [odd, Nat.add_mul, Nat.one_mul]; omega

theorem roundHalfEven_mul {denominator : Nat} (positive : 0 < denominator) (k : Nat) :
    roundHalfEven (k * denominator) denominator = k := by
  rw [roundHalfEven, Nat.mul_mod_left, Nat.mul_div_cancel k positive, if_pos positive]

theorem roundHalfEven_scale (numerator denominator : Nat) {k : Nat} (positive : 0 < k) :
    roundHalfEven (numerator * k) (denominator * k) = roundHalfEven numerator denominator := by
  have less (m n : Nat) : m * k < n * k ↔ m < n := Nat.mul_lt_mul_right positive
  simp only [roundHalfEven, Nat.mul_div_mul_right _ _ positive, Nat.mul_mod_mul_right,
    ← Nat.mul_assoc, less]

/-- The scale of the last of the 53 digits of a quotient. -/
def lastPlace (numerator denominator : Nat) : Nat :=
  (numerator / denominator).log2 - 52

variable {numerator denominator place : Nat}

theorem lastPlace_le (positive : 0 < denominator)
    (bound : numerator < denominator * 2 ^ (53 + place)) :
    lastPlace numerator denominator ≤ place := by
  have less : numerator / denominator < 2 ^ (53 + place) :=
    (Nat.div_lt_iff_lt_mul positive).mpr (by rwa [Nat.mul_comm])
  by_cases zero : numerator / denominator = 0
  · rw [lastPlace, zero]
    exact Nat.zero_le place
  · have := (Nat.log2_lt zero).mpr less
    rw [lastPlace]
    omega

theorem le_lastPlace (positive : 0 < denominator)
    (bound : denominator * 2 ^ (52 + place) ≤ numerator) :
    place ≤ lastPlace numerator denominator := by
  have most : 2 ^ (52 + place) ≤ numerator / denominator :=
    (Nat.le_div_iff_mul_le positive).mpr (by rwa [Nat.mul_comm])
  have nonzero : numerator / denominator ≠ 0 := by
    have : 0 < 2 ^ (52 + place) := Nat.pow_pos (by decide)
    omega
  have := (Nat.le_log2 nonzero).mpr most
  rw [lastPlace]
  omega

theorem lt_mul_lastPlace (numerator : Nat) (positive : 0 < denominator) :
    numerator < 2 ^ (53 : Nat) * (denominator * 2 ^ lastPlace numerator denominator) := by
  have less : numerator / denominator < 2 ^ (53 + lastPlace numerator denominator) :=
    Nat.lt_of_lt_of_le Nat.lt_log2_self (Nat.pow_le_pow_right (by decide) (by
      rw [lastPlace]
      omega))
  have := (Nat.div_lt_iff_lt_mul positive).mp less
  rwa [Nat.pow_add, Nat.mul_assoc, Nat.mul_comm _ denominator] at this

theorem mul_lastPlace_le (positive : 0 < denominator)
    (normal : lastPlace numerator denominator ≠ 0) :
    2 ^ (52 : Nat) * (denominator * 2 ^ lastPlace numerator denominator) ≤ numerator := by
  have nonzero : numerator / denominator ≠ 0 := by
    intro zero
    rw [lastPlace, zero] at normal
    exact normal rfl
  have exponent : 52 + lastPlace numerator denominator = (numerator / denominator).log2 := by
    rw [lastPlace] at normal ⊢
    omega
  have most : 2 ^ (52 + lastPlace numerator denominator) ≤ numerator / denominator := by
    rw [exponent]
    exact Nat.log2_self_le nonzero
  have := (Nat.le_div_iff_mul_le positive).mp most
  rwa [Nat.pow_add, Nat.mul_assoc, Nat.mul_comm _ denominator] at this

/-- The 53 digits of a quotient, or a power of two where rounding carries. -/
def mantissaOf (numerator denominator : Nat) : Nat :=
  roundHalfEven numerator (denominator * 2 ^ lastPlace numerator denominator)

theorem mul_two_pow_pos (positive : 0 < denominator) (place : Nat) :
    0 < denominator * 2 ^ place :=
  Nat.mul_pos positive (Nat.pow_pos (by decide))

theorem mantissaOf_le (numerator : Nat) (positive : 0 < denominator) :
    mantissaOf numerator denominator ≤ 2 ^ (53 : Nat) := by
  have step := mul_two_pow_pos positive (lastPlace numerator denominator)
  have near := (roundHalfEven_near numerator step).2
  have less := lt_mul_lastPlace numerator positive
  by_contra more
  have product := Nat.mul_le_mul_right (denominator * 2 ^ lastPlace numerator denominator)
    (Nat.lt_of_not_le more)
  rw [mantissaOf, Nat.succ_mul] at product
  omega

theorem le_mantissaOf (positive : 0 < denominator)
    (normal : lastPlace numerator denominator ≠ 0) :
    2 ^ (52 : Nat) ≤ mantissaOf numerator denominator := by
  have step := mul_two_pow_pos positive (lastPlace numerator denominator)
  have near := (roundHalfEven_near numerator step).1
  have most := mul_lastPlace_le positive normal
  by_contra less
  have product := Nat.mul_le_mul_right (denominator * 2 ^ lastPlace numerator denominator)
    (Nat.lt_of_not_le less)
  rw [mantissaOf, Nat.succ_mul] at product
  omega

/-- The quotient rounded to 53 digits, in units. -/
def nearestNat (numerator denominator : Nat) : Nat :=
  mantissaOf numerator denominator * 2 ^ lastPlace numerator denominator

/-- The greatest scale from which rounding may carry to the next one. -/
def lastScale : Nat := 2044

/-- Below the largest power of two, the result is the finite number with the rounded digits. -/
theorem units?_ofUnits (negative : Bool) (positive : 0 < denominator)
    (finite : numerator < denominator * 2 ^ (53 + lastScale)) :
    (ofUnits negative numerator denominator).units? =
      some (signed negative (nearestNat numerator denominator)) := by
  have inRange : lastPlace numerator denominator ≤ lastScale := lastPlace_le positive finite
  rw [lastScale] at inRange
  have most := mantissaOf_le numerator positive
  change (if mantissaOf numerator denominator = 2 ^ (53 : Nat) then
      assemble negative (2 ^ (52 : Nat)) (lastPlace numerator denominator + 1)
    else assemble negative (mantissaOf numerator denominator)
      (lastPlace numerator denominator)).units? = _
  split
  case isTrue carry =>
    have canonical : Canonical (2 ^ (52 : Nat)) (lastPlace numerator denominator + 1) :=
      ⟨by decide, by omega, .inr (Nat.le_refl _)⟩
    have carried : 2 ^ (52 : Nat) * 2 ^ (lastPlace numerator denominator + 1) =
        2 ^ (53 : Nat) * 2 ^ lastPlace numerator denominator := by
      rw [← Nat.pow_add, ← Nat.pow_add]
      congr 1
      omega
    rw [assemble_of_canonical negative canonical, units?_finite, nearestNat, carry, carried]
  case isFalse short =>
    have canonical :
        Canonical (mantissaOf numerator denominator) (lastPlace numerator denominator) := by
      refine ⟨by omega, by omega, ?_⟩
      by_cases normal : lastPlace numerator denominator = 0
      · exact .inl normal
      · exact .inr (le_mantissaOf positive normal)
    rw [assemble_of_canonical negative canonical, units?_finite, nearestNat]

theorem nearestNat_near (positive : 0 < denominator)
    (bound : numerator < denominator * 2 ^ (53 + place)) :
    2 * numerator ≤
        2 * (nearestNat numerator denominator * denominator) + denominator * 2 ^ place ∧
      2 * (nearestNat numerator denominator * denominator) ≤
        2 * numerator + denominator * 2 ^ place := by
  have near := roundHalfEven_near numerator
    (mul_two_pow_pos positive (lastPlace numerator denominator))
  have step : denominator * 2 ^ lastPlace numerator denominator ≤ denominator * 2 ^ place :=
    Nat.mul_le_mul_left _ (Nat.pow_le_pow_right (by decide) (lastPlace_le positive bound))
  have product : nearestNat numerator denominator * denominator =
      mantissaOf numerator denominator *
        (denominator * 2 ^ lastPlace numerator denominator) := by
    rw [nearestNat, Nat.mul_assoc, Nat.mul_comm denominator]
  rw [product, mantissaOf]
  omega

theorem nearestNat_mul_near {whole : Nat} (positive : 0 < denominator)
    (bound : whole < 2 ^ (53 + place)) :
    2 * whole ≤ 2 * nearestNat (whole * denominator) denominator + 2 ^ place ∧
      2 * nearestNat (whole * denominator) denominator ≤ 2 * whole + 2 ^ place := by
  have product : whole * denominator < denominator * 2 ^ (53 + place) := by
    rw [Nat.mul_comm denominator]
    exact Nat.mul_lt_mul_of_pos_right bound positive
  obtain ⟨below, above⟩ := nearestNat_near positive product
  rw [← Nat.mul_assoc, ← Nat.mul_assoc, Nat.mul_comm denominator, ← Nat.add_mul]
    at below above
  exact ⟨Nat.le_of_mul_le_mul_right below positive, Nat.le_of_mul_le_mul_right above positive⟩

theorem nearestNat_exact (positive : 0 < denominator)
    (bound : numerator < denominator * 2 ^ (53 + place))
    (divides : denominator * 2 ^ place ∣ numerator) :
    nearestNat numerator denominator * denominator = numerator := by
  have step : denominator * 2 ^ lastPlace numerator denominator ∣ numerator :=
    Nat.dvd_trans (Nat.mul_dvd_mul_left _ (Nat.pow_dvd_pow 2 (lastPlace_le positive bound)))
      divides
  have whole := roundHalfEven_mul (mul_two_pow_pos positive (lastPlace numerator denominator))
    (numerator / (denominator * 2 ^ lastPlace numerator denominator))
  rw [Nat.div_mul_cancel step] at whole
  rw [nearestNat, mantissaOf, whole, Nat.mul_assoc, Nat.mul_comm _ denominator,
    Nat.div_mul_cancel step]

theorem two_pow_dvd_nearestNat (positive : 0 < denominator)
    (bound : denominator * 2 ^ (52 + place) ≤ numerator) :
    2 ^ place ∣ nearestNat numerator denominator :=
  Nat.dvd_trans (Nat.pow_dvd_pow 2 (le_lastPlace positive bound)) (Nat.dvd_mul_left _ _)

/-- The same for a quotient with a sign. -/
def nearest (numerator : Int) (denominator : Nat) : Int :=
  signed (decide (numerator < 0)) (nearestNat numerator.natAbs denominator)

theorem signed_natAbs (n : Int) : signed (decide (n < 0)) n.natAbs = n := by
  simp only [signed, decide_eq_true_eq]
  split <;> omega

theorem natAbs_signed (negative : Bool) (n : Nat) : (signed negative n).natAbs = n := by
  cases negative with
  | false => rfl
  | true => exact Int.natAbs_neg n

theorem signed_mul_signed (a b : Bool) (m n : Nat) :
    signed a m * signed b n = signed (a != b) (m * n) := by
  cases a <;> cases b <;> simp [signed]

/-- A sign that the number has, where it has one. -/
theorem signed_of_sign {negative : Bool} {n : Int} (sign : n ≠ 0 → negative = decide (n < 0))
    {magnitude : Nat} (zero : n = 0 → magnitude = 0) :
    signed negative magnitude = signed (decide (n < 0)) magnitude := by
  by_cases nothing : n = 0
  · rw [zero nothing]
    cases negative <;> subst nothing <;> rfl
  · rw [sign nothing]

theorem nearestNat_zero (positive : 0 < denominator) : nearestNat 0 denominator = 0 := by
  have exact : nearestNat 0 denominator * denominator = 0 :=
    nearestNat_exact positive (mul_two_pow_pos positive (53 + 0)) (Nat.dvd_zero _)
  exact (Nat.mul_eq_zero.mp exact).resolve_right (Nat.ne_of_gt positive)

variable {number : Int}

theorem units?_ofUnits_signed {negative : Bool}
    (sign : number ≠ 0 → negative = decide (number < 0)) (positive : 0 < denominator)
    (finite : number.natAbs < denominator * 2 ^ (53 + lastScale)) :
    (ofUnits negative number.natAbs denominator).units? = some (nearest number denominator) := by
  rw [units?_ofUnits negative positive finite, nearest, signed_of_sign sign]
  rintro rfl
  exact nearestNat_zero positive

theorem nearest_mul (number : Int) (denominator : Nat) :
    nearest number denominator * denominator =
      signed (decide (number < 0)) (nearestNat number.natAbs denominator * denominator) := by
  rw [nearest, signed, signed]
  split
  · rw [Int.neg_mul, Int.natCast_mul]
  · rw [Int.natCast_mul]

/-- The error is at most half a step at any place that leaves 53 digits above it. -/
theorem nearest_near (positive : 0 < denominator)
    (bound : number.natAbs < denominator * 2 ^ (53 + place)) :
    2 * number ≤
        2 * (nearest number denominator * denominator) + (denominator * 2 ^ place : Nat) ∧
      2 * (nearest number denominator * denominator) ≤
        2 * number + (denominator * 2 ^ place : Nat) := by
  have near := nearestNat_near positive bound
  rw [nearest_mul, signed]
  split
  case isTrue negative =>
    have := of_decide_eq_true negative
    omega
  case isFalse negative =>
    have := of_decide_eq_false (Bool.eq_false_iff.mpr negative)
    omega

/-- There is no error where the quotient is a whole number of such steps. -/
theorem nearest_exact (positive : 0 < denominator)
    (bound : number.natAbs < denominator * 2 ^ (53 + place))
    (divides : ((denominator * 2 ^ place : Nat) : Int) ∣ number) :
    nearest number denominator * denominator = number := by
  have exact := nearestNat_exact positive bound (Int.natCast_dvd.mp divides)
  rw [nearest_mul, exact, signed_natAbs]

theorem two_pow_dvd_nearest (positive : 0 < denominator)
    (bound : denominator * 2 ^ (52 + place) ≤ number.natAbs) :
    ((2 ^ place : Nat) : Int) ∣ nearest number denominator := by
  rw [Int.natCast_dvd, nearest, natAbs_signed]
  exact two_pow_dvd_nearestNat positive bound

/-! The operations on finite numbers: the exact result, rounded. -/

/-- The scale at which the mantissa counts ones. -/
def onePlace : Nat := 1074

theorem unitsPerOne_eq {low high : Nat} (parts : low + high = onePlace) :
    unitsPerOne = 2 ^ low * 2 ^ high := by
  rw [← Nat.pow_add, parts, unitsPerOne, onePlace]

theorem two_pow_onePlace : 2 ^ onePlace = unitsPerOne := by
  rw [unitsPerOne, onePlace]

theorem unitsPerOne_pos : 0 < unitsPerOne := by
  rw [unitsPerOne]
  apply Nat.two_pow_pos

theorem natCast_unitsPerOne_pos : (0 : Int) < unitsPerOne :=
  Int.natCast_pos.mpr unitsPerOne_pos

theorem natAbs_mul_unitsPerOne (number : Int) :
    (number * unitsPerOne).natAbs = number.natAbs * unitsPerOne := by
  rw [Int.natAbs_mul, Int.natAbs_natCast]

theorem sign_of_signed {negative : Bool} {n : Nat} (nonzero : signed negative n ≠ 0) :
    negative = decide (signed negative n < 0) := by
  cases negative with
  | false => exact (decide_eq_false (Int.not_lt.mpr (Int.natCast_nonneg n))).symm
  | true =>
      simp only [signed, if_true] at nonzero ⊢
      exact (decide_eq_true (by omega)).symm

theorem sign_mul_natCast (number : Int) {n : Nat} (positive : 0 < n) :
    decide (number * n < 0) = decide (number < 0) := by
  rw [decide_eq_decide, Int.mul_neg_iff]
  omega

theorem units?_ofInt (finite : (number * unitsPerOne).natAbs < 1 * 2 ^ (53 + lastScale)) :
    (ofInt number).units? = some (nearest (number * unitsPerOne) 1) := by
  rw [← units?_ofUnits_signed (fun _ => (sign_mul_natCast number unitsPerOne_pos).symm)
    (by decide) finite, natAbs_mul_unitsPerOne]
  rfl

/-- Integers of up to 53 binary digits are exact. -/
theorem units?_ofInt_exact (short : number.natAbs < 2 ^ (53 : Nat)) :
    (ofInt number).units? = some (number * unitsPerOne) := by
  have bound : (number * unitsPerOne).natAbs < 1 * 2 ^ (53 + onePlace) := by
    rw [natAbs_mul_unitsPerOne, Nat.pow_add, two_pow_onePlace, Nat.one_mul]
    exact Nat.mul_lt_mul_of_pos_right short unitsPerOne_pos
  have finite : (number * unitsPerOne).natAbs < 1 * 2 ^ (53 + lastScale) :=
    Nat.lt_of_lt_of_le bound
      (Nat.mul_le_mul_left 1 (Nat.pow_le_pow_right (by decide) (by decide)))
  have whole : ((1 * 2 ^ onePlace : Nat) : Int) ∣ number * unitsPerOne := by
    rw [Nat.one_mul, two_pow_onePlace]
    exact Int.dvd_mul_left number unitsPerOne
  rw [units?_ofInt finite, ← Int.mul_one (nearest _ 1)]
  exact congrArg some (nearest_exact (by decide) bound whole)

theorem ofInt_natCast (n : Nat) : ofInt n = ofNat n := by
  rw [ofInt, ofNat, decide_eq_false (Int.not_lt.mpr (Int.natCast_nonneg n)), Int.natAbs_natCast]

theorem nearest_zero (positive : 0 < denominator) : nearest 0 denominator = 0 := by
  rw [nearest, Int.natAbs_zero, nearestNat_zero positive]
  rfl

theorem nearest_natCast (n denominator : Nat) :
    nearest n denominator = nearestNat n denominator := by
  rw [nearest, decide_eq_false (Int.not_lt.mpr (Int.natCast_nonneg n)), Int.natAbs_natCast]
  rfl

/-- Integers that have more digits are rounded to a multiple of a power of two. -/
theorem units?_ofInt_rounded {n : Nat} (inRange : place + onePlace ≤ lastScale)
    (least : 2 ^ (52 + place) ≤ n) (most : n < 2 ^ (53 + place)) :
    (ofInt n).units? =
      some ((roundHalfEven n (2 ^ place) * 2 ^ place * unitsPerOne : Nat) : Int) := by
  have scaled (digits : Nat) :
      1 * 2 ^ (digits + (place + onePlace)) = 2 ^ (digits + place) * unitsPerOne := by
    rw [Nat.one_mul, ← Nat.add_assoc, Nat.pow_add, two_pow_onePlace]
  have below : n * unitsPerOne < 1 * 2 ^ (53 + (place + onePlace)) := by
    rw [scaled]
    exact Nat.mul_lt_mul_of_pos_right most unitsPerOne_pos
  have above : 1 * 2 ^ (52 + (place + onePlace)) ≤ n * unitsPerOne := by
    rw [scaled]
    exact Nat.mul_le_mul_right unitsPerOne least
  have last : lastPlace (n * unitsPerOne) 1 = place + onePlace :=
    Nat.le_antisymm (lastPlace_le (by decide) below) (le_lastPlace (by decide) above)
  have finite : ((n : Int) * unitsPerOne).natAbs < 1 * 2 ^ (53 + lastScale) := by
    rw [natAbs_mul_unitsPerOne, Int.natAbs_natCast]
    exact Nat.lt_of_lt_of_le below
      (Nat.mul_le_mul_left 1 (Nat.pow_le_pow_right (by decide) (Nat.add_le_add_left inRange 53)))
  have step : 2 ^ (place + onePlace) = 2 ^ place * unitsPerOne := by
    rw [Nat.pow_add, two_pow_onePlace]
  rw [units?_ofInt finite, ← Int.natCast_mul, nearest_natCast, nearestNat, mantissaOf, last, step,
    Nat.one_mul, roundHalfEven_scale n _ unitsPerOne_pos, Nat.mul_assoc]

/-- The largest whole number below a number of units. -/
theorem floor?_eq {x : Binary64} {u : Int} (finite : x.units? = some u) :
    x.floor? = some (u / unitsPerOne) := by
  rw [floor?, finite, Option.map_some,
    Int.fdiv_eq_ediv_of_nonneg u (Int.natCast_nonneg unitsPerOne)]

theorem toInt?_eq_some_iff {x : Binary64} {n : Int} :
    x.toInt? = some n ↔ x.units? = some (n * unitsPerOne) := by
  have one := Int.natCast_nonneg unitsPerOne
  have nonzero := Int.ne_of_gt natCast_unitsPerOne_pos
  rw [toInt?]
  cases x.units? with
  | none => exact iff_of_false nofun nofun
  | some u =>
      rw [Option.bind_some, Option.some.injEq, Int.fmod_eq_emod_of_nonneg u one,
        Int.fdiv_eq_ediv_of_nonneg u one]
      split
      case isTrue whole =>
        rw [Option.some.injEq]
        exact Int.ediv_eq_iff_eq_mul_left nonzero (Int.dvd_of_emod_eq_zero whole)
      case isFalse broken =>
        refine iff_of_false nofun fun same => broken ?_
        rw [same, Int.mul_emod_left]

theorem isSome_toInt?_finite {negative : Bool} {mantissa scale : Nat}
    {canonical : Canonical mantissa scale} :
    (finite negative mantissa scale canonical).toInt?.isSome = true ↔
      unitsPerOne ∣ mantissa * 2 ^ scale := by
  have divides : unitsPerOne ∣ mantissa * 2 ^ scale ↔
      (unitsPerOne : Int) ∣ signed negative (mantissa * 2 ^ scale) := by
    rw [Int.natCast_dvd, natAbs_signed]
  rw [divides, dvd_iff_exists_eq_mul_left, Option.isSome_iff_exists]
  simp only [toInt?_eq_some_iff, units?_finite, Option.some.injEq]

theorem units?_sub {x y : Binary64} {u v : Int} (left : x.units? = some u)
    (right : y.units? = some v) (finite : (u - v).natAbs < 1 * 2 ^ (53 + lastScale)) :
    (x.sub y).units? = some (nearest (u - v) 1) := by
  cases x with
  | nan | infinite => cases left
  | finite a m s hm =>
      cases y with
      | nan | infinite => cases right
      | finite b n t hn =>
          obtain rfl := Option.some.inj left
          obtain rfl := Option.some.inj right
          refine units?_ofUnits_signed (fun nonzero => ?_) (by decide) finite
          rw [beq_eq_false_iff_ne.mpr nonzero]
          simp only [Bool.false_and, Bool.or_false]

theorem units?_mul {x y : Binary64} {u v : Int} (left : x.units? = some u)
    (right : y.units? = some v)
    (finite : (u * v).natAbs < unitsPerOne * 2 ^ (53 + lastScale)) :
    (x.mul y).units? = some (nearest (u * v) unitsPerOne) := by
  cases x with
  | nan | infinite => cases left
  | finite a m s hm =>
      cases y with
      | nan | infinite => cases right
      | finite b n t hn =>
          obtain rfl := Option.some.inj left
          obtain rfl := Option.some.inj right
          rw [signed_mul_signed] at finite ⊢
          rw [← units?_ofUnits_signed sign_of_signed unitsPerOne_pos finite, natAbs_signed]
          rfl

theorem units?_div {x y : Binary64} {u : Int} {n : Nat} (left : x.units? = some u)
    (right : y.units? = some (n : Int)) (positive : 0 < n)
    (finite : (u * unitsPerOne).natAbs < n * 2 ^ (53 + lastScale)) :
    (x.div y).units? = some (nearest (u * unitsPerOne) n) := by
  cases x with
  | nan | infinite => cases left
  | finite a m s hm =>
      cases y with
      | nan | infinite => cases right
      | finite b k t hk =>
          obtain rfl := Option.some.inj left
          have divisor : b = false ∧ k * 2 ^ t = n := by
            have same := Option.some.inj right
            cases b with
            | false => exact ⟨rfl, Int.natCast_inj.mp same⟩
            | true =>
                simp only [signed, if_true] at same
                omega
          obtain ⟨rfl, rfl⟩ := divisor
          have nonzero : k ≠ 0 := by
            rintro rfl
            rw [Nat.zero_mul] at positive
            exact Nat.lt_irrefl 0 positive
          have magnitude : (signed a (m * 2 ^ s) * (unitsPerOne : Int)).natAbs =
              m * 2 ^ s * unitsPerOne := by
            rw [natAbs_mul_unitsPerOne, natAbs_signed]
          have sign : signed a (m * 2 ^ s) * (unitsPerOne : Int) ≠ 0 →
              (a != false) = decide (signed a (m * 2 ^ s) * (unitsPerOne : Int) < 0) := by
            intro nonzero
            rw [Bool.bne_false, sign_mul_natCast _ unitsPerOne_pos]
            exact sign_of_signed (left_ne_zero_of_mul nonzero)
          rw [← units?_ofUnits_signed sign positive finite, magnitude, div, if_neg nonzero]
          rfl

/-- The nearest whole number to a quotient, a tie going up. -/
theorem roundHalfUp_near (numerator : Nat) (positive : 0 < denominator) :
    2 * ((2 * numerator + denominator) / (2 * denominator) * denominator) ≤
        2 * numerator + denominator ∧
      2 * numerator <
        2 * ((2 * numerator + denominator) / (2 * denominator) * denominator) + denominator := by
  have below := Nat.div_mul_le_self (2 * numerator + denominator) (2 * denominator)
  have above := Nat.lt_div_mul_add (show 0 < 2 * denominator by omega)
    (a := 2 * numerator + denominator)
  rw [Nat.mul_left_comm] at below above
  omega

theorem round?_eq {x : Binary64} {n : Nat} (whole : x.units? = some (n : Int)) :
    x.round? = some (((2 * n + unitsPerOne) / (2 * unitsPerOne) : Nat) : Int) := by
  cases x with
  | nan | infinite => cases whole
  | finite negative m s h =>
      have magnitude : m * 2 ^ s = n := by
        have same := congrArg Int.natAbs (Option.some.inj whole)
        rwa [natAbs_signed, Int.natAbs_natCast] at same
      subst magnitude
      cases negative with
      | false => rfl
      | true =>
          have same := Option.some.inj whole
          simp only [signed, if_true] at same
          have zero : m * 2 ^ s = 0 := by omega
          have below : unitsPerOne / (2 * unitsPerOne) = 0 :=
            Nat.div_eq_of_lt (by have := unitsPerOne_pos; omega)
          rw [round?, zero, Nat.mul_zero, Nat.zero_add, below]
          rfl

end Containment.Binary64
