import Containment.Proofs.Calendar.DayNumber
import Containment.Proofs.Number.Rounding

namespace Containment.DateTime

/-! Moments of whole timestamps. Seconds are exact. Milliseconds are divided by a thousand, which
keeps the second and rounds the fraction: `thousandth` is the quotient in units, and its distance
from the exact one bounds the error of the nanoseconds. -/

open Binary64

attribute [local instance(1100)] instPowNat

/-- A number of units divided by a thousand, and rounded. -/
def scaledDown (units : Int) : Int :=
  nearest (units * unitsPerOne) (1000 * unitsPerOne)

variable {n units : Int} {place : Nat}

theorem thousand_pos : 0 < 1000 * unitsPerOne :=
  Nat.mul_pos (by decide) unitsPerOne_pos

/-- Both sides of the division are counted in units. -/
theorem scaledDown_bound (bound : units.natAbs < 1000 * 2 ^ (53 + place)) :
    (units * unitsPerOne).natAbs < 1000 * unitsPerOne * 2 ^ (53 + place) := by
  rw [natAbs_mul_unitsPerOne, Nat.mul_right_comm 1000]
  exact Nat.mul_lt_mul_of_pos_right bound unitsPerOne_pos

theorem scaledDown_mul (units : Int) :
    scaledDown units * ((1000 * unitsPerOne : Nat) : Int) =
      1000 * scaledDown units * unitsPerOne := by
  push_cast
  ring

theorem scaledDown_near (bound : units.natAbs < 1000 * 2 ^ (53 + place)) :
    2 * units ≤ 2 * (1000 * scaledDown units) + 1000 * (2 ^ place : Nat) ∧
      2 * (1000 * scaledDown units) ≤ 2 * units + 1000 * (2 ^ place : Nat) := by
  obtain ⟨below, above⟩ := nearest_near thousand_pos (scaledDown_bound bound)
  have one : (0 : Int) < unitsPerOne := natCast_unitsPerOne_pos
  have step : ((1000 * unitsPerOne * 2 ^ place : Nat) : Int) =
      1000 * (2 ^ place : Nat) * unitsPerOne := by
    push_cast
    ring
  rw [← scaledDown, step, scaledDown_mul] at below above
  constructor
  · apply Int.le_of_mul_le_mul_right _ one
    rw [Int.add_mul, Int.mul_assoc 2, Int.mul_assoc 2]
    exact below
  · apply Int.le_of_mul_le_mul_right _ one
    rw [Int.add_mul, Int.mul_assoc 2, Int.mul_assoc 2]
    exact above

theorem scaledDown_exact (bound : units.natAbs < 1000 * 2 ^ (53 + place))
    (whole : (1000 * (2 ^ place : Nat) : Int) ∣ units) : 1000 * scaledDown units = units := by
  have one : (0 : Int) < unitsPerOne := natCast_unitsPerOne_pos
  have divides : ((1000 * unitsPerOne * 2 ^ place : Nat) : Int) ∣ units * unitsPerOne := by
    rw [Nat.mul_right_comm]
    exact Int.mul_dvd_mul_right _ whole
  have exact := nearest_exact thousand_pos (scaledDown_bound bound) divides
  rw [← scaledDown, scaledDown_mul] at exact
  exact Int.eq_of_mul_eq_mul_right one.ne' exact

theorem two_pow_dvd_scaledDown (bound : 1000 * 2 ^ (52 + place) ≤ units.natAbs) :
    ((2 ^ place : Nat) : Int) ∣ scaledDown units := by
  apply two_pow_dvd_nearest thousand_pos
  rw [natAbs_mul_unitsPerOne, Nat.mul_right_comm 1000]
  exact Nat.mul_le_mul_right unitsPerOne bound

/-- Milliseconds divided by a thousand, in units. -/
def thousandth (n : Int) : Int :=
  scaledDown (n * unitsPerOne)

/-- Milliseconds below this have quotients with ten binary places or more. -/
def fineLimit : Nat := 8796093022208000

theorem fine_bound (within : n.natAbs < fineLimit) (places : place + 10 = onePlace) :
    (n * unitsPerOne).natAbs < 1000 * 2 ^ (53 + place) := by
  have product := Nat.mul_lt_mul_of_pos_right within unitsPerOne_pos
  have limit : fineLimit * unitsPerOne = 1000 * 2 ^ (53 + place) := by
    have digits : fineLimit * 2 ^ (10 : Nat) = 1000 * 2 ^ (53 : Nat) := by decide
    rw [unitsPerOne_eq places, Nat.mul_comm (2 ^ place), ← Nat.mul_assoc, digits, Nat.pow_add,
      Nat.mul_assoc]
  rwa [limit, ← natAbs_mul_unitsPerOne] at product

theorem exists_places (places : Nat) (few : places ≤ onePlace) :
    ∃ place, place + places = onePlace :=
  ⟨onePlace - places, Nat.sub_add_cancel few⟩

/-- The quotient is off by the 2048th part of a second at most. -/
theorem thousandth_near_one (within : n.natAbs < fineLimit) :
    2048 * (n * unitsPerOne) ≤ 2048 * (1000 * thousandth n) + 1000 * unitsPerOne ∧
      2048 * (1000 * thousandth n) ≤ 2048 * (n * unitsPerOne) + 1000 * unitsPerOne := by
  obtain ⟨place, places⟩ := exists_places 10 (by decide)
  have near := scaledDown_near (fine_bound within places)
  rw [← thousandth] at near
  have one : (unitsPerOne : Int) = 1024 * (2 ^ place : Nat) := by
    rw [unitsPerOne_eq places]
    push_cast
    ring
  omega

/-- A multiple of an eighth of a second has few digits. -/
theorem thousandth_eighths (within : n.natAbs < fineLimit) (eighths : 125 ∣ n) :
    1000 * thousandth n = n * unitsPerOne := by
  obtain ⟨place, places⟩ := exists_places 10 (by decide)
  obtain ⟨count, rfl⟩ := eighths
  refine scaledDown_exact (fine_bound within places) ⟨count * 128, ?_⟩
  rw [unitsPerOne_eq places]
  push_cast
  ring

theorem milliseconds_split (n k : Int) : n * k = 1000 * (n / 1000 * k) + n % 1000 * k := by
  have parts := Int.mul_ediv_add_emod n 1000
  conv_lhs => rw [← parts]
  ring

/-- Rounding does not reach the next second, nor the last one. -/
theorem thousandth_within (within : n.natAbs < fineLimit) :
    n / 1000 * unitsPerOne ≤ thousandth n ∧
      thousandth n < n / 1000 * unitsPerOne + unitsPerOne := by
  have split := milliseconds_split n unitsPerOne
  have one : (0 : Int) < unitsPerOne := natCast_unitsPerOne_pos
  have rest := Int.emod_nonneg n (show (1000 : Int) ≠ 0 by decide)
  have last := Int.emod_lt_of_pos n (show (0 : Int) < 1000 by decide)
  rcases Int.le_iff_eq_or_lt.mp rest with none | some
  · -- A whole second is exact; any other is a millisecond or more from both ends.
    have exact := thousandth_eighths within (by omega)
    rw [← none, Int.zero_mul] at split
    omega
  · obtain ⟨below, above⟩ := thousandth_near_one within
    have least : 1 * (unitsPerOne : Int) ≤ n % 1000 * unitsPerOne :=
      Int.mul_le_mul_of_nonneg_right some one.le
    have most : n % 1000 * (unitsPerOne : Int) ≤ 999 * unitsPerOne :=
      Int.mul_le_mul_of_nonneg_right (by omega) one.le
    omega

theorem thousandth_floor (within : n.natAbs < fineLimit) :
    thousandth n / unitsPerOne = n / 1000 := by
  have one : (0 : Int) < unitsPerOne := natCast_unitsPerOne_pos
  obtain ⟨below, above⟩ := thousandth_within within
  apply Int.le_antisymm
  · apply Int.le_of_lt_add_one
    rw [Int.ediv_lt_iff_lt_mul one, Int.add_mul, Int.one_mul]
    exact above
  · exact (Int.le_ediv_iff_mul_le one).mpr below

/-- What the quotient has beyond its whole seconds, in units. -/
def fraction (n : Int) : Nat :=
  (thousandth n - n / 1000 * unitsPerOne).toNat

theorem fraction_eq (within : n.natAbs < fineLimit) :
    (fraction n : Int) = thousandth n - n / 1000 * unitsPerOne := by
  have := (thousandth_within within).1
  rw [fraction]
  omega

theorem fraction_lt (within : n.natAbs < fineLimit) : fraction n < unitsPerOne := by
  have := (thousandth_within within).2
  have := fraction_eq within
  omega

theorem fraction_near (within : n.natAbs < fineLimit) :
    2048 * (n % 1000 * unitsPerOne) ≤ 2048 * (1000 * (fraction n : Int)) + 1000 * unitsPerOne ∧
      2048 * (1000 * (fraction n : Int)) ≤
        2048 * (n % 1000 * unitsPerOne) + 1000 * unitsPerOne := by
  have near := thousandth_near_one within
  have split := milliseconds_split n unitsPerOne
  have parts := fraction_eq within
  omega

theorem fraction_eighths (within : n.natAbs < fineLimit) (eighths : 125 ∣ n) :
    1000 * (fraction n : Int) = n % 1000 * unitsPerOne := by
  have exact := thousandth_eighths within eighths
  have split := milliseconds_split n unitsPerOne
  have parts := fraction_eq within
  omega

/-- The nanoseconds of the fraction: multiplied by a billion, and rounded twice. -/
def nanoseconds (n : Int) : Nat :=
  (2 * nearestNat (fraction n * billion * unitsPerOne) unitsPerOne + unitsPerOne) /
    (2 * unitsPerOne)

theorem billion_bound (within : n.natAbs < fineLimit) (places : place + 23 = onePlace) :
    fraction n * billion < 2 ^ (53 + place) := by
  have less := fraction_lt within
  rw [unitsPerOne_eq places] at less
  rw [Nat.pow_add, billion]
  omega

/-- The nanoseconds are off by little more than a half. -/
theorem nanoseconds_near (within : n.natAbs < fineLimit) :
    16777216 * (fraction n * billion) ≤
        16777216 * (nanoseconds n * unitsPerOne) + 8388609 * unitsPerOne ∧
      16777216 * (nanoseconds n * unitsPerOne) ≤
        16777216 * (fraction n * billion) + 8388609 * unitsPerOne := by
  obtain ⟨place, places⟩ := exists_places 23 (by decide)
  have one : unitsPerOne = 2 ^ place * 8388608 := unitsPerOne_eq places
  have scaled := nearestNat_mul_near unitsPerOne_pos (billion_bound within places)
  have rounded := roundHalfUp_near
    (nearestNat (fraction n * billion * unitsPerOne) unitsPerOne) unitsPerOne_pos
  rw [← nanoseconds] at rounded
  omega

theorem le_of_mul_unitsPerOne {a b : Int} (scaled : a * unitsPerOne < (b + 1) * unitsPerOne) :
    a ≤ b :=
  Int.le_of_lt_add_one
    (Int.lt_of_mul_lt_mul_right scaled (Int.natCast_nonneg unitsPerOne))

/-- The error of the nanoseconds is the billionth part of that of the seconds. -/
theorem nanoseconds_error (within : n.natAbs < fineLimit) :
    (nanoseconds n : Int) ≤ n % 1000 * 1000000 + 488281 ∧
      n % 1000 * 1000000 ≤ nanoseconds n + 488281 := by
  have one : (0 : Int) < unitsPerOne := natCast_unitsPerOne_pos
  have fractions := fraction_near within
  have nanos := nanoseconds_near within
  rw [billion] at nanos
  constructor
  · apply le_of_mul_unitsPerOne
    rw [Int.add_mul, Int.add_mul, Int.mul_right_comm]
    omega
  · apply le_of_mul_unitsPerOne
    rw [Int.add_mul, Int.add_mul, Int.mul_right_comm]
    omega

theorem nanoseconds_lt (within : n.natAbs < fineLimit) : nanoseconds n < billion := by
  have error := (nanoseconds_error within).1
  rw [billion]
  omega

theorem nanoseconds_eighths (within : n.natAbs < fineLimit) (eighths : 125 ∣ n) :
    (nanoseconds n : Int) = n % 1000 * 1000000 := by
  have one : (0 : Int) < unitsPerOne := natCast_unitsPerOne_pos
  have exact := fraction_eighths within eighths
  have nanos := nanoseconds_near within
  rw [billion] at nanos
  apply Int.le_antisymm
  · apply le_of_mul_unitsPerOne
    rw [Int.add_mul, Int.mul_right_comm]
    omega
  · apply le_of_mul_unitsPerOne
    rw [Int.add_mul, Int.mul_right_comm]
    omega

/-- Milliseconds from here on have quotients with 23 binary places at most. -/
def coarseLimit : Nat := 536870912000

/-- There the least error is the 125th part of the last place. It is more than half a
nanosecond, and so is seen. -/
theorem eighths_of_nanoseconds (within : n.natAbs < fineLimit) (coarse : coarseLimit ≤ n.natAbs)
    (exact : (nanoseconds n : Int) = n % 1000 * 1000000) : 125 ∣ n := by
  obtain ⟨place, places⟩ := exists_places 23 (by decide)
  have one : unitsPerOne = 2 ^ place * 8388608 := unitsPerOne_eq places
  have step : (0 : Int) < (2 ^ place : Nat) := Int.natCast_pos.mpr (Nat.two_pow_pos place)
  have bound : 1000 * 2 ^ (52 + place) ≤ (n * unitsPerOne).natAbs := by
    have limit : 1000 * 2 ^ (52 + place) = coarseLimit * unitsPerOne := by
      rw [Nat.pow_add, one, coarseLimit]
      omega
    rw [limit, natAbs_mul_unitsPerOne]
    exact Nat.mul_le_mul_right unitsPerOne coarse
  obtain ⟨count, counted⟩ := two_pow_dvd_scaledDown bound
  rw [← thousandth] at counted
  have nanos := nanoseconds_near within
  have parts := fraction_eq within
  have split := milliseconds_split n unitsPerOne
  have scaled : (nanoseconds n : Int) * unitsPerOne = n % 1000 * unitsPerOne * 1000000 := by
    rw [exact, Int.mul_right_comm]
  rw [billion] at nanos
  have difference : 1000 * thousandth n - n * unitsPerOne =
      (125 * count - 1048576 * n) * (8 * (2 ^ place : Nat)) := by
    rw [counted, one]
    push_cast
    ring
  by_cases none : 125 * count - 1048576 * n = 0
  · omega
  · have least : 8 * 2 ^ place ≤
        ((125 * count - 1048576 * n) * (8 * (2 ^ place : Nat))).natAbs := by
      rw [Int.natAbs_mul, Int.natAbs_mul, Int.natAbs_natCast]
      exact Nat.le_mul_of_pos_left _ (Int.natAbs_pos.mpr none)
    omega

/-- A timestamp with its whole seconds known. -/
theorem ofTimestamp?_of_whole {timestamp seconds : Binary64} {units whole : Int}
    (finite : timestamp.units? = some units)
    (scaled : (if secondsLimit * unitsPerOne < units.natAbs then timestamp.div (.ofNat 1000)
      else timestamp) = seconds)
    (floor : seconds.floor? = some whole) :
    ofTimestamp? timestamp =
      ((seconds.sub (.ofInt whole)).mul (.ofNat billion)).round?.bind fun nanos =>
        ofSeconds? whole (min nanos.toNat (billion - 1)) := by
  simp only [ofTimestamp?, finite, Option.bind_eq_bind, Option.bind_some, scaled, floor]

theorem units?_ofNat {k : Nat} (short : k < 2 ^ (53 : Nat)) :
    (ofNat k).units? = some ((k * unitsPerOne : Nat) : Int) := by
  rw [← ofInt_natCast, units?_ofInt_exact (by rwa [Int.natAbs_natCast]), Int.natCast_mul]

/-- Seconds are exact: there is nothing left to round. -/
theorem ofTimestamp?_of_seconds (few : n.natAbs ≤ secondsLimit) :
    ofTimestamp? (.ofInt n) = ofSeconds? n 0 := by
  have short : n.natAbs < 2 ^ (53 : Nat) := Nat.lt_of_le_of_lt few (by decide)
  have finite := units?_ofInt_exact short
  have kept : ¬secondsLimit * unitsPerOne < (n * unitsPerOne).natAbs := by
    rw [natAbs_mul_unitsPerOne]
    exact Nat.not_lt.mpr (Nat.mul_le_mul_right unitsPerOne few)
  have floor : (ofInt n).floor? = some n := by
    rw [floor?_eq finite,
      Int.mul_ediv_cancel n (Int.natCast_ne_zero.mpr unitsPerOne_pos.ne')]
  have nothing : ((ofInt n).sub (ofInt n)).units? = some 0 := by
    rw [units?_sub finite finite, Int.sub_self, nearest_zero (by decide)]
    rw [Int.sub_self]
    exact mul_two_pow_pos (by decide) _
  have product : (((ofInt n).sub (ofInt n)).mul (ofNat billion)).units? = some 0 := by
    rw [units?_mul nothing (units?_ofNat (by decide)), Int.zero_mul,
      nearest_zero unitsPerOne_pos]
    rw [Int.zero_mul]
    exact mul_two_pow_pos unitsPerOne_pos _
  have round : (((ofInt n).sub (ofInt n)).mul (ofNat billion)).round? = some 0 := by
    rw [round?_eq (n := 0) product, Nat.mul_zero, Nat.zero_add,
      Nat.div_eq_of_lt (by have := unitsPerOne_pos; omega)]
    rfl
  rw [ofTimestamp?_of_whole finite (if_neg kept) floor, round]
  rfl

theorem units?_div_thousand {timestamp : Binary64} (finite : timestamp.units? = some units)
    (bound : units.natAbs < 1000 * 2 ^ (53 + lastScale)) :
    (timestamp.div (.ofNat 1000)).units? = some (scaledDown units) :=
  units?_div finite (units?_ofNat (by decide)) thousand_pos (scaledDown_bound bound)

theorem two_pow_le_lastScale {places : Nat} (parts : place + places = onePlace) :
    2 ^ (53 + place) ≤ 2 ^ (53 + lastScale) := by
  apply Nat.pow_le_pow_right (by decide)
  rw [onePlace] at parts
  rw [lastScale]
  omega

theorem quotient_eq (within : n.natAbs < fineLimit) :
    ((ofInt n).div (ofNat 1000)).units? = some (thousandth n) := by
  have short : n.natAbs < 2 ^ (53 : Nat) := Nat.lt_of_lt_of_le within (by decide)
  obtain ⟨place, places⟩ := exists_places 10 (by decide)
  apply units?_div_thousand (units?_ofInt_exact short)
  exact Nat.lt_of_lt_of_le (fine_bound within places)
    (Nat.mul_le_mul_left 1000 (two_pow_le_lastScale places))

/-- Subtracting the whole seconds is exact: the quotient has no place below that of a
fraction with 53 digits. -/
theorem difference_eq (above : secondsLimit < n.natAbs) (within : n.natAbs < fineLimit) :
    (((ofInt n).div (ofNat 1000)).sub (ofInt (n / 1000))).units? = some (fraction n : Int) := by
  have short : (n / 1000).natAbs < 2 ^ (53 : Nat) := by
    have : n.natAbs < 2 ^ (53 : Nat) := Nat.lt_of_lt_of_le within (by decide)
    omega
  obtain ⟨place, places⟩ := exists_places 53 (by decide)
  have one : unitsPerOne = 2 ^ place * 2 ^ (53 : Nat) := unitsPerOne_eq places
  have parts := fraction_eq within
  have bound : (fraction n : Int).natAbs < 1 * 2 ^ (53 + place) := by
    rw [Nat.one_mul, Nat.add_comm, Nat.pow_add, ← one, Int.natAbs_natCast]
    exact fraction_lt within
  have low : 1000 * 2 ^ (52 + place) ≤ (n * unitsPerOne).natAbs := by
    rw [secondsLimit] at above
    have many : 500 * 2 ^ place ≤ n.natAbs * 2 ^ place :=
      Nat.mul_le_mul_right _ (by omega)
    rw [natAbs_mul_unitsPerOne, one, ← Nat.mul_assoc, Nat.pow_add]
    omega
  have whole : ((1 * 2 ^ place : Nat) : Int) ∣ fraction n := by
    rw [Nat.one_mul, parts]
    apply Int.dvd_sub (two_pow_dvd_scaledDown low)
    rw [one]
    exact ⟨n / 1000 * (2 ^ (53 : Nat) : Nat), by push_cast; ring⟩
  have exact := nearest_exact (by decide) bound whole
  have finite : (fraction n : Int).natAbs < 1 * 2 ^ (53 + lastScale) :=
    Nat.lt_of_lt_of_le bound (Nat.mul_le_mul_left 1 (two_pow_le_lastScale places))
  rw [parts] at exact finite ⊢
  rw [units?_sub (quotient_eq within) (units?_ofInt_exact short) finite, ← Int.mul_one (nearest _ 1)]
  exact congrArg some exact

theorem ofTimestamp?_of_milliseconds (above : secondsLimit < n.natAbs)
    (within : n.natAbs < fineLimit) :
    ofTimestamp? (.ofInt n) = ofSeconds? (n / 1000) (nanoseconds n) := by
  have short : n.natAbs < 2 ^ (53 : Nat) := Nat.lt_of_lt_of_le within (by decide)
  have finite := units?_ofInt_exact short
  have scaled : secondsLimit * unitsPerOne < (n * unitsPerOne).natAbs := by
    rw [natAbs_mul_unitsPerOne]
    exact Nat.mul_lt_mul_of_pos_right above unitsPerOne_pos
  have floor : ((ofInt n).div (ofNat 1000)).floor? = some (n / 1000) := by
    rw [floor?_eq (quotient_eq within), thousandth_floor within]
  have product : ((((ofInt n).div (ofNat 1000)).sub (ofInt (n / 1000))).mul
      (ofNat billion)).units? =
        some ((nearestNat (fraction n * billion * unitsPerOne) unitsPerOne : Nat) : Int) := by
    have factors : (fraction n : Int) * ((billion * unitsPerOne : Nat) : Int) =
        ((fraction n * billion * unitsPerOne : Nat) : Int) := by
      push_cast
      ring
    rw [units?_mul (difference_eq above within) (units?_ofNat (by decide)), factors,
      nearest_natCast]
    rw [factors, Int.natAbs_natCast, Nat.mul_comm unitsPerOne]
    obtain ⟨place, places⟩ := exists_places 23 (by decide)
    exact Nat.mul_lt_mul_of_pos_right
      (Nat.lt_of_lt_of_le (billion_bound within places) (two_pow_le_lastScale places))
      unitsPerOne_pos
  have round := round?_eq product
  rw [← nanoseconds] at round
  rw [ofTimestamp?_of_whole finite (if_pos scaled) floor, round, Option.bind_some,
    Int.toNat_natCast, Nat.min_eq_left (Nat.le_sub_one_of_lt (nanoseconds_lt within))]

theorem two_pow_word_step : 2 ^ (onePlace + 11) = 2048 * unitsPerOne := by
  rw [Nat.pow_add, two_pow_onePlace, Nat.mul_comm]

theorem two_pow_word : 2 ^ (53 + (onePlace + 11)) = 2 ^ (53 : Nat) * (2048 * unitsPerOne) := by
  rw [Nat.pow_add, two_pow_word_step]

theorem two_pow_word_le : 2 ^ (53 + (onePlace + 11)) ≤ 2 ^ (53 + lastScale) :=
  Nat.pow_le_pow_right (by decide) (by decide)

/-- A 64-bit integer is off by its last eleven digits at most. -/
theorem units?_ofInt_near (word : n.natAbs ≤ 2 ^ (63 : Nat)) :
    ∃ units, (ofInt n).units? = some units ∧ n * unitsPerOne ≤ units + 1024 * unitsPerOne ∧
      units ≤ n * unitsPerOne + 1024 * unitsPerOne := by
  have positive := unitsPerOne_pos
  have bound : (n * unitsPerOne).natAbs < 1 * 2 ^ (53 + (onePlace + 11)) := by
    have most := Nat.mul_le_mul_right unitsPerOne word
    rw [natAbs_mul_unitsPerOne, two_pow_word]
    omega
  have finite := Nat.lt_of_lt_of_le bound (Nat.mul_le_mul_left 1 two_pow_word_le)
  have near := nearest_near (by decide) bound
  rw [Int.natCast_one, Int.mul_one, Nat.one_mul, two_pow_word_step] at near
  exact ⟨_, units?_ofInt finite, by omega, by omega⟩

theorem far_second {units : Int} (far : fineLimit ≤ n.natAbs) (word : n.natAbs ≤ 2 ^ (63 : Nat))
    (below : n * unitsPerOne ≤ units + 1024 * unitsPerOne)
    (above : units ≤ n * unitsPerOne + 1024 * unitsPerOne) :
    scaledDown units / unitsPerOne < firstSecond ∨
      lastSecond < scaledDown units / unitsPerOne := by
  have one : (0 : Int) < unitsPerOne := natCast_unitsPerOne_pos
  have bound : units.natAbs < 1000 * 2 ^ (53 + (onePlace + 11)) := by
    have most := Nat.mul_le_mul_right unitsPerOne word
    rw [← natAbs_mul_unitsPerOne] at most
    rw [two_pow_word]
    omega
  have near := scaledDown_near bound
  rw [two_pow_word_step] at near
  have least := Nat.mul_le_mul_right unitsPerOne far
  rw [← natAbs_mul_unitsPerOne, fineLimit] at least
  rcases Int.lt_or_le n 0 with negative | positive
  · left
    have sign : n * (unitsPerOne : Int) ≤ 0 :=
      Int.mul_nonpos_of_nonpos_of_nonneg negative.le one.le
    rw [Int.ediv_lt_iff_lt_mul one, firstSecond]
    omega
  · right
    have sign : 0 ≤ n * (unitsPerOne : Int) := Int.mul_nonneg positive one.le
    apply Int.lt_of_add_one_le
    rw [Int.le_ediv_iff_mul_le one, lastSecond]
    omega

/-- Timestamps from there on are past the supported years, whatever rounding does to them. -/
theorem ofTimestamp?_of_far (far : fineLimit ≤ n.natAbs) (word : n.natAbs ≤ 2 ^ (63 : Nat)) :
    ofTimestamp? (.ofInt n) = none := by
  obtain ⟨units, finite, below, above⟩ := units?_ofInt_near word
  have one : (0 : Int) < unitsPerOne := natCast_unitsPerOne_pos
  have scaled : secondsLimit * unitsPerOne < units.natAbs := by
    have least := Nat.mul_le_mul_right unitsPerOne far
    rw [← natAbs_mul_unitsPerOne, fineLimit] at least
    rw [secondsLimit]
    omega
  have bound : units.natAbs < 1000 * 2 ^ (53 + lastScale) := by
    have most := Nat.mul_le_mul_right unitsPerOne word
    rw [← natAbs_mul_unitsPerOne] at most
    have wide := two_pow_word_le
    rw [two_pow_word] at wide
    omega
  have floor := floor?_eq (units?_div_thousand finite bound)
  have outside := far_second far word below above
  rw [ofTimestamp?_of_whole finite (if_pos scaled) floor, Option.bind_eq_none_iff]
  exact fun nanos _ => ofSeconds?_eq_none outside _

/-- The instant that a whole timestamp names, in nanoseconds from the start of 1970. -/
def instant (n : Int) : Int :=
  if n.natAbs ≤ secondsLimit then n * 1000000000 else n * 1000000

/-- The whole seconds and the nanoseconds of the instant. -/
theorem instant_eq_of_few (few : n.natAbs ≤ secondsLimit) :
    instant n = n * billion + (0 : Nat) := by
  rw [instant, if_pos few, billion]
  omega

theorem instant_eq_of_many (above : secondsLimit < n.natAbs) :
    instant n = n / 1000 * billion + (n % 1000 * 1000000).toNat := by
  rw [instant, if_neg (Nat.not_le.mpr above), billion]
  omega

theorem milliseconds_plain (n : Int) : (n % 1000 * 1000000).toNat < billion := by
  rw [billion]
  omega

/-- A timestamp is read as the moment of its instant, or, in milliseconds, as one within the same
second and less than half a millisecond away. It is the moment itself for seconds and for
multiples of an eighth of a second, and, from some point on, for no others. -/
theorem ofTimestamp?_of_instant (word : n.natAbs ≤ 2 ^ (63 : Nat)) {moment : DateTime}
    (plain : moment.Plain) (named : moment.sinceEpoch = instant n) :
    ∃ result, ofTimestamp? (.ofInt n) = some result ∧ result.Plain ∧
      result.seconds = moment.seconds ∧
      (result.sinceEpoch - instant n).natAbs ≤ 488281 ∧
      (n.natAbs ≤ secondsLimit ∨ 125 ∣ n → result = moment) ∧
      (coarseLimit ≤ n.natAbs → result = moment → 125 ∣ n) := by
  by_cases few : n.natAbs ≤ secondsLimit
  · obtain ⟨second, fraction⟩ := (sinceEpoch_eq_iff plain (by decide)).mp
      (named.trans (instant_eq_of_few few))
    refine ⟨moment, ?_, plain, rfl, ?_, fun _ => rfl, fun coarse _ => ?_⟩
    · rw [ofTimestamp?_of_seconds few, ofSeconds?_eq_some_iff]
      exact ⟨second, fraction, plain.regular⟩
    · rw [named, Int.sub_self]
      decide
    · rw [secondsLimit] at few
      rw [coarseLimit] at coarse
      omega
  have above : secondsLimit < n.natAbs := Nat.lt_of_not_le few
  obtain ⟨second, fraction⟩ := (sinceEpoch_eq_iff plain (milliseconds_plain n)).mp
    (named.trans (instant_eq_of_many above))
  have within : n.natAbs < fineLimit := by
    have bounds := moment.seconds_within
    rw [second, firstSecond, lastSecond] at bounds
    rw [fineLimit]
    omega
  have bounds := moment.seconds_within
  obtain ⟨result, second', fraction'⟩ := (exists_seconds_iff (nanoseconds_lt within)).mpr bounds
  have plain' : result.Plain := lt_of_eq_of_lt fraction' (nanoseconds_lt within)
  have read : ofTimestamp? (.ofInt n) = some result := by
    rw [ofTimestamp?_of_milliseconds above within, ofSeconds?_eq_some_iff]
    exact ⟨second'.trans second, fraction', plain'.regular⟩
  have same_iff : result = moment ↔ (nanoseconds n : Int) = n % 1000 * 1000000 := by
    constructor
    · rintro rfl
      omega
    · intro exact
      exact eq_of_seconds plain second' (by omega)
  refine ⟨result, read, plain', second', ?_, ?_, ?_⟩
  · have error := nanoseconds_error within
    rw [instant_eq_of_many above, sinceEpoch, second', second, fraction']
    omega
  · intro exact
    have eighths := exact.resolve_left few
    exact same_iff.mpr (nanoseconds_eighths within eighths)
  · intro coarse same
    exact eighths_of_nanoseconds within coarse (same_iff.mp same)

/-- A timestamp is not read where no moment of the supported years has its instant. -/
theorem ofTimestamp?_of_no_instant (word : n.natAbs ≤ 2 ^ (63 : Nat))
    (none : ∀ moment : DateTime, moment.Plain → moment.sinceEpoch ≠ instant n) :
    ofTimestamp? (.ofInt n) = .none := by
  -- Whether a second is supported does not depend on the fraction.
  have outside {seconds : Int} {nanos other : Nat} (within : nanos < billion)
      (parts : instant n = seconds * billion + nanos) (within' : other < billion) :
      ofSeconds? seconds other = .none := by
    cases made : ofSeconds? seconds other with
    | none => rfl
    | some result =>
        obtain ⟨second, fraction, -⟩ := ofSeconds?_eq_some_iff.mp made
        have bounds := (exists_seconds_iff within').mp ⟨result, second, fraction⟩
        obtain ⟨moment, second, fraction⟩ := (exists_seconds_iff within).mpr bounds
        have plain : moment.Plain := lt_of_eq_of_lt fraction within
        exact absurd (((sinceEpoch_eq_iff plain within).mpr ⟨second, fraction⟩).trans parts.symm)
          (none moment plain)
  by_cases few : n.natAbs ≤ secondsLimit
  · rw [ofTimestamp?_of_seconds few]
    exact outside (by decide) (instant_eq_of_few few) (by decide)
  have above : secondsLimit < n.natAbs := Nat.lt_of_not_le few
  by_cases within : n.natAbs < fineLimit
  · rw [ofTimestamp?_of_milliseconds above within]
    exact outside (milliseconds_plain n) (instant_eq_of_many above) (nanoseconds_lt within)
  · exact ofTimestamp?_of_far (Nat.le_of_not_lt within) word

end Containment.DateTime
