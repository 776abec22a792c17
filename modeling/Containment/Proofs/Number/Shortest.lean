import Containment.Number.Decimal

namespace Containment.Decimal

/-! The shortest decimal of a binary64 number reads back to it, and no decimal reads back
to two numbers: the intervals of two numbers have at most an end in common, and of two
neighbours one has an odd mantissa, whose interval lacks its ends. -/

attribute [local instance(1100)] instPowNat

/-- The value of a decimal in the count of `exactDigits`. -/
def count (decimal : Decimal) : Nat :=
  decimal.digits * 10 ^ (decimal.exponent + unitPlaces).toNat

/-- The distance to the next number above, in the count of `exactDigits`. -/
def gap (scale : Nat) : Nat :=
  2 ^ scale * 5 ^ unitPlaces

/-- Twice the distance from a number to the lower end of its interval. -/
def reach (mantissa scale : Nat) : Nat :=
  if mantissa = 2 ^ (52 : Nat) ∧ 0 < scale then gap scale else 2 * gap scale

theorem gap_pos (scale : Nat) : 0 < gap scale :=
  Nat.mul_pos (Nat.pow_pos (by decide)) (Nat.pow_pos (by decide))

theorem gap_add (scale more : Nat) : gap (scale + more) = 2 ^ more * gap scale := by
  rw [gap, gap, Nat.pow_add, Nat.mul_comm (2 ^ scale), Nat.mul_assoc]

theorem reach_le (mantissa scale : Nat) : reach mantissa scale ≤ 2 * gap scale := by
  unfold reach
  split <;> omega

theorem exactDigits_eq (mantissa scale : Nat) :
    exactDigits mantissa scale = mantissa * gap scale := by
  rw [exactDigits, gap, Nat.mul_assoc]

theorem readsBack_eq (mantissa scale candidate : Nat) :
    readsBack mantissa scale candidate =
      if mantissa % 2 = 0 then
        decide (4 * (mantissa * gap scale) - reach mantissa scale ≤ 4 * candidate) &&
          decide (4 * candidate ≤ 4 * (mantissa * gap scale) + 2 * gap scale)
      else
        decide (4 * (mantissa * gap scale) - reach mantissa scale < 4 * candidate) &&
          decide (4 * candidate < 4 * (mantissa * gap scale) + 2 * gap scale) := by
  simp only [readsBack, bounds, exactDigits_eq, reach, gap]
  rfl

theorem bounds_of_readsBack {mantissa scale candidate : Nat}
    (back : readsBack mantissa scale candidate = true) :
    4 * (mantissa * gap scale) ≤ 4 * candidate + reach mantissa scale ∧
      4 * candidate ≤ 4 * (mantissa * gap scale) + 2 * gap scale ∧
      (mantissa % 2 = 1 →
        4 * (mantissa * gap scale) < 4 * candidate + reach mantissa scale ∧
          4 * candidate < 4 * (mantissa * gap scale) + 2 * gap scale) := by
  rw [readsBack_eq] at back
  split at back
  · simp only [Bool.and_eq_true, decide_eq_true_eq] at back
    omega
  · simp only [Bool.and_eq_true, decide_eq_true_eq] at back
    omega

theorem readsBack_exactDigits (mantissa scale : Nat) :
    readsBack mantissa scale (exactDigits mantissa scale) = true := by
  have gapPos := gap_pos scale
  have reachPos : 0 < reach mantissa scale := by
    unfold reach
    split <;> omega
  rw [readsBack_eq, exactDigits_eq]
  split
  · simp only [Bool.and_eq_true, decide_eq_true_eq]
    omega
  · rename_i odd
    have exactPos : 0 < mantissa * gap scale := Nat.mul_pos (by omega) gapPos
    simp only [Bool.and_eq_true, decide_eq_true_eq]
    omega

theorem count_grid (digits places : Nat) :
    count ⟨digits, (places : Int) - unitPlaces⟩ = digits * 10 ^ places := by
  simp only [count, Int.sub_add_cancel, Int.toNat_natCast]

theorem onGrid?_readsBack {mantissa scale places : Nat} {decimal : Decimal}
    (hit : onGrid? mantissa scale places = some decimal) :
    readsBack mantissa scale decimal.count = true ∧ -unitPlaces ≤ decimal.exponent := by
  have ofHit : ∀ digits : Nat,
      readsBack mantissa scale (digits * 10 ^ places) = true →
      readsBack mantissa scale (count ⟨digits, (places : Int) - unitPlaces⟩) = true ∧
        -(unitPlaces : Int) ≤ (places : Int) - unitPlaces := by
    intro digits back
    rw [count_grid]
    exact ⟨back, by omega⟩
  unfold onGrid? at hit
  dsimp only at hit
  split at hit
  · rename_i lower upper
    split at hit <;> cases hit
    · exact ofHit _ lower
    · exact ofHit _ upper
  · rename_i lower _
    cases hit
    exact ofHit _ lower
  · rename_i _ upper
    cases hit
    exact ofHit _ upper
  · cases hit

theorem coarsest_readsBack (mantissa scale : Nat) :
    ∀ places, readsBack mantissa scale (coarsest mantissa scale places).count = true ∧
      -unitPlaces ≤ (coarsest mantissa scale places).exponent
  | 0 => by
      have exact : (coarsest mantissa scale 0).count = exactDigits mantissa scale := by
        simp only [coarsest, count, Int.add_left_neg, Int.toNat_zero, Nat.pow_zero, Nat.mul_one]
      rw [exact]
      exact ⟨readsBack_exactDigits mantissa scale, Int.le_refl _⟩
  | places + 1 => by
      unfold coarsest
      split
      · rename_i hit
        exact onGrid?_readsBack hit
      · exact coarsest_readsBack mantissa scale places

theorem shortest_readsBack (mantissa scale : Nat) :
    readsBack mantissa scale (shortest mantissa scale).count = true ∧
      -unitPlaces ≤ (shortest mantissa scale).exponent := by
  unfold shortest
  split
  · rename_i zero
    subst zero
    have exact := readsBack_exactDigits 0 scale
    rw [exactDigits_eq, Nat.zero_mul] at exact
    exact ⟨by simpa [count] using exact, by simp [unitPlaces]⟩
  · exact coarsest_readsBack mantissa scale _

/-- Two numbers with one scale: the one with the odd mantissa has no ends in common. -/
theorem not_readsBack_of_mantissa_lt {m n scale candidate : Nat} (less : m < n)
    (back : readsBack m scale candidate = true) :
    readsBack n scale candidate = false := by
  rw [← Bool.not_eq_true]
  intro other
  obtain ⟨-, upper, strict⟩ := bounds_of_readsBack back
  obtain ⟨lower, -, strict'⟩ := bounds_of_readsBack other
  have reached := reach_le n scale
  have gapPos := gap_pos scale
  obtain ⟨more, rfl⟩ : ∃ more, n = m + 1 + more := ⟨n - (m + 1), by omega⟩
  have product : (m + 1 + more) * gap scale = m * gap scale + gap scale + more * gap scale := by
    rw [Nat.add_mul, Nat.add_mul, Nat.one_mul]
  rw [product] at lower strict'
  have adjacent : more = 0 := by
    rcases Nat.eq_zero_or_pos more with zero | positive
    · exact zero
    · have := Nat.mul_le_mul_right (gap scale) positive
      omega
  subst adjacent
  rcases Nat.mod_two_eq_zero_or_one m with even | odd
  · have := (strict' (by omega)).1
    omega
  · have := (strict odd).2
    omega

/-- A greater scale starts with the power of two, half a gap below it. -/
theorem not_readsBack_of_scale_lt {m n s t candidate : Nat} (hm : Canonical m s)
    (hn : Canonical n t) (less : s < t) (back : readsBack m s candidate = true) :
    readsBack n t candidate = false := by
  rw [← Bool.not_eq_true]
  intro other
  obtain ⟨-, upper, strict⟩ := bounds_of_readsBack back
  obtain ⟨lower, -, -⟩ := bounds_of_readsBack other
  have gapPos := gap_pos s
  have gaps : 2 * gap s ≤ gap t := by
    obtain ⟨more, rfl⟩ : ∃ more, t = s + (1 + more) := ⟨t - s - 1, by omega⟩
    rw [gap_add, Nat.pow_add]
    exact Nat.mul_le_mul_right _ (Nat.le_mul_of_pos_right _ (Nat.pow_pos (by decide)))
  have mBound : m ≤ 2 ^ (53 : Nat) - 1 := by
    have := hm.1
    omega
  have nBound : 2 ^ (52 : Nat) ≤ n := by
    have := hn.2.2
    omega
  have top : m * gap s ≤ (2 ^ (53 : Nat) - 1) * gap s := Nat.mul_le_mul_right _ mBound
  by_cases power : n = 2 ^ (52 : Nat)
  · subst power
    have reached : reach (2 ^ (52 : Nat)) t = gap t := by
      rw [reach, if_pos ⟨rfl, by omega⟩]
    rw [reached] at lower
    by_cases last : m = 2 ^ (53 : Nat) - 1
    · subst last
      have := (strict (by decide)).2
      omega
    · have below : m * gap s ≤ (2 ^ (53 : Nat) - 2) * gap s := Nat.mul_le_mul_right _ (by omega)
      omega
  · have reached := reach_le n t
    have above : (2 ^ (52 : Nat) + 1) * gap t ≤ n * gap t := Nat.mul_le_mul_right _ (by omega)
    omega

theorem readsBack_unique {m n s t candidate : Nat} (hm : Canonical m s) (hn : Canonical n t)
    (back : readsBack m s candidate = true) (other : readsBack n t candidate = true) :
    m = n ∧ s = t := by
  rcases Nat.lt_trichotomy s t with less | rfl | less
  · simp [not_readsBack_of_scale_lt hm hn less back] at other
  · rcases Nat.lt_trichotomy m n with less | rfl | less
    · simp [not_readsBack_of_mantissa_lt less back] at other
    · exact ⟨rfl, rfl⟩
    · simp [not_readsBack_of_mantissa_lt less other] at back
  · simp [not_readsBack_of_scale_lt hn hm less other] at back

end Containment.Decimal
