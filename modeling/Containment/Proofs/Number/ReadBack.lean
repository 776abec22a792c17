import Containment.Proofs.Number.Rounding
import Containment.Proofs.Number.Shortest

namespace Containment

/-! A decimal that reads back to a number is rounded to it, and reading back is monotone: a
decimal below a number reads back to that number or to one below it. -/

attribute [local instance(1100)] instPowNat

namespace Binary64

/-- The whole number nearest to a quotient is the one within half of it, or the even one of
two that are half away. -/
theorem roundHalfEven_eq {numerator denominator m : Nat}
    (below : 2 * (m * denominator) ≤ 2 * numerator + denominator)
    (above : 2 * numerator ≤ 2 * (m * denominator) + denominator)
    (strict : m % 2 = 1 → 2 * (m * denominator) < 2 * numerator + denominator ∧
      2 * numerator < 2 * (m * denominator) + denominator)
    (positive : 0 < denominator) :
    roundHalfEven numerator denominator = m := by
  have whole := Nat.div_add_mod' numerator denominator
  have rest := Nat.mod_lt numerator positive
  have least : numerator / denominator ≤ m := by
    by_contra less
    have := Nat.mul_le_mul_right denominator (Nat.lt_of_not_le less)
    rw [Nat.succ_mul] at this
    omega
  have most : m ≤ numerator / denominator + 1 := by
    by_contra more
    have := Nat.mul_le_mul_right denominator (Nat.lt_of_not_le more)
    rw [Nat.succ_mul, Nat.succ_mul] at this
    omega
  simp only [roundHalfEven]
  obtain equal | next : m = numerator / denominator ∨ m = numerator / denominator + 1 := by
    omega
  · rw [← equal] at whole ⊢
    split
    case isTrue => rfl
    split <;> omega
  · have product : m * denominator = numerator / denominator * denominator + denominator := by
      rw [next, Nat.succ_mul]
    split
    case isTrue => omega
    split <;> omega

theorem decide_signed (negative : Bool) {n : Nat} (positive : 0 < n) :
    decide (signed negative n < 0) = negative := by
  cases negative
  · simp [signed]
  · simp [signed, positive]

end Binary64

namespace Decimal

open Binary64

variable {m n s t candidate : Nat}

theorem lastPlace_le_of_count {units : Nat}
    (bound : units * 5 ^ unitPlaces < 2 ^ (53 : Nat) * gap s) : lastPlace units 1 ≤ s := by
  refine lastPlace_le (by decide) ?_
  rw [gap, ← Nat.mul_assoc] at bound
  rw [Nat.one_mul, Nat.pow_add]
  exact Nat.lt_of_mul_lt_mul_right bound

theorem le_lastPlace_of_count {units : Nat}
    (bound : 2 ^ (52 : Nat) * gap s ≤ units * 5 ^ unitPlaces) : s ≤ lastPlace units 1 := by
  refine le_lastPlace (by decide) ?_
  rw [gap, ← Nat.mul_assoc] at bound
  rw [Nat.one_mul, Nat.pow_add]
  exact Nat.le_of_mul_le_mul_right bound (Nat.pow_pos (by decide))

theorem mantissaOf_eq_of_count (units : Nat) :
    mantissaOf units 1 = roundHalfEven (units * 5 ^ unitPlaces) (gap (lastPlace units 1)) := by
  rw [gap, roundHalfEven_scale _ _ (Nat.pow_pos (by decide)), mantissaOf, Nat.one_mul]

theorem roundHalfEven_of_readsBack (back : readsBack m s candidate = true) :
    roundHalfEven candidate (gap s) = m := by
  obtain ⟨below, above, strict⟩ := bounds_of_readsBack back
  have reached := reach_le m s
  exact roundHalfEven_eq (by omega) (by omega) (fun odd => by have := strict odd; omega)
    (gap_pos s)

theorem ofUnits_of_readsBack (negative : Bool) {units : Nat} (canonical : Canonical m s)
    (back : readsBack m s (units * 5 ^ unitPlaces) = true) :
    ofUnits negative units 1 = .finite negative m s canonical := by
  obtain ⟨below, above, -⟩ := bounds_of_readsBack back
  have reached := reach_le m s
  have gapPos := gap_pos s
  have less := canonical.1
  have short : units * 5 ^ unitPlaces < 2 ^ (53 : Nat) * gap s := by
    have := Nat.mul_le_mul_right (gap s) (Nat.le_sub_one_of_lt less)
    omega
  change (if mantissaOf units 1 = 2 ^ (53 : Nat) then
      assemble negative (2 ^ (52 : Nat)) (lastPlace units 1 + 1)
    else assemble negative (mantissaOf units 1) (lastPlace units 1)) = _
  rw [mantissaOf_eq_of_count]
  by_cases full : s = 0 ∨ 2 ^ (52 : Nat) * gap s ≤ units * 5 ^ unitPlaces
  · have last : lastPlace units 1 = s := by
      refine Nat.le_antisymm (lastPlace_le_of_count short) ?_
      rcases full with rfl | full
      · exact Nat.zero_le _
      · exact le_lastPlace_of_count full
    rw [last, roundHalfEven_of_readsBack back, if_neg (Nat.ne_of_lt less),
      assemble_of_canonical negative canonical]
  · -- Only below a power of two does a number have decimals of a smaller scale.
    obtain ⟨normal, small⟩ := not_or.mp full
    obtain ⟨t, rfl⟩ : ∃ t, s = t + 1 := ⟨s - 1, by omega⟩
    have power : m = 2 ^ (52 : Nat) := by
      have least := canonical.2.2.resolve_left normal
      by_contra more
      have : (2 ^ (52 : Nat) + 1) * gap (t + 1) ≤ m * gap (t + 1) :=
        Nat.mul_le_mul_right _ (by omega)
      omega
    subst power
    have halves : gap (t + 1) = 2 * gap t := gap_add t 1
    rw [reach, if_pos ⟨rfl, by omega⟩] at below
    have last : lastPlace units 1 = t :=
      Nat.le_antisymm (lastPlace_le_of_count (by omega)) (le_lastPlace_of_count (by omega))
    have carry : roundHalfEven (units * 5 ^ unitPlaces) (gap t) = 2 ^ (53 : Nat) :=
      roundHalfEven_eq (by omega) (by omega) (fun odd => absurd odd (by decide)) (gap_pos t)
    rw [last, carry, if_pos rfl, assemble_of_canonical negative canonical]

theorem ten_pow_unitPlaces : 10 ^ unitPlaces = unitsPerOne * 5 ^ unitPlaces := by
  have factors : 10 = 2 * 5 := rfl
  have places : onePlace = unitPlaces := rfl
  rw [factors, Nat.mul_pow, ← two_pow_onePlace, places]

/-- An integer that reads back to a number is rounded to it. -/
theorem ofInt_of_readsBack {k : Nat} {negative : Bool} (canonical : Canonical m s)
    (back : readsBack m s (k * 10 ^ unitPlaces) = true) (positive : 0 < k) :
    ofInt (signed negative k) = .finite negative m s canonical := by
  rw [ten_pow_unitPlaces, ← Nat.mul_assoc] at back
  rw [ofInt, decide_signed negative positive, natAbs_signed]
  exact ofUnits_of_readsBack negative canonical back

/-! What reads back to a number makes an interval, and the number lies in it. -/

theorem readsBack_of_between {low middle high : Nat} (back : readsBack m s low = true)
    (back' : readsBack m s high = true) (least : low ≤ middle) (most : middle ≤ high) :
    readsBack m s middle = true := by
  rw [readsBack_eq] at back back' ⊢
  split at back <;>
    simp only [*, if_true, if_false, Bool.and_eq_true, decide_eq_true_eq] at back back' ⊢ <;>
    omega

theorem exactDigits_le_of_readsBack (hm : Canonical m s) (hn : Canonical n t)
    (back : readsBack m s candidate = true) (le : candidate ≤ exactDigits n t) :
    exactDigits m s ≤ exactDigits n t := by
  by_contra more
  have between :=
    readsBack_of_between back (readsBack_exactDigits m s) le (Nat.le_of_not_le more)
  obtain ⟨rfl, rfl⟩ := readsBack_unique hm hn between (readsBack_exactDigits n t)
  exact more (Nat.le_refl _)

theorem le_exactDigits_of_readsBack (hm : Canonical m s) (hn : Canonical n t)
    (back : readsBack m s candidate = true) (le : exactDigits n t ≤ candidate) :
    exactDigits n t ≤ exactDigits m s := by
  by_contra less
  have between :=
    readsBack_of_between (readsBack_exactDigits m s) back (Nat.le_of_not_le less) le
  obtain ⟨rfl, rfl⟩ := readsBack_unique hm hn between (readsBack_exactDigits n t)
  exact less (Nat.le_refl _)

theorem eq_of_units_eq (hm : Canonical m s) (hn : Canonical n t)
    (same : m * 2 ^ s = n * 2 ^ t) : m = n ∧ s = t := by
  have back := readsBack_exactDigits n t
  rw [exactDigits, ← same] at back
  exact readsBack_unique hm hn (readsBack_exactDigits m s) back

/-- An integer that reads back to a number lies on the same side of any integer that is itself
a number. -/
theorem units_le_of_readsBack {whole limit : Nat} (hm : Canonical m s) (hn : Canonical n t)
    (units : n * 2 ^ t = limit * unitsPerOne)
    (back : readsBack m s (whole * 10 ^ unitPlaces) = true) :
    (whole ≤ limit → m * 2 ^ s ≤ limit * unitsPerOne) ∧
      (limit ≤ whole → limit * unitsPerOne ≤ m * 2 ^ s) := by
  have power : 0 < 5 ^ unitPlaces := Nat.pow_pos (by decide)
  have count : exactDigits n t = limit * 10 ^ unitPlaces := by
    rw [exactDigits, units, ten_pow_unitPlaces, Nat.mul_assoc]
  constructor
  · intro most
    have product : whole * 10 ^ unitPlaces ≤ exactDigits n t := by
      rw [count]
      exact Nat.mul_le_mul_right _ most
    have below := exactDigits_le_of_readsBack hm hn back product
    rw [exactDigits, exactDigits, units] at below
    exact Nat.le_of_mul_le_mul_right below power
  · intro least
    have product : exactDigits n t ≤ whole * 10 ^ unitPlaces := by
      rw [count]
      exact Nat.mul_le_mul_right _ least
    have above := le_exactDigits_of_readsBack hm hn back product
    rw [exactDigits, exactDigits, units] at above
    exact Nat.le_of_mul_le_mul_right above power

/-- Of the numbers of a scale, only the number itself reads back to it. -/
theorem eq_of_readsBack_mul_gap (back : readsBack m s (n * gap s) = true) : n = m := by
  have rounded := roundHalfEven_of_readsBack back
  rwa [roundHalfEven_mul (gap_pos s)] at rounded

end Decimal

end Containment
