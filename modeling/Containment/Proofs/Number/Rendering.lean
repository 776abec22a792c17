import Containment.Proofs.Number.ReadBack
import Containment.Proofs.Text.Digits

namespace Containment

open Text

/-! The text of a binary64 number in messages. It has a point or a word in it, unless the number
is a whole one of seventeen digits or more, which is shown like an integer. -/

attribute [local instance(1100)] instPowNat

namespace Decimal

variable {m s places : Nat} {decimal : Decimal}

/-- The whole number that a decimal without a fraction denotes. -/
def whole (decimal : Decimal) : Nat :=
  decimal.digits * 10 ^ decimal.exponent.toNat

theorem count_eq_whole (nonneg : 0 ≤ decimal.exponent) :
    decimal.count = decimal.whole * 10 ^ unitPlaces := by
  rw [count, whole, Int.toNat_add nonneg (Int.natCast_nonneg _), Int.toNat_natCast, Nat.pow_add,
    Nat.mul_assoc]

theorem positional_eq_toDigits (nonneg : 0 ≤ decimal.exponent) :
    decimal.positional 0 = Nat.toDigits 10 decimal.whole := by
  have none : (-decimal.exponent).toNat = 0 := by omega
  have some : 0 < (Nat.toDigits 10 decimal.whole).length := Nat.length_toDigits_pos
  have full : padded 1 decimal.whole = Nat.toDigits 10 decimal.whole := by
    rw [padded, Nat.sub_eq_zero_of_le some, List.replicate_zero, List.nil_append]
  rw [whole] at full
  simp [positional, none, full, whole]

theorem point_mem_positional (fraction : 0 < places ∨ decimal.exponent < 0) :
    '.' ∈ decimal.positional places := by
  have long := length_padded ((-decimal.exponent).toNat + 1)
    (decimal.digits * 10 ^ decimal.exponent.toNat)
  have some : 0 < max (-decimal.exponent).toNat places := by omega
  simp only [positional]
  rw [if_neg]
  · simp
  · rw [List.isEmpty_iff_length_eq_zero, List.length_append, List.length_replicate,
      List.length_drop]
    omega

theorem onGrid?_exponent (hit : onGrid? m s places = some decimal) :
    decimal.exponent = (places : Int) - unitPlaces := by
  unfold onGrid? at hit
  dsimp only at hit
  split at hit
  · split at hit <;> cases hit <;> rfl
  · cases hit
    rfl
  · cases hit
    rfl
  · cases hit

/-- A grid on which the number itself lies is hit. -/
theorem onGrid?_of_dvd (divides : 10 ^ places ∣ exactDigits m s) :
    ∃ decimal, onGrid? m s places = some decimal := by
  have back := readsBack_exactDigits m s
  rw [← Nat.div_mul_cancel divides] at back
  unfold onGrid?
  dsimp only
  rw [back]
  split <;> rename_i lower _
  · split <;> exact ⟨_, rfl⟩
  · exact ⟨_, rfl⟩
  · cases lower
  · cases lower

theorem coarsest_exponent (divides : 10 ^ unitPlaces ∣ exactDigits m s) :
    ∀ more, 0 ≤ (coarsest m s (more + unitPlaces)).exponent
  | 0 => by
      obtain ⟨decimal, hit⟩ := onGrid?_of_dvd divides
      have exponent := onGrid?_exponent hit
      have last : coarsest m s (0 + unitPlaces) = decimal := by
        rw [Nat.zero_add, unitPlaces, coarsest]
        rw [unitPlaces] at hit
        rw [hit]
      rw [last]
      omega
  | more + 1 => by
      rw [Nat.succ_add, coarsest]
      split
      · rename_i hit
        have exponent := onGrid?_exponent hit
        omega
      · exact coarsest_exponent divides more

theorem shortest_exponent (divides : 10 ^ unitPlaces ∣ exactDigits m s) :
    0 ≤ (shortest m s).exponent := by
  unfold shortest
  split
  case isTrue => exact Int.le_refl 0
  case isFalse nonzero =>
    have positive : 0 < exactDigits m s := by
      rw [exactDigits_eq]
      exact Nat.mul_pos (Nat.pos_of_ne_zero nonzero) (gap_pos s)
    have long : unitPlaces ≤ (Nat.toDigits 10 (exactDigits m s)).length := by
      by_contra short
      have few := (Nat.length_toDigits_le_iff (b := 10) (by decide) (by decide)).mp
        (Nat.le_of_not_le short)
      exact Nat.not_le_of_lt few (Nat.le_of_dvd positive divides)
    obtain ⟨more, equal⟩ := Nat.exists_eq_add_of_le' long
    rw [equal]
    exact coarsest_exponent divides more

/-- A decimal without a fraction reads back to whole numbers only. -/
theorem whole_of_exponent (nonneg : 0 ≤ (shortest m s).exponent) :
    Binary64.unitsPerOne ∣ m * 2 ^ s := by
  obtain ⟨back, -⟩ := shortest_readsBack m s
  rw [count_eq_whole nonneg, ten_pow_unitPlaces, ← Binary64.two_pow_onePlace] at back
  rw [← Binary64.two_pow_onePlace]
  rcases Nat.le_total Binary64.onePlace s with coarse | fine
  · exact Nat.dvd_mul_left_of_dvd (Nat.pow_dvd_pow 2 coarse) m
  · obtain ⟨more, parts⟩ := Nat.exists_eq_add_of_le' fine
    have ones : (shortest m s).whole * (2 ^ Binary64.onePlace * 5 ^ unitPlaces) =
        (shortest m s).whole * 2 ^ more * gap s := by
      rw [parts, Nat.pow_add, gap, Nat.mul_assoc, Nat.mul_assoc]
    rw [ones] at back
    have equal := eq_of_readsBack_mul_gap back
    refine ⟨(shortest m s).whole, ?_⟩
    conv_lhs => rw [← equal]
    rw [parts, Nat.pow_add, Nat.mul_assoc, Nat.mul_comm]

end Decimal

namespace Binary64

open Decimal

variable {negative : Bool} {m s : Nat}

/-- From here on a number is shown like an integer. -/
def Large (m s : Nat) : Prop :=
  10 ^ (16 : Nat) * unitsPerOne ≤ m * 2 ^ s

theorem toList_render_finite (canonical : Canonical m s) :
    (render (.finite negative m s canonical)).toList = signChars negative ++
      if unitsPerOne ∣ m * 2 ^ s ∧ m * 2 ^ s < 10 ^ (16 : Nat) * unitsPerOne then
        positional 1 ⟨m * 2 ^ s / unitsPerOne, 0⟩
      else positional 0 (shortest m s) := by
  simp only [render, String.toList_ofList, isSome_toInt?_finite]

theorem dvd_of_large (canonical : Canonical m s) (large : Large m s) :
    unitsPerOne ∣ m * 2 ^ s := by
  rw [← two_pow_onePlace]
  refine Nat.dvd_mul_left_of_dvd (Nat.pow_dvd_pow 2 ?_) m
  by_contra fine
  have power : 2 ^ s ≤ unitsPerOne := by
    rw [← two_pow_onePlace]
    exact Nat.pow_le_pow_right (by decide) (by omega)
  have below : m * 2 ^ s < 2 ^ (53 : Nat) * unitsPerOne :=
    Nat.mul_lt_mul_of_lt_of_le canonical.1 power unitsPerOne_pos
  rw [Large] at large
  omega

theorem exponent_of_large (canonical : Canonical m s) (large : Large m s) :
    0 ≤ (shortest m s).exponent := by
  refine shortest_exponent ?_
  rw [exactDigits, ten_pow_unitPlaces]
  exact Nat.mul_dvd_mul_right (dvd_of_large canonical large) _

theorem toList_render_of_large (canonical : Canonical m s) (large : Large m s) :
    (render (.finite negative m s canonical)).toList =
      signChars negative ++ Nat.toDigits 10 (shortest m s).whole := by
  rw [toList_render_finite, if_neg (fun small => Nat.not_le_of_lt small.2 large),
    positional_eq_toDigits (exponent_of_large canonical large)]

theorem point_mem_render (canonical : Canonical m s) (small : ¬ Large m s) :
    '.' ∈ (render (.finite negative m s canonical)).toList := by
  rw [toList_render_finite, List.mem_append]
  refine .inr ?_
  split
  case isTrue => exact point_mem_positional (.inl (by decide))
  case isFalse broken =>
    refine point_mem_positional (.inr (Int.not_le.mp fun nonneg => broken ⟨?_, ?_⟩))
    · exact whole_of_exponent nonneg
    · exact Nat.lt_of_not_le small

theorem signed_toDigits_injective {a b : Bool} {k l : Nat}
    (same : signChars a ++ Nat.toDigits 10 k = signChars b ++ Nat.toDigits 10 l) :
    a = b ∧ k = l := by
  obtain ⟨rfl, digits⟩ := signChars_append_cancel (toDigits_eq_cons k) (toDigits_eq_cons l) same
  exact ⟨rfl, toDigits_injective (b := 10) (by decide) (by decide) digits⟩

theorem letter_mem_render {x : Binary64} (unbounded : x.units? = none) :
    'n' ∈ x.render.toList := by
  cases x with
  | nan => decide
  | infinite negative => cases negative <;> decide
  | finite => cases unbounded

/-! The whole number that is shown for a large one: the ends of the range in which it is an
integer of 64 bits. -/

theorem whole_readsBack (canonical : Canonical m s) (large : Large m s) :
    readsBack m s ((shortest m s).whole * 10 ^ unitPlaces) = true := by
  obtain ⟨back, -⟩ := shortest_readsBack m s
  rwa [count_eq_whole (exponent_of_large canonical large)] at back

/-- The least number that is shown so is ten to the sixteenth, and it is shown exactly. -/
theorem le_whole (canonical : Canonical m s) (large : Large m s) :
    10 ^ (16 : Nat) ≤ (shortest m s).whole := by
  have first : Canonical 5000000000000000 1075 := by decide
  have units : 5000000000000000 * 2 ^ (1075 : Nat) = 10 ^ (16 : Nat) * unitsPerOne := by
    decide +kernel
  have shown : (shortest 5000000000000000 1075).whole = 10 ^ (16 : Nat) := by decide +kernel
  by_contra less
  have most := (units_le_of_readsBack canonical first units
    (whole_readsBack canonical large)).1 (by omega)
  obtain ⟨rfl, rfl⟩ := eq_of_units_eq canonical first
    ((Nat.le_antisymm most large).trans units.symm)
  exact less (Nat.le_of_eq shown.symm)

/-- Two to the sixty-third is neither an integer of 64 bits nor shown as one. -/
theorem whole_limits (canonical : Canonical m s) (large : Large m s) :
    ((shortest m s).whole ≤ 2 ^ (63 : Nat) → m * 2 ^ s < 2 ^ (63 : Nat) * unitsPerOne) ∧
      (m * 2 ^ s < 2 ^ (63 : Nat) * unitsPerOne → (shortest m s).whole < 2 ^ (63 : Nat)) := by
  have last : Canonical (2 ^ (52 : Nat)) 1085 := by decide
  have units : 2 ^ (52 : Nat) * 2 ^ (1085 : Nat) = 2 ^ (63 : Nat) * unitsPerOne := by
    decide +kernel
  -- The shortest decimal of this number is greater than the number itself.
  have shown : 2 ^ (63 : Nat) < (shortest (2 ^ (52 : Nat)) 1085).whole := by decide +kernel
  obtain ⟨below, above⟩ := units_le_of_readsBack canonical last units
    (whole_readsBack canonical large)
  constructor
  · intro most
    refine Nat.lt_of_le_of_ne (below most) fun same => ?_
    obtain ⟨rfl, rfl⟩ := eq_of_units_eq canonical last (same.trans units.symm)
    exact Nat.not_le_of_lt shown most
  · intro less
    by_contra more
    exact Nat.not_le_of_lt less (above (Nat.le_of_not_lt more))

theorem render_eq_toString_iff {x : Binary64} {n : Int} :
    x.render = toString n ↔ ∃ negative m s canonical,
      x = .finite negative m s canonical ∧ Large m s ∧
        n = signed negative (shortest m s).whole := by
  constructor
  · intro same
    have texts := String.toList_inj.mpr same
    cases x with
    | nan =>
        have plain := isDigit_or_sign_of_mem_toString (texts ▸ letter_mem_render rfl)
        exact absurd plain (by decide)
    | infinite negative =>
        have plain := isDigit_or_sign_of_mem_toString (texts ▸ letter_mem_render rfl)
        exact absurd plain (by decide)
    | finite negative m s canonical =>
        by_cases large : Large m s
        · rw [toList_render_of_large canonical large, toList_toString] at texts
          obtain ⟨sign, digits⟩ := signed_toDigits_injective texts
          refine ⟨negative, m, s, canonical, rfl, large, ?_⟩
          rw [sign, digits, signed_natAbs]
        · have plain := isDigit_or_sign_of_mem_toString (texts ▸ point_mem_render canonical large)
          exact absurd plain (by decide)
  · rintro ⟨negative, m, s, canonical, rfl, large, rfl⟩
    have positive : 0 < (shortest m s).whole :=
      Nat.lt_of_lt_of_le (by decide) (le_whole canonical large)
    rw [← String.toList_inj, toList_render_of_large canonical large, toList_toString,
      natAbs_signed, decide_signed negative positive]

end Binary64

end Containment
