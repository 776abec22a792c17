import Containment.Proofs.Number.Shortest
import Containment.Proofs.Text.Digits

namespace Containment

open Text

/-! The description of a binary64 number determines the number. -/

attribute [local instance(1100)] instPowNat

namespace Decimal

theorem positional_of_nonneg {decimal : Decimal} (whole : 0 ≤ decimal.exponent) :
    decimal.positional 1 =
      padded 1 (decimal.digits * 10 ^ decimal.exponent.toNat) ++ ['.', '0'] := by
  have none : (-decimal.exponent).toNat = 0 := by omega
  simp [positional, none]

theorem positional_of_neg {decimal : Decimal} (broken : decimal.exponent < 0) :
    decimal.positional 1 =
      let places := (-decimal.exponent).toNat
      let text := padded (places + 1) decimal.digits
      text.take (text.length - places) ++ '.' :: text.drop (text.length - places) := by
  have none : decimal.exponent.toNat = 0 := by omega
  obtain ⟨places, exact⟩ : ∃ places, (-decimal.exponent).toNat = places + 1 :=
    ⟨(-decimal.exponent).toNat - 1, by omega⟩
  have long := length_padded (places + 1 + 1) decimal.digits
  simp only [positional, none, exact, Nat.pow_zero, Nat.mul_one, List.length_drop]
  have full : 1 - ((padded (places + 1 + 1) decimal.digits).length -
      ((padded (places + 1 + 1) decimal.digits).length - (places + 1))) = 0 := by
    omega
  rw [full, List.replicate_zero, List.append_nil, if_neg]
  rw [List.isEmpty_iff, List.drop_eq_nil_iff]
  omega

/-- The digits before and after the point, and what they say about the value. -/
theorem positional_digits {decimal : Decimal} (least : -unitPlaces ≤ decimal.exponent) :
    ∃ whole rest, decimal.positional 1 = whole ++ '.' :: rest ∧ whole ≠ [] ∧
      (∀ c ∈ whole ++ rest, c.isDigit = true) ∧
      decimal.count * 10 ^ rest.length =
        Nat.ofDigitChars 10 (whole ++ rest) 0 * 10 ^ unitPlaces := by
  rcases Int.lt_or_le decimal.exponent 0 with broken | whole
  · have long := length_padded ((-decimal.exponent).toNat + 1) decimal.digits
    refine ⟨_, _, positional_of_neg broken, ?_, ?_, ?_⟩
    · intro nothing
      have := congrArg List.length nothing
      simp only [List.length_take, List.length_nil] at this
      omega
    · intro c mem
      rw [List.take_append_drop] at mem
      exact isDigit_of_mem_padded mem
    · rw [List.take_append_drop, ofDigitChars_padded, List.length_drop, count, Nat.mul_assoc,
        ← Nat.pow_add]
      congr 2
      omega
  · refine ⟨_, ['0'], positional_of_nonneg whole, ?_, ?_, ?_⟩
    · intro nothing
      have := congrArg List.length nothing
      rw [length_padded, List.length_nil] at this
      omega
    · intro c mem
      rcases List.mem_append.mp mem with mem | mem
      · exact isDigit_of_mem_padded mem
      · rw [List.mem_singleton.mp mem]
        rfl
    · rw [Nat.ofDigitChars_append, ofDigitChars_padded]
      have zero : ∀ n, Nat.ofDigitChars 10 ['0'] n = n * 10 := by
        intro n
        simp [Nat.ofDigitChars_cons, Nat.mul_comm]
      rw [zero, count, List.length_singleton, Nat.mul_assoc, Nat.mul_assoc, Nat.mul_assoc,
        ← Nat.pow_add, ← Nat.pow_succ', ← Nat.pow_add]
      congr 2
      omega

theorem positional_injective {d e : Decimal} (hd : -unitPlaces ≤ d.exponent)
    (he : -unitPlaces ≤ e.exponent) (same : d.positional 1 = e.positional 1) :
    d.count = e.count := by
  obtain ⟨whole, rest, hshown, -, hdigits, hvalue⟩ := positional_digits hd
  obtain ⟨whole', rest', hshown', -, hdigits', hvalue'⟩ := positional_digits he
  rw [hshown, hshown'] at same
  have noPoint : ∀ {text more : List Char}, (∀ c ∈ text ++ more, c.isDigit = true) →
      ∀ c ∈ text, (c == '.') = false := by
    intro text more digits c mem
    have digit := digits c (by simp [mem])
    exact beq_eq_false_iff_ne.mpr (ne_of_isDigit digit rfl)
  obtain ⟨rfl, ends⟩ := clear_append_cancel (p := (· == '.')) (noPoint hdigits)
    (noPoint hdigits') (by simp) (by simp) same
  obtain rfl := (List.cons.inj ends).2
  exact Nat.eq_of_mul_eq_mul_right (Nat.pow_pos (by decide)) (hvalue.trans hvalue'.symm)

theorem scientific_parts (decimal : Decimal) :
    ∃ front, decimal.scientific =
        front ++ 'e' :: (toString (decimal.exponent +
          (Nat.toDigits 10 decimal.digits).length - 1)).toList ∧
      front.filter (· != '.') = Nat.toDigits 10 decimal.digits ∧
      (∀ c ∈ front, c.isDigit = true ∨ c = '.') ∧
      ∃ first rest, front = first :: rest ∧ first.isDigit = true := by
  obtain ⟨first, more, shown⟩ : ∃ first more, Nat.toDigits 10 decimal.digits = first :: more :=
    List.exists_cons_of_ne_nil Nat.toDigits_ne_nil
  have digits : ∀ c ∈ first :: more, c.isDigit = true := by
    intro c mem
    rw [← shown] at mem
    exact Nat.isDigit_of_mem_toDigits (by decide) (by decide) mem
  have noPoint : ∀ c ∈ first :: more, (c != '.') = true := by
    intro c mem
    exact bne_iff_ne.mpr (ne_of_isDigit (digits c mem) rfl)
  cases more with
  | nil =>
      refine ⟨[first], by simp [scientific, shown], ?_, ?_, first, [], rfl,
        digits first (by simp)⟩
      · rw [shown, List.filter_eq_self]
        exact noPoint
      · exact fun c mem => .inl (digits c mem)
  | cons second more =>
      refine ⟨first :: '.' :: second :: more, by simp [scientific, shown], ?_, ?_, first, _,
        rfl, digits first (by simp)⟩
      · have kept : (second :: more).filter (· != '.') = second :: more :=
          List.filter_eq_self.mpr fun c mem => noPoint c (by simp [mem])
        rw [List.filter_cons_of_pos (p := (· != '.')) (noPoint first (by simp)),
          List.filter_cons_of_neg (by simp), kept, shown]
      · intro c mem
        rcases List.mem_cons.mp mem with rfl | mem
        · exact .inl (digits c (by simp))
        · rcases List.mem_cons.mp mem with rfl | mem
          · exact .inr rfl
          · exact .inl (digits c (by simp [mem]))

theorem scientific_injective {d e : Decimal} (same : d.scientific = e.scientific) : d = e := by
  obtain ⟨front, hshown, hdigits, hclear, -⟩ := scientific_parts d
  obtain ⟨front', hshown', hdigits', hclear', -⟩ := scientific_parts e
  rw [hshown, hshown'] at same
  have noMark : ∀ {front : List Char}, (∀ c ∈ front, c.isDigit = true ∨ c = '.') →
      ∀ c ∈ front, (c == 'e') = false := by
    intro front clear c mem
    cases mark : c == 'e' with
    | false => rfl
    | true =>
        rw [eq_of_beq mark] at mem
        exact absurd (clear 'e' mem) (by decide)
  obtain ⟨rfl, ends⟩ := clear_append_cancel (p := (· == 'e')) (noMark hclear)
    (noMark hclear') (by simp) (by simp) same
  have digits : d.digits = e.digits :=
    toDigits_injective (by decide) (by decide) (hdigits.symm.trans hdigits')
  have exponents := Int.repr_injective (String.toList_inj.mp (List.cons.inj ends).2)
  obtain ⟨digits, exponent⟩ := d
  obtain ⟨digits', exponent'⟩ := e
  simp only at digits
  subst digits
  simp only [mk.injEq, true_and]
  simp only at exponents
  omega

theorem scientific_ne_positional {d e : Decimal} (least : -unitPlaces ≤ e.exponent) :
    d.scientific ≠ e.positional 1 := by
  intro same
  obtain ⟨front, hshown, -⟩ := scientific_parts d
  obtain ⟨whole, rest, hshown', -, digits, -⟩ := positional_digits least
  have mem : 'e' ∈ e.positional 1 := by
    rw [← same, hshown]
    simp
  rw [hshown'] at mem
  have digit : ('e' : Char).isDigit = true ∨ 'e' = '.' := by
    rcases List.mem_append.mp mem with mem | mem
    · exact .inl (digits 'e' (by simp [mem]))
    · rcases List.mem_cons.mp mem with point | mem
      · exact .inr point
      · exact .inl (digits 'e' (by simp [mem]))
  exact absurd digit (by decide)

end Decimal

namespace Binary64

def bodyChars (mantissa scale : Nat) : List Char :=
  let units := mantissa * 2 ^ scale
  let decimal := Decimal.shortest mantissa scale
  if 10 ^ (16 : Nat) * unitsPerOne ≤ units ∨ (units ≠ 0 ∧ 10 ^ (4 : Nat) * units < unitsPerOne) then
    decimal.scientific
  else decimal.positional 1

theorem toList_describe_finite (negative : Bool) (mantissa scale : Nat)
    (canonical : Canonical mantissa scale) :
    (describe (.finite negative mantissa scale canonical)).toList =
      signChars negative ++ bodyChars mantissa scale := by
  simp [describe, bodyChars]

theorem bodyChars_head (mantissa scale : Nat) :
    ∃ first rest, bodyChars mantissa scale = first :: rest ∧ first.isDigit = true := by
  obtain ⟨-, least⟩ := Decimal.shortest_readsBack mantissa scale
  unfold bodyChars
  dsimp only
  split
  · obtain ⟨_, shown, -, -, first, rest, rfl, digit⟩ :=
      Decimal.scientific_parts (Decimal.shortest mantissa scale)
    exact ⟨first, _, shown, digit⟩
  · obtain ⟨whole, rest, shown, some, digits, -⟩ := Decimal.positional_digits least
    obtain ⟨first, more, rfl⟩ := List.exists_cons_of_ne_nil some
    exact ⟨first, _, shown, digits first (by simp)⟩

theorem bodyChars_injective {m n s t : Nat} (hm : Canonical m s) (hn : Canonical n t)
    (same : bodyChars m s = bodyChars n t) : m = n ∧ s = t := by
  obtain ⟨back, least⟩ := Decimal.shortest_readsBack m s
  obtain ⟨back', least'⟩ := Decimal.shortest_readsBack n t
  have counts : (Decimal.shortest m s).count = (Decimal.shortest n t).count := by
    unfold bodyChars at same
    dsimp only at same
    split at same <;> split at same
    · rw [Decimal.scientific_injective same]
    · exact absurd same (Decimal.scientific_ne_positional least')
    · exact absurd same.symm (Decimal.scientific_ne_positional least)
    · exact Decimal.positional_injective least least' same
  rw [← counts] at back'
  exact Decimal.readsBack_unique hm hn back back'

theorem signed_bodyChars_injective {a b : Bool} {m n s t : Nat} (hm : Canonical m s)
    (hn : Canonical n t) (same : signChars a ++ bodyChars m s = signChars b ++ bodyChars n t) :
    a = b ∧ m = n ∧ s = t := by
  obtain ⟨rfl, bodies⟩ := signChars_append_cancel (bodyChars_head m s) (bodyChars_head n t) same
  exact ⟨rfl, bodyChars_injective hm hn bodies⟩

theorem digit_mem_describe_finite (negative : Bool) (mantissa scale : Nat)
    (canonical : Canonical mantissa scale) :
    ∃ c ∈ (describe (.finite negative mantissa scale canonical)).toList, c.isDigit = true := by
  obtain ⟨first, rest, shown, digit⟩ := bodyChars_head mantissa scale
  refine ⟨first, ?_, digit⟩
  rw [toList_describe_finite, shown]
  simp

theorem not_digit_of_mem_describe {x : Binary64} (unbounded : x.units? = none) {c : Char}
    (mem : c ∈ x.describe.toList) : c.isDigit = false := by
  have words : ∀ word ∈ ["NaN", "inf", "-inf"], ∀ c ∈ String.toList word,
      c.isDigit = false := by
    simp
  cases x with
  | nan => exact words "NaN" (by decide) c mem
  | infinite negative =>
      cases negative
      · exact words "inf" (by decide) c mem
      · exact words "-inf" (by decide) c mem
  | finite negative mantissa scale h => cases unbounded

theorem describe_finite_ne {negative : Bool} {mantissa scale : Nat}
    {canonical : Canonical mantissa scale} {x : Binary64} (unbounded : x.units? = none) :
    describe (.finite negative mantissa scale canonical) ≠ x.describe := by
  intro same
  obtain ⟨c, mem, digit⟩ := digit_mem_describe_finite negative mantissa scale canonical
  rw [same] at mem
  rw [not_digit_of_mem_describe unbounded mem] at digit
  cases digit

theorem describe_injective {x y : Binary64} (same : x.describe = y.describe) : x = y := by
  cases x with
  | nan =>
      cases y with
      | nan => rfl
      | infinite negative => cases negative <;> exact absurd same (by decide)
      | finite => exact absurd same.symm (describe_finite_ne rfl)
  | infinite negative =>
      cases y with
      | nan => cases negative <;> exact absurd same (by decide)
      | infinite other =>
          cases negative <;> cases other <;> first | rfl | exact absurd same (by decide)
      | finite => exact absurd same.symm (describe_finite_ne rfl)
  | finite negative m s hm =>
      cases y with
      | nan => exact absurd same (describe_finite_ne rfl)
      | infinite => exact absurd same (describe_finite_ne rfl)
      | finite other n t hn =>
          have texts := String.toList_inj.mpr same
          rw [toList_describe_finite, toList_describe_finite] at texts
          obtain ⟨rfl, rfl, rfl⟩ := signed_bodyChars_injective hm hn texts
          rfl

theorem clear_bodyChars (mantissa scale : Nat) :
    ∀ c ∈ bodyChars mantissa scale, isMark c = false := by
  obtain ⟨-, least⟩ := Decimal.shortest_readsBack mantissa scale
  intro c mem
  unfold bodyChars at mem
  dsimp only at mem
  split at mem
  · obtain ⟨front, shown, -, clear, -⟩ :=
      Decimal.scientific_parts (Decimal.shortest mantissa scale)
    rw [shown] at mem
    rcases List.mem_append.mp mem with mem | mem
    · rcases clear c mem with digit | rfl
      · exact isMark_of_isDigit digit
      · rfl
    · rcases List.mem_cons.mp mem with rfl | mem
      · rfl
      · exact clear_repr _ c mem
  · obtain ⟨whole, rest, shown, -, digits, -⟩ := Decimal.positional_digits least
    rw [shown] at mem
    rcases List.mem_append.mp mem with mem | mem
    · exact isMark_of_isDigit (digits c (by simp [mem]))
    · rcases List.mem_cons.mp mem with rfl | mem
      · rfl
      · exact isMark_of_isDigit (digits c (by simp [mem]))

theorem clear_describe (x : Binary64) : ∀ c ∈ x.describe.toList, isMark c = false := by
  cases x with
  | nan => simp [describe, isMark]
  | infinite negative => cases negative <;> simp [describe, isMark]
  | finite negative mantissa scale canonical =>
      intro c mem
      rw [toList_describe_finite] at mem
      rcases List.mem_append.mp mem with mem | mem
      · cases negative
        · cases mem
        · rw [List.mem_singleton.mp mem]
          rfl
      · exact clear_bodyChars mantissa scale c mem

theorem unambiguous_describe (x y : Binary64) :
    Unambiguous (fun x : Binary64 => x.describe.toList) id x y :=
  unambiguous_of_clear clear_describe fun _ _ same => describe_injective (String.toList_inj.mp same)

end Binary64

end Containment
