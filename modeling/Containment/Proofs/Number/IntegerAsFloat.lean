import Containment.Proofs.Number.Equality
import Containment.Proofs.Number.Integer
import Containment.Proofs.Number.ReadBack
import Mathlib.Data.List.TakeDrop
import Mathlib.Data.List.TakeWhile

namespace Containment

open Text

/-! Integers where a float is wanted. A written integer is read as the float nearest to its
number, and a float that is whole is the nearest one to its number. Zero can come with a sign. -/

attribute [local instance(1100)] instPowNat

namespace Binary64

variable {x : Binary64} {n : Int}

theorem ofInt_of_toInt? (whole : x.toInt? = some n) (nonzero : n ≠ 0) : ofInt n = x := by
  have units := toInt?_eq_some_iff.mp whole
  cases x with
  | nan | infinite => cases units
  | finite negative m s canonical =>
      have same : signed negative (m * 2 ^ s) = n * unitsPerOne := Option.some.inj units
      have magnitude : m * 2 ^ s = n.natAbs * unitsPerOne := by
        rw [← natAbs_signed negative (m * 2 ^ s), same, natAbs_mul_unitsPerOne]
      have back : Decimal.readsBack m s (n.natAbs * 10 ^ Decimal.unitPlaces) = true := by
        rw [Decimal.ten_pow_unitPlaces, ← Nat.mul_assoc, ← magnitude]
        exact Decimal.readsBack_exactDigits m s
      have sign : negative = decide (n < 0) := by
        rw [← sign_mul_natCast n unitsPerOne_pos, ← same]
        apply sign_of_signed
        rw [same]
        exact Int.mul_ne_zero nonzero (Int.ne_of_gt natCast_unitsPerOne_pos)
      rw [← signed_natAbs n, ← sign]
      exact Decimal.ofInt_of_readsBack canonical back (Int.natAbs_pos.mpr nonzero)

theorem ofInt_equals_of_toInt? (whole : x.toInt? = some n) : (ofInt n).equals x = true := by
  by_cases zero : n = 0
  · subst zero
    exact (equals_iff_units (units?_ofInt_exact (by decide)) (toInt?_eq_some_iff.mp whole)).mpr rfl
  · rw [← ofInt_of_toInt? whole zero]
    exact equals_self (isNan_ofInt n)

/-- The digits of an integer give the float nearest to it, unless they are too many for any. -/
theorem ofInt_equals_ofDecimal (negative : Bool) {n : Nat}
    (short : (Nat.toDigits 10 n).length ≤ 309) :
    (ofInt (signed negative n)).equals (ofDecimal negative n 0) = true := by
  rcases Nat.eq_zero_or_pos n with rfl | positive
  · have whole : (ofDecimal negative 0 0).toInt? = some (signed negative 0) := by
      rw [toInt?_eq_some_iff]
      cases negative <;> exact congrArg some (Int.zero_mul _).symm
    exact ofInt_equals_of_toInt? whole
  · have same : ofDecimal negative n 0 = ofInt (signed negative n) := by
      rw [ofDecimal, ofInt, decide_signed negative positive, natAbs_signed, if_neg (by omega),
        if_neg (by omega), Int.toNat_zero, Int.neg_zero, Int.toNat_zero, Nat.pow_zero, Nat.mul_one]
    rw [same]
    exact equals_self (isNan_ofInt _)

end Binary64

namespace Numeral

variable {text whole digits : List Char} {negative : Bool} {number : Int}

theorem isGroupChar_of_grouped (grouped : Grouped isDecimalDigit text digits) :
    ∀ c ∈ text, isGroupChar c = true := by
  have digit {c : Char} (decimal : isDecimalDigit c = true) : isGroupChar c = true := by
    rw [isGroupChar, decimal, Bool.true_or]
  induction grouped with
  | last _ all => exact fun c mem => digit (all c mem)
  | next _ _ all _ ih =>
      refine List.forall_mem_append.mpr ⟨fun c mem => digit (all c mem), ?_⟩
      exact List.forall_mem_cons.mpr ⟨rfl, ih⟩

theorem Written.exists_splitSign (written : Written isDecimalDigit text negative digits) :
    ∃ whole, splitSign text = (negative, whole) ∧ Grouped isDecimalDigit whole digits := by
  cases written with
  | bare grouped =>
      obtain ⟨c, rest, _, rfl, -, digit⟩ := grouped.exists_cons
      exact ⟨_, splitSign_of_isDecimalDigit digit rest, grouped⟩
  | plus grouped | minus grouped => exact ⟨_, rfl, grouped⟩

/-- A written integer has neither a fraction nor an exponent. -/
theorem parts?_of_splitSign (split : splitSign text = (negative, whole))
    (grouped : Grouped isDecimalDigit whole digits) :
    parts? text = some ⟨negative, whole, [], []⟩ := by
  have group := isGroupChar_of_grouped grouped
  have span : whole.span isGroupChar = (whole, []) := by
    rw [List.span_eq_takeWhile_dropWhile, List.takeWhile_eq_self_iff.mpr group,
      List.dropWhile_eq_nil_iff.mpr group]
  have groups : isDigitGroups isDecimalDigit whole = true :=
    (isDigitGroups_iff (by decide)).mpr ⟨digits, grouped⟩
  simp only [parts?, split, span, groups, if_true, exponent?, Option.map_some]

theorem Parts.toBinary64?_of_grouped {n : Nat} (grouped : Grouped isDecimalDigit whole digits)
    (value : natOfDigits? digits = some n) (negative : Bool) :
    (⟨negative, whole, [], []⟩ : Parts).toBinary64? =
      some (Binary64.ofDecimal negative n 0) := by
  have plain : dropUnderscores whole ++ dropUnderscores [] = digits := by
    rw [grouped.dropUnderscores_eq (by decide)]
    exact List.append_nil digits
  simp only [toBinary64?, plain, value]
  rfl

/-- The words for infinity and not-a-number begin with no digit. -/
theorem special?_of_splitSign {c : Char} {rest : List Char}
    (split : splitSign text = (negative, c :: rest)) (digit : c.isDigit = true) :
    special? text = none := by
  have bounds := bounds_of_isDigit digit
  have lower : c.toLower = c := by
    refine dif_neg fun upper => ?_
    have least : 65 ≤ c.toNat := UInt32.le_iff_toNat_le.mp upper.1
    omega
  have apart {first : Char} {word : String} (spelled : word.toList.head? = some first)
      (letter : first.isDigit = false) : String.ofList ((c :: rest).map Char.toLower) ≠ word := by
    rintro rfl
    rw [String.toList_ofList, List.map_cons, List.head?_cons, lower] at spelled
    cases spelled
    cases digit.symm.trans letter
  simp only [special?, split]
  split
  case h_1 same => exact absurd same (apart rfl rfl)
  case h_2 same => exact absurd same (apart rfl rfl)
  case h_3 same => exact absurd same (apart rfl rfl)
  case h_4 => rfl

theorem binary64?_of_written (written : Written Char.isDigit text negative digits) :
    binary64? text = some (Binary64.ofDecimal negative (numberOf digits) 0) := by
  obtain ⟨_, ascii⟩ := written.grouped
  have all := ascii.isDigit_of_mem
  have decimal : Written isDecimalDigit text negative digits :=
    written.restrict fun c mem => isDecimalDigit_of_isDigit (all c mem)
  obtain ⟨whole, split, grouped⟩ := decimal.exists_splitSign
  obtain ⟨c, rest, others, rfl, rfl, -⟩ := grouped.exists_cons
  have value : natOfDigits? (c :: others) = some (numberOf (c :: others)) :=
    (natOfDigits?_eq_some_iff (List.cons_ne_nil c others)).mpr ⟨all, rfl⟩
  rw [binary64?, special?_of_splitSign split (all c (.head others))]
  change (parts? text).bind Parts.toBinary64? = _
  rw [parts?_of_splitSign split grouped]
  exact Parts.toBinary64?_of_grouped grouped value negative

/-- A text that denotes an integer in ASCII digits is also read as a float, the nearest one. -/
theorem exists_binary64?_of_denotes (denotes : Denotes Char.isDigit text number)
    (short : (Nat.toDigits 10 number.natAbs).length ≤ 309) :
    ∃ x, binary64? text = some x ∧ (Binary64.ofInt number).equals x = true := by
  obtain ⟨negative, digits, written, rfl⟩ := denotes
  rw [Binary64.natAbs_signed] at short
  exact ⟨_, binary64?_of_written written, Binary64.ofInt_equals_ofDecimal negative short⟩

end Numeral

end Containment
