import Containment.Proofs.Collection.Item
import Containment.Proofs.Number.Integer
import Containment.Proofs.Number.Rounding
import Mathlib.Algebra.Field.Rat

namespace Containment

/-! The numbers that literals denote. Truth values, integers and floats are one item where they
denote one number, and no other literals are unless they are equal. -/

attribute [local instance(1100)] instPowNat

/-- What a number literal denotes: a rational number or an infinity. -/
inductive Quantity where
  | finite (value : ℚ)
  | infinite (negative : Bool)

namespace Binary64

/-- A finite float denotes its mantissa times a power of two. -/
def quantity? : Binary64 → Option Quantity
  | .nan => none
  | .infinite negative => some (.infinite negative)
  | .finite negative mantissa scale _ =>
      some (.finite (signed negative mantissa * 2 ^ ((scale : ℤ) - onePlace)))

theorem signed_mul_natCast (negative : Bool) (m n : Nat) :
    signed negative (m * n) = signed negative m * n := by
  cases negative with
  | false => exact Int.natCast_mul m n
  | true => rw [signed, signed, if_pos rfl, if_pos rfl, Int.natCast_mul, Int.neg_mul]

theorem rational_eq_units (negative : Bool) (mantissa scale : Nat) :
    (signed negative mantissa : ℚ) * 2 ^ ((scale : ℤ) - onePlace) =
      (signed negative (mantissa * 2 ^ scale) : ℚ) / unitsPerOne := by
  rw [signed_mul_natCast, ← two_pow_onePlace, zpow_sub₀ two_ne_zero, zpow_natCast, zpow_natCast,
    ← mul_div_assoc]
  push_cast
  rfl

theorem natCast_unitsPerOne_ne_zero : (unitsPerOne : ℚ) ≠ 0 :=
  Nat.cast_ne_zero.mpr (Nat.ne_of_gt unitsPerOne_pos)

variable {x y : Binary64}

/-- Floats denote one number where they are compared as equal. -/
theorem quantity?_eq_iff : x.quantity? = y.quantity? ↔ x.worth = y.worth := by
  cases x <;> cases y <;> simp only [quantity?, worth, rational_eq_units, reduceCtorEq,
    Option.some.injEq, Quantity.finite.injEq, Quantity.infinite.injEq, Sum.inl.injEq,
    Sum.inr.injEq, div_left_inj' natCast_unitsPerOne_ne_zero, Int.cast_inj]

theorem eq_nan (none : x.quantity? = none) : x = .nan := by
  cases x with
  | nan => rfl
  | infinite | finite => cases none

theorem quantity?_eq_whole_iff {n : Int} :
    x.quantity? = some (.finite n) ↔ x.toInt? = some n := by
  rw [toInt?_eq_some_iff]
  cases x with
  | nan | infinite => exact iff_of_false nofun nofun
  | finite negative mantissa scale =>
      rw [quantity?, rational_eq_units, units?_finite, Option.some.injEq, Option.some.injEq,
        Quantity.finite.injEq, div_eq_iff natCast_unitsPerOne_ne_zero]
      norm_cast

end Binary64

/-- The number that a literal denotes. True counts as one and false as zero. -/
def Literal.quantity? : Literal → Option Quantity
  | .bool flag => some (.finite (if flag then 1 else 0))
  | .int number => some (.finite number.toInt)
  | .float number => number.quantity?
  | _ => none

/-- The same bytes, the same text, or members of one name. -/
inductive Literal.SameContent : Literal → Literal → Prop where
  | bytes (content : List UInt8) : SameContent (.bytes content) (.bytes content)
  | str (text : String) : SameContent (.str text) (.str text)
  | member (enumeration name : String) (payload payload' : Value) :
      SameContent (.member enumeration name payload) (.member enumeration name payload')

theorem Literal.SameContent.no_quantity {a b : Literal} (content : a.SameContent b) :
    a.quantity? = none ∧ b.quantity? = none := by
  cases content with
  | bytes | str | member => exact ⟨rfl, rfl⟩

namespace ItemKey

variable {a b : Literal} {quantity quantity' : Quantity}

/-- The key of a number is an integer of 64 bits, or a float that is none. -/
theorem ofLiteral_of_quantity? (denotes : a.quantity? = some quantity) :
    (∃ word : Int64, quantity = .finite word.toInt ∧ ofLiteral a = .whole word.toInt) ∨
      ∃ number : Binary64, number.quantity? = some quantity ∧
        (∀ word : Int64, quantity ≠ .finite word.toInt) ∧ ofLiteral a = .fractional number := by
  cases a with
  | bool flag =>
      cases denotes
      cases flag with
      | false => exact .inl ⟨0, by simp, rfl⟩
      | true => exact .inl ⟨1, by simp, rfl⟩
  | int number =>
      cases denotes
      exact .inl ⟨number, rfl, rfl⟩
  | float number =>
      rw [Literal.quantity?] at denotes
      simp only [ofLiteral]
      cases held : number.toInt?.bind Numeral.int64? with
      | some word =>
          obtain ⟨n, whole, fits⟩ := Option.bind_eq_some_iff.mp held
          rw [← Numeral.toInt_of_int64? fits, ← Binary64.quantity?_eq_whole_iff, denotes] at whole
          exact .inl ⟨word, Option.some.inj whole, rfl⟩
      | none =>
          refine .inr ⟨number, denotes, fun word same => ?_, rfl⟩
          rw [same, Binary64.quantity?_eq_whole_iff] at denotes
          rw [denotes, Option.bind_some, Numeral.int64?_toInt] at held
          cases held
  | _ => cases denotes

theorem same_iff_of_quantity? (denotes : a.quantity? = some quantity)
    (denotes' : b.quantity? = some quantity') :
    (ofLiteral a).same (ofLiteral b) = true ↔ quantity = quantity' := by
  rcases ofLiteral_of_quantity? denotes with ⟨word, rfl, key⟩ | ⟨number, denoted, broken, key⟩ <;>
    rcases ofLiteral_of_quantity? denotes' with
      ⟨word', rfl, key'⟩ | ⟨number', denoted', broken', key'⟩ <;>
    rw [key, key']
  · rw [same_iff, identity, identity, Sum.inl.injEq, Quantity.finite.injEq, Int.cast_inj]
  · exact iff_of_false Bool.false_ne_true fun same => broken' word same.symm
  · exact iff_of_false Bool.false_ne_true (broken word')
  · rw [same_iff, identity, identity, Sum.inr.injEq, Sum.inl.injEq, ← Binary64.quantity?_eq_iff,
      denoted, denoted', Option.some.injEq]

theorem ofLiteral_of_no_quantity (none : a.quantity? = none) (given : a ≠ .float .nan) :
    ofLiteral a = .other a := by
  cases a with
  | bool | int => cases none
  | float number => exact absurd (congrArg Literal.float (Binary64.eq_nan none)) given
  | bytes | str | member => rfl

/-- A number is no item with what denotes none. -/
theorem not_same_of_quantity? (denotes : a.quantity? = some quantity) (none : b.quantity? = none)
    (given : b ≠ .float .nan) :
    (ofLiteral a).same (ofLiteral b) = false ∧ (ofLiteral b).same (ofLiteral a) = false := by
  rw [ofLiteral_of_no_quantity none given]
  rcases ofLiteral_of_quantity? denotes with ⟨word, -, key⟩ | ⟨number, -, -, key⟩ <;> rw [key]
  · exact ⟨rfl, rfl⟩
  · exact ⟨rfl, rfl⟩

theorem same_iff_sameContent (none : a.quantity? = none) (given : a ≠ .float .nan)
    (none' : b.quantity? = .none) (given' : b ≠ .float .nan) :
    (ofLiteral a).same (ofLiteral b) = true ↔ a.SameContent b := by
  rw [ofLiteral_of_no_quantity none given, ofLiteral_of_no_quantity none' given', same]
  constructor
  · intro agrees
    cases a <;> cases b <;>
      simp only [Literal.agrees, beq_iff_eq, Bool.and_eq_true, Bool.false_eq_true] at agrees
    case bool.bool | int.int => cases none
    case float.float => exact absurd (congrArg Literal.float (Binary64.eq_nan none)) given
    case bytes.bytes => exact agrees ▸ .bytes _
    case str.str => exact agrees ▸ .str _
    case member.member =>
      obtain ⟨rfl, rfl⟩ := agrees
      exact .member _ _ _ _
  · intro content
    cases content with
    | bytes | str | member => simp [Literal.agrees]

/-- Two literals other than not-a-number are one item where they denote one number, or where both
are bytes, texts or members and they are equal. So an integer and a float are one item only if
the float has exactly the value of the integer, and both zeros, zero and false are one. -/
theorem same_iff_one_number :
    (∀ a b : Literal, a ≠ .float .nan → b ≠ .float .nan →
      ((ofLiteral a).same (ofLiteral b) = true ↔
        (∃ quantity, a.quantity? = some quantity ∧ b.quantity? = some quantity) ∨
          a.SameContent b)) ∧
    (∀ (number : Int64) (float : Binary64),
      (ofLiteral (.int number)).same (ofLiteral (.float float)) = true ↔
        float.quantity? = some (.finite number.toInt)) ∧
    ∀ a ∈ [Literal.float (.zero false), .float (.zero true), .int 0, .bool false],
      ∀ b ∈ [Literal.float (.zero false), .float (.zero true), .int 0, .bool false],
        (ofLiteral a).same (ofLiteral b) = true := by
  refine ⟨fun a b given given' => ?_, fun number float => ?_, by decide⟩
  · cases here : a.quantity? with
    | some quantity =>
        cases there : b.quantity? with
        | some quantity' =>
            rw [same_iff_of_quantity? here there]
            constructor
            · rintro rfl
              exact .inl ⟨quantity, rfl, rfl⟩
            · rintro (⟨_, ⟨⟩, ⟨⟩⟩ | content)
              · rfl
              · cases here.symm.trans content.no_quantity.1
        | none =>
            rw [(not_same_of_quantity? here there given').1]
            refine iff_of_false Bool.false_ne_true ?_
            rintro (⟨_, -, ⟨⟩⟩ | content)
            cases here.symm.trans content.no_quantity.1
    | none =>
        cases there : b.quantity? with
        | some quantity' =>
            rw [(not_same_of_quantity? there here given).2]
            refine iff_of_false Bool.false_ne_true ?_
            rintro (⟨_, ⟨⟩, -⟩ | content)
            cases there.symm.trans content.no_quantity.2
        | none =>
            rw [same_iff_sameContent here given there given']
            simp
  · have denotes : (Literal.int number).quantity? = some (.finite number.toInt) := rfl
    cases there : float.quantity? with
    | some quantity =>
        have denotes' : (Literal.float float).quantity? = some quantity := there
        rw [same_iff_of_quantity? denotes denotes', Option.some.injEq, eq_comm]
    | none =>
        rw [Binary64.eq_nan there]
        exact iff_of_false Bool.false_ne_true nofun

/-- Integers beside the float that they are rounded to: at the power of two up to which all
integers are floats, and at the end of the 64-bit range. -/
theorem same_iff_one_number_at_the_limits :
    let place : Binary64 := .ofNat 9007199254740992
    let limit : Binary64 := .ofNat 9223372036854775808
    Literal.float place ≠ .float .nan ∧ Literal.float limit ≠ .float .nan ∧
      (ofLiteral (.int 9007199254740992)).same (ofLiteral (.float place)) = true ∧
      (ofLiteral (.int 9007199254740993)).same (ofLiteral (.float place)) = false ∧
      (ofLiteral (.int 9223372036854775807)).same (ofLiteral (.float limit)) = false := by
  intro place limit
  have whole : place.toInt? = some (9007199254740992 : Int64).toInt := by decide +kernel
  have whole' : limit.toInt? = some 9223372036854775808 := by decide +kernel
  obtain ⟨one, -⟩ := same_iff_one_number
  have given : ∀ {float : Binary64} {n : Int}, float.toInt? = some n →
      Literal.float float ≠ .float .nan := by
    rintro _ _ whole ⟨⟩
    cases whole
  have together : ∀ (word : Int64) (float : Binary64), float.toInt? = some word.toInt →
      (ofLiteral (.int word)).same (ofLiteral (.float float)) = true := by
    intro word float whole
    exact (one _ _ (by simp) (given whole)).mpr
      (.inl ⟨_, rfl, Binary64.quantity?_eq_whole_iff.mpr whole⟩)
  have apart : ∀ (word : Int64) (float : Binary64) (n : Int), float.toInt? = some n →
      word.toInt ≠ n → (ofLiteral (.int word)).same (ofLiteral (.float float)) = false := by
    intro word float n whole other
    rw [← Bool.not_eq_true, one _ _ (by simp) (given whole)]
    rintro (⟨_, ⟨⟩, same⟩ | content)
    · rw [Literal.quantity?, Binary64.quantity?_eq_whole_iff, whole, Option.some.injEq] at same
      exact other same.symm
    · cases content
  exact ⟨given whole, given whole', together _ _ whole, apart _ _ _ whole (by decide),
    apart _ _ _ whole' (by decide)⟩

end ItemKey

end Containment
