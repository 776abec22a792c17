import Containment.Proofs.Containment.Constant
import Containment.Proofs.Json.Integer
import Containment.Proofs.Number.Integer
import Containment.Proofs.Number.Rounding

namespace Containment

/-! Integers in JSON documents, and which of them match. From the first integer on that 64 bits
with a sign do not hold, they become floats, and so does minus zero. -/

attribute [local instance(1100)] instPowNat

namespace Json.WrittenInteger

/-- Of 64 binary digits, floats hold 53. -/
def lostPlaces : Nat := 11

/-- An integer of 64 binary digits as a float, counted in the steps between such floats. -/
def steps (written : WrittenInteger) : Nat :=
  Binary64.roundHalfEven written.magnitude (2 ^ lostPlaces)

/-- One integer, or two that 64 bits with a sign do not hold and that are rounded to one float. -/
def Alike (actual expected : WrittenInteger) : Prop :=
  actual = expected ∨
    (2 ^ (63 : Nat) ≤ actual.value ∧ 2 ^ (63 : Nat) ≤ expected.value ∧
      actual.steps = expected.steps)

instance (actual expected : WrittenInteger) : Decidable (Alike actual expected) :=
  inferInstanceAs (Decidable (_ ∨ _ ∧ _ ∧ _))

variable {written actual expected : WrittenInteger}

theorem eq_of_value_eq (plain : actual ≠ minusZero) (plain' : expected ≠ minusZero)
    (same : actual.value = expected.value) : actual = expected := by
  obtain ⟨negative, magnitude⟩ := actual
  obtain ⟨negative', magnitude'⟩ := expected
  obtain rfl : magnitude = magnitude' := by
    have magnitudes := congrArg Int.natAbs same
    rwa [value, value, Binary64.natAbs_signed, Binary64.natAbs_signed] at magnitudes
  by_cases zero : magnitude = 0
  · subst zero
    cases negative with
    | true => exact absurd rfl plain
    | false =>
        cases negative' with
        | true => exact absurd rfl plain'
        | false => rfl
  · have sign : negative = negative' := by
      simp only [value, Binary64.signed] at same
      cases negative <;> cases negative' <;> simp at same ⊢ <;> omega
    rw [sign]

theorem value_eq_magnitude (positive : 0 < written.value) :
    written.value = (written.magnitude : Int) := by
  obtain ⟨negative, magnitude⟩ := written
  cases negative with
  | false => rfl
  | true =>
      simp only [value, Binary64.signed, if_true] at positive
      omega

theorem alike_iff_eq (small : actual.value < 2 ^ (63 : Nat) ∨ expected.value < 2 ^ (63 : Nat)) :
    Alike actual expected ↔ actual = expected := by
  refine ⟨fun alike => ?_, .inl⟩
  rcases alike with same | ⟨large, large', -⟩
  · exact same
  · omega

theorem steps_ne_zero (large : 2 ^ (63 : Nat) ≤ written.value) : written.steps ≠ 0 := by
  intro zero
  have near := (Binary64.roundHalfEven_near written.magnitude
    (show 0 < 2 ^ lostPlaces by decide)).1
  have whole := value_eq_magnitude (Int.lt_of_lt_of_le (by decide) large)
  rw [← steps, zero, lostPlaces] at near
  omega

/-- What a written integer becomes. -/
inductive Becomes (written : WrittenInteger) : Value → Prop where
  | minusZero (same : written = minusZero) : Becomes written (.float (.zero true))
  | int (plain : written ≠ WrittenInteger.minusZero) {number : Int64}
      (same : number.toInt = written.value) : Becomes written (.int number)
  | float (large : 2 ^ (63 : Nat) ≤ written.value) {number : Binary64}
      (units : number.units? =
        some ((written.steps * 2 ^ lostPlaces * Binary64.unitsPerOne : Nat) : Int)) :
      Becomes written (.float number)

theorem becomes_ofJson (fits : written.Fits) : Becomes written (Value.ofJson written.document) := by
  rw [document]
  split
  case isTrue zero => exact .minusZero zero
  case isFalse plain =>
    rw [Value.ofJson, Value.ofInteger]
    cases held : Numeral.int64? written.value with
    | some number => exact .int plain (Numeral.toInt_of_int64? held)
    | none =>
        obtain ⟨least, most⟩ := fits
        have beyond := Numeral.int64?_eq_none_iff.mp held
        have large : 2 ^ (63 : Nat) ≤ written.value := by omega
        have whole := value_eq_magnitude (Int.lt_of_lt_of_le (by decide) large)
        refine .float large ?_
        rw [whole]
        apply Binary64.units?_ofInt_rounded
        · decide
        · rw [lostPlaces]; omega
        · rw [lostPlaces]; omega

/-- Minus zero and an integer that 64 bits do not hold become different floats. -/
theorem units_ne_zero (large : 2 ^ (63 : Nat) ≤ written.value) :
    ((written.steps * 2 ^ lostPlaces * Binary64.unitsPerOne : Nat) : Int) ≠ 0 := by
  rw [Int.natCast_ne_zero]
  exact Nat.mul_ne_zero (Nat.mul_ne_zero (steps_ne_zero large) (by decide))
    (Nat.ne_of_gt Binary64.unitsPerOne_pos)

/-- The cases are what the two integers become. -/
theorem equals_iff_alike {value constant : Value} (given : Becomes actual value)
    (declared : Becomes expected constant) :
    constant.equals value = true ↔ Alike actual expected := by
  have zero : (Binary64.zero true).units? = some 0 := by decide
  cases given with
  | minusZero same =>
      subst same
      rw [alike_iff_eq (.inl (by decide))]
      cases declared with
      | minusZero same' => exact iff_of_true rfl same'.symm
      | int plain' same' => exact iff_of_false Bool.false_ne_true fun same => plain' same.symm
      | float large' units' =>
          rw [Value.equals, Binary64.equals_iff_units units' zero]
          refine iff_of_false (units_ne_zero large') fun same => ?_
          rw [← same] at large'
          exact absurd large' (by decide)
  | int plain same =>
      have small : actual.value < 2 ^ (63 : Nat) := same ▸ Int64.toInt_lt _
      rw [alike_iff_eq (.inl small)]
      cases declared with
      | minusZero same' => exact iff_of_false Bool.false_ne_true fun whole => plain (whole.trans same')
      | int plain' same' =>
          rw [Value.equals, beq_iff_eq, ← Int64.toInt_inj, same, same']
          exact ⟨fun values => (eq_of_value_eq plain' plain values).symm, fun whole => whole ▸ rfl⟩
      | float large' units' =>
          refine iff_of_false Bool.false_ne_true fun whole => ?_
          rw [whole] at small
          omega
  | float large units =>
      cases declared with
      | minusZero same' =>
          subst same'
          rw [alike_iff_eq (.inr (by decide)), Value.equals, Binary64.equals_iff_units zero units]
          refine iff_of_false (units_ne_zero large).symm fun whole => ?_
          rw [whole] at large
          exact absurd large (by decide)
      | int plain' same' =>
          have small : expected.value < 2 ^ (63 : Nat) := same' ▸ Int64.toInt_lt _
          rw [alike_iff_eq (.inr small)]
          refine iff_of_false Bool.false_ne_true fun whole => ?_
          rw [whole] at large
          omega
      | float large' units' =>
          rw [Value.equals, Binary64.equals_iff_units units' units, Int.natCast_inj,
            Nat.mul_left_inj (Nat.ne_of_gt Binary64.unitsPerOne_pos), Nat.mul_left_inj (by decide)]
          constructor
          · exact fun steps => .inr ⟨large, large', steps.symm⟩
          · rintro (rfl | ⟨-, -, steps⟩)
            · rfl
            · exact steps.symm

/-- Documents of integers that are alike are constants that match. -/
theorem matches_document_iff (fits : actual.Fits) (fits' : expected.Fits) :
    (Shape.value (Value.ofJson expected.document)).Matches (Value.ofJson actual.document) ↔
      Alike actual expected := by
  have given := becomes_ofJson fits
  have declared := becomes_ofJson fits'
  have scalar : ∃ literal, Literal.ofValue? (Value.ofJson expected.document) = some literal := by
    generalize Value.ofJson expected.document = constant at declared
    cases declared with
    | minusZero => exact ⟨_, rfl⟩
    | int => exact ⟨_, rfl⟩
    | float large units =>
        refine ⟨_, if_neg ?_⟩
        rw [Binary64.isNan_eq_false_of_units? (by rw [units]; rfl)]
        exact Bool.false_ne_true
  obtain ⟨literal, found⟩ := scalar
  rw [Shape.matches_iff_equals found, equals_iff_alike given declared]

end Json.WrittenInteger

theorem Value.itemsOfJson_eq_map (items : List Json) :
    Value.itemsOfJson items = items.map Value.ofJson := by
  induction items with
  | nil => rfl
  | cons item rest ih => rw [Value.itemsOfJson, List.map_cons, ih]

namespace Registry

open Json (WrittenInteger)

variable {caching : Bool} {capacity : Nat} {operations : List Operation}

/-- Documents convert, so that what they answer is whether they match. -/
theorem containsAfter_documents_iff (given declared : Json) :
    containsAfter caching capacity operations (Value.ofJson given) (Shape.ofJson declared) =
      .ok () ↔ (Shape.value (Value.ofJson declared)).Matches (Value.ofJson given) := by
  have clean := Value.firstBad?_ofJson declared Location.root
  have distinctive := Shape.Distinctive.value (Value.distinctive_ofJson declared)
  rw [containsAfter, contains_ofJson declared _ caching capacity operations operations]
  apply (containsAfter_ok_iff (distinctive.unmistaken operations)).trans
  exact and_iff_right clean

theorem document_contains_iff {actual expected : WrittenInteger} (fits : actual.Fits)
    (fits' : expected.Fits) :
    containsAfter caching capacity operations (Value.ofJson actual.document)
      (Shape.ofJson expected.document) = .ok () ↔ actual.Alike expected := by
  rw [containsAfter_documents_iff, WrittenInteger.matches_document_iff fits fits']

theorem array_contains_iff {actuals expecteds : List WrittenInteger}
    (fit : ∀ written ∈ actuals ++ expecteds, written.Fits) :
    containsAfter caching capacity operations
      (Value.ofJson (.array (actuals.map WrittenInteger.document)))
      (Shape.ofJson (.array (expecteds.map WrittenInteger.document))) = .ok () ↔
    actuals.length = expecteds.length ∧
      ∀ (position : Nat) (actual expected : WrittenInteger), actuals[position]? = some actual →
        expecteds[position]? = some expected → actual.Alike expected := by
  have each {position : Nat} {actual expected : WrittenInteger}
      (given : actuals[position]? = some actual) (declared : expecteds[position]? = some expected) :
      (Shape.value (Value.ofJson expected.document)).Matches (Value.ofJson actual.document) ↔
        actual.Alike expected :=
    WrittenInteger.matches_document_iff
      (fit actual (List.mem_append_left expecteds (List.mem_of_getElem? given)))
      (fit expected (List.mem_append_right actuals (List.mem_of_getElem? declared)))
  rw [containsAfter_documents_iff, Value.ofJson, Value.ofJson, Value.itemsOfJson_eq_map,
    Value.itemsOfJson_eq_map, List.map_map, List.map_map, Shape.matches_list_iff]
  constructor
  · rintro ⟨parts, same, length, within⟩
    obtain rfl := Value.list.inj same
    rw [List.length_map, List.length_map] at length
    refine ⟨length, fun position actual expected given declared => (each given declared).mp ?_⟩
    exact within position _ _ (by rw [List.getElem?_map, declared]; rfl)
      (by rw [List.getElem?_map, given]; rfl)
  · rintro ⟨length, alike⟩
    refine ⟨_, rfl, by rw [List.length_map, List.length_map, length], ?_⟩
    intro position item part declared given
    rw [List.getElem?_map] at declared given
    obtain ⟨expected, there, rfl⟩ := Option.map_eq_some_iff.mp declared
    obtain ⟨actual, here, rfl⟩ := Option.map_eq_some_iff.mp given
    exact (each here there).mpr (alike position actual expected here there)

/-- Integers in JSON text match where they are the same, or where both are too large for 64 bits
with a sign and are rounded to one float; arrays of them match position by position. -/
theorem written_integers_contained (caching : Bool) (capacity : Nat)
    (operations : List Operation) :
    (∀ actual expected : WrittenInteger, actual.Fits → expected.Fits →
      ∃ given declared, Json.ofText? (String.ofList actual.chars) = some given ∧
        Json.ofText? (String.ofList expected.chars) = some declared ∧
        (containsAfter caching capacity operations (Value.ofJson given) (Shape.ofJson declared) =
          .ok () ↔ actual.Alike expected)) ∧
    ∀ actuals expecteds : List WrittenInteger, (∀ written ∈ actuals ++ expecteds, written.Fits) →
      ∃ given declared,
        Json.ofText? (String.ofList (WrittenInteger.arrayChars actuals)) = some given ∧
        Json.ofText? (String.ofList (WrittenInteger.arrayChars expecteds)) = some declared ∧
        (containsAfter caching capacity operations (Value.ofJson given) (Shape.ofJson declared) =
          .ok () ↔ actuals.length = expecteds.length ∧
            ∀ (position : Nat) (actual expected : WrittenInteger),
              actuals[position]? = some actual → expecteds[position]? = some expected →
                actual.Alike expected) := by
  constructor
  · intro actual expected fits fits'
    exact ⟨_, _, Json.ofText?_chars fits, Json.ofText?_chars fits',
      document_contains_iff fits fits'⟩
  · intro actuals expecteds fit
    have given := Json.ofText?_arrayChars fun written mem =>
      fit written (List.mem_append_left expecteds mem)
    have declared := Json.ofText?_arrayChars fun written mem =>
      fit written (List.mem_append_right actuals mem)
    exact ⟨_, _, given, declared, array_contains_iff fit⟩

/-- A number and its successor past the signed range: alone, and in an array behind a number that
64 bits hold. -/
theorem written_integers_contained_neighbours :
    let small : WrittenInteger := ⟨true, 9223372036854775808⟩
    let large : WrittenInteger := ⟨false, 18446744073709551614⟩
    let next : WrittenInteger := ⟨false, 18446744073709551615⟩
    large.Fits ∧ next.Fits ∧ (∀ written ∈ [small, large] ++ [small, next], written.Fits) ∧
      (∃ given declared, Json.ofText? (String.ofList large.chars) = some given ∧
        Json.ofText? (String.ofList next.chars) = some declared ∧
        (containsAfter true 1 [] (Value.ofJson given) (Shape.ofJson declared) = .ok () ↔
          large.Alike next)) ∧
      large.Alike next ∧
      ∃ given declared,
        Json.ofText? (String.ofList (WrittenInteger.arrayChars [small, large])) = some given ∧
        Json.ofText? (String.ofList (WrittenInteger.arrayChars [small, next])) = some declared ∧
        containsAfter true 1 [] (Value.ofJson given) (Shape.ofJson declared) = .ok () := by
  intro small large next
  have fits : large.Fits := by decide
  have fits' : next.Fits := by decide
  have fit : ∀ written ∈ [small, large] ++ [small, next], written.Fits := by decide
  have alike : large.Alike next := by decide
  obtain ⟨single, arrays⟩ := written_integers_contained true 1 []
  obtain ⟨given, declared, read, read', contained⟩ := arrays [small, large] [small, next] fit
  refine ⟨fits, fits', fit, single large next fits fits', alike, given, declared, read, read', ?_⟩
  refine contained.mpr ⟨rfl, fun position actual expected here there => ?_⟩
  match position with
  | 0 =>
      cases here
      cases there
      exact .inl rfl
  | 1 =>
      cases here
      cases there
      exact alike
  | _ + 2 => cases here

/-- The first two integers that 64 bits with a sign do not hold become one float. -/
theorem large_neighbours_contained :
    let actual : WrittenInteger := ⟨false, 9223372036854775808⟩
    let expected : WrittenInteger := ⟨false, 9223372036854775809⟩
    ∃ given declared, Json.ofText? "9223372036854775808" = some given ∧
      Json.ofText? "9223372036854775809" = some declared ∧
      ¬ (containsAfter true Builder.defaultCapacity [] (Value.ofJson given)
        (Shape.ofJson declared) = .ok () ↔ actual.value = expected.value) := by
  intro actual expected
  have fits : actual.Fits := by decide
  have fits' : expected.Fits := by decide
  have alike : actual.Alike expected := by decide
  have shown : String.ofList actual.chars = "9223372036854775808" := by cbv
  have shown' : String.ofList expected.chars = "9223372036854775809" := by cbv
  have read := Json.ofText?_chars fits
  have read' := Json.ofText?_chars fits'
  rw [shown] at read
  rw [shown'] at read'
  refine ⟨_, _, read, read', fun exactly => ?_⟩
  exact absurd (exactly.mp ((document_contains_iff fits fits').mpr alike)) (by decide)

end Registry

end Containment
