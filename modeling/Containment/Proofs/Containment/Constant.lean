import Containment.Proofs.Conversion.Spelling
import Containment.Proofs.Value.Equality

namespace Containment

/-! Constants as shapes: what the lists and maps among them match, and that a value contains every
constant that equals it. -/

namespace Shape

theorem mayBeAbsent_value_iff {constant : Value} :
    (Shape.value constant).MayBeAbsent ↔ constant = .null := by
  simp [MayBeAbsent, nothing, anything]

theorem matches_list_iff {items : List Value} {value : Value} :
    Matches (.value (.list items)) value ↔ ∃ parts, value = .list parts ∧
      parts.length = items.length ∧ ∀ (position : Nat) (item part : Value),
        items[position]? = some item → parts[position]? = some part →
          Matches (.value item) part := by
  constructor
  · intro matched
    cases matched with
    | sequence found length each =>
        cases found
        rw [List.length_map] at length
        refine ⟨_, rfl, length, fun position item part declared given => ?_⟩
        exact each position (.value item) part (by rw [List.getElem?_map, declared]; rfl) given
    | mapping found => cases found
  · rintro ⟨parts, rfl, length, each⟩
    refine .sequence rfl (by rw [List.length_map, length]) fun position shape part declared given => ?_
    rw [List.getElem?_map] at declared
    obtain ⟨item, stands, rfl⟩ := Option.map_eq_some_iff.mp declared
    exact each position item part stands given

theorem matches_map_iff {entries : Entries Value} {value : Value} :
    Matches (.value (.map entries)) value ↔ ∃ fields, value.fields? = some fields ∧
      ∀ entry ∈ entries,
        (∀ part, Entries.lookup? entry.1 fields = some part → Matches (.value entry.2) part) ∧
        (Entries.lookup? entry.1 fields = none → entry.2 = .null) := by
  constructor
  · intro matched
    cases matched with
    | sequence found => cases found
    | mapping found named given absent =>
        cases found
        rw [List.forall_mem_map] at given absent
        refine ⟨_, named, fun entry mem => ⟨given entry mem entry.1 rfl, fun gone => ?_⟩⟩
        exact mayBeAbsent_value_iff.mp (absent entry mem entry.1 rfl gone)
  · rintro ⟨fields, named, each⟩
    refine .mapping rfl named ?_ ?_
    · rw [List.forall_mem_map]
      rintro entry mem name ⟨⟩ part found
      exact (each entry mem).1 part found
    · rw [List.forall_mem_map]
      rintro entry mem name ⟨⟩ gone
      exact mayBeAbsent_value_iff.mpr ((each entry mem).2 gone)

/-- Constants that are matched exactly match the values that they equal. -/
theorem matches_iff_equals {constant value : Value} {literal : Literal}
    (found : Literal.ofValue? constant = some literal) :
    Matches (.value constant) value ↔ constant.equals value = true := by
  rw [← literal_matches_iff found, Literal.accepts_eq_equals found]

theorem matches_of_equals {value other : Value} (keyed : value.wellKeyed = true)
    (equal : value.equals other = true) : Matches (.value value) other := by
  induction value using Value.inductionOnParts generalizing other with
  | leaf value noItems noEntries =>
      cases found : Literal.ofValue? value with
      | some literal => exact (matches_iff_equals found).mpr equal
      | none =>
          have symm := Value.equals_symm keyed equal
          cases value with
          | list => cases noItems
          | map => cases noEntries
          | null =>
              cases other with
              | null => exact .null
              | _ => cases equal
          | date =>
              obtain rfl := equals_date_iff.mp symm
              exact .date rfl
          | time =>
              obtain rfl := equals_time_iff.mp symm
              exact .time rfl
          | datetime =>
              obtain rfl := equals_datetime_iff.mp symm
              exact .datetime rfl
          | object typeName attributes => exact .object symm
          | float number =>
              cases other with
              | float other => exact .float equal
              | _ => cases equal
          | _ => cases found
  | list items ih =>
      rw [Value.wellKeyed, Value.wellKeyedItems_iff] at keyed
      obtain ⟨parts, rfl, length, each⟩ := Value.equals_list_iff.mp equal
      refine matches_list_iff.mpr ⟨parts, rfl, length.symm, ?_⟩
      intro position item part declared given
      have mem := List.mem_of_getElem? declared
      exact ih item mem (keyed item mem) (each position item part declared given)
  | map entries ih =>
      obtain ⟨-, keyed⟩ := Value.wellKeyed_fields keyed rfl
      obtain ⟨others, rfl, -, each⟩ := Value.equals_map_iff.mp equal
      refine matches_map_iff.mpr ⟨others, rfl, fun entry mem => ?_⟩
      obtain ⟨other, found, equal⟩ := each entry mem
      constructor
      · intro part given
        obtain rfl := Option.some.inj (found.symm.trans given)
        exact ih entry mem (keyed entry mem) equal
      · intro gone
        rw [found] at gone
        cases gone

end Shape

namespace Value

/-- The type of a date, of a time, or of both. -/
def calendarType? : Value → Option Scalar
  | .date _ => some .date
  | .time _ => some .time
  | .datetime _ => some .datetime
  | _ => none

/-- What converts equals itself: what does not is bad. -/
theorem equals_self_of_clean {value : Value} {location : Location}
    (keyed : value.wellKeyed = true) (clean : value.firstBad? location = none) :
    value.equals value = true := by
  induction value using inductionOnParts generalizing location with
  | leaf value noItems noEntries =>
      cases value with
      | list => cases noItems
      | map => cases noEntries
      | float number =>
          rw [firstBad?] at clean
          split at clean
          · cases clean
          case isFalse number => exact Binary64.equals_self (Bool.eq_false_iff.mpr number)
      | object typeName attributes =>
          rw [firstBad?] at clean
          split at clean
          case isTrue equal => exact equal
          · cases clean
      | _ => simp [equals]
  | list items ih =>
      rw [wellKeyed, wellKeyedItems_iff] at keyed
      have whole : (Shape.value (.list items)).firstBad? location = none := clean
      have parts := Shape.clean_items rfl whole
      rw [List.forall_mem_map] at parts
      refine equals_list_iff.mpr ⟨items, rfl, rfl, fun position item part here there => ?_⟩
      obtain rfl := Option.some.inj (here.symm.trans there)
      have mem := List.mem_of_getElem? here
      obtain ⟨location, clean⟩ := parts item mem
      exact ih item mem (keyed item mem) clean
  | map entries ih =>
      obtain ⟨distinct, keyed⟩ := wellKeyed_fields keyed rfl
      have whole : (Shape.value (.map entries)).firstBad? location = none := clean
      obtain ⟨parts, -⟩ := Shape.clean_entries rfl whole
      rw [List.forall_mem_map] at parts
      refine equals_map_iff.mpr ⟨entries, rfl, rfl, fun entry mem => ?_⟩
      obtain ⟨location, clean⟩ := parts entry mem
      exact ⟨entry.2, Entries.lookup?_of_mem distinct mem, ih entry mem (keyed entry mem) clean⟩

theorem wellKeyed_ofInteger (number : Int) : (ofInteger number).wellKeyed = true := by
  rw [ofInteger]
  cases Numeral.int64? number <;> rfl

mutual
theorem wellKeyed_ofJson : ∀ document : Json, (ofJson document).wellKeyed = true
  | .null => rfl
  | .bool _ => rfl
  | .integer number => wellKeyed_ofInteger number
  | .decimal _ _ => rfl
  | .string _ => rfl
  | .array items => by
      rw [ofJson, wellKeyed, wellKeyedItems_iff]
      exact wellKeyed_itemsOfJson items
  | .object members => by
      rw [ofJson, wellKeyed, Bool.and_eq_true, decide_eq_true_eq, wellKeyedEntries_iff]
      refine ⟨Entries.nodup_names_ofList _, fun entry mem => ?_⟩
      exact wellKeyed_entriesOfJson members entry (Entries.mem_of_mem_ofList mem)

theorem wellKeyed_itemsOfJson : ∀ items : List Json, ∀ item ∈ itemsOfJson items,
    item.wellKeyed = true
  | first :: rest, item, mem => by
      rcases List.mem_cons.mp mem with rfl | mem
      · exact wellKeyed_ofJson first
      · exact wellKeyed_itemsOfJson rest item mem

theorem wellKeyed_entriesOfJson : ∀ members : List (String × Json),
    ∀ entry ∈ entriesOfJson members, entry.2.wellKeyed = true
  | (_, first) :: rest, entry, mem => by
      rcases List.mem_cons.mp mem with rfl | mem
      · exact wellKeyed_ofJson first
      · exact wellKeyed_entriesOfJson rest entry mem
end

end Value

namespace Registry

/-- Whether a value contains an expected shape, by the standard recognizers and after any
operations on their memory. -/
def containsAfter (caching : Bool) (capacity : Nat) (operations : List Operation)
    (actual : Value) (expected : Shape) : Except Failure Unit :=
  (((standardWith caching capacity).contains actual expected).run
    ((standardWith caching capacity).after operations)).1

example : Containment.contains = containsAfter true Builder.defaultCapacity [] := rfl

variable {caching : Bool} {capacity : Nat} {operations : List Operation}

theorem containsAfter_ok_iff {actual : Value} {expected : Shape}
    (unmistaken : expected.Unmistaken operations) :
    containsAfter caching capacity operations actual expected = .ok () ↔
      expected.firstBad? Location.root = none ∧ expected.Matches actual := by
  by_cases clean : expected.firstBad? Location.root = none
  · obtain ⟨held, holds, contained⟩ := contains_iff_held caching capacity operations actual clean
    obtain rfl := unmistaken held holds
    exact contained.trans (and_iff_right clean).symm
  · rw [containsAfter, run_contains]
    cases made : (((standardWith caching capacity).convert expected).run
        ((standardWith caching capacity).after operations)).1 with
    | error cause => simp [clean]
    | ok rule => exact absurd ((convert_ok_iff unmistaken).mp ⟨rule, made⟩) clean

/-- A shape that converts answers as its rule does, whatever was converted before, if that is
nothing like it. -/
theorem containsAfter_of_clean {actual : Value} {expected : Shape}
    (unmistaken : expected.Unmistaken operations)
    (clean : expected.firstBad? Location.root = none) :
    containsAfter caching capacity operations actual expected =
      ((expected.rule.schema.check actual).mapError .mismatched).map fun _ => () := by
  obtain ⟨rule, made⟩ := convert_ok_of_clean operations clean
  obtain ⟨held, holds, -, validates⟩ := held_of_convert made
  obtain rfl := unmistaken held holds
  rw [containsAfter, run_contains, made]
  simp only [Schema.check, validates]
  cases held.rule.schema.validate actual Location.root <;> rfl

/-- A value contains a date or time if it is read as that one. -/
theorem containsAfter_calendar_iff {constant value : Value} {type : Scalar}
    (calendar : constant.calendarType? = some type)
    (unmistaken : (Shape.value constant).Unmistaken operations) :
    containsAfter caching capacity operations value (.value constant) = .ok () ↔
      type.coerce value = .ok constant := by
  have clean : (Shape.value constant).firstBad? Location.root = none := by
    cases constant with
    | date | time | datetime => rfl
    | _ => cases calendar
  refine (containsAfter_ok_iff unmistaken).trans ((and_iff_right clean).trans ?_)
  cases constant with
  | date => cases calendar; exact Shape.matches_date_iff
  | time => cases calendar; exact Shape.matches_time_iff
  | datetime => cases calendar; exact Shape.matches_datetime_iff
  | _ => cases calendar

theorem containsAfter_of_equals {value other : Value}
    (unmistaken : (Shape.value value).Unmistaken operations) (keyed : value.wellKeyed = true)
    (clean : value.firstBad? Location.root = none) (equal : value.equals other = true) :
    containsAfter caching capacity operations other (.value value) = .ok () :=
  (containsAfter_ok_iff unmistaken).mpr ⟨clean, Shape.matches_of_equals keyed equal⟩

/-- Every value contains the constants that equal it, at once and after any history that has not
converted a look-alike of the constant. So it contains itself, if it converts, and a document
contains itself after any history. -/
theorem equal_values_contained (caching : Bool) (capacity : Nat) (operations : List Operation) :
    (∀ value : Value, value.wellKeyed = true →
      (∃ rule, ((standard.convert (.value value)).run Memo.empty).1 = .ok rule) →
        (Containment.contains value (.value value) = .ok () ∧
          ∀ other : Value, value.equals other = true →
            Containment.contains other (.value value) = .ok ()) ∧
        ((Shape.value value).Unmistaken operations →
          containsAfter caching capacity operations value (.value value) = .ok () ∧
            ∀ other : Value, value.equals other = true →
              containsAfter caching capacity operations other (.value value) = .ok ())) ∧
    ∀ document : Json, containsAfter caching capacity operations (Value.ofJson document)
      (Shape.ofJson document) = .ok () := by
  constructor
  · intro value keyed converts
    have clean : value.firstBad? Location.root = none := fresh_convert_ok_iff.mp converts
    have self := Value.equals_self_of_clean keyed clean
    have fresh := Shape.Unmistaken.fresh (.value value)
    refine ⟨⟨?_, fun other equal => ?_⟩, fun unmistaken => ⟨?_, fun other equal => ?_⟩⟩
    · exact containsAfter_of_equals fresh keyed clean self
    · exact containsAfter_of_equals fresh keyed clean equal
    · exact containsAfter_of_equals unmistaken keyed clean self
    · exact containsAfter_of_equals unmistaken keyed clean equal
  · intro document
    have clean := Value.firstBad?_ofJson document Location.root
    have keyed := Value.wellKeyed_ofJson document
    have distinctive := Shape.Distinctive.value (Value.distinctive_ofJson document)
    rw [containsAfter, contains_ofJson document _ caching capacity operations operations]
    exact containsAfter_of_equals (distinctive.unmistaken operations) keyed clean
      (Value.equals_self_of_clean keyed clean)

/-- The entries and attributes stand in another order, a zero has the other sign, and a member
carries another payload. -/
theorem equal_values_contained_order :
    let role (payload : Int64) : Value := .member "Role" "Buyer" (.int payload)
    let day : Value := .date ⟨2024, 2, 29, by decide⟩
    let order : Value := .map [("lines", .list [.float (.zero false), .null]),
      ("buyer", .object "Person" [("role", role 1), ("since", day)])]
    let other : Value := .map [
      ("buyer", .object "Person" [("since", day), ("role", role 2)]),
      ("lines", .list [.float (.zero true), .null])]
    order.wellKeyed = true ∧
      (∃ rule, ((standard.convert (.value order)).run Memo.empty).1 = .ok rule) ∧
      order.equals other = true ∧ (Shape.value order).Unmistaken [.convert .nothing] ∧
      containsAfter true 1 [.convert .nothing] order (.value order) = .ok () ∧
      containsAfter true 1 [.convert .nothing] other (.value order) = .ok () := by
  intro role day order other
  have keyed : order.wellKeyed = true := rfl
  have converts : ∃ rule, ((standard.convert (.value order)).run Memo.empty).1 = .ok rule :=
    ⟨_, rfl⟩
  have equal : order.equals other = true := rfl
  have unmistaken : (Shape.value order).Unmistaken [.convert .nothing] := .of_shown rfl rfl
  obtain ⟨self, each⟩ :=
    ((equal_values_contained true 1 [.convert .nothing]).1 order keyed converts).2 unmistaken
  exact ⟨keyed, converts, equal, unmistaken, self, each other equal⟩

end Registry

end Containment
