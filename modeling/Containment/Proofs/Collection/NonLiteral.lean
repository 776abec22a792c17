import Containment.Proofs.Collection.Inspection
import Containment.Proofs.Containment.Constant
import Containment.Proofs.Schema.Exactness
import Containment.Proofs.Schema.Mismatches

namespace Containment

/-! Elements of a list that are no literals, where a collection expects literals. Each is reported
at its own position, but for not-a-number: it is accepted as a float, and found only when the
accepted elements are to be literals. -/

namespace Schema

/-- How the members of the choice of literals refuse what is none. -/
def literalFaults : List Fault :=
  [.notBool, .notInt, .notFloat, .notBytes, .notStr, .notInstance "Enum"]

theorem validate_anyLiteral_of_literal {value : Value} {literal : Literal}
    (found : Literal.ofValue? value = some literal) (location : Location) :
    anyLiteral.validate value location = .ok value := by
  cases value with
  | bool | int | float | bytes | str | member => rfl
  | _ => cases found

theorem validate_anyLiteral_nan (location : Location) :
    anyLiteral.validate (.float .nan) location = .ok (.float .nan) := rfl

theorem validate_anyLiteral_of_none {value : Value} (none : Literal.ofValue? value = none)
    (number : value ≠ .float .nan) (location : Location) :
    ∃ report, anyLiteral.validate value location = .error report ∧
      ∀ mismatch ∈ report.toList, ∃ fault ∈ literalFaults, mismatch.message = fault.message := by
  have refused : ∃ report, anyLiteral.validate value location = .error report ∧
      report.toList.map Mismatch.message = literalFaults.map Fault.message := by
    cases value with
    | bool | int | bytes | str | member => cases none
    | float x =>
        cases x with
        | nan => exact absurd rfl number
        | infinite | finite => cases none
    | _ => exact ⟨_, rfl, rfl⟩
  obtain ⟨report, failed, messages⟩ := refused
  refine ⟨report, failed, fun mismatch mem => ?_⟩
  have among := List.mem_map_of_mem (f := Mismatch.message) mem
  rw [messages] at among
  obtain ⟨fault, mem, same⟩ := List.mem_map.mp among
  exact ⟨fault, mem, same.symm⟩

theorem message_of_mem_anyLiteral {value : Value} {location : Location} {mismatch : Mismatch}
    (mem : mismatch ∈ Report.mismatches (anyLiteral.validate value location)) :
    ∃ fault ∈ literalFaults, mismatch.message = fault.message := by
  cases found : Literal.ofValue? value with
  | some literal =>
      rw [validate_anyLiteral_of_literal found] at mem
      cases mem
  | none =>
      by_cases number : value = .float .nan
      · obtain rfl := number
        cases mem
      · obtain ⟨report, refused, faults⟩ := validate_anyLiteral_of_none found number location
        rw [refused] at mem
        exact faults mismatch mem

end Schema

namespace Registry

variable {caching : Bool} {capacity : Nat} {operations : List Operation}

/-- A generator answers by its check wherever its schema accepts. -/
theorem containsAfter_generator (source : Generator) (actual : Value) :
    containsAfter caching capacity operations actual (.generator source) =
      match source.dataType.check actual with
      | .error report => .error (.mismatched report)
      | .ok result =>
          match source.check result with
          | .ok _ => .ok ()
          | .error reason =>
              .error (.mismatched ((Fault.rejected reason).report result Location.root)) := by
  have clean : (Shape.generator source).firstBad? Location.root = none := rfl
  rw [containsAfter_of_clean (.of_unkeyed rfl operations) clean]
  simp only [Shape.rule, Generator.toSchema, Slot.required, Schema.check, Schema.validate]
  cases source.dataType.validate actual Location.root with
  | error report => rfl
  | ok result =>
      simp only [Schema.runChecks, Generator.toCheck]
      cases source.check result <;> rfl

end Registry

namespace Collection

open Registry Schema

namespace Discrepancy

/-- The text of the mismatch that a discrepancy makes. -/
def message (discrepancy : Discrepancy) : String :=
  (Fault.rejected discrepancy.render).message

/-- The words that tell the kind of a discrepancy. -/
def opening : Discrepancy → String
  | .notList _ => "expected a list, got "
  | .unhashable _ => "unhashable items found: "
  | .missing _ => "items missing: "
  | .extra _ => "extra items found: "
  | .repeats _ => "repeating items found: "

def openings : List String :=
  ["expected a list, got ", "unhashable items found: ", "items missing: ",
    "extra items found: ", "repeating items found: "]

theorem opening_mem (discrepancy : Discrepancy) : discrepancy.opening ∈ openings := by
  cases discrepancy <;> simp [opening, openings]

theorem eq_of_comparable_openings : ∀ first ∈ openings, ∀ second ∈ openings,
    first.toList <+: second.toList ∨ second.toList <+: first.toList → first = second := by
  decide

theorem toList_message (discrepancy : Discrepancy) :
    discrepancy.message.toList = "Value error, ".toList ++ discrepancy.render.toList :=
  String.toList_append

theorem opening_prefix (discrepancy : Discrepancy) :
    discrepancy.opening.toList <+: discrepancy.render.toList := by
  cases discrepancy with
  | _ => exact ⟨_, String.toList_append.symm⟩

theorem opening_eq_of_message_eq {discrepancy other : Discrepancy}
    (same : discrepancy.message = other.message) : discrepancy.opening = other.opening := by
  have texts := congrArg String.toList same
  rw [toList_message, toList_message] at texts
  have first := discrepancy.opening_prefix
  rw [List.append_cancel_left texts] at first
  exact eq_of_comparable_openings _ discrepancy.opening_mem _ other.opening_mem
    (List.prefix_or_prefix_of_prefix first other.opening_prefix)

/-- Texts for discrepancies begin like no text for a value that is refused. -/
theorem message_ne_of_fault {fault : Fault} (refusal : fault ∈ .notList :: literalFaults)
    (discrepancy : Discrepancy) : fault.message ≠ discrepancy.message := by
  have initial : ∀ fault ∈ .notList :: literalFaults,
      fault.message.toList.head? = some 'I' := by decide
  intro same
  have first := initial fault refusal
  rw [same, toList_message] at first
  cases first

end Discrepancy

theorem opening_of_compare {collection : Collection} {literals : List Literal}
    {discrepancy : Discrepancy} (found : collection.compare literals = .error discrepancy) :
    discrepancy.opening ∈
      ["items missing: ", "extra items found: ", "repeating items found: "] := by
  simp only [compare] at found
  split at found
  · cases found
    exact .head _
  split at found
  · cases found
    exact .tail _ (.head _)
  split at found
  · cases found
    exact .tail _ (.tail _ (.head _))
  · cases found

variable {collection : Collection} {elements : List Value}

theorem opening_of_inspect {discrepancy : Discrepancy}
    (found : collection.inspect (.list elements) = .error discrepancy) :
    (discrepancy.opening = "unhashable items found: " ∧
        ∃ element ∈ elements, Literal.ofValue? element = none) ∨
      discrepancy.opening ∈
        ["items missing: ", "extra items found: ", "repeating items found: "] := by
  by_cases present : ∃ element ∈ elements, Literal.ofValue? element = none
  · rw [inspect_of_unhashable present] at found
    cases found
    exact .inl ⟨rfl, present⟩
  · obtain ⟨literals, reads⟩ := exists_reads fun element mem none => present ⟨element, mem, none⟩
    rw [inspect_of_reads reads] at found
    exact .inr (opening_of_compare found)

/-- Every element without a literal is not-a-number. -/
def Slips (elements : List Value) : Prop :=
  ∀ element ∈ elements, Literal.ofValue? element = none → element = .float .nan

theorem check_of_slips (slips : Slips elements) :
    (Schema.list anyLiteral).check (.list elements) = .ok (.list elements) := by
  apply validate_list_of_kept
  intro element mem location
  cases found : Literal.ofValue? element with
  | some literal => exact validate_anyLiteral_of_literal found location
  | none =>
      obtain rfl := slips element mem found
      exact validate_anyLiteral_nan location

theorem check_of_not_slips (caught : ¬ Slips elements) :
    ∃ report, (Schema.list anyLiteral).check (.list elements) = .error report ∧
      ∀ mismatch ∈ report.toList, ∃ fault ∈ literalFaults, mismatch.message = fault.message := by
  simp only [Slips, not_forall] at caught
  obtain ⟨element, mem, none, number⟩ := caught
  obtain ⟨index, found⟩ := List.mem_iff_getElem?.mp mem
  obtain ⟨part, refused, -⟩ :=
    validate_anyLiteral_of_none none number (Location.root.index index)
  have reported : part.first ∈
      Report.mismatches ((Schema.list anyLiteral).check (.list elements)) := by
    refine mem_mismatches_list_iff.mpr ⟨index, element, found, ?_⟩
    rw [refused]
    exact .head _
  cases outcome : (Schema.list anyLiteral).check (.list elements) with
  | ok result =>
      rw [outcome] at reported
      cases reported
  | error report =>
      refine ⟨report, rfl, fun mismatch mem => ?_⟩
      replace mem : mismatch ∈
          Report.mismatches ((Schema.list anyLiteral).check (.list elements)) := by
        rw [outcome]
        exact mem
      obtain ⟨position, item, -, mem⟩ := mem_mismatches_list_iff.mp mem
      exact message_of_mem_anyLiteral mem

variable {caching : Bool} {capacity : Nat} {operations : List Operation}

/-- Where the schema of the elements lets all pass, the collection answers. -/
theorem containsAfter_of_slips (default : collection.itemType = anyLiteral)
    (slips : Slips elements) :
    containsAfter caching capacity operations (.list elements)
        (.generator collection.toGenerator) =
      match collection.inspect (.list elements) with
      | .ok _ => .ok ()
      | .error discrepancy => .error (.mismatched
          ((Fault.rejected discrepancy.render).report (.list elements) Location.root)) := by
  have passed : collection.toGenerator.dataType.check (.list elements) =
      .ok (.list elements) := by
    rw [toGenerator, default]
    exact check_of_slips slips
  have answer : collection.toGenerator.check (.list elements) =
      (collection.inspect (.list elements)).mapError Discrepancy.render := rfl
  rw [containsAfter_generator, passed]
  simp only [answer]
  cases collection.inspect (.list elements) <;> rfl

theorem containsAfter_of_refused (default : collection.itemType = anyLiteral) {actual : Value}
    {report : Report} (refused : (Schema.list anyLiteral).check actual = .error report) :
    containsAfter caching capacity operations actual (.generator collection.toGenerator) =
      .error (.mismatched report) := by
  rw [containsAfter_generator, toGenerator, default, refused]

/-- What a report may come from: an element that is refused, data that are no list, or a
discrepancy between the items and elements that all pass. -/
theorem message_cases (default : collection.itemType = anyLiteral) {actual : Value}
    {report : Report}
    (failed : containsAfter caching capacity operations actual
      (.generator collection.toGenerator) = .error (.mismatched report))
    {mismatch : Mismatch} (mem : mismatch ∈ report.toList) :
    (∃ fault ∈ .notList :: literalFaults, mismatch.message = fault.message) ∨
      ∃ elements discrepancy, actual = .list elements ∧ Slips elements ∧
        collection.inspect (.list elements) = .error discrepancy ∧
        mismatch.message = discrepancy.message := by
  by_cases list : ∃ elements, actual = .list elements
  case neg =>
    have refused : (Schema.list anyLiteral).check actual =
        .error (Fault.notList.report actual Location.root) := by
      cases actual with
      | list elements => exact absurd ⟨elements, rfl⟩ list
      | _ => rfl
    rw [containsAfter_of_refused default refused] at failed
    cases failed
    obtain rfl := List.mem_singleton.mp mem
    exact .inl ⟨.notList, .head _, rfl⟩
  obtain ⟨elements, rfl⟩ := list
  by_cases slips : Slips elements
  · rw [containsAfter_of_slips default slips] at failed
    cases found : collection.inspect (.list elements) with
    | ok =>
        rw [found] at failed
        cases failed
    | error discrepancy =>
        rw [found] at failed
        cases failed
        obtain rfl := List.mem_singleton.mp mem
        exact .inr ⟨elements, discrepancy, rfl, slips, found, rfl⟩
  · obtain ⟨refusal, refused, faults⟩ := check_of_not_slips slips
    rw [containsAfter_of_refused default refused] at failed
    cases failed
    obtain ⟨fault, among, same⟩ := faults mismatch mem
    exact .inl ⟨fault, .tail _ among, same⟩

/-- An element that is no literal fails the list, and is reported under its position unless it
is not-a-number. -/
theorem reported_at_iff (default : collection.itemType = anyLiteral) {index : Nat}
    {element : Value} (found : elements[index]? = some element)
    (none : Literal.ofValue? element = none) :
    ∃ report, containsAfter caching capacity operations (.list elements)
        (.generator collection.toGenerator) = .error (.mismatched report) ∧
      ((∃ mismatch ∈ report.toList, [.index index] <+: mismatch.location) ↔
        element ≠ .float .nan) := by
  by_cases slips : Slips elements
  · have mem := List.mem_of_getElem? found
    rw [containsAfter_of_slips default slips, inspect_of_unhashable ⟨element, mem, none⟩]
    refine ⟨_, rfl, iff_of_false ?_ (not_not.mpr (slips element mem none))⟩
    rintro ⟨mismatch, mem, under⟩
    obtain rfl := List.mem_singleton.mp mem
    cases List.prefix_nil.mp under
  · obtain ⟨report, refused, -⟩ := check_of_not_slips slips
    rw [containsAfter_of_refused default refused]
    refine ⟨report, rfl, ?_⟩
    have here (mismatch : Mismatch) : (mismatch ∈ report.toList ∧
        [.index index] <+: mismatch.location) ↔
          mismatch ∈ Report.mismatches
            (anyLiteral.validate element (Location.root.index index)) := by
      rw [← mem_mismatches_list_at_iff found]
      change _ ↔ mismatch ∈ Report.mismatches
        ((Schema.list anyLiteral).check (.list elements)) ∧ _
      rw [refused]
      rfl
    simp only [here]
    constructor
    · rintro ⟨mismatch, mem⟩ rfl
      cases mem
    · intro number
      obtain ⟨part, refused, -⟩ :=
        validate_anyLiteral_of_none none number (Location.root.index index)
      rw [refused]
      exact ⟨part.first, .head _⟩

theorem message_ne_notList (default : collection.itemType = anyLiteral) {actual : Value}
    {report : Report}
    (failed : containsAfter caching capacity operations actual
      (.generator collection.toGenerator) = .error (.mismatched report))
    {mismatch : Mismatch} (mem : mismatch ∈ report.toList) (other : Value) :
    mismatch.message ≠ (Discrepancy.notList other).message := by
  intro same
  obtain ⟨fault, among, told⟩ | ⟨elements, discrepancy, -, -, found, told⟩ :=
    message_cases default failed mem
  · exact Discrepancy.message_ne_of_fault among _ (told.symm.trans same)
  · have opening : discrepancy.opening = "expected a list, got " :=
      Discrepancy.opening_eq_of_message_eq (told.symm.trans same)
    obtain ⟨unhashable, -⟩ | among := opening_of_inspect found
    · exact absurd (opening.symm.trans unhashable) (by decide)
    · rw [opening] at among
      exact absurd among (by decide)

theorem unhashable_reported_iff (default : collection.itemType = anyLiteral) {actual : Value} :
    (∃ report mismatch reported,
        containsAfter caching capacity operations actual (.generator collection.toGenerator) =
          .error (.mismatched report) ∧
        mismatch ∈ report.toList ∧
        mismatch.message = (Discrepancy.unhashable reported).message) ↔
      ∃ elements, actual = .list elements ∧ .float .nan ∈ elements ∧ Slips elements := by
  constructor
  · rintro ⟨report, mismatch, reported, failed, mem, same⟩
    obtain ⟨fault, among, told⟩ | ⟨elements, discrepancy, rfl, slips, found, told⟩ :=
      message_cases default failed mem
    · exact absurd (told.symm.trans same) (Discrepancy.message_ne_of_fault among _)
    · have opening : discrepancy.opening = "unhashable items found: " :=
        Discrepancy.opening_eq_of_message_eq (told.symm.trans same)
      obtain ⟨-, element, mem, none⟩ | among := opening_of_inspect found
      · refine ⟨elements, rfl, ?_, slips⟩
        rw [← slips element mem none]
        exact mem
      · rw [opening] at among
        exact absurd among (by decide)
  · rintro ⟨elements, rfl, mem, slips⟩
    rw [containsAfter_of_slips default slips, inspect_of_unhashable ⟨_, mem, rfl⟩]
    exact ⟨_, _, _, rfl, .head _, rfl⟩

/-- With the default item type, an element that is no literal fails the list and is reported
under its own position, but for not-a-number, which never is: where it is the only such
element, the list is refused as a whole for its unhashable items. That the data are no list is
never left to the collection to say. -/
theorem nonliterals_reported_in_place (collection : Collection)
    (default : collection.itemType = anyLiteral) (caching : Bool) (capacity : Nat)
    (operations : List Operation) :
    (∀ elements index element, elements[index]? = some element →
      Literal.ofValue? element = none →
      ∃ report, containsAfter caching capacity operations (.list elements)
          (.generator collection.toGenerator) = .error (.mismatched report) ∧
        ((∃ mismatch ∈ report.toList, [.index index] <+: mismatch.location) ↔
          element ≠ .float .nan)) ∧
    (∀ actual report mismatch other,
      containsAfter caching capacity operations actual (.generator collection.toGenerator) =
        .error (.mismatched report) →
      mismatch ∈ report.toList →
      mismatch.message ≠ (Discrepancy.notList other).message) ∧
    (∀ actual,
      (∃ report mismatch reported,
        containsAfter caching capacity operations actual (.generator collection.toGenerator) =
          .error (.mismatched report) ∧
        mismatch ∈ report.toList ∧
        mismatch.message = (Discrepancy.unhashable reported).message) ↔
      ∃ elements, actual = .list elements ∧ .float .nan ∈ elements ∧ Slips elements) :=
  ⟨fun _ _ _ found none => reported_at_iff default found none,
    fun _ _ _ other failed mem => message_ne_notList default failed mem other,
    fun _ => unhashable_reported_iff default⟩

/-- A null beside not-a-number is reported, not-a-number is not; alone, it is an unhashable
item, and no list is wanted of a text. -/
theorem nonliterals_reported_in_place_beside_null :
    (ofItems [.int 1]).itemType = anyLiteral ∧
    [Value.float .nan, .null][1]? = some .null ∧ Literal.ofValue? .null = none ∧
    (∃ report, containsAfter true 2 [] (.list [.float .nan, .null])
        (.generator (ofItems [.int 1]).toGenerator) = .error (.mismatched report) ∧
      ∃ mismatch ∈ report.toList, [.index 1] <+: mismatch.location) ∧
    (∃ report, containsAfter true 2 [] (.list [.float .nan, .null])
        (.generator (ofItems [.int 1]).toGenerator) = .error (.mismatched report) ∧
      ¬∃ mismatch ∈ report.toList, [.index 0] <+: mismatch.location) ∧
    (∃ report mismatch,
      containsAfter true 2 [] (.str "a") (.generator (ofItems [.int 1]).toGenerator) =
        .error (.mismatched report) ∧
      mismatch ∈ report.toList ∧ mismatch.message ≠ (Discrepancy.notList (.str "a")).message) ∧
    ∃ report mismatch reported,
      containsAfter true 2 [] (.list [.float .nan])
          (.generator (ofItems [.int 1]).toGenerator) = .error (.mismatched report) ∧
      mismatch ∈ report.toList ∧
      mismatch.message = (Discrepancy.unhashable reported).message := by
  obtain ⟨placed, notList, unhashable⟩ :=
    nonliterals_reported_in_place (ofItems [.int 1]) rfl true 2 []
  obtain ⟨report, failed, under⟩ := placed [.float .nan, .null] 1 .null rfl rfl
  obtain ⟨report', failed', under'⟩ := placed [.float .nan, .null] 0 (.float .nan) rfl rfl
  have text : containsAfter true 2 [] (.str "a")
      (.generator (ofItems [.int 1]).toGenerator) =
        .error (.mismatched (Fault.notList.report (.str "a") Location.root)) :=
    containsAfter_of_refused rfl rfl
  refine ⟨rfl, rfl, rfl, ⟨report, failed, under.mpr (by rintro ⟨⟩)⟩,
    ⟨report', failed', fun reported => under'.mp reported rfl⟩,
    ⟨_, _, text, .head _, notList _ _ _ _ text (.head _)⟩,
    (unhashable _).mpr ⟨_, rfl, .head _, ?_⟩⟩
  rintro element mem -
  exact List.mem_singleton.mp mem

/-- Not-a-number is no literal, and yet the list is refused as a whole for it. -/
theorem nan_reported_at_root :
    (ofItems []).itemType = anyLiteral ∧
    [Value.float .nan][0]? = some (.float .nan) ∧ Literal.ofValue? (.float .nan) = none ∧
    ∃ report, Containment.contains (.list [.float .nan])
        (.generator (ofItems []).toGenerator) = .error (.mismatched report) ∧
      (¬∃ mismatch ∈ report.toList, [.index 0] <+: mismatch.location) ∧
      report.toList.map Mismatch.message =
        ["Value error, unhashable items found: \x7bnan\x7d"] := by
  refine ⟨rfl, rfl, rfl, (Fault.rejected (Discrepancy.unhashable [.float .nan]).render).report
    (.list [.float .nan]) Location.root, rfl, ?_, rfl⟩
  rintro ⟨mismatch, mem, under⟩
  obtain rfl := List.mem_singleton.mp mem
  cases List.prefix_nil.mp under

end Collection

end Containment
