import Containment.Proofs.Conversion.Outcome
import Containment.Proofs.Schema.Acceptance
import Containment.Proofs.Session.History

namespace Containment

open Fields (distinctTexts keyText)

/-! What it means that a value contains a shape, by recursion over the shape, and that this is
what the rule of the shape accepts. -/

namespace Shape

def MayBeAbsent (shape : Shape) : Prop :=
  shape = .nothing ∨ shape = .anything

/-- Scalar constants match the values of their own kind that equal them, and moments of the
calendar what reads as them. Sequences match position by position. Mappings match the maps and
objects whose entries under the declared keys match, or may be absent. -/
inductive Matches : Shape → Value → Prop where
  | null : Matches (.value .null) .null
  | present (value : Value) : Matches .present value
  | bool (flag : Bool) : Matches (.value (.bool flag)) (.bool flag)
  | int (number : Int64) : Matches (.value (.int number)) (.int number)
  | float {number other : Binary64} (equal : number.equals other = true) :
      Matches (.value (.float number)) (.float other)
  | bytes (content : List UInt8) : Matches (.value (.bytes content)) (.bytes content)
  | str (text : String) : Matches (.value (.str text)) (.str text)
  | member (enumeration name : String) (payload other : Value) :
      Matches (.value (.member enumeration name payload)) (.member enumeration name other)
  | date {day : Date} {value : Value} (read : Scalar.date.coerce value = .ok (.date day)) :
      Matches (.value (.date day)) value
  | time {clock : Time} {value : Value} (read : Scalar.time.coerce value = .ok (.time clock)) :
      Matches (.value (.time clock)) value
  | datetime {moment : DateTime} {value : Value}
      (read : Scalar.datetime.coerce value = .ok (.datetime moment)) :
      Matches (.value (.datetime moment)) value
  | object {typeName : String} {attributes : Entries Value} {value : Value}
      (equal : value.equals (.object typeName attributes) = true) :
      Matches (.value (.object typeName attributes)) value
  | schema {type : Schema} {value result : Value} (accepted : type.check value = .ok result) :
      Matches (.schema type) value
  | generator {source : Generator} {value result : Value}
      (accepted : source.dataType.check value = .ok result)
      (checked : source.check result = .ok ()) : Matches (.generator source) value
  | sequence {shape : Shape} {items : List Shape} {parts : List Value}
      (found : shape.items? = some items) (length : parts.length = items.length)
      (each : ∀ (position : Nat) (item : Shape) (part : Value), items[position]? = some item →
        parts[position]? = some part → Matches item part) :
      Matches shape (.list parts)
  | mapping {shape : Shape} {entries : List (Value × Shape)} {value : Value}
      {fields : Entries Value} (found : shape.entries? = some entries)
      (named : value.fields? = some fields)
      (given : ∀ entry ∈ entries, ∀ name, entry.1 = .str name → ∀ part,
        Entries.lookup? name fields = some part → Matches entry.2 part)
      (absent : ∀ entry ∈ entries, ∀ name, entry.1 = .str name →
        Entries.lookup? name fields = none → MayBeAbsent entry.2) :
      Matches shape value

theorem alias?_rule (shape : Shape) : shape.rule.alias? = none := by
  cases shape with
  | value constant =>
      cases constant with
      | float number => cases number <;> rfl
      | _ => rfl
  | schema type => cases type <;> rfl
  | _ => rfl

theorem isRequired_scalarRule (constant : Value) : constant.scalarRule.isRequired = true := by
  unfold Value.scalarRule
  split <;> rfl

theorem isRequired_rule_eq_false_iff {shape : Shape} :
    shape.rule.isRequired = false ↔ shape.MayBeAbsent := by
  cases shape with
  | value constant =>
      cases constant with
      | null => exact iff_of_true rfl (.inl rfl)
      | list | map => simp [rule, Value.rule, MayBeAbsent, nothing, anything, Slot.isRequired,
          Slot.required]
      | _ => simp [rule, Value.rule, isRequired_scalarRule, MayBeAbsent, nothing, anything]
  | schema type =>
      cases type with
      | any => exact iff_of_true rfl (.inr rfl)
      | _ => simp [rule, MayBeAbsent, nothing, anything, Slot.isRequired, Slot.required]
  | _ => simp [rule, MayBeAbsent, nothing, anything, Slot.isRequired, Slot.required]

theorem literal_accepts_iff {literal : Literal} {value : Value} :
    (Schema.literal [literal]).Accepts value ↔ literal.accepts value = true := by
  simp only [Schema.Accepts, Schema.check, Schema.validate, List.any_cons, List.any_nil,
    Bool.or_false]
  cases literal.accepts value <;> simp

theorem equality_accepts_iff {inner : Schema} {constant value : Value} {origin : Origin} :
    (Schema.annotated inner [Recognizer.equalityCheck constant origin]).Accepts value ↔
      ∃ result, inner.check value = .ok result ∧ result.equals constant = true := by
  simp only [Schema.Accepts, Schema.check, Schema.validate]
  cases inner.validate value Location.root with
  | error report => simp
  | ok result =>
      simp only [Schema.runChecks, Recognizer.equalityCheck, Except.ok.injEq, exists_eq_left']
      cases result.equals constant <;> simp

theorem scalar_check_eq_ok_iff {type : Scalar} {value result : Value} :
    (Schema.scalar type).check value = .ok result ↔ type.coerce value = .ok result := by
  simp only [Schema.check, Schema.validate, Schema.judge]
  cases type.coerce value <;> simp

theorem typeName_eq_of_equals_object {value : Value} {typeName : String}
    {attributes : Entries Value} (equal : value.equals (.object typeName attributes) = true) :
    value.typeName = typeName := by
  cases value with
  | object name others =>
      simp only [Value.equals, Bool.and_eq_true, beq_iff_eq] at equal
      exact equal.1.1
  | _ => simp [Value.equals] at equal

theorem literal_matches_iff {constant value : Value} {literal : Literal}
    (found : Literal.ofValue? constant = some literal) :
    literal.accepts value = true ↔ Matches (.value constant) value := by
  constructor
  · intro accepted
    cases constant with
    | bool flag =>
        cases found
        cases value with
        | bool other => exact eq_of_beq accepted ▸ .bool flag
        | _ => cases accepted
    | int number =>
        cases found
        cases value with
        | int other => exact eq_of_beq accepted ▸ .int number
        | _ => cases accepted
    | float number =>
        rw [Literal.ofValue?] at found
        split at found
        · cases found
        · cases found
          cases value with
          | float other => exact .float accepted
          | _ => cases accepted
    | bytes content =>
        cases found
        cases value with
        | bytes other => exact eq_of_beq accepted ▸ .bytes content
        | _ => cases accepted
    | str text =>
        cases found
        cases value with
        | str other => exact eq_of_beq accepted ▸ .str text
        | _ => cases accepted
    | member enumeration name payload =>
        cases found
        cases value with
        | member enumeration' name' other =>
            rw [Literal.accepts, Bool.and_eq_true, beq_iff_eq, beq_iff_eq] at accepted
            obtain ⟨rfl, rfl⟩ := accepted
            exact .member enumeration name payload other
        | _ => cases accepted
    | _ => cases found
  · intro matched
    cases matched with
    | bool flag | int number | bytes content | str text =>
        cases found
        exact beq_self_eq_true _
    | float equal =>
        rw [Literal.ofValue?] at found
        split at found
        · cases found
        · cases found
          exact equal
    | member enumeration name payload other =>
        cases found
        simp [Literal.accepts]
    | null | date | time | datetime | object => cases found
    | sequence parts =>
        cases constant with
        | list items => cases found
        | _ => cases parts
    | mapping parts =>
        cases constant with
        | map entries => cases found
        | _ => cases parts

theorem equals_date_iff {value : Value} {day : Date} :
    value.equals (.date day) = true ↔ value = .date day := by
  cases value <;> simp [Value.equals]

theorem equals_time_iff {value : Value} {clock : Time} :
    value.equals (.time clock) = true ↔ value = .time clock := by
  cases value <;> simp [Value.equals]

theorem equals_datetime_iff {value : Value} {moment : DateTime} :
    value.equals (.datetime moment) = true ↔ value = .datetime moment := by
  cases value <;> simp [Value.equals]

theorem matches_date_iff {day : Date} {value : Value} :
    Matches (.value (.date day)) value ↔ Scalar.date.coerce value = .ok (.date day) := by
  refine ⟨fun matched => ?_, .date⟩
  cases matched with
  | date read => exact read
  | sequence found | mapping found => cases found

theorem matches_time_iff {clock : Time} {value : Value} :
    Matches (.value (.time clock)) value ↔ Scalar.time.coerce value = .ok (.time clock) := by
  refine ⟨fun matched => ?_, .time⟩
  cases matched with
  | time read => exact read
  | sequence found | mapping found => cases found

theorem matches_datetime_iff {moment : DateTime} {value : Value} :
    Matches (.value (.datetime moment)) value ↔
      Scalar.datetime.coerce value = .ok (.datetime moment) := by
  refine ⟨fun matched => ?_, .datetime⟩
  cases matched with
  | datetime read => exact read
  | sequence found | mapping found => cases found

/-- A moment of the calendar is accepted where it is read. -/
theorem moment_accepts_iff {type : Scalar} {moment value : Value} {origin : Origin}
    (exact : ∀ other : Value, other.equals moment = true ↔ other = moment) :
    (Schema.annotated (.scalar type) [Recognizer.equalityCheck moment origin]).Accepts value ↔
      type.coerce value = .ok moment := by
  apply equality_accepts_iff.trans
  simp only [scalar_check_eq_ok_iff, exact, exists_eq_right]

theorem compared_matches_iff {constant value : Value}
    (compared : Recognizer.isCompared constant = true) :
    constant.rule.schema.Accepts value ↔ Matches (.value constant) value := by
  cases constant with
  | date => exact (moment_accepts_iff fun _ => equals_date_iff).trans matches_date_iff.symm
  | time => exact (moment_accepts_iff fun _ => equals_time_iff).trans matches_time_iff.symm
  | datetime =>
      exact (moment_accepts_iff fun _ => equals_datetime_iff).trans matches_datetime_iff.symm
  | object typeName attributes =>
      apply equality_accepts_iff.trans
      constructor
      · rintro ⟨result, accepted, equal⟩
        have same : result = value := by
          simp only [Schema.ofValue, Schema.check, Schema.validate] at accepted
          split at accepted
          · exact (Except.ok.inj accepted).symm
          · cases accepted
        exact .object (same ▸ equal)
      · intro matched
        cases matched with
        | object equal =>
            refine ⟨value, ?_, equal⟩
            simp only [Schema.ofValue, Schema.check, Schema.validate]
            rw [if_pos (typeName_eq_of_equals_object equal)]
        | sequence found | mapping found => cases found
  | _ => cases compared

theorem generator_accepts_iff {source : Generator} {origin : Origin} {value : Value} :
    (source.toSchema origin).Accepts value ↔
      ∃ result, source.dataType.check value = .ok result ∧ source.check result = .ok () := by
  simp only [Generator.toSchema, Schema.Accepts, Schema.check, Schema.validate]
  cases source.dataType.validate value Location.root with
  | error report => simp
  | ok result =>
      simp only [Schema.runChecks, Generator.toCheck, Except.ok.injEq, exists_eq_left']
      cases source.check result <;> simp [Except.map]

theorem null_accepts_iff {value : Value} :
    (Schema.scalar .null).Accepts value ↔ value = .null := by
  simp only [Schema.Accepts, scalar_check_eq_ok_iff, Scalar.coerce]
  cases value <;> simp [Scalar.toNull]

theorem accepts_leaf_iff {shape : Shape} {location : Location} {value : Value}
    (noItems : shape.items? = none) (noEntries : shape.entries? = none)
    (clean : shape.firstBad? location = none) :
    shape.rule.schema.Accepts value ↔ shape.Matches value := by
  cases shape with
  | list => cases noItems
  | dict => cases noEntries
  | present => exact iff_of_true ⟨value, rfl⟩ (.present value)
  | schema type =>
      have same : (Shape.schema type).rule.schema = type := by cases type <;> rfl
      rw [same]
      refine ⟨fun ⟨result, accepted⟩ => .schema accepted, fun matched => ?_⟩
      cases matched with
      | schema accepted => exact ⟨_, accepted⟩
      | sequence found | mapping found => cases found
  | generator source =>
      refine generator_accepts_iff.trans
        ⟨fun ⟨result, accepted, checked⟩ => .generator accepted checked, fun matched => ?_⟩
      cases matched with
      | generator accepted checked => exact ⟨_, accepted, checked⟩
      | sequence found | mapping found => cases found
  | value constant =>
      cases found : Literal.ofValue? constant with
      | some literal =>
          have same : constant.rule.schema = .literal [literal] := by
            cases constant with
            | null | list | map => cases found
            | _ => simp only [Value.rule, Value.scalarRule, found]; rfl
          rw [Shape.rule, same, literal_accepts_iff]
          exact literal_matches_iff found
      | none =>
          cases constant with
          | null =>
              refine null_accepts_iff.trans ⟨fun same => same ▸ .null, fun matched => ?_⟩
              cases matched with
              | null => rfl
              | sequence found | mapping found => cases found
          | list => cases noItems
          | map => cases noEntries
          | date | time | datetime | object => exact compared_matches_iff rfl
          | float number =>
              -- Only a number that is none has no literal, and such a constant is bad.
              have bad : number.isNan = true := by
                rw [Literal.ofValue?] at found
                split at found
                · assumption
                · cases found
              rw [Shape.firstBad?, Value.firstBad?, if_pos bad] at clean
              cases clean
          | _ => cases found

theorem accepts_sequence_iff {shape : Shape} {items : List Shape} {value : Value}
    (found : shape.items? = some items)
    (ih : ∀ item ∈ items, ∀ part, item.rule.schema.Accepts part ↔ item.Matches part) :
    shape.rule.schema.Accepts value ↔ shape.Matches value := by
  rw [rule_of_items? found]
  apply Schema.tuple_accepts_iff.trans
  rw [List.length_map]
  constructor
  · rintro ⟨parts, rfl, length, each⟩
    refine .sequence found length fun position item part declared given => ?_
    refine (ih item (List.mem_of_getElem? declared) part).mp (each position _ part ?_ given)
    rw [List.getElem?_map, declared, Option.map_some]
  · intro matched
    cases matched with
    | sequence found' length each =>
        obtain rfl := Option.some.inj (found.symm.trans found')
        refine ⟨_, rfl, length, fun position schema part declared given => ?_⟩
        rw [List.getElem?_map] at declared
        obtain ⟨item, stands, rfl⟩ := Option.map_eq_some_iff.mp declared
        exact (ih item (List.mem_of_getElem? stands) part).mpr
          (each position item part stands given)
    | mapping found' =>
        rw [entries?_eq_none_of_items? found] at found'
        cases found'
    | _ => cases found

theorem accepts_mapping_iff {shape : Shape} {entries : List (Value × Shape)} {value : Value}
    (found : shape.entries? = some entries)
    (texts : ∀ entry ∈ entries, ∃ name, entry.1 = .str name)
    (ih : ∀ entry ∈ entries, ∀ part, entry.2.rule.schema.Accepts part ↔ entry.2.Matches part) :
    shape.rule.schema.Accepts value ↔ shape.Matches value := by
  rw [rule_of_entries? found]
  refine (Schema.model_accepts_iff ?_).trans ?_
  · intro field mem
    obtain ⟨entry, -, rfl⟩ := List.mem_map.mp mem
    exact alias?_rule entry.2
  constructor
  · rintro ⟨fields, named, each⟩
    rw [List.forall_mem_map] at each
    refine .mapping found named ?_ ?_
    · intro entry mem name key part given
      refine (ih entry mem part).mp ((each entry mem).1 part ?_)
      rw [Prod.map_apply, key]
      exact given
    · intro entry mem name key absent
      refine isRequired_rule_eq_false_iff.mp ((each entry mem).2 ?_)
      rw [Prod.map_apply, key]
      exact absent
  · intro matched
    cases matched with
    | mapping found' named given absent =>
        obtain rfl := Option.some.inj (found.symm.trans found')
        refine ⟨_, named, ?_⟩
        rw [List.forall_mem_map]
        intro entry mem
        obtain ⟨name, key⟩ := texts entry mem
        rw [Prod.map_apply, key]
        exact ⟨fun part here => (ih entry mem part).mpr (given entry mem name key part here),
          fun gone => isRequired_rule_eq_false_iff.mpr (absent entry mem name key gone)⟩
    | sequence found' =>
        rw [items?_eq_none_of_entries? found] at found'
        cases found'
    | _ => cases found

theorem clean_items {shape : Shape} {items : List Shape} {location : Location}
    (found : shape.items? = some items) (clean : shape.firstBad? location = none) :
    ∀ item ∈ items, ∃ location, item.firstBad? location = none := by
  intro item mem
  rw [← Recognizer.map_snd_positioned items] at mem
  obtain ⟨part, among, rfl⟩ := List.mem_map.mp mem
  exact ⟨_, (ChildAt.item found among).firstBad?_eq_none clean⟩

theorem clean_entries {shape : Shape} {entries : List (Value × Shape)} {location : Location}
    (found : shape.entries? = some entries) (clean : shape.firstBad? location = none) :
    (∀ entry ∈ entries, ∃ location, entry.2.firstBad? location = none) ∧
      ∀ entry ∈ entries, ∃ name, entry.1 = .str name := by
  refine ⟨fun entry mem => ⟨_, (ChildAt.value found mem).firstBad?_eq_none clean⟩,
    fun entry mem => ?_⟩
  rw [firstBad?_of_entries? found, Option.or_eq_none_iff] at clean
  have distinct : distinctTexts (entries.map Prod.fst) = true := by
    refine Classical.byContradiction fun twice => ?_
    rw [badKeys?, if_neg twice] at clean
    cases clean.2
  rw [distinctTexts, Bool.and_eq_true, List.all_map, List.all_eq_true] at distinct
  have text := distinct.1 entry mem
  rw [Function.comp_apply] at text
  cases key : entry.1 with
  | str name => exact ⟨name, rfl⟩
  | _ => rw [key] at text; cases text

theorem rule_accepts_iff {shape : Shape} {location : Location} {value : Value}
    (clean : shape.firstBad? location = none) :
    shape.rule.schema.Accepts value ↔ shape.Matches value := by
  induction shape using inductionOnParts generalizing location value with
  | leaf shape noItems noEntries => exact accepts_leaf_iff noItems noEntries clean
  | sequence shape items found ih =>
      apply accepts_sequence_iff found
      intro item mem part
      obtain ⟨location, clean⟩ := clean_items found clean item mem
      exact ih item mem clean
  | mapping shape entries found ih =>
      obtain ⟨parts, texts⟩ := clean_entries found clean
      apply accepts_mapping_iff found texts
      intro entry mem part
      obtain ⟨location, clean⟩ := parts entry mem
      exact ih entry mem clean

end Shape

namespace Registry

theorem run_contains (registry : Registry) (actual : Value) (expected : Shape) (memo : Memo) :
    ((registry.contains actual expected).run memo).1 =
      match ((registry.convert expected).run memo).1 with
      | .error cause => .error (.unclaimed cause)
      | .ok rule =>
          match rule.schema.check actual with
          | .ok _ => .ok ()
          | .error report => .error (.mismatched report) := by
  simp only [contains, convertToSchema, StateT.run_bind]
  rcases (registry.convert expected).run memo with ⟨cause | rule, next⟩
  · rfl
  · show (StateT.run (match rule.schema.check actual with
      | .ok _ => return .ok ()
      | .error report => return .error (.mismatched report) : Session (Except Failure Unit))
      next).1 = _
    dsimp only
    cases rule.schema.check actual <;> rfl

/-- The registry of the standard recognizers, with any settings of its memory. -/
def standardWith (caching : Bool) (capacity : Nat) : Registry :=
  ((Builder.empty.addStandard.withCaching caching).withCapacity capacity).build

variable {caching : Bool} {capacity : Nat} {operations : List Operation} {shape : Shape}

/-- What converts does so after any history: the memory holds no failures. -/
theorem convert_ok_of_clean (operations : List Operation)
    (clean : shape.firstBad? Location.root = none) :
    ∃ rule, (((standardWith caching capacity).convert shape).run
      ((standardWith caching capacity).after operations)).1 = .ok rule := by
  obtain ⟨run, held, -, made, rfl | converts⟩ :=
    convert_after_held (standardWith caching capacity) operations shape
  · rw [made]
    exact (convertAt_ok_iff run).mpr clean
  · rw [made]
    exact converts

/-- Whatever the history, the rule validates as the one of the shape that is held. -/
theorem held_of_convert {rule : Rule}
    (made : (((standardWith caching capacity).convert shape).run
      ((standardWith caching capacity).after operations)).1 = .ok rule) :
    ∃ held, shape.HeldFor operations held ∧ held.firstBad? Location.root = none ∧
      ∀ value location, rule.schema.validate value location =
        held.rule.schema.validate value location := by
  obtain ⟨run, held, holds, same, -⟩ :=
    convert_after_held (standardWith caching capacity) operations shape
  rw [same] at made
  have schemas := congrArg Slot.schema (anonymous_eq_of_convertAt made)
  exact ⟨held, holds, (convertAt_ok_iff run).mp ⟨rule, made⟩,
    Schema.validate_eq_of_anonymous schemas⟩

theorem convert_ok_iff (unmistaken : shape.Unmistaken operations) :
    (∃ rule, (((standardWith caching capacity).convert shape).run
        ((standardWith caching capacity).after operations)).1 = .ok rule) ↔
      shape.firstBad? Location.root = none := by
  refine ⟨fun ⟨rule, made⟩ => ?_, convert_ok_of_clean operations⟩
  obtain ⟨held, holds, clean, -⟩ := held_of_convert made
  exact unmistaken held holds ▸ clean

theorem fresh_convert_ok_iff :
    (∃ rule, ((standard.convert shape).run Memo.empty).1 = .ok rule) ↔
      shape.firstBad? Location.root = none := by
  show (∃ rule, (((standardWith true Builder.defaultCapacity).convert shape).run
    ((standardWith true Builder.defaultCapacity).after [])).1 = .ok rule) ↔ _
  exact convert_ok_iff (.fresh shape)

theorem contains_iff_held (caching : Bool) (capacity : Nat) (operations : List Operation)
    (value : Value) (clean : shape.firstBad? Location.root = none) :
    ∃ held, shape.HeldFor operations held ∧
      ((((standardWith caching capacity).contains value shape).run
        ((standardWith caching capacity).after operations)).1 = .ok () ↔ held.Matches value) := by
  obtain ⟨rule, made⟩ : ∃ rule, (((standardWith caching capacity).convert shape).run
      ((standardWith caching capacity).after operations)).1 = .ok rule :=
    convert_ok_of_clean operations clean
  obtain ⟨held, holds, clean, same⟩ := held_of_convert made
  refine ⟨held, holds, ?_⟩
  rw [run_contains, made, ← Shape.rule_accepts_iff clean, Schema.Accepts]
  simp only [Schema.check, same]
  cases held.rule.schema.validate value Location.root <;> simp

end Registry

end Containment
