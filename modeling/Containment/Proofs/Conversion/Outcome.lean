import Containment.Proofs.Conversion.Parts

namespace Containment

open Fields (distinctTexts keyText)

/-! Which shapes convert by the standard recognizers, what a failure reports, and the rule
that a shape converts to. -/

/-- Keys that are not distinct texts make a mapping itself bad. -/
def badKeys? (keys : List Value) (bad : Unclaimed) : Option Unclaimed :=
  if distinctTexts keys then none else some bad

theorem badKeys?_texts {names : List String} (distinct : names.Nodup) (bad : Unclaimed) :
    badKeys? (names.map .str) bad = none := by
  have texts : (names.map Value.str).map keyText = names := by
    rw [List.map_map]
    exact List.map_id names
  have all : (names.map Value.str).all Fields.isText = true := by
    simp [Fields.isText]
  rw [badKeys?, distinctTexts, texts, all, decide_eq_true distinct]
  rfl

namespace Value

mutual
/-- The first part of a constant that nothing can match: a number that is none, or an object
that does not equal itself. -/
def firstBad? : Value → Location → Option Unclaimed
  | .float number, location =>
      if number.isNan then some ⟨location, .value (.float number)⟩ else none
  | .object name attributes, location =>
      if (Value.object name attributes).equals (.object name attributes) then none
      else some ⟨location, .value (.object name attributes)⟩
  | .list items, location => firstBadItem? items location 0
  | .map entries, location =>
      (firstBadValue? entries location).or
        (badKeys? (entries.map fun entry => .str entry.1) ⟨location, .value (.map entries)⟩)
  | _, _ => none

def firstBadItem? : List Value → Location → Nat → Option Unclaimed
  | [], _, _ => none
  | item :: rest, location, position =>
      (item.firstBad? (location.index position)).or (firstBadItem? rest location (position + 1))

def firstBadValue? : List (String × Value) → Location → Option Unclaimed
  | [], _ => none
  | (name, value) :: rest, location =>
      (value.firstBad? (location.field name)).or (firstBadValue? rest location)
end

/-- The names of a map are distinct, so that a map is bad only through its values. -/
theorem firstBad?_map {entries : Entries Value} (distinct : entries.names.Nodup)
    (location : Location) :
    (Value.map entries).firstBad? location = firstBadValue? entries location := by
  have keys : entries.map (fun entry => Value.str entry.1) = entries.names.map .str := by
    rw [Entries.names, List.map_map]
    rfl
  rw [firstBad?, keys, badKeys?_texts distinct, Option.or_none]

def scalarRule (constant : Value) : Rule :=
  match Literal.ofValue? constant with
  | some found => .required (.literal [found])
  | none =>
      .required (.annotated (.ofValue constant)
        [Recognizer.equalityCheck constant (.declared 0)])

mutual
def rule : Value → Rule
  | .null => .optional (.scalar .null) .null
  | .list items => .required (.tuple (itemRules items))
  | .map entries => .required (.model Recognizer.modelName (entryRules entries))
  | constant => scalarRule constant

def itemRules : List Value → List Schema
  | [] => []
  | item :: rest => item.rule.schema :: itemRules rest

def entryRules : List (String × Value) → List (String × Rule)
  | [] => []
  | (name, value) :: rest => (name, value.rule) :: entryRules rest
end

end Value

namespace Shape

mutual
/-- The first part of a shape, in the order of conversion, that no recognizer claims: parts
come before the whole. -/
def firstBad? : Shape → Location → Option Unclaimed
  | .value constant, location => constant.firstBad? location
  | .list items, location => firstBadItem? items location 0
  | .dict entries, location =>
      (firstBadValue? entries location).or
        (badKeys? (entries.map Prod.fst) ⟨location, .dict entries⟩)
  | _, _ => none

def firstBadItem? : List Shape → Location → Nat → Option Unclaimed
  | [], _, _ => none
  | item :: rest, location, position =>
      (item.firstBad? (location.index position)).or (firstBadItem? rest location (position + 1))

def firstBadValue? : List (Value × Shape) → Location → Option Unclaimed
  | [], _ => none
  | (key, shape) :: rest, location =>
      (shape.firstBad? (location.field (keyText key))).or (firstBadValue? rest location)
end

mutual
/-- The rule of a shape that converts. It mentions no location. -/
def rule : Shape → Rule
  | .value constant => constant.rule
  | .present => .required .any
  | .schema .any => .optional .any .null
  | .schema type => .required type
  | .generator source => .required (source.toSchema (.declared 0))
  | .list items => .required (.tuple (itemRules items))
  | .dict entries => .required (.model Recognizer.modelName (entryRules entries))

def itemRules : List Shape → List Schema
  | [] => []
  | item :: rest => item.rule.schema :: itemRules rest

def entryRules : List (Value × Shape) → List (String × Rule)
  | [] => []
  | (key, shape) :: rest => (keyText key, shape.rule) :: entryRules rest
end

theorem firstBadItem?_eq_findSome? (items : List Shape) (location : Location) (start : Nat) :
    firstBadItem? items location start =
      ((items.zipIdx start).map fun (item, position) => (position, item)).findSome? fun part =>
        part.2.firstBad? (location.index part.1) := by
  induction items generalizing start with
  | nil => rfl
  | cons item rest ih =>
      rw [firstBadItem?, ih, List.zipIdx_cons, List.map_cons, List.findSome?_cons]
      cases item.firstBad? (location.index start) <;> rfl

theorem firstBadItem?_constants (items : List Value) (location : Location) (start : Nat) :
    firstBadItem? (items.map .value) location start =
      Value.firstBadItem? items location start := by
  induction items generalizing start with
  | nil => rfl
  | cons item rest ih => rw [Value.firstBadItem?, ← ih, List.map_cons, firstBadItem?, firstBad?]

theorem firstBad?_of_items? {shape : Shape} {items : List Shape}
    (h : shape.items? = some items) (location : Location) :
    shape.firstBad? location =
      (Recognizer.positioned items).findSome? fun part =>
        part.2.firstBad? (location.index part.1) := by
  rw [Recognizer.positioned, ← firstBadItem?_eq_findSome?]
  unfold items? at h
  split at h
  · cases h
    rfl
  · cases h
    exact (firstBadItem?_constants _ location 0).symm
  · cases h

theorem firstBadValue?_eq_findSome? (entries : List (Value × Shape)) (location : Location) :
    firstBadValue? entries location =
      entries.findSome? fun entry => entry.2.firstBad? (location.field (keyText entry.1)) := by
  induction entries with
  | nil => rfl
  | cons entry rest ih =>
      rw [firstBadValue?, ih, List.findSome?_cons]
      cases entry.2.firstBad? (location.field (keyText entry.1)) <;> rfl

theorem firstBadValue?_constants (entries : List (String × Value)) (location : Location) :
    firstBadValue? (entries.map fun (name, part) => (.str name, .value part)) location =
      Value.firstBadValue? entries location := by
  induction entries with
  | nil => rfl
  | cons entry rest ih =>
      rw [Value.firstBadValue?, ← ih, List.map_cons, firstBadValue?, firstBad?, keyText]

theorem firstBad?_of_entries? {shape : Shape} {entries : List (Value × Shape)}
    (h : shape.entries? = some entries) (location : Location) :
    shape.firstBad? location =
      (entries.findSome? fun entry => entry.2.firstBad? (location.field (keyText entry.1))).or
        (badKeys? (entries.map Prod.fst) ⟨location, shape⟩) := by
  rw [← firstBadValue?_eq_findSome?]
  unfold entries? at h
  split at h
  · cases h
    rfl
  · cases h
    rw [firstBadValue?_constants, List.map_map]
    rfl
  · cases h

theorem ChildAt.firstBad?_eq_none {whole part : Shape} {location place : Location}
    (child : whole.ChildAt location part place) (clean : whole.firstBad? location = none) :
    part.firstBad? place = none := by
  cases child with
  | item found mem =>
      rw [firstBad?_of_items? found, List.findSome?_eq_none_iff] at clean
      exact clean _ mem
  | value found mem =>
      rw [firstBad?_of_entries? found, Option.or_eq_none_iff, List.findSome?_eq_none_iff] at clean
      exact clean.1 _ mem

theorem itemRules_eq_map (items : List Shape) :
    itemRules items = items.map fun item => item.rule.schema := by
  induction items with
  | nil => rfl
  | cons item rest ih => rw [itemRules, ih, List.map_cons]

theorem itemRules_constants (items : List Value) :
    itemRules (items.map .value) = Value.itemRules items := by
  induction items with
  | nil => rfl
  | cons item rest ih => rw [Value.itemRules, ← ih, List.map_cons, itemRules, rule]

theorem rule_of_items? {shape : Shape} {items : List Shape} (h : shape.items? = some items) :
    shape.rule = .required (.tuple (items.map fun item => item.rule.schema)) := by
  rw [← itemRules_eq_map]
  unfold items? at h
  split at h
  · cases h
    rfl
  · cases h
    rw [itemRules_constants]
    rfl
  · cases h

theorem entryRules_eq_map (entries : List (Value × Shape)) :
    entryRules entries = entries.map (Prod.map keyText rule) := by
  induction entries with
  | nil => rfl
  | cons entry rest ih => rw [entryRules, ih, List.map_cons, Prod.map_apply]

theorem entryRules_constants (entries : List (String × Value)) :
    entryRules (entries.map fun (name, part) => (.str name, .value part)) =
      Value.entryRules entries := by
  induction entries with
  | nil => rfl
  | cons entry rest ih =>
      rw [Value.entryRules, ← ih, List.map_cons, entryRules, rule, keyText]

theorem rule_of_entries? {shape : Shape} {entries : List (Value × Shape)}
    (h : shape.entries? = some entries) :
    shape.rule =
      .required (.model Recognizer.modelName (entries.map (Prod.map keyText rule))) := by
  rw [← entryRules_eq_map]
  unfold entries? at h
  split at h
  · cases h
    rfl
  · cases h
    rw [entryRules_constants]
    rfl
  · cases h

end Shape

namespace Recognizer

theorem map_snd_positioned (items : List Shape) : (positioned items).map Prod.snd = items := by
  rw [positioned, List.map_map]
  exact List.zipIdx_map_fst 0 items

/-- The static recognizers are not for shapes with parts. -/
theorem standardStatics_pass {shape : Shape} (context : Context shape.size)
    (parts : shape.items? ≠ none ∨ shape.entries? ≠ none) :
    ∀ recognizer ∈ standardStatics, recognizer.recognize shape context = .ok none := by
  simp only [standardStatics, List.forall_mem_cons, List.not_mem_nil, false_imp_iff,
    implies_true, and_true]
  cases shape with
  | value constant =>
      cases constant with
      | list | map => exact ⟨rfl, rfl, rfl, rfl, rfl, rfl, rfl⟩
      | _ => simp [Shape.items?, Shape.entries?] at parts
  | list | dict => exact ⟨rfl, rfl, rfl, rfl, rfl, rfl, rfl⟩
  | _ => simp [Shape.items?, Shape.entries?] at parts

end Recognizer

namespace Registry

open Recognizer

theorem firstClaim_compared {constant : Value} (compared : isCompared constant = true)
    (context : Context (Shape.value constant).size) :
    firstClaim (.value constant) context standard.recognizers =
      if constant.equals constant = true then
        .ok (.required (.annotated (.ofValue constant) [equalityCheck constant context.origin]))
      else .error ⟨context.location, .value constant⟩ := by
  have before : ∀ recognizer ∈ [nothing, something, anything, literal],
      recognizer.recognize (.value constant) context = .ok none := by
    simp only [List.forall_mem_cons, List.not_mem_nil, false_imp_iff, implies_true, and_true]
    cases constant with
    | date | time | datetime | object => exact ⟨rfl, rfl, rfl, rfl⟩
    | _ => cases compared
  have after : ∀ recognizer ∈ [typeExpression, typeGenerator, mapping, sequence],
      recognizer.recognize (.value constant) context = .ok none := by
    simp only [List.forall_mem_cons, List.not_mem_nil, false_imp_iff, implies_true, and_true]
    cases constant with
    | date | time | datetime | object => exact ⟨rfl, rfl, rfl, rfl⟩
    | _ => cases compared
  have split : standard.recognizers = [nothing, something, anything, literal] ++
      equalityConstant :: ([typeExpression, typeGenerator, mapping, sequence] ++ []) := rfl
  rw [split, firstClaim_append _ before, firstClaim, firstClaim_append _ after]
  simp only [equalityConstant, compared, Bool.true_and]
  cases constant.equals constant <;> rfl

theorem convertAt_leaf (run : Nat) (location : Location) {shape : Shape}
    (noItems : shape.items? = none) (noEntries : shape.entries? = none) :
    anonymousOutcome (convertAt standard.recognizers run location shape) =
      settled (shape.firstBad? location) (Rule.anonymous shape.rule) := by
  rw [convertAt_eq]
  cases shape with
  | value constant =>
      cases constant with
      | list => cases noItems
      | map => cases noEntries
      | null | bool | int | bytes | str | member => rfl
      | float number => cases number <;> rfl
      | date day | time clock | datetime moment =>
          rw [firstClaim_compared rfl, if_pos (by simp [Value.equals])]
          rfl
      | object typeName attributes =>
          rw [firstClaim_compared rfl, Shape.firstBad?, Value.firstBad?]
          split <;> rfl
  | present => rfl
  | schema type =>
      cases type <;> rfl
  | generator source => rfl
  | list => cases noItems
  | dict => cases noEntries

def Promised (run : Nat) (shape : Shape) : Prop :=
  ∀ location, anonymousOutcome (convertAt standard.recognizers run location shape) =
    settled (shape.firstBad? location) (Rule.anonymous shape.rule)

theorem collect_convertAt {κ : Type} {run : Nat} (place : κ → Location)
    (parts : List (κ × Shape)) (ih : ∀ part ∈ parts, Promised run part.2) :
    (∃ unclaimed, (parts.findSome? fun part => part.2.firstBad? (place part.1)) = some unclaimed ∧
      collect (parts.map fun part =>
        (part.1, convertAt standard.recognizers run (place part.1) part.2)) = .error unclaimed) ∨
    ((parts.findSome? fun part => part.2.firstBad? (place part.1)) = none ∧
      ∃ rules, collect (parts.map fun part =>
        (part.1, convertAt standard.recognizers run (place part.1) part.2)) = .ok rules ∧
        rules.map (Prod.map id Rule.anonymous) =
          parts.map fun part => (part.1, Rule.anonymous part.2.rule)) := by
  have outcomes := collect_anonymous (parts.map fun part =>
    (part.1, convertAt standard.recognizers run (place part.1) part.2))
  have promised : (parts.map fun part =>
        (part.1, convertAt standard.recognizers run (place part.1) part.2)).map
          (Prod.map id anonymousOutcome) =
      parts.map fun part => (part.1, settled (part.2.firstBad? (place part.1))
        (Rule.anonymous part.2.rule)) := by
    rw [List.map_map]
    apply List.map_congr_left
    intro part mem
    rw [Function.comp_apply, Prod.map_apply, ih part mem]
    rfl
  rw [promised, collect_settled] at outcomes
  cases bad : parts.findSome? fun part => part.2.firstBad? (place part.1) with
  | some unclaimed =>
      refine .inl ⟨unclaimed, rfl, ?_⟩
      rw [bad] at outcomes
      cases collected : collect _ with
      | ok rules =>
          rw [collected] at outcomes
          cases outcomes
      | error other =>
          rw [collected] at outcomes
          cases outcomes
          rfl
  | none =>
      refine .inr ⟨rfl, ?_⟩
      rw [bad] at outcomes
      cases collected : collect _ with
      | error other =>
          rw [collected] at outcomes
          cases outcomes
      | ok rules =>
          rw [collected] at outcomes
          exact ⟨rules, rfl, Except.ok.inj outcomes⟩

theorem convertAt_sequence {run : Nat} {shape : Shape} {items : List Shape}
    (found : shape.items? = some items) (ih : ∀ item ∈ items, Promised run item) :
    Promised run shape := by
  intro location
  have passed := standardStatics_pass
    (contextOf standard.recognizers run location shape.size) (.inl (by simp [found]))
  have asked : standard.recognizers = standardStatics ++ [mapping, sequence] := rfl
  rw [convertAt_eq, Shape.firstBad?_of_items? found, Shape.rule_of_items? found]
  conv => lhs; rw [asked]
  rw [firstClaim_append _ (asked ▸ passed), firstClaim, firstClaim, ← asked,
    mapping_pass (Shape.entries?_eq_none_of_items? found),
    recognize_sequence standard.recognizers run location found]
  have parts : ∀ part ∈ positioned items, Promised run part.2 :=
    fun part mem => ih part.2 (mem_of_mem_positioned mem)
  rcases collect_convertAt location.index (positioned items) parts with
    ⟨unclaimed, bad, collected⟩ | ⟨none, rules, collected, same⟩
  · rw [bad, collected]
    rfl
  · rw [none, collected]
    have schemas := congrArg (List.map fun rule => rule.2.schema) same
    have whole : items.map (fun item => item.rule.schema.anonymous) =
        (positioned items).map fun part => part.2.rule.schema.anonymous := by
      conv => lhs; rw [← map_snd_positioned items, List.map_map]
      rfl
    rw [List.map_map, List.map_map] at schemas
    refine congrArg Except.ok ?_
    rw [Schema.anonymous_tuple, Schema.anonymous_tuple, List.map_map, List.map_map]
    exact congrArg (fun schemas => Slot.required (Schema.tuple schemas)) (schemas.trans whole.symm)

theorem convertAt_mapping {run : Nat} {shape : Shape} {entries : List (Value × Shape)}
    (found : shape.entries? = some entries) (ih : ∀ entry ∈ entries, Promised run entry.2) :
    Promised run shape := by
  intro location
  have passed := standardStatics_pass
    (contextOf standard.recognizers run location shape.size) (.inr (by simp [found]))
  have asked : standard.recognizers = standardStatics ++ [mapping, sequence] := rfl
  rw [convertAt_eq, Shape.firstBad?_of_entries? found, Shape.rule_of_entries? found]
  conv => lhs; rw [asked]
  rw [firstClaim_append _ (asked ▸ passed), firstClaim, firstClaim, ← asked,
    sequence_pass (Shape.items?_eq_none_of_entries? found),
    recognize_mapping standard.recognizers run location found]
  rcases collect_convertAt (fun key => location.field (keyText key)) entries ih with
    ⟨unclaimed, bad, collected⟩ | ⟨none, rules, collected, same⟩
  · rw [bad, collected]
    rfl
  · have keys : rules.map Prod.fst = entries.map Prod.fst := by
      have keys := congrArg (List.map Prod.fst) same
      rw [List.map_map, List.map_map] at keys
      exact keys
    rw [none, collected, Option.none_or, badKeys?]
    simp only [Except.map]
    rw [Fields.toOption_ofRules, keys]
    by_cases distinct : distinctTexts (entries.map Prod.fst) = true
    · rw [if_pos distinct, if_pos distinct]
      have fields := congrArg (List.map (Prod.map keyText id)) same
      rw [List.map_map, List.map_map] at fields
      refine congrArg Except.ok ?_
      rw [Schema.anonymous_model, Schema.anonymous_model, List.map_map, List.map_map]
      exact congrArg (fun fields => Slot.required (Schema.model modelName fields)) fields
    · rw [if_neg distinct, if_neg distinct]
      rfl

theorem convertAt_promised (run : Nat) (shape : Shape) : Promised run shape := by
  induction shape using Shape.inductionOnParts with
  | leaf shape noItems noEntries => exact fun location => convertAt_leaf run location noItems noEntries
  | sequence shape items found ih => exact convertAt_sequence found ih
  | mapping shape entries found ih => exact convertAt_mapping found ih

theorem convertAt_eq_error_iff {run : Nat} {location : Location} {shape : Shape}
    {unclaimed : Unclaimed} :
    convertAt standard.recognizers run location shape = .error unclaimed ↔
      shape.firstBad? location = some unclaimed := by
  have promised := convertAt_promised run shape location
  cases made : convertAt standard.recognizers run location shape with
  | ok rule =>
      rw [made] at promised
      cases bad : shape.firstBad? location with
      | none => simp
      | some other => rw [bad] at promised; cases promised
  | error other =>
      rw [made] at promised
      cases bad : shape.firstBad? location with
      | none => rw [bad] at promised; cases promised
      | some first =>
          rw [bad] at promised
          cases promised
          simp

theorem convertAt_ok_iff (run : Nat) {location : Location} {shape : Shape} :
    (∃ rule, convertAt standard.recognizers run location shape = .ok rule) ↔
      shape.firstBad? location = none := by
  rw [Option.eq_none_iff_forall_ne_some]
  constructor
  · rintro ⟨rule, made⟩ unclaimed bad
    rw [convertAt_eq_error_iff.mpr bad] at made
    cases made
  · intro clean
    cases made : convertAt standard.recognizers run location shape with
    | ok rule => exact ⟨rule, rfl⟩
    | error unclaimed => exact absurd (convertAt_eq_error_iff.mp made) (clean unclaimed)

theorem anonymous_eq_of_convertAt {run : Nat} {location : Location} {shape : Shape} {rule : Rule}
    (made : convertAt standard.recognizers run location shape = .ok rule) :
    Rule.anonymous rule = Rule.anonymous shape.rule := by
  have promised := convertAt_promised run shape location
  rw [made, (convertAt_ok_iff run).mp ⟨rule, made⟩] at promised
  exact Except.ok.inj promised

/-- Conversion succeeds where no part is bad, and else reports the first bad part. The rule is
the same at every location and in every run, up to the origin of its checks. -/
theorem conversion_reports_firstBad (run : Nat) (location : Location) (shape : Shape) :
    ((∃ rule, convertAt standard.recognizers run location shape = .ok rule) ↔
        shape.firstBad? location = none) ∧
      (∀ unclaimed, convertAt standard.recognizers run location shape = .error unclaimed ↔
        shape.firstBad? location = some unclaimed) ∧
      ∀ rule run' location' rule',
        convertAt standard.recognizers run location shape = .ok rule →
        convertAt standard.recognizers run' location' shape = .ok rule' →
          Rule.anonymous rule = Rule.anonymous rule' := by
  refine ⟨convertAt_ok_iff run, fun unclaimed => convertAt_eq_error_iff, ?_⟩
  intro rule run' location' rule' made made'
  rw [anonymous_eq_of_convertAt made, anonymous_eq_of_convertAt made']

/-- A bad part comes before the bad keys, and without it only the keys are bad. -/
theorem conversion_reports_firstBad_in_part :
    let order (price : Shape) : Shape :=
      .list [.nothing, .dict [(.int 1, .nothing), (.str "price", price)]]
    convertAt standard.recognizers 0 [.field "order"] (order (.value (.float .nan))) =
        .error ⟨[.field "order", .index 1, .field "price"], .value (.float .nan)⟩ ∧
      convertAt standard.recognizers 0 [.field "order"] (order .present) =
        .error ⟨[.field "order", .index 1],
          .dict [(.int 1, .nothing), (.str "price", .present)]⟩ ∧
      ∃ rule, convertAt standard.recognizers 0 [.field "order"] (.list [.nothing]) = .ok rule ∧
        ∀ location rule', convertAt standard.recognizers 1 location (.list [.nothing]) = .ok rule' →
          Rule.anonymous rule = Rule.anonymous rule' := by
  refine ⟨?_, ?_, ?_⟩
  · exact ((conversion_reports_firstBad 0 _ _).2.1 _).mpr rfl
  · exact ((conversion_reports_firstBad 0 _ _).2.1 _).mpr rfl
  · obtain ⟨converts, -, alike⟩ :=
      conversion_reports_firstBad 0 [.field "order"] (.list [.nothing])
    obtain ⟨rule, made⟩ := converts.mpr rfl
    exact ⟨rule, made, fun location rule' made' => alike rule 1 location rule' made made'⟩

end Registry

end Containment
