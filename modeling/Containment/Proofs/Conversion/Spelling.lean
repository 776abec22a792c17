import Containment.Proofs.Containment.Matches
import Containment.Proofs.Number.Equality
import Containment.Proofs.Session.Transparency
import Containment.Proofs.Shape.Expansion

namespace Containment

/-! A constant and the shapes it is written out as convert alike, and documents are contained
in the same values however they become shapes. -/

/-- What the message of a failed conversion tells of it. -/
def Unclaimed.told (unclaimed : Unclaimed) : Location × String :=
  (unclaimed.location, unclaimed.shape.render)

namespace Value

theorem rule_expand (value : Value) : value.expand.rule = value.rule := by
  induction value using inductionOnParts with
  | leaf value noItems noEntries =>
      rw [expand_leaf noItems noEntries]
      rfl
  | list items ih =>
      have schemas : items.map (fun item => item.expand.rule.schema) =
          items.map fun item => item.rule.schema :=
        List.map_congr_left fun item mem => congrArg Slot.schema (ih item mem)
      rw [expand_list, Shape.rule, Shape.itemRules_eq_map, List.map_map, rule,
        ← Shape.itemRules_constants, Shape.itemRules_eq_map, List.map_map]
      exact congrArg (fun schemas => Slot.required (Schema.tuple schemas)) schemas
  | map entries ih =>
      have fields : entries.map (fun entry => (entry.1, entry.2.expand.rule)) =
          entries.map fun entry => (entry.1, entry.2.rule) :=
        List.map_congr_left fun entry mem => congrArg (Prod.mk entry.1) (ih entry mem)
      rw [expand_map, Shape.rule, Shape.entryRules_eq_map, List.map_map, rule,
        ← Shape.entryRules_constants, Shape.entryRules_eq_map, List.map_map]
      exact congrArg (fun fields => Slot.required (Schema.model Recognizer.modelName fields))
        fields

theorem told_firstBadItem? {items : List Value}
    (ih : ∀ item ∈ items, ∀ location,
      (item.expand.firstBad? location).map Unclaimed.told =
        (item.firstBad? location).map Unclaimed.told)
    (location : Location) (position : Nat) :
    (Shape.firstBadItem? (items.map expand) location position).map Unclaimed.told =
      (firstBadItem? items location position).map Unclaimed.told := by
  induction items generalizing position with
  | nil => rfl
  | cons item rest later =>
      rw [List.map_cons, Shape.firstBadItem?, firstBadItem?, Option.map_or, Option.map_or,
        ih item (.head _), later fun other mem => ih other (.tail _ mem)]

theorem told_firstBadValue? {entries : List (String × Value)}
    (ih : ∀ entry ∈ entries, ∀ location,
      (entry.2.expand.firstBad? location).map Unclaimed.told =
        (entry.2.firstBad? location).map Unclaimed.told)
    (location : Location) :
    (Shape.firstBadValue? (entries.map (Prod.map .str expand)) location).map Unclaimed.told =
      (firstBadValue? entries location).map Unclaimed.told := by
  induction entries with
  | nil => rfl
  | cons entry rest later =>
      rw [List.map_cons, Prod.map_apply, Shape.firstBadValue?, firstBadValue?, Option.map_or,
        Option.map_or, Fields.keyText, ih entry (.head _),
        later fun other mem => ih other (.tail _ mem)]

theorem told_badKeys? (keys : List Value) {bad other : Unclaimed} (same : bad.told = other.told) :
    (badKeys? keys bad).map Unclaimed.told = (badKeys? keys other).map Unclaimed.told := by
  rw [badKeys?, badKeys?]
  split
  · rfl
  · exact congrArg some same

/-- The bad part of a written-out constant stands where that of the constant does, written out
itself. -/
theorem told_firstBad? (value : Value) (location : Location) :
    (value.expand.firstBad? location).map Unclaimed.told =
      (value.firstBad? location).map Unclaimed.told := by
  induction value using inductionOnParts generalizing location with
  | leaf value noItems noEntries =>
      rw [expand_leaf noItems noEntries]
      rfl
  | list items ih =>
      rw [expand_list, Shape.firstBad?, firstBad?]
      exact told_firstBadItem? ih location 0
  | map entries ih =>
      have text : Unclaimed.told ⟨location, expand (.map entries)⟩ =
          Unclaimed.told ⟨location, .value (.map entries)⟩ :=
        congrArg (Prod.mk location) (render_expand (.map entries))
      have keys : (entries.map (Prod.map Value.str expand)).map Prod.fst =
          entries.map fun entry => Value.str entry.1 := by
        rw [List.map_map]
        rfl
      rw [expand_map] at text
      rw [expand_map, Shape.firstBad?, firstBad?, Option.map_or, Option.map_or,
        told_firstBadValue? ih, keys, told_badKeys? _ text]

end Value

/-- Failures at one location for shapes of one text, or equivalent rules. -/
inductive SimilarOutcome : Except Unclaimed Rule → Except Unclaimed Rule → Prop where
  | failed {unclaimed other : Unclaimed} (location : unclaimed.location = other.location)
      (text : unclaimed.shape.render = other.shape.render) :
      SimilarOutcome (.error unclaimed) (.error other)
  | converted {rule other : Rule} (same : Rule.Equivalent rule other) :
      SimilarOutcome (.ok rule) (.ok other)

namespace Registry

/-- Conversions come to similar outcomes where the shapes have one rule and their bad parts
are told alike. -/
theorem similarOutcome_of_told {run run' : Nat} {location : Location} {shape other : Shape}
    (rules : shape.rule = other.rule)
    (told : (shape.firstBad? location).map Unclaimed.told =
      (other.firstBad? location).map Unclaimed.told) :
    SimilarOutcome (convertAt standard.recognizers run location shape)
      (convertAt standard.recognizers run' location other) := by
  cases made : convertAt standard.recognizers run location shape with
  | error unclaimed =>
      rw [convertAt_eq_error_iff.mp made] at told
      obtain ⟨unclaimed', bad, same⟩ := Option.map_eq_some_iff.mp told.symm
      rw [convertAt_eq_error_iff.mpr bad]
      exact .failed (congrArg Prod.fst same).symm (congrArg Prod.snd same).symm
  | ok rule =>
      rw [(convertAt_ok_iff run).mp ⟨rule, made⟩] at told
      obtain ⟨rule', made'⟩ := (convertAt_ok_iff run').mpr (Option.map_eq_none_iff.mp told.symm)
      rw [made']
      refine .converted (Rule.equivalent_of_anonymous ?_)
      rw [anonymous_eq_of_convertAt made, anonymous_eq_of_convertAt made', rules]

variable (caching : Bool) (capacity : Nat) {operations others : List Operation} {value : Value}
  (unmistaken : (Shape.value value).Unmistaken operations)
  (unmistaken' : value.expand.Unmistaken others)

include unmistaken unmistaken'

theorem similarOutcome_expand :
    SimilarOutcome
      (((standardWith caching capacity).convert (.value value)).run
        ((standardWith caching capacity).after operations)).1
      (((standardWith caching capacity).convert value.expand).run
        ((standardWith caching capacity).after others)).1 := by
  obtain ⟨run, made⟩ := convert_after_eq (standardWith caching capacity) unmistaken
  obtain ⟨run', made'⟩ := convert_after_eq (standardWith caching capacity) unmistaken'
  rw [made, made']
  exact similarOutcome_of_told value.rule_expand.symm (value.told_firstBad? _).symm

/-- The two shapes answer every value alike, if they convert. -/
theorem contains_expand (clean : value.firstBad? Location.root = none) (actual : Value) :
    (((standardWith caching capacity).contains actual value.expand).run
        ((standardWith caching capacity).after others)).1 =
      (((standardWith caching capacity).contains actual (.value value)).run
        ((standardWith caching capacity).after operations)).1 := by
  have converts : (Shape.value value).firstBad? Location.root = none := clean
  have similar := similarOutcome_expand caching capacity unmistaken unmistaken'
  obtain ⟨rule, made⟩ := convert_ok_of_clean operations converts
  rw [run_contains, run_contains, made]
  rw [made] at similar
  generalize (((standardWith caching capacity).convert value.expand).run
    ((standardWith caching capacity).after others)).1 = outcome at similar ⊢
  cases similar with
  | converted same => simp only [Schema.check, same.validate_eq]

end Registry

namespace Value

theorem firstBad?_ofInteger (number : Int) (location : Location) :
    (ofInteger number).firstBad? location = none := by
  rw [ofInteger]
  cases Numeral.int64? number with
  | some number => rfl
  | none => rw [firstBad?, Binary64.isNan_ofInt, if_neg Bool.false_ne_true]

theorem firstBadItem?_eq_none {items : List Value}
    (clean : ∀ item ∈ items, ∀ location, item.firstBad? location = none) (location : Location)
    (position : Nat) : firstBadItem? items location position = none := by
  induction items generalizing position with
  | nil => rfl
  | cons item rest ih =>
      rw [firstBadItem?, clean item (.head _), ih fun other mem => clean other (.tail _ mem)]
      rfl

theorem firstBadValue?_eq_none {entries : List (String × Value)}
    (clean : ∀ entry ∈ entries, ∀ location, entry.2.firstBad? location = none)
    (location : Location) : firstBadValue? entries location = none := by
  induction entries with
  | nil => rfl
  | cons entry rest ih =>
      rw [firstBadValue?, clean entry (.head _), ih fun other mem => clean other (.tail _ mem)]
      rfl

mutual
/-- A document holds no number that is none, and the names of a map read from it differ. -/
theorem firstBad?_ofJson : ∀ (document : Json) (location : Location),
    (ofJson document).firstBad? location = none
  | .null, _ => rfl
  | .bool _, _ => rfl
  | .integer number, location => firstBad?_ofInteger number location
  | .decimal number finite, location => by
      rw [ofJson, firstBad?, Binary64.isNan_eq_false_of_units? finite,
        if_neg Bool.false_ne_true]
  | .string _, _ => rfl
  | .array items, location => by
      rw [ofJson, firstBad?]
      exact firstBadItem?_eq_none (firstBad?_itemsOfJson items) location 0
  | .object members, location => by
      rw [ofJson, firstBad?_map (Entries.nodup_names_ofList _)]
      refine firstBadValue?_eq_none (fun entry mem => ?_) location
      exact firstBad?_entriesOfJson members entry (Entries.mem_of_mem_ofList mem)

theorem firstBad?_itemsOfJson : ∀ (items : List Json), ∀ item ∈ itemsOfJson items,
    ∀ location, item.firstBad? location = none
  | first :: rest, item, mem, location => by
      rcases List.mem_cons.mp mem with rfl | mem
      · exact firstBad?_ofJson first location
      · exact firstBad?_itemsOfJson rest item mem location

theorem firstBad?_entriesOfJson : ∀ (members : List (String × Json)),
    ∀ entry ∈ entriesOfJson members, ∀ location, entry.2.firstBad? location = none
  | (_, first) :: rest, entry, mem, location => by
      rcases List.mem_cons.mp mem with rfl | mem
      · exact firstBad?_ofJson first location
      · exact firstBad?_entriesOfJson rest entry mem location
end

end Value

namespace Registry

/-- Nothing is taken for a document, so that both of its spellings answer alike after any
histories. -/
theorem contains_ofJson (document : Json) (actual : Value) (caching : Bool) (capacity : Nat)
    (operations others : List Operation) :
    (((standardWith caching capacity).contains actual (Shape.ofJson document)).run
        ((standardWith caching capacity).after others)).1 =
      (((standardWith caching capacity).contains actual (.value (Value.ofJson document))).run
        ((standardWith caching capacity).after operations)).1 := by
  have constant := Shape.Distinctive.value (Value.distinctive_ofJson document)
  have written := Shape.Distinctive.expand (Value.distinctive_ofJson document)
  rw [Shape.ofJson_eq_expand]
  exact contains_expand caching capacity (constant.unmistaken operations)
    (written.unmistaken others) (Value.firstBad?_ofJson document Location.root) actual

/-- A constant and the shape it is written out as have one text and convert alike, at once and
after any histories that have not converted look-alikes of them. A document becomes shapes that
answer every value alike, whatever was converted before. -/
theorem spellings_agree :
    (∀ value : Value, value.expand.render = (Shape.value value).render ∧
      SimilarOutcome ((standard.convert (.value value)).run Memo.empty).1
        ((standard.convert value.expand).run Memo.empty).1 ∧
      ∀ caching capacity operations others,
        (Shape.value value).Unmistaken operations → value.expand.Unmistaken others →
          SimilarOutcome
            (((standardWith caching capacity).convert (.value value)).run
              ((standardWith caching capacity).after operations)).1
            (((standardWith caching capacity).convert value.expand).run
              ((standardWith caching capacity).after others)).1) ∧
    ∀ document : Json, Shape.ofJson document = (Value.ofJson document).expand ∧
      (∀ actual, Containment.contains actual (Shape.ofJson document) =
        Containment.contains actual (.value (Value.ofJson document))) ∧
      ∀ actual caching capacity operations others,
        (((standardWith caching capacity).contains actual (Shape.ofJson document)).run
            ((standardWith caching capacity).after others)).1 =
          (((standardWith caching capacity).contains actual
            (.value (Value.ofJson document))).run
              ((standardWith caching capacity).after operations)).1 := by
  refine ⟨fun value => ⟨value.render_expand, ?_, ?_⟩,
    fun document => ⟨Shape.ofJson_eq_expand document,
      fun actual => contains_ofJson document actual true Builder.defaultCapacity [] [],
      contains_ofJson document⟩⟩
  · exact similarOutcome_expand true Builder.defaultCapacity (.fresh (.value value))
      (.fresh value.expand)
  · intro caching capacity operations others unmistaken unmistaken'
    exact similarOutcome_expand caching capacity unmistaken unmistaken'

/-- A list with a number that is none fails in both spellings, and one with a day converts. -/
theorem spellings_agree_on_lists :
    let bad : Value := .list [.null, .float .nan]
    let clean : Value := .list [.date ⟨2024, 2, 29, by decide⟩]
    let operations : List Operation := [.convert (.value bad), .contains .null (.value clean)]
    (Shape.value bad).Unmistaken operations ∧ bad.expand.Unmistaken operations ∧
      SimilarOutcome
        (((standardWith true 1).convert (.value bad)).run
          ((standardWith true 1).after operations)).1
        (((standardWith true 1).convert bad.expand).run
          ((standardWith true 1).after operations)).1 ∧
      (Shape.value clean).Unmistaken operations ∧ clean.expand.Unmistaken operations ∧
      SimilarOutcome
        (((standardWith true 1).convert (.value clean)).run
          ((standardWith true 1).after operations)).1
        (((standardWith true 1).convert clean.expand).run
          ((standardWith true 1).after operations)).1 := by
  intro bad clean operations
  have unmistaken : (Shape.value bad).Unmistaken operations := .of_shown rfl rfl
  have expanded : bad.expand.Unmistaken operations := .of_shown rfl rfl
  have unmistaken' : (Shape.value clean).Unmistaken operations := .of_shown rfl rfl
  have expanded' : clean.expand.Unmistaken operations := .of_shown rfl rfl
  exact ⟨unmistaken, expanded, (spellings_agree.1 bad).2.2 _ _ _ _ unmistaken expanded,
    unmistaken', expanded', (spellings_agree.1 clean).2.2 _ _ _ _ unmistaken' expanded'⟩

end Registry

end Containment
