import Containment.Shape

namespace Containment

/-! Induction over schemas, values and shapes, with a hypothesis for every member of a list of
parts. -/

@[elab_as_elim, induction_eliminator]
theorem Schema.induction {motive : Schema → Prop} (any : motive .any)
    (scalar : ∀ type, motive (.scalar type))
    (enumeration : ∀ type, motive (.enumeration type)) (anyMember : motive .anyMember)
    (instanceOf : ∀ typeName, motive (.instanceOf typeName))
    (literal : ∀ alternatives, motive (.literal alternatives))
    (list : ∀ item, motive item → motive (.list item))
    (tuple : ∀ positions, (∀ schema ∈ positions, motive schema) → motive (.tuple positions))
    (dict : ∀ item, motive item → motive (.dict item))
    (optional : ∀ inner, motive inner → motive (.optional inner))
    (union : ∀ members, (∀ schema ∈ members, motive schema) → motive (.union members))
    (annotated : ∀ inner checks, motive inner → motive (.annotated inner checks))
    (model : ∀ name fields, (∀ field ∈ fields, motive (Slot.schema (Prod.snd field))) →
      motive (.model name fields)) :
    ∀ schema, motive schema := by
  intro schema
  -- A member of a list is smaller than the list, so the induction is on the size.
  induction size : sizeOf schema using Nat.strongRecOn generalizing schema with
  | ind _ ih =>
      subst size
      cases schema with
      | any => exact any
      | scalar type => exact scalar type
      | enumeration type => exact enumeration type
      | anyMember => exact anyMember
      | instanceOf typeName => exact instanceOf typeName
      | literal alternatives => exact literal alternatives
      | list item => exact list item (ih _ (by simp) item rfl)
      | dict item => exact dict item (ih _ (by simp) item rfl)
      | optional inner => exact optional inner (ih _ (by simp) inner rfl)
      | annotated inner checks =>
          exact annotated inner checks (ih _ (by simp; omega) inner rfl)
      | tuple positions =>
          refine tuple positions fun schema mem => ih _ ?_ schema rfl
          have := List.sizeOf_lt_of_mem mem
          simp
          omega
      | union members =>
          refine union members fun schema mem => ih _ ?_ schema rfl
          have := List.sizeOf_lt_of_mem mem
          simp
          omega
      | model name fields =>
          refine model name fields ?_
          rintro ⟨name, schema, default?, alias?⟩ mem
          have := List.sizeOf_lt_of_mem mem
          refine ih _ ?_ schema rfl
          simp at this ⊢
          omega

/-- A value is a leaf, a list, or a map or an object with its fields. -/
@[elab_as_elim]
theorem Value.inductionOnFields {motive : Value → Prop}
    (leaf : ∀ value : Value, value.asList? = none → value.fields? = none → motive value)
    (list : ∀ items, (∀ item ∈ items, motive item) → motive (.list items))
    (fields : ∀ (value : Value) (entries : Entries Value), value.fields? = some entries →
      (∀ entry ∈ entries, motive (Prod.snd entry)) → motive value) :
    ∀ value, motive value := by
  intro value
  induction size : sizeOf value using Nat.strongRecOn generalizing value with
  | ind _ ih =>
      subst size
      have smaller : ∀ entries : Entries Value, sizeOf entries < sizeOf value →
          ∀ entry ∈ entries, motive (Prod.snd entry) := by
        rintro entries within ⟨name, part⟩ mem
        have := List.sizeOf_lt_of_mem mem
        refine ih _ ?_ part rfl
        simp at this
        omega
      cases value with
      | list items =>
          refine list items fun item mem => ih _ ?_ item rfl
          have := List.sizeOf_lt_of_mem mem
          simp
          omega
      | map entries =>
          refine fields _ entries rfl (smaller entries ?_)
          rw [map.sizeOf_spec]
          omega
      | object typeName attributes =>
          refine fields _ attributes rfl (smaller attributes ?_)
          rw [object.sizeOf_spec]
          omega
      | _ => exact leaf _ rfl rfl

/-- A value is a leaf, a list or a map. -/
@[elab_as_elim]
theorem Value.inductionOnParts {motive : Value → Prop}
    (leaf : ∀ value : Value, value.asList? = none → value.asMap? = none → motive value)
    (list : ∀ items, (∀ item ∈ items, motive item) → motive (.list items))
    (map : ∀ entries, (∀ entry ∈ entries, motive (Prod.snd entry)) → motive (.map entries)) :
    ∀ value, motive value := by
  intro value
  induction value using inductionOnFields with
  | leaf value noItems noFields =>
      refine leaf value noItems ?_
      cases value with
      | map => cases noFields
      | _ => rfl
  | list items ih => exact list items ih
  | fields value entries named ih =>
      cases value with
      | map =>
          cases named
          exact map entries ih
      | object => exact leaf _ rfl rfl
      | _ => cases named

namespace Shape

@[elab_as_elim, induction_eliminator]
theorem induction {motive : Shape → Prop} (value : ∀ constant, motive (.value constant))
    (present : motive .present) (schema : ∀ type, motive (.schema type))
    (generator : ∀ source, motive (.generator source))
    (list : ∀ items, (∀ item ∈ items, motive item) → motive (.list items))
    (dict : ∀ entries, (∀ entry ∈ entries, motive (Prod.snd entry)) → motive (.dict entries)) :
    ∀ shape, motive shape := by
  intro shape
  induction size : sizeOf shape using Nat.strongRecOn generalizing shape with
  | ind _ ih =>
      subst size
      cases shape with
      | value constant => exact value constant
      | present => exact present
      | schema type => exact schema type
      | generator source => exact generator source
      | list items =>
          refine list items fun item mem => ih _ ?_ item rfl
          have := List.sizeOf_lt_of_mem mem
          simp
          omega
      | dict entries =>
          refine dict entries ?_
          rintro ⟨key, shape⟩ mem
          have := List.sizeOf_lt_of_mem mem
          refine ih _ ?_ shape rfl
          simp at this ⊢
          omega

/-- A shape is a leaf, a sequence or a mapping, however it is written. -/
@[elab_as_elim]
theorem inductionOnParts {motive : Shape → Prop}
    (leaf : ∀ shape : Shape, shape.items? = none → shape.entries? = none → motive shape)
    (sequence : ∀ (shape : Shape) (items : List Shape), shape.items? = some items →
      (∀ item ∈ items, motive item) → motive shape)
    (mapping : ∀ (shape : Shape) (entries : List (Value × Shape)),
      shape.entries? = some entries → (∀ entry ∈ entries, motive (Prod.snd entry)) →
        motive shape) :
    ∀ shape, motive shape := by
  intro shape
  induction size : shape.size using Nat.strongRecOn generalizing shape with
  | ind _ ih =>
      subst size
      cases hitems : shape.items? with
      | some items =>
          exact sequence shape items hitems fun item mem =>
            ih _ (size_lt_of_items? hitems mem) item rfl
      | none =>
          cases hentries : shape.entries? with
          | none => exact leaf shape hitems hentries
          | some entries =>
              exact mapping shape entries hentries fun entry mem =>
                ih _ (size_lt_of_entries? hentries mem) entry.2 rfl

theorem entries?_eq_none_of_items? {shape : Shape} {items : List Shape}
    (h : shape.items? = some items) : shape.entries? = none := by
  unfold items? at h
  split at h
  · rfl
  · rfl
  · cases h

theorem items?_eq_none_of_entries? {shape : Shape} {entries : List (Value × Shape)}
    (h : shape.entries? = some entries) : shape.items? = none := by
  unfold entries? at h
  split at h
  · rfl
  · rfl
  · cases h

end Shape

end Containment
