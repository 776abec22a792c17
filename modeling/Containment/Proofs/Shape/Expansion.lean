import Containment.Proofs.Induction

namespace Containment

/-! Constants written out as shapes. The text stays the same, and JSON documents become
written out where they become shapes at once. -/

namespace Value

mutual
/-- The shape of a constant with its lists and maps, at any depth, written out as shapes. -/
def expand : Value → Shape
  | .list items => .list (expandItems items)
  | .map entries => .dict (expandEntries entries)
  | constant => .value constant

def expandItems : List Value → List Shape
  | [] => []
  | item :: rest => item.expand :: expandItems rest

def expandEntries : List (String × Value) → List (Value × Shape)
  | [] => []
  | (name, value) :: rest => (.str name, value.expand) :: expandEntries rest
end

theorem expandItems_eq_map (items : List Value) : expandItems items = items.map expand := by
  induction items with
  | nil => rfl
  | cons item rest ih => rw [expandItems, ih, List.map_cons]

theorem expandEntries_eq_map (entries : List (String × Value)) :
    expandEntries entries = entries.map (Prod.map .str expand) := by
  induction entries with
  | nil => rfl
  | cons entry rest ih => rw [expandEntries, ih, List.map_cons, Prod.map_apply]

theorem expand_list (items : List Value) : expand (.list items) = .list (items.map expand) := by
  rw [expand, expandItems_eq_map]

theorem expand_map (entries : List (String × Value)) :
    expand (.map entries) = .dict (entries.map (Prod.map .str expand)) := by
  rw [expand, expandEntries_eq_map]

theorem expand_leaf {value : Value} (noItems : value.asList? = none)
    (noEntries : value.asMap? = none) : value.expand = .value value := by
  cases value with
  | list => cases noItems
  | map => cases noEntries
  | _ => rfl

end Value

namespace Shape

theorem renderItems_eq_map (items : List Shape) : renderItems items = items.map render := by
  induction items with
  | nil => rfl
  | cons item rest ih => rw [renderItems, ih, List.map_cons]

theorem renderEntries_eq_map (entries : List (Value × Shape)) :
    renderEntries entries =
      entries.map fun (key, shape) => key.render ++ ": " ++ shape.render := by
  induction entries with
  | nil => rfl
  | cons entry rest ih => rw [renderEntries, ih, List.map_cons]

end Shape

theorem Value.render_expand (value : Value) : value.expand.render = value.render := by
  induction value using inductionOnParts with
  | leaf value noItems noEntries =>
      rw [expand_leaf noItems noEntries]
      rfl
  | list items ih =>
      rw [expand_list, Shape.render, Shape.renderItems_eq_map, List.map_map, render,
        renderItems_eq_map]
      exact congrArg Text.bracketed (List.map_congr_left ih)
  | map entries ih =>
      rw [expand_map, Shape.render, Shape.renderEntries_eq_map, List.map_map, render,
        renderEntries_eq_map]
      refine congrArg Text.braced (List.map_congr_left fun entry mem => ?_)
      exact congrArg (Text.quoted entry.1 ++ ": " ++ ·) (ih entry mem)

mutual
/-- A document is the same shape, be it read as one or as a value that is written out. -/
theorem Shape.ofJson_eq_expand : ∀ document : Json,
    Shape.ofJson document = (Value.ofJson document).expand
  | .null => rfl
  | .bool _ => rfl
  | .integer number => by
      show Shape.value (.ofInteger number) = (Value.ofInteger number).expand
      rw [Value.ofInteger]
      cases Numeral.int64? number <;> rfl
  | .decimal _ _ => rfl
  | .string _ => rfl
  | .array items => by
      rw [ofJson, Value.ofJson, Value.expand_list, Shape.itemsOfJson_eq_expand items]
  | .object members => by
      rw [ofJson, Value.ofJson, Value.expand_map, Shape.entriesOfJson_eq_expand members,
        ← Entries.map_ofList, List.map_map]
      rfl

theorem Shape.itemsOfJson_eq_expand : ∀ items : List Json,
    Shape.itemsOfJson items = (Value.itemsOfJson items).map Value.expand
  | [] => rfl
  | item :: rest => by
      rw [itemsOfJson, Value.itemsOfJson, List.map_cons, Shape.ofJson_eq_expand item,
        Shape.itemsOfJson_eq_expand rest]

theorem Shape.entriesOfJson_eq_expand : ∀ members : List (String × Json),
    Shape.entriesOfJson members = (Value.entriesOfJson members).map (Prod.map id Value.expand)
  | [] => rfl
  | (name, item) :: rest => by
      rw [entriesOfJson, Value.entriesOfJson, List.map_cons, Shape.ofJson_eq_expand item,
        Shape.entriesOfJson_eq_expand rest, Prod.map_apply, id]
end

end Containment
