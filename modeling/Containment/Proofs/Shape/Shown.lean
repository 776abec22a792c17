import Containment.Proofs.Related
import Containment.Proofs.Schema.Shown
import Containment.Shape

namespace Containment.Shape

/-! Shapes as their texts show them. Sequences and mappings stay such, with their parts as
shown. -/

mutual
def asShown : Shape → Shape
  | .value constant => .value constant.asShown
  | .schema type => .schema type.asShown
  | .list items => .list (itemsAsShown items)
  | .dict entries => .dict (entriesAsShown entries)
  | other => other

def itemsAsShown : List Shape → List Shape
  | [] => []
  | item :: rest => item.asShown :: itemsAsShown rest

def entriesAsShown : List (Value × Shape) → List (Value × Shape)
  | [] => []
  | (key, shape) :: rest => (key.asShown, shape.asShown) :: entriesAsShown rest
end

theorem itemsAsShown_eq_map (items : List Shape) : itemsAsShown items = items.map asShown := by
  induction items with
  | nil => rfl
  | cons item rest ih => rw [itemsAsShown, ih, List.map_cons]

theorem entriesAsShown_eq_map (entries : List (Value × Shape)) :
    entriesAsShown entries = entries.map (Prod.map Value.asShown asShown) := by
  induction entries with
  | nil => rfl
  | cons entry rest ih => rw [entriesAsShown, ih, List.map_cons, Prod.map_apply]

theorem asShown_list (items : List Shape) :
    (list items).asShown = .list (items.map asShown) := by
  rw [asShown, itemsAsShown_eq_map]

theorem asShown_dict (entries : List (Value × Shape)) :
    (dict entries).asShown = .dict (entries.map (Prod.map Value.asShown asShown)) := by
  rw [asShown, entriesAsShown_eq_map]

theorem items?_asShown (shape : Shape) :
    shape.asShown.items? = shape.items?.map (List.map asShown) := by
  cases shape with
  | list items => rw [asShown_list, items?, items?, Option.map_some]
  | value constant =>
      cases constant with
      | list items =>
          rw [asShown, Value.asShown_list, items?, items?, Option.map_some, List.map_map,
            List.map_map]
          rfl
      | _ => rfl
  | _ => rfl

theorem entries?_asShown (shape : Shape) :
    shape.asShown.entries? =
      shape.entries?.map (List.map (Prod.map Value.asShown asShown)) := by
  cases shape with
  | dict entries => rw [asShown_dict, entries?, entries?, Option.map_some]
  | value constant =>
      cases constant with
      | map entries =>
          rw [asShown, Value.asShown_map, entries?, entries?, Option.map_some, List.map_map,
            List.map_map]
          rfl
      | _ => rfl
  | _ => rfl

section LooksAlike

variable {shape other : Shape} (same : shape.asShown = other.asShown)

include same

theorem items?_of_asShown {items : List Shape} (found : shape.items? = some items) :
    ∃ others, other.items? = some others ∧ items.map asShown = others.map asShown := by
  have shown := other.items?_asShown
  rw [← same, items?_asShown, found, Option.map_some] at shown
  obtain ⟨others, found', parts⟩ := Option.map_eq_some_iff.mp shown.symm
  exact ⟨others, found', parts.symm⟩

theorem entries?_of_asShown {entries : List (Value × Shape)}
    (found : shape.entries? = some entries) :
    ∃ others, other.entries? = some others ∧
      entries.map (Prod.map Value.asShown asShown) =
        others.map (Prod.map Value.asShown asShown) := by
  have shown := other.entries?_asShown
  rw [← same, entries?_asShown, found, Option.map_some] at shown
  obtain ⟨others, found', parts⟩ := Option.map_eq_some_iff.mp shown.symm
  exact ⟨others, found', parts.symm⟩

end LooksAlike

/-- Entries that look alike stand under the same texts. -/
theorem exists_entry_of_asShown {entries others : List (Value × Shape)}
    (alike : entries.map (Prod.map Value.asShown asShown) =
      others.map (Prod.map Value.asShown asShown))
    {entry : Value × Shape} (mem : entry ∈ others) {name : String} (key : entry.1 = .str name) :
    ∃ other ∈ entries, other.1 = .str name ∧ other.2.asShown = entry.2.asShown := by
  obtain ⟨other, among, same⟩ := exists_mem_of_map_eq alike mem
  obtain ⟨keys, parts⟩ := Prod.mk.inj same
  rw [key] at keys
  exact ⟨other, among, Value.eq_str_of_asShown keys, parts⟩

end Containment.Shape
