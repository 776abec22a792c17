import Containment.Proofs.Calendar.Rendering
import Containment.Value

namespace Containment.Value

/-! Values as their texts show them: each time of day in them, at any depth, is the one that its
text names. -/

mutual
def asShown : Value → Value
  | .time clock => .time clock.asShown
  | .datetime moment => .datetime moment.asShown
  | .member enumeration name payload => .member enumeration name payload.asShown
  | .list items => .list (itemsAsShown items)
  | .map entries => .map (entriesAsShown entries)
  | .object typeName attributes => .object typeName (entriesAsShown attributes)
  | other => other

def itemsAsShown : List Value → List Value
  | [] => []
  | item :: rest => item.asShown :: itemsAsShown rest

def entriesAsShown : List (String × Value) → List (String × Value)
  | [] => []
  | (name, value) :: rest => (name, value.asShown) :: entriesAsShown rest
end

theorem itemsAsShown_eq_map (items : List Value) : itemsAsShown items = items.map asShown := by
  induction items with
  | nil => rfl
  | cons item rest ih => rw [itemsAsShown, ih, List.map_cons]

theorem entriesAsShown_eq_map (entries : List (String × Value)) :
    entriesAsShown entries = entries.map (Prod.map id asShown) := by
  induction entries with
  | nil => rfl
  | cons entry rest ih => rw [entriesAsShown, ih, List.map_cons, Prod.map_apply, id]

theorem asShown_list (items : List Value) :
    (list items).asShown = .list (items.map asShown) := by
  rw [asShown, itemsAsShown_eq_map]

theorem asShown_map (entries : List (String × Value)) :
    (map entries).asShown = .map (entries.map (Prod.map id asShown)) := by
  rw [asShown, entriesAsShown_eq_map]

theorem asShown_object (typeName : String) (attributes : List (String × Value)) :
    (object typeName attributes).asShown =
      .object typeName (attributes.map (Prod.map id asShown)) := by
  rw [asShown, entriesAsShown_eq_map]

/-- Only times look like others. -/
theorem eq_null_of_asShown {value : Value} (same : value.asShown = .null) : value = .null := by
  cases value with
  | null => rfl
  | _ => cases same

theorem eq_str_of_asShown {value : Value} {name : String} (same : value.asShown = .str name) :
    value = .str name := by
  cases value with
  | str => exact same
  | _ => cases same

end Containment.Value
