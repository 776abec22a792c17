import Containment.Json
import Containment.Proofs.Shape.Expansion
import Containment.Proofs.Shape.Shown

namespace Containment

/-! Constants and shapes that nothing else is shown as. Documents are such, as constants and
written out, since no time of day can be read from one. -/

def Value.Distinctive (value : Value) : Prop :=
  ∀ other : Value, other.asShown = value.asShown → other = value

def Shape.Distinctive (shape : Shape) : Prop :=
  ∀ other : Shape, other.asShown = shape.asShown → other = shape

namespace Value.Distinctive

variable {items : List Value} {entries : Entries Value}

theorem list (each : ∀ item ∈ items, item.Distinctive) : (Value.list items).Distinctive := by
  intro other same
  rw [asShown_list] at same
  cases other with
  | list others =>
      rw [asShown_list, list.injEq] at same
      rw [eq_of_map_eq each same]
  | _ => cases same

theorem map (each : ∀ entry ∈ entries, entry.2.Distinctive) :
    (Value.map entries).Distinctive := by
  intro other same
  rw [asShown_map] at same
  cases other with
  | map others =>
      rw [asShown_map, map.injEq] at same
      refine congrArg Value.map (eq_of_map_eq (fun entry mem other same => ?_) same)
      obtain ⟨names, parts⟩ := Prod.mk.inj same
      exact Prod.ext names (each entry mem other.2 parts)
  | _ => cases same

theorem of_mem_list (distinctive : (Value.list items).Distinctive) :
    ∀ item ∈ items, item.Distinctive := by
  intro item mem other same
  obtain ⟨before, after, rfl⟩ := List.append_of_mem mem
  have whole := distinctive (.list (before ++ other :: after)) (by
    rw [asShown_list, asShown_list, List.map_append, List.map_append, List.map_cons,
      List.map_cons, same])
  exact (List.cons.inj (List.append_cancel_left (Value.list.inj whole))).1

theorem of_mem_map (distinctive : (Value.map entries).Distinctive) :
    ∀ entry ∈ entries, entry.2.Distinctive := by
  intro entry mem other same
  obtain ⟨before, after, rfl⟩ := List.append_of_mem mem
  have whole := distinctive (.map (before ++ (entry.1, other) :: after)) (by
    rw [asShown_map, asShown_map, List.map_append, List.map_append, List.map_cons,
      List.map_cons, Prod.map_apply, Prod.map_apply, same])
  exact (Prod.mk.inj (List.cons.inj (List.append_cancel_left (Value.map.inj whole))).1).2

end Value.Distinctive

namespace Shape.Distinctive

theorem value {constant : Value} (distinctive : constant.Distinctive) :
    (Shape.value constant).Distinctive := by
  intro other same
  cases other with
  | value other => exact congrArg Shape.value (distinctive other (Shape.value.inj same))
  | _ => cases same

theorem list {items : List Shape} (each : ∀ item ∈ items, item.Distinctive) :
    (Shape.list items).Distinctive := by
  intro other same
  rw [asShown_list] at same
  cases other with
  | list others =>
      rw [asShown_list, list.injEq] at same
      rw [eq_of_map_eq each same]
  | _ => cases same

/-- Only the texts among the keys are looked at: every key that a text is shown as is that
text. -/
theorem dict {entries : Entries Shape} (each : ∀ entry ∈ entries, entry.2.Distinctive) :
    (Shape.dict (entries.map (Prod.map Value.str id))).Distinctive := by
  intro other same
  rw [asShown_dict] at same
  cases other with
  | dict others =>
      rw [asShown_dict, dict.injEq] at same
      refine congrArg Shape.dict (eq_of_map_eq ?_ same)
      rw [List.forall_mem_map]
      intro entry mem other same
      obtain ⟨keys, parts⟩ := Prod.mk.inj same
      exact Prod.ext (Value.eq_str_of_asShown keys) (each entry mem other.2 parts)
  | _ => cases same

/-- To write a constant out makes it no more like others. -/
theorem expand {constant : Value} (distinctive : constant.Distinctive) :
    constant.expand.Distinctive := by
  induction constant using Value.inductionOnParts with
  | leaf constant noItems noEntries =>
      rw [Value.expand_leaf noItems noEntries]
      exact value distinctive
  | list items ih =>
      rw [Value.expand_list]
      refine list ?_
      rw [List.forall_mem_map]
      exact fun item mem => ih item mem (distinctive.of_mem_list item mem)
  | map entries ih =>
      have parts : entries.map (Prod.map Value.str Value.expand) =
          (entries.map (Prod.map id Value.expand)).map (Prod.map Value.str id) := by
        rw [List.map_map]
        rfl
      rw [Value.expand_map, parts]
      refine dict ?_
      rw [List.forall_mem_map]
      exact fun entry mem => ih entry mem (distinctive.of_mem_map entry mem)

end Shape.Distinctive

namespace Value

theorem distinctive_float (number : Binary64) : (float number).Distinctive := by
  intro other same
  cases other with
  | float => exact same
  | _ => cases same

theorem distinctive_ofInteger (number : Int) : (ofInteger number).Distinctive := by
  rw [ofInteger]
  cases Numeral.int64? number with
  | none => exact distinctive_float (.ofInt number)
  | some number =>
      intro other same
      cases other with
      | int => exact same
      | _ => cases same

mutual
theorem distinctive_ofJson : ∀ document : Json, (ofJson document).Distinctive
  | .null, _, same => eq_null_of_asShown same
  | .bool _, other, same => by
      cases other with
      | bool => exact same
      | _ => cases same
  | .integer number, other, same => distinctive_ofInteger number other same
  | .decimal number _, other, same => distinctive_float number other same
  | .string _, _, same => eq_str_of_asShown same
  | .array items, other, same => Distinctive.list (distinctive_itemsOfJson items) other same
  | .object members, other, same => by
      refine Distinctive.map (fun entry mem => ?_) other same
      exact distinctive_entriesOfJson members entry (Entries.mem_of_mem_ofList mem)

theorem distinctive_itemsOfJson : ∀ items : List Json, ∀ item ∈ itemsOfJson items,
    item.Distinctive
  | first :: rest, item, mem => by
      rcases List.mem_cons.mp mem with rfl | mem
      · exact distinctive_ofJson first
      · exact distinctive_itemsOfJson rest item mem

theorem distinctive_entriesOfJson : ∀ members : List (String × Json),
    ∀ entry ∈ entriesOfJson members, entry.2.Distinctive
  | (_, first) :: rest, entry, mem => by
      rcases List.mem_cons.mp mem with rfl | mem
      · exact distinctive_ofJson first
      · exact distinctive_entriesOfJson rest entry mem
end

end Value

end Containment
