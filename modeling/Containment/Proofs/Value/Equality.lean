import Containment.Literal
import Containment.Proofs.Induction
import Containment.Proofs.Number.Equality
import Containment.Proofs.Value.Part
import Mathlib.Data.List.Perm.Subperm

namespace Containment

/-! The equality of values, by their parts, and that it does not matter which of two values comes
first. Named parts are compared from one side only, so that this takes distinct names. -/

namespace Entries

variable {α β : Type}

theorem names_subset {entries : Entries α} {others : Entries β}
    (found : ∀ entry ∈ entries, ∃ other, lookup? entry.1 others = some other) :
    entries.names ⊆ others.names := by
  intro name mem
  obtain ⟨entry, among, rfl⟩ := List.mem_map.mp mem
  obtain ⟨other, here⟩ := found entry among
  exact List.mem_map_of_mem (mem_of_lookup? here)

theorem length_le_of_names_subset {entries : Entries α} {others : Entries β}
    (distinct : entries.names.Nodup) (among : entries.names ⊆ others.names) :
    entries.length ≤ others.length := by
  have length := (List.subperm_of_subset distinct among).length_le
  rwa [names, names, List.length_map, List.length_map] at length

/-- Distinct names among no more others are all of the others. -/
theorem names_perm {entries : Entries α} {others : Entries β} (distinct : entries.names.Nodup)
    (among : entries.names ⊆ others.names) (length : others.length ≤ entries.length) :
    entries.names.Perm others.names := by
  apply (List.subperm_of_subset distinct among).perm_of_length_le
  rwa [names, names, List.length_map, List.length_map]

end Entries

namespace Value

theorem itemsEqual_iff {items others : List Value} :
    itemsEqual items others = true ↔ items.length = others.length ∧
      ∀ (position : Nat) (item other : Value), items[position]? = some item →
        others[position]? = some other → item.equals other = true := by
  induction items generalizing others with
  | nil => cases others <;> simp [itemsEqual]
  | cons item rest ih =>
      cases others with
      | nil => simp [itemsEqual]
      | cons other others =>
          rw [itemsEqual, Bool.and_eq_true, ih, List.length_cons, List.length_cons,
            Nat.add_right_cancel_iff, and_left_comm]
          apply and_congr_right
          intro _
          constructor
          · rintro ⟨head, tail⟩ position item other given given'
            cases position with
            | zero => cases given; cases given'; exact head
            | succ position => exact tail position item other given given'
          · intro each
            exact ⟨each 0 item other rfl rfl, fun position => each (position + 1)⟩

theorem entriesWithin_iff {entries others : Entries Value} :
    entriesWithin entries others = true ↔ ∀ entry ∈ entries,
      ∃ other, Entries.lookup? entry.1 others = some other ∧ entry.2.equals other = true := by
  induction entries with
  | nil => simp [entriesWithin]
  | cons entry rest ih =>
      rw [entriesWithin, Bool.and_eq_true, ih, List.forall_mem_cons]
      apply and_congr_left
      intro _
      cases Entries.lookup? entry.1 others <;> simp

theorem equals_list_iff {items : List Value} {other : Value} :
    (Value.list items).equals other = true ↔ ∃ parts, other = .list parts ∧
      items.length = parts.length ∧ ∀ (position : Nat) (item part : Value),
        items[position]? = some item → parts[position]? = some part →
          item.equals part = true := by
  cases other with
  | list parts => simp [equals, itemsEqual_iff]
  | _ => simp [equals]

theorem equals_map_iff {entries : Entries Value} {other : Value} :
    (Value.map entries).equals other = true ↔ ∃ others : Entries Value, other = .map others ∧
      entries.length = others.length ∧ ∀ entry ∈ entries,
        ∃ part, Entries.lookup? entry.1 others = some part ∧ entry.2.equals part = true := by
  cases other with
  | map others =>
      rw [equals, Bool.and_eq_true, beq_iff_eq, entriesWithin_iff]
      simp
  | _ => simp [equals]

/-- Entries that are found among as many others are found from there as well. -/
theorem entriesWithin_symm {entries others : Entries Value} (distinct : entries.names.Nodup)
    (length : entries.length = others.length) (within : entriesWithin entries others = true)
    (each : ∀ entry ∈ entries, ∀ other : Value, entry.2.equals other = true →
      other.equals entry.2 = true) : entriesWithin others entries = true := by
  rw [entriesWithin_iff] at within ⊢
  have among := Entries.names_subset fun entry mem =>
    (within entry mem).imp fun _ found => found.1
  have all := Entries.names_perm distinct among (Nat.le_of_eq length.symm)
  rintro ⟨name, other⟩ mem
  have named : name ∈ entries.names := all.mem_iff.mpr (List.mem_map_of_mem mem)
  obtain ⟨⟨_, value⟩, among, rfl⟩ := List.mem_map.mp named
  obtain ⟨found, same, equal⟩ := within _ among
  rw [Entries.lookup?_of_mem (all.nodup_iff.mp distinct) mem] at same
  obtain rfl := Option.some.inj same
  exact ⟨value, Entries.lookup?_of_mem distinct among, each _ among _ equal⟩

theorem equals_symm {value other : Value} (keyed : value.wellKeyed = true)
    (equal : value.equals other = true) : other.equals value = true := by
  induction value using inductionOnFields generalizing other with
  | leaf value noItems noFields =>
      cases value with
      | list => cases noItems
      | map | object => cases noFields
      | float number =>
          cases other with
          | float other => exact (Binary64.equals_comm other number).trans equal
          | _ => cases equal
      | _ => cases other <;> simp_all [equals]
  | list items ih =>
      rw [wellKeyed, wellKeyedItems_iff] at keyed
      obtain ⟨parts, rfl, length, each⟩ := equals_list_iff.mp equal
      refine equals_list_iff.mpr ⟨items, rfl, length.symm, ?_⟩
      intro position part item given given'
      have mem := List.mem_of_getElem? given'
      exact ih item mem (keyed item mem) (each position item part given' given)
  | fields value entries named ih =>
      obtain ⟨distinct, keyed⟩ := wellKeyed_fields keyed named
      have symm : ∀ entry ∈ entries, ∀ other : Value, entry.2.equals other = true →
          other.equals entry.2 = true := fun entry mem _ => ih entry mem (keyed entry mem)
      cases value with
      | map =>
          cases named
          cases other with
          | map others =>
              simp only [equals, Bool.and_eq_true, beq_iff_eq] at equal ⊢
              obtain ⟨length, within⟩ := equal
              exact ⟨length.symm, entriesWithin_symm distinct length within symm⟩
          | _ => cases equal
      | object typeName attributes =>
          cases named
          cases other with
          | object typeName' others =>
              simp only [equals, Bool.and_eq_true, beq_iff_eq] at equal ⊢
              obtain ⟨⟨rfl, length⟩, within⟩ := equal
              exact ⟨⟨rfl, length.symm⟩, entriesWithin_symm distinct length within symm⟩
          | _ => cases equal
      | _ => cases named

end Value

/-- A literal matches what the value that it stands for equals. -/
theorem Literal.accepts_eq_equals {value other : Value} {literal : Literal}
    (found : ofValue? value = some literal) : literal.accepts other = value.equals other := by
  cases value with
  | float number =>
      rw [ofValue?] at found
      split at found
      · cases found
      · cases found
        cases other <;> rfl
  | bool | int | bytes | str | member =>
      cases found
      cases other <;> rfl
  | _ => cases found

end Containment
