import Containment.Proofs.Schema.Description
import Containment.Proofs.Schema.Occurrence
import Containment.Proofs.Shape.Shown
import Containment.Shape.Key

namespace Containment

open Text

/-! A key tells what a shape is shown as, and a shape has no key if and only if there are
functions in it: generators, or checks of schemas. -/

namespace Schema

theorem Occurs.isPlain {part whole : Schema} (occurs : Occurs part whole) :
    whole.isPlain = true → part.isPlain = true := by
  induction occurs with
  | here => exact id
  | list _ ih | dict _ ih | optional _ ih => rwa [Schema.isPlain]
  | annotated _ _ =>
      intro plain
      cases plain
  | tuple mem _ ih | union mem _ ih =>
      intro plain
      rw [Schema.isPlain, arePlain_iff] at plain
      exact ih (plain _ mem)
  | model mem _ ih =>
      intro plain
      rw [Schema.isPlain, fieldsArePlain_iff] at plain
      exact ih (plain _ mem)

end Schema

namespace Shape

/-- A shape stands somewhere in another one. Constants count as a whole. -/
inductive Occurs (part : Shape) : Shape → Prop where
  | here : Occurs part part
  | list {items : List Shape} {item : Shape} (mem : item ∈ items)
      (inside : Occurs part item) : Occurs part (.list items)
  | dict {entries : List (Value × Shape)} {entry : Value × Shape} (mem : entry ∈ entries)
      (inside : Occurs part entry.2) : Occurs part (.dict entries)

theorem arePlain_iff {items : List Shape} :
    arePlain items = true ↔ ∀ item ∈ items, item.isPlain = true := by
  induction items with
  | nil => simp [arePlain]
  | cons item rest ih => simp [arePlain, ih]

theorem entriesArePlain_iff {entries : List (Value × Shape)} :
    entriesArePlain entries = true ↔ ∀ entry ∈ entries, entry.2.isPlain = true := by
  induction entries with
  | nil => simp [entriesArePlain]
  | cons entry rest ih => simp [entriesArePlain, ih]

theorem Occurs.isPlain {part whole : Shape} (occurs : Occurs part whole) :
    whole.isPlain = true → part.isPlain = true := by
  induction occurs with
  | here => exact id
  | list mem _ ih =>
      intro plain
      rw [Shape.isPlain, arePlain_iff] at plain
      exact ih (plain _ mem)
  | dict mem _ ih =>
      intro plain
      rw [Shape.isPlain, entriesArePlain_iff] at plain
      exact ih (plain _ mem)

def describeEntry (entry : Value × Shape) : String :=
  "(" ++ entry.1.describe ++ ", " ++ entry.2.describe ++ ")"

theorem describeItems_eq_map (items : List Shape) :
    describeItems items = items.map describe := by
  induction items with
  | nil => rfl
  | cons item rest ih => simp [describeItems, ih]

theorem describeEntries_eq_map (entries : List (Value × Shape)) :
    describeEntries entries = entries.map describeEntry := by
  induction entries with
  | nil => rfl
  | cons entry rest ih => simp [describeEntries, describeEntry, ih]

theorem open_describe (shape : Shape) : Open shape.describe.toList := by
  cases shape <;> simp [Open, describe, applied, isMark]

theorem open_describeEntry (entry : Value × Shape) : Open (describeEntry entry).toList := by
  simp [Open, describeEntry, isMark]

theorem unambiguous_describeEntry {a b : Value × Shape}
    (part : Unambiguous (fun shape : Shape => shape.describe.toList) asShown a.2 b.2) :
    Unambiguous (fun entry => (describeEntry entry).toList)
      (Prod.map Value.asShown asShown) a b := by
  intro rest others _ _ same
  simp only [describeEntry, String.toList_append, List.append_assoc,
    List.append_cancel_left_eq] at same
  obtain ⟨keys, same⟩ := Value.unambiguous_describe a.1 b.1 _ _
    (by simp [isMark]) (by simp [isMark]) same
  simp only [List.append_cancel_left_eq] at same
  obtain ⟨shapes, ends⟩ := part _ _ (by simp [isMark]) (by simp [isMark]) same
  exact ⟨Prod.ext keys shapes, List.append_cancel_left ends⟩

theorem unambiguous_describe {a : Shape} (plain : a.isPlain = true) (b : Shape) :
    Unambiguous (fun shape : Shape => shape.describe.toList) asShown a b := by
  induction a generalizing b with
  | value constant =>
      intro rest others _ _ same
      cases b with
      | value other =>
          exact applied_append_cancel Shape.value (Value.unambiguous_describe constant other) same
      | _ => simp [describe, applied] at same
  | present =>
      intro rest others _ _ same
      cases b with
      | present => exact ⟨rfl, List.append_cancel_left same⟩
      | _ => simp [describe, applied] at same
  | schema type =>
      intro rest others _ _ same
      cases b with
      | schema other =>
          exact applied_append_cancel Shape.schema (Schema.unambiguous_describe plain other) same
      | _ => simp [describe, applied] at same
  | generator source => cases plain
  | list items ih =>
      intro rest others _ _ same
      rw [isPlain, arePlain_iff] at plain
      cases b with
      | list items' =>
          simp only [describe, describeItems_eq_map] at same
          rw [asShown_list, asShown_list]
          refine applied_append_cancel Shape.list
            (unambiguous_bracketed (fun item _ => open_describe item) ?_) same
          exact fun a mem b _ => ih a mem (plain a mem) b
      | _ => simp [describe, applied] at same
  | dict entries ih =>
      intro rest others _ _ same
      rw [isPlain, entriesArePlain_iff] at plain
      cases b with
      | dict entries' =>
          simp only [describe, describeEntries_eq_map] at same
          rw [asShown_dict, asShown_dict]
          refine applied_append_cancel Shape.dict
            (unambiguous_bracketed (fun entry _ => open_describeEntry entry) ?_) same
          exact fun a mem b _ => unambiguous_describeEntry (ih a mem (plain a mem) b.2)
      | _ => simp [describe, applied] at same

theorem asShown_eq_of_key? {a b : Shape} {key : String} (ha : a.key? = some key)
    (hb : b.key? = some key) : a.asShown = b.asShown := by
  rw [key?_eq_some_iff] at ha hb
  obtain ⟨plain, rfl⟩ := ha
  have same : a.describe.toList ++ [] = b.describe.toList ++ [] := by rw [hb.2]
  exact (unambiguous_describe plain b [] [] marked_nil marked_nil same).1

mutual
theorem isPlain_asShown : ∀ shape : Shape, shape.asShown.isPlain = shape.isPlain
  | .value _ | .present | .generator _ => rfl
  | .schema type => type.isPlain_asShown
  | .list items => by
      rw [asShown, isPlain, isPlain, arePlain_asShown items]
  | .dict entries => by
      rw [asShown, isPlain, isPlain, entriesArePlain_asShown entries]

theorem arePlain_asShown : ∀ items : List Shape,
    arePlain (itemsAsShown items) = arePlain items
  | [] => rfl
  | item :: rest => by
      rw [itemsAsShown, arePlain, arePlain, isPlain_asShown item, arePlain_asShown rest]

theorem entriesArePlain_asShown : ∀ entries : List (Value × Shape),
    entriesArePlain (entriesAsShown entries) = entriesArePlain entries
  | [] => rfl
  | (_, shape) :: rest => by
      rw [entriesAsShown, entriesArePlain, entriesArePlain, isPlain_asShown shape,
        entriesArePlain_asShown rest]
end

mutual
theorem describe_asShown : ∀ shape : Shape, shape.asShown.describe = shape.describe
  | .present | .generator _ => rfl
  | .value constant => by
      rw [asShown, describe, describe, constant.describe_asShown]
  | .schema type => by
      rw [asShown, describe, describe, type.describe_asShown]
  | .list items => by
      rw [asShown, describe, describe, describeItems_asShown items]
  | .dict entries => by
      rw [asShown, describe, describe, describeEntries_asShown entries]

theorem describeItems_asShown : ∀ items : List Shape,
    describeItems (itemsAsShown items) = describeItems items
  | [] => rfl
  | item :: rest => by
      rw [itemsAsShown, describeItems, describeItems, describe_asShown item,
        describeItems_asShown rest]

theorem describeEntries_asShown : ∀ entries : List (Value × Shape),
    describeEntries (entriesAsShown entries) = describeEntries entries
  | [] => rfl
  | (key, shape) :: rest => by
      rw [entriesAsShown, describeEntries, describeEntries, key.describe_asShown,
        describe_asShown shape, describeEntries_asShown rest]
end

end Shape

end Containment
