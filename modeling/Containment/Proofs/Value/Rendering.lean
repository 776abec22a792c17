import Containment.Proofs.Text.Quoted
import Containment.Proofs.Value.Description
import Containment.Value.Rendering

namespace Containment.Value

open Text

/-! The text of an elementary value determines the value. -/

/-- Null, flags, integers, bytes and texts, and lists and maps of these, at any depth. -/
inductive Elementary : Value → Prop where
  | null : Elementary .null
  | bool (flag : Bool) : Elementary (.bool flag)
  | int (number : Int64) : Elementary (.int number)
  | bytes (content : List UInt8) : Elementary (.bytes content)
  | str (text : String) : Elementary (.str text)
  | list {items : List Value} (each : ∀ item ∈ items, Elementary item) :
      Elementary (.list items)
  | map {entries : Entries Value} (each : ∀ entry ∈ entries, Elementary entry.2) :
      Elementary (.map entries)

theorem renderEntries_eq_entryText (entries : List (String × Value)) :
    renderEntries entries = entries.map (entryText quoted render) :=
  renderEntries_eq_map entries

theorem unambiguous_renderBool (flag other : Bool) :
    Unambiguous (fun flag => (renderBool flag).toList) id flag other := by
  apply unambiguous_of_clear
  · intro flag
    cases flag <;> simp [renderBool, isMark]
  · intro flag other same
    cases flag <;> cases other <;> simp [renderBool] at same ⊢

/-- The type whose values, of the elementary ones, are shown with this character first. -/
def typeOpenedBy : Char → String
  | 'N' => "NoneType"
  | 'T' => "bool"
  | 'F' => "bool"
  | 'b' => "bytes"
  | '\'' => "str"
  | '"' => "str"
  | '[' => "list"
  | '\x7b' => "dict"
  | _ => "int"

theorem typeOpenedBy_of_isDigit {c : Char} (digit : c.isDigit = true) :
    typeOpenedBy c = "int" := by
  unfold typeOpenedBy
  split
  case h_9 => rfl
  all_goals cases digit

variable {value other : Value}

namespace Elementary

theorem opening (elementary : value.Elementary) :
    ∃ c, value.render.toList.head? = some c ∧ isMark c = false ∧
      typeOpenedBy c = value.typeName := by
  cases elementary with
  | null => exact ⟨'N', rfl, rfl, rfl⟩
  | bool flag => cases flag <;> exact ⟨_, rfl, rfl, rfl⟩
  | int number =>
      rw [render, Int.toString_eq_repr, Int.repr_eq_if]
      split
      case isTrue =>
        obtain ⟨c, rest, shown, digit⟩ := toDigits_eq_cons number.toInt.toNat
        rw [Nat.toList_repr, shown]
        exact ⟨c, rfl, isMark_of_isDigit digit, typeOpenedBy_of_isDigit digit⟩
      case isFalse => exact ⟨'-', by simp, rfl, rfl⟩
  | bytes content =>
      rw [render, toList_quotedBytes]
      exact ⟨'b', rfl, rfl, rfl⟩
  | str text =>
      rw [render, toList_quoted, quotedChars]
      rcases quoteOf_cases text.toList with quote | quote <;> rw [quote] <;>
        exact ⟨_, rfl, rfl, rfl⟩
  | list => exact ⟨'[', by simp [render, bracketed], rfl, rfl⟩
  | map => exact ⟨'\x7b', by simp [render, braced], rfl, rfl⟩

theorem opened (elementary : value.Elementary) : Open value.render.toList := by
  obtain ⟨c, first, unmarked, -⟩ := elementary.opening
  obtain ⟨rest, shown⟩ := List.head?_eq_some_iff.mp first
  exact ⟨c, rest, shown, unmarked⟩

/-- The first character already tells the type. -/
theorem typeName_eq (elementary : value.Elementary) (elementary' : other.Elementary)
    {rest others : List Char}
    (same : value.render.toList ++ rest = other.render.toList ++ others) :
    value.typeName = other.typeName := by
  obtain ⟨c, first, -, type⟩ := elementary.opening
  obtain ⟨d, first', -, type'⟩ := elementary'.opening
  have heads := congrArg List.head? same
  rw [List.head?_append, List.head?_append, first, first', Option.some_or, Option.some_or,
    Option.some.injEq] at heads
  rw [← type, ← type', heads]

theorem unambiguous_render (elementary : value.Elementary) (elementary' : other.Elementary) :
    Unambiguous (fun value : Value => value.render.toList) id value other := by
  induction elementary generalizing other with
  | null =>
      intro rest others _ _ same
      have types := typeName_eq .null elementary' same
      cases elementary' with
      | null => exact ⟨rfl, List.append_cancel_left same⟩
      | _ => simp [typeName] at types
  | bool flag =>
      intro rest others marked marked' same
      have types := typeName_eq (.bool flag) elementary' same
      cases elementary' with
      | bool flag' =>
          obtain ⟨rfl, ends⟩ := unambiguous_renderBool flag flag' rest others marked marked' same
          exact ⟨rfl, ends⟩
      | _ => simp [typeName] at types
  | int number =>
      intro rest others marked marked' same
      have types := typeName_eq (.int number) elementary' same
      cases elementary' with
      | int number' =>
          obtain ⟨rfl, ends⟩ := unambiguous_toInt number number' rest others marked marked' same
          exact ⟨rfl, ends⟩
      | _ => simp [typeName] at types
  | bytes content =>
      intro rest others _ _ same
      have types := typeName_eq (.bytes content) elementary' same
      cases elementary' with
      | bytes content' =>
          obtain ⟨rfl, ends⟩ := quotedBytes_delimited same
          exact ⟨rfl, ends⟩
      | _ => simp [typeName] at types
  | str text =>
      intro rest others _ _ same
      have types := typeName_eq (.str text) elementary' same
      cases elementary' with
      | str text' =>
          obtain ⟨rfl, ends⟩ := quoted_delimited same
          exact ⟨rfl, ends⟩
      | _ => simp [typeName] at types
  | list each ih =>
      intro rest others marked marked' same
      have types := typeName_eq (.list each) elementary' same
      cases elementary' with
      | list each' =>
          simp only [render, renderItems_eq_map] at same
          have parts := fun a mem b mem' => ih a mem (each' b mem')
          have opened := List.forall_mem_append.mpr
            ⟨fun a mem => (each a mem).opened, fun b mem => (each' b mem).opened⟩
          obtain ⟨items, ends⟩ := unambiguous_bracketed opened parts _ _ marked marked' same
          rw [List.map_id, List.map_id] at items
          exact ⟨congrArg Value.list items, ends⟩
      | _ => simp [typeName] at types
  | map each ih =>
      intro rest others _ _ same
      have types := typeName_eq (.map each) elementary' same
      cases elementary' with
      | map each' =>
          simp only [render, renderEntries_eq_entryText] at same
          have parts := fun a mem b mem' =>
            unambiguous_entryText quoted_delimited (ih a mem (each' b mem'))
          obtain ⟨entries, ends⟩ := braced_append_cancel
            (fun entry _ => open_entryText open_quoted render entry) parts same
          rw [Prod.map_id, List.map_id, List.map_id] at entries
          exact ⟨congrArg Value.map entries, ends⟩
      | _ => simp [typeName] at types

end Elementary

/-- Two elementary values have one text only if they are the same, the order of names
included. -/
theorem render_eq_iff_of_elementary (elementary : value.Elementary)
    (elementary' : other.Elementary) : value.render = other.render ↔ value = other := by
  refine ⟨fun same => ?_, congrArg render⟩
  have texts : value.render.toList ++ [] = other.render.toList ++ [] := by rw [same]
  exact (elementary.unambiguous_render elementary' [] [] marked_nil marked_nil texts).1

/-- A text that holds the end of an item and the start of the next one, and two items. -/
theorem render_eq_iff_of_elementary_separator :
    let one : Value := .map [("key", .list [.str "it', 'is"])]
    let two : Value := .map [("key", .list [.str "it", .str "is"])]
    one.Elementary ∧ two.Elementary ∧ (one.render = two.render ↔ one = two) ∧ one ≠ two := by
  intro one two
  have elementary : one.Elementary :=
    .map (List.forall_mem_singleton.mpr (.list (List.forall_mem_singleton.mpr (.str _))))
  have elementary' : two.Elementary :=
    .map (List.forall_mem_singleton.mpr
      (.list (List.forall_mem_cons.mpr ⟨.str _, List.forall_mem_singleton.mpr (.str _)⟩)))
  exact ⟨elementary, elementary', render_eq_iff_of_elementary elementary elementary', by decide⟩

end Containment.Value
