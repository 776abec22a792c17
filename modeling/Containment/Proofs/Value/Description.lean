import Containment.Proofs.Number.Description
import Containment.Proofs.Text.Described
import Containment.Proofs.Value.Shown
import Std.Data.String.ToInt

namespace Containment.Value

open Text

/-! The description of a value tells what the value is shown as, and nothing else, also in the
middle of a text. -/

theorem describeItems_eq_map (items : List Value) :
    describeItems items = items.map describe := by
  induction items with
  | nil => rfl
  | cons item rest ih => simp [describeItems, ih]

theorem describeEntries_eq_map (entries : List (String × Value)) :
    describeEntries entries = entries.map (entryText described describe) := by
  induction entries with
  | nil => rfl
  | cons entry rest ih => simp [describeEntries, entryText, ih]

theorem open_describe (value : Value) : Open value.describe.toList := by
  cases value <;> simp [Open, describe, applied, isMark]

/-- The constructor that a description names by this word. -/
def constructorOf (word : String) : Nat :=
  match word with
  | "Bool" => 1
  | "Int" => 2
  | "Float" => 3
  | "Bytes" => 4
  | "Str" => 5
  | "Enum" => 6
  | "Date" => 7
  | "Time" => 8
  | "DateTime" => 9
  | "List" => 10
  | "Map" => 11
  | "Object" => 12
  | _ => 0

theorem exists_headed (value : Value) :
    ∃ word, Headed word value.describe ∧ constructorOf word = value.ctorIdx := by
  cases value with
  | null => exact ⟨"Null", .alone rfl, rfl⟩
  | _ => exact ⟨_, .applied rfl _, rfl⟩

theorem ctorIdx_eq {a b : Value} {rest others : List Char} (marked : Marked rest)
    (marked' : Marked others) (same : a.describe.toList ++ rest = b.describe.toList ++ others) :
    a.ctorIdx = b.ctorIdx := by
  obtain ⟨word, headed, constructed⟩ := exists_headed a
  obtain ⟨other, headed', constructed'⟩ := exists_headed b
  rw [← constructed, ← constructed', headed.word_eq headed' marked marked' same]

theorem unambiguous_describeBool (flag other : Bool) :
    Unambiguous (fun flag => (describeBool flag).toList) id flag other := by
  apply unambiguous_of_clear
  · intro flag
    cases flag <;> simp [describeBool, isMark]
  · intro flag other same
    cases flag <;> cases other <;> simp [describeBool] at same ⊢

theorem unambiguous_toInt (number other : Int64) :
    Unambiguous (fun number : Int64 => (toString number.toInt).toList) id number other := by
  apply unambiguous_of_clear
  · exact fun number => clear_repr number.toInt
  · intro number other same
    rw [Int.toString_eq_repr, Int.toString_eq_repr] at same
    exact Int64.toInt_inj.mp (Int.repr_injective (String.toList_inj.mp same))

theorem unambiguous_byte (byte other : UInt8) :
    Unambiguous (fun byte : UInt8 => (toString byte.toNat).toList) id byte other := by
  have shown : ∀ byte : UInt8, (toString byte.toNat).toList = Nat.toDigits 10 byte.toNat := by
    intro byte
    simp
  apply unambiguous_of_clear
  · intro byte
    rw [shown]
    exact clear_toDigits (by decide) (by decide) byte.toNat
  · intro byte other same
    rw [shown, shown] at same
    exact UInt8.toNat_inj.mp (toDigits_injective (by decide) (by decide) same)

theorem unambiguous_bytes (content other : List UInt8) :
    Unambiguous (fun content => (bracketed (content.map fun b => toString b.toNat)).toList)
      id content other := by
  have opened : ∀ byte ∈ content ++ other, Open (toString byte.toNat).toList := by
    intro byte _
    simpa using open_toDigits byte.toNat
  simpa using unambiguous_bracketed opened fun a _ b _ => unambiguous_byte a b

theorem unambiguous_date (day other : Date) :
    Unambiguous (fun day : Date => day.render.toList) id day other := by
  apply unambiguous_of_clear
  · intro day
    simpa [Date.render] using Date.clear_renderChars day
  · intro day other same
    exact Date.renderChars_injective (by simpa [Date.render] using same)

theorem unambiguous_time (clock other : Time) :
    Unambiguous (fun clock : Time => clock.render.toList) Time.asShown clock other := by
  apply unambiguous_of_clear
  · intro clock
    simpa [Time.render] using Time.clear_renderChars clock
  · intro clock other same
    exact Time.asShown_eq_of_renderChars (by simpa [Time.render] using same)

theorem unambiguous_datetime (moment other : DateTime) :
    Unambiguous (fun moment : DateTime => (moment.renderWith 'T').toList) DateTime.asShown
      moment other :=
  unambiguous_of_clear DateTime.clear_renderWith fun _ _ same =>
    DateTime.asShown_eq_of_renderWith (String.toList_inj.mp same)

mutual
theorem unambiguous_describe :
    ∀ a b : Value, Unambiguous (fun value : Value => value.describe.toList) asShown a b
  | .null, b => by
      intro rest others marked marked' same
      cases b with
      | null => exact ⟨rfl, List.append_cancel_left same⟩
      | _ => cases ctorIdx_eq marked marked' same
  | .bool flag, b => by
      intro rest others marked marked' same
      cases b with
      | bool other =>
          exact applied_append_cancel Value.bool (unambiguous_describeBool flag other) same
      | _ => cases ctorIdx_eq marked marked' same
  | .int number, b => by
      intro rest others marked marked' same
      cases b with
      | int other =>
          exact applied_append_cancel Value.int (unambiguous_toInt number other) same
      | _ => cases ctorIdx_eq marked marked' same
  | .float number, b => by
      intro rest others marked marked' same
      cases b with
      | float other =>
          exact applied_append_cancel Value.float (Binary64.unambiguous_describe number other) same
      | _ => cases ctorIdx_eq marked marked' same
  | .bytes content, b => by
      intro rest others marked marked' same
      cases b with
      | bytes other =>
          exact applied_append_cancel Value.bytes (unambiguous_bytes content other) same
      | _ => cases ctorIdx_eq marked marked' same
  | .str text, b => by
      intro rest others marked marked' same
      cases b with
      | str other =>
          exact applied_append_cancel Value.str (described_delimited.unambiguous text other) same
      | _ => cases ctorIdx_eq marked marked' same
  | .date day, b => by
      intro rest others marked marked' same
      cases b with
      | date other =>
          exact applied_append_cancel Value.date (unambiguous_date day other) same
      | _ => cases ctorIdx_eq marked marked' same
  | .time clock, b => by
      intro rest others marked marked' same
      cases b with
      | time other =>
          exact applied_append_cancel Value.time (unambiguous_time clock other) same
      | _ => cases ctorIdx_eq marked marked' same
  | .datetime moment, b => by
      intro rest others marked marked' same
      cases b with
      | datetime other =>
          exact applied_append_cancel Value.datetime (unambiguous_datetime moment other) same
      | _ => cases ctorIdx_eq marked marked' same
  | .member owner name payload, b => by
      intro rest others marked marked' same
      cases b with
      | member owner' name' payload' =>
          simp only [describe, applied, record, join, List.map_cons, List.map_nil,
            String.toList_append, List.append_assoc, List.append_cancel_left_eq] at same
          obtain ⟨rfl, same⟩ := described_delimited same
          simp only [List.append_cancel_left_eq] at same
          obtain ⟨rfl, same⟩ := described_delimited same
          simp only [List.append_cancel_left_eq] at same
          obtain ⟨payloads, ends⟩ := unambiguous_describe payload payload' _ _
            (by simp [isMark]) (by simp [isMark]) same
          exact ⟨by rw [asShown, payloads, asShown], by simpa using ends⟩
      | _ => cases ctorIdx_eq marked marked' same
  | .list items, b => by
      intro rest others marked marked' same
      cases b with
      | list items' =>
          simp only [describe, describeItems_eq_map] at same
          rw [asShown_list, asShown_list]
          refine applied_append_cancel Value.list
            (unambiguous_bracketed (fun item _ => open_describe item) ?_) same
          exact fun a mem b _ => unambiguous_items items a mem b
      | _ => cases ctorIdx_eq marked marked' same
  | .map entries, b => by
      intro rest others marked marked' same
      cases b with
      | map entries' =>
          simp only [describe, describeEntries_eq_map, applied, String.toList_append,
            List.append_assoc, List.append_cancel_left_eq] at same
          obtain ⟨parts, ends⟩ := braced_append_cancel
            (fun entry _ => open_entryText open_described describe entry)
            (fun a mem b _ => unambiguous_entryText described_delimited
              (unambiguous_entries entries a mem b.2)) same
          exact ⟨by rw [asShown_map, parts, asShown_map], List.append_cancel_left ends⟩
      | _ => cases ctorIdx_eq marked marked' same
  | .object typeName attributes, b => by
      intro rest others marked marked' same
      cases b with
      | object typeName' attributes' =>
          simp only [describe, describeEntries_eq_map, applied, record, join, List.map_cons,
            List.map_nil, String.toList_append, List.append_assoc,
            List.append_cancel_left_eq] at same
          obtain ⟨rfl, same⟩ := described_delimited same
          simp only [List.append_cancel_left_eq] at same
          obtain ⟨parts, ends⟩ := braced_append_cancel
            (fun entry _ => open_entryText open_described describe entry)
            (fun a mem b _ => unambiguous_entryText described_delimited
              (unambiguous_entries attributes a mem b.2)) same
          exact ⟨by rw [asShown_object, parts, asShown_object], by simpa using ends⟩
      | _ => cases ctorIdx_eq marked marked' same

theorem unambiguous_items : ∀ items : List Value, ∀ a ∈ items, ∀ b : Value,
    Unambiguous (fun value : Value => value.describe.toList) asShown a b
  | [], _, mem, _ => nomatch mem
  | item :: rest, a, mem, b => by
      rcases List.mem_cons.mp mem with same | mem
      · rw [same]
        exact unambiguous_describe item b
      · exact unambiguous_items rest a mem b

theorem unambiguous_entries : ∀ entries : List (String × Value), ∀ a ∈ entries, ∀ b : Value,
    Unambiguous (fun value : Value => value.describe.toList) asShown a.2 b
  | [], _, mem, _ => nomatch mem
  | (name, value) :: rest, a, mem, b => by
      rcases List.mem_cons.mp mem with same | mem
      · rw [same]
        exact unambiguous_describe value b
      · exact unambiguous_entries rest a mem b
end

mutual
theorem describe_asShown : ∀ value : Value, value.asShown.describe = value.describe
  | .null | .bool _ | .int _ | .float _ | .bytes _ | .str _ | .date _ => rfl
  | .time clock => by
      rw [asShown, describe, describe, Time.render, Time.renderChars_asShown, Time.render]
  | .datetime moment => by
      rw [asShown, describe, describe, DateTime.renderWith_asShown]
  | .member _ _ payload => by
      rw [asShown, describe, describe, describe_asShown payload]
  | .list items => by
      rw [asShown, describe, describe, describeItems_asShown items]
  | .map entries => by
      rw [asShown, describe, describe, describeEntries_asShown entries]
  | .object _ attributes => by
      rw [asShown, describe, describe, describeEntries_asShown attributes]

theorem describeItems_asShown : ∀ items : List Value,
    describeItems (itemsAsShown items) = describeItems items
  | [] => rfl
  | item :: rest => by
      rw [itemsAsShown, describeItems, describeItems, describe_asShown item,
        describeItems_asShown rest]

theorem describeEntries_asShown : ∀ entries : List (String × Value),
    describeEntries (entriesAsShown entries) = describeEntries entries
  | [] => rfl
  | (name, value) :: rest => by
      rw [entriesAsShown, describeEntries, describeEntries, describe_asShown value,
        describeEntries_asShown rest]
end

end Containment.Value
