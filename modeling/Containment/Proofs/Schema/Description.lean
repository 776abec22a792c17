import Containment.Proofs.Induction
import Containment.Proofs.Schema.Occurrence
import Containment.Proofs.Schema.Shown
import Containment.Proofs.Value.Description

namespace Containment

open Text

/-! Without checks, the description of a schema tells what the schema is shown as, and nothing
else. -/

theorem Literal.toValue_injective {a b : Literal} (same : a.toValue = b.toValue) : a = b := by
  cases a <;> cases b <;> simp_all [toValue]

theorem Literal.unambiguous_describe (a b : Literal) :
    Unambiguous (fun literal : Literal => literal.describe.toList) asShown a b := by
  intro rest others marked marked' same
  obtain ⟨values, ends⟩ :=
    Value.unambiguous_describe a.toValue b.toValue rest others marked marked' same
  rw [← toValue_asShown, ← toValue_asShown] at values
  exact ⟨toValue_injective values, ends⟩

theorem Literal.describe_asShown (literal : Literal) :
    literal.asShown.describe = literal.describe := by
  rw [describe, toValue_asShown, Value.describe_asShown, describe]

theorem EnumType.unambiguous_describe (a b : EnumType) :
    Unambiguous (fun type : EnumType => type.describe.toList) asShown a b := by
  intro rest others _ _ same
  simp only [describe, Value.describeEntries_eq_map, record, join, List.map_cons, List.map_nil,
    String.toList_append, List.append_assoc, List.append_cancel_left_eq] at same
  obtain ⟨names, same⟩ := described_delimited same
  simp only [List.append_cancel_left_eq] at same
  obtain ⟨members, ends⟩ := braced_append_cancel
    (fun member _ => open_entryText open_described Value.describe member)
    (fun a _ b _ => unambiguous_entryText described_delimited
      (Value.unambiguous_describe a.2 b.2)) same
  exact ⟨by rw [asShown, asShown, names, members], List.append_cancel_left ends⟩

theorem EnumType.describe_asShown (type : EnumType) :
    type.asShown.describe = type.describe := by
  rw [describe, asShown, ← Value.entriesAsShown_eq_map, Value.describeEntries_asShown, describe]

theorem Scalar.unambiguous_describe (a b : Scalar) :
    Unambiguous (fun type : Scalar => type.describe.toList) id a b := by
  apply unambiguous_of_clear
  · intro type
    cases type <;> simp [describe, isMark]
  · intro a b same
    cases a <;> cases b <;> simp [describe] at same ⊢

namespace Text

theorem unambiguous_describeOption {α β : Type} {describe : α → String} {told : α → β}
    {a b : Option α} (part : ∀ a b, Unambiguous (fun a => (describe a).toList) told a b) :
    Unambiguous (fun a : Option α => (describeOption (a.map describe)).toList)
      (Option.map told) a b := by
  intro rest others _ _ same
  cases a with
  | none =>
      cases b with
      | none => exact ⟨rfl, List.append_cancel_left same⟩
      | some b => simp [describeOption, applied] at same
  | some a =>
      cases b with
      | none => simp [describeOption, applied] at same
      | some b =>
          exact applied_append_cancel some (part a b) same

end Text

namespace Schema

def describeSlot (slot : Slot Schema) : String :=
  record "FieldDef" [("type_expr", slot.schema.describe),
    ("info", record "FieldInfo" [
      ("default", describeOption (slot.default?.map Value.describe)),
      ("alias", describeOption (slot.alias?.map described))])]

theorem describeAll_eq_map (schemas : List Schema) :
    describeAll schemas = schemas.map describe := by
  induction schemas with
  | nil => rfl
  | cons schema rest ih => simp [describeAll, ih]

theorem describeFields_eq_map (fields : List (String × Slot Schema)) :
    describeFields fields = fields.map (entryText described describeSlot) := by
  induction fields with
  | nil => rfl
  | cons field rest ih => simp [describeFields, entryText, describeSlot, ih]

theorem open_describe (schema : Schema) : Open schema.describe.toList := by
  cases schema with
  | scalar type => cases type <;> simp [Open, describe, Scalar.describe, isMark]
  | _ => simp [Open, describe, applied, isMark]

/-- The constructor that a description names by this word. -/
def constructorOf (word : String) : Nat :=
  match word with
  | "Any" => 0
  | "Enum" => 2
  | "AnyEnum" => 3
  | "Instance" => 4
  | "Literal" => 5
  | "List" => 6
  | "Tuple" => 7
  | "Dict" => 8
  | "Optional" => 9
  | "Union" => 10
  | "Annotated" => 11
  | "Model" => 12
  | _ => 1

theorem exists_headed (schema : Schema) :
    ∃ word, Headed word schema.describe ∧ constructorOf word = schema.ctorIdx := by
  cases schema with
  | any | anyMember => exact ⟨_, .alone rfl, rfl⟩
  | scalar type => cases type <;> exact ⟨_, .alone rfl, rfl⟩
  | _ => exact ⟨_, .applied rfl _, rfl⟩

theorem ctorIdx_eq {a b : Schema} {rest others : List Char} (marked : Marked rest)
    (marked' : Marked others) (same : a.describe.toList ++ rest = b.describe.toList ++ others) :
    a.ctorIdx = b.ctorIdx := by
  obtain ⟨word, headed, constructed⟩ := exists_headed a
  obtain ⟨other, headed', constructed'⟩ := exists_headed b
  rw [← constructed, ← constructed', headed.word_eq headed' marked marked' same]

theorem unambiguous_describeSlot {a b : Slot Schema}
    (part : Unambiguous (fun schema : Schema => schema.describe.toList) asShown
      a.schema b.schema) :
    Unambiguous (fun slot => (describeSlot slot).toList) slotAsShown a b := by
  intro rest others _ _ same
  simp only [describeSlot, record, join, List.map_cons, List.map_nil, String.toList_append,
    List.append_assoc, List.append_cancel_left_eq] at same
  obtain ⟨schemas, same⟩ := part _ _ (by simp [isMark]) (by simp [isMark]) same
  simp only [List.append_cancel_left_eq] at same
  obtain ⟨defaults, same⟩ := unambiguous_describeOption Value.unambiguous_describe _ _
    (by simp [isMark]) (by simp [isMark]) same
  simp only [List.append_cancel_left_eq] at same
  obtain ⟨aliases, ends⟩ := unambiguous_describeOption described_delimited.unambiguous _ _
    (by simp [isMark]) (by simp [isMark]) same
  rw [Option.map_id, id, id] at aliases
  exact ⟨by rw [slotAsShown, slotAsShown, schemas, defaults, aliases], by simpa using ends⟩

theorem unambiguous_describe {a : Schema} (plain : a.isPlain = true) (b : Schema) :
    Unambiguous (fun schema : Schema => schema.describe.toList) asShown a b := by
  induction a generalizing b with
  | any =>
      intro rest others marked marked' same
      cases b with
      | any => exact ⟨rfl, List.append_cancel_left same⟩
      | _ => cases ctorIdx_eq marked marked' same
  | anyMember =>
      intro rest others marked marked' same
      cases b with
      | anyMember => exact ⟨rfl, List.append_cancel_left same⟩
      | _ => cases ctorIdx_eq marked marked' same
  | scalar type =>
      intro rest others marked marked' same
      cases b with
      | scalar other =>
          obtain ⟨rfl, ends⟩ :=
            Scalar.unambiguous_describe type other rest others marked marked' same
          exact ⟨rfl, ends⟩
      | _ => cases ctorIdx_eq marked marked' same
  | enumeration type =>
      intro rest others marked marked' same
      cases b with
      | enumeration other =>
          exact applied_append_cancel Schema.enumeration (EnumType.unambiguous_describe type other) same
      | _ => cases ctorIdx_eq marked marked' same
  | instanceOf typeName =>
      intro rest others marked marked' same
      cases b with
      | instanceOf other =>
          exact applied_append_cancel Schema.instanceOf (described_delimited.unambiguous typeName other) same
      | _ => cases ctorIdx_eq marked marked' same
  | literal alternatives =>
      intro rest others marked marked' same
      cases b with
      | literal alternatives' =>
          simp only [describe] at same
          refine applied_append_cancel Schema.literal (unambiguous_bracketed ?_ ?_) same
          · exact fun literal _ => Value.open_describe literal.toValue
          · exact fun a _ b _ => Literal.unambiguous_describe a b
      | _ => cases ctorIdx_eq marked marked' same
  | list item ih =>
      intro rest others marked marked' same
      cases b with
      | list item' =>
          exact applied_append_cancel Schema.list (ih (by simpa [isPlain] using plain) item') same
      | _ => cases ctorIdx_eq marked marked' same
  | dict item ih =>
      intro rest others marked marked' same
      cases b with
      | dict item' =>
          exact applied_append_cancel Schema.dict (ih (by simpa [isPlain] using plain) item') same
      | _ => cases ctorIdx_eq marked marked' same
  | optional inner ih =>
      intro rest others marked marked' same
      cases b with
      | optional inner' =>
          exact applied_append_cancel Schema.optional (ih (by simpa [isPlain] using plain) inner') same
      | _ => cases ctorIdx_eq marked marked' same
  | tuple positions ih =>
      intro rest others marked marked' same
      rw [isPlain, arePlain_iff] at plain
      cases b with
      | tuple positions' =>
          simp only [describe, describeAll_eq_map] at same
          rw [asShown_tuple, asShown_tuple]
          refine applied_append_cancel Schema.tuple
            (unambiguous_bracketed (fun schema _ => open_describe schema) ?_) same
          exact fun a mem b _ => ih a mem (plain a mem) b
      | _ => cases ctorIdx_eq marked marked' same
  | union members ih =>
      intro rest others marked marked' same
      rw [isPlain, arePlain_iff] at plain
      cases b with
      | union members' =>
          simp only [describe, describeAll_eq_map] at same
          rw [asShown_union, asShown_union]
          refine applied_append_cancel Schema.union
            (unambiguous_bracketed (fun schema _ => open_describe schema) ?_) same
          exact fun a mem b _ => ih a mem (plain a mem) b
      | _ => cases ctorIdx_eq marked marked' same
  | annotated inner checks _ =>
      simp [isPlain] at plain
  | model name fields ih =>
      intro rest others marked marked' same
      rw [isPlain, fieldsArePlain_iff] at plain
      cases b with
      | model name' fields' =>
          simp only [describe, describeFields_eq_map, applied, record, join, List.map_cons,
            List.map_nil, String.toList_append, List.append_assoc,
            List.append_cancel_left_eq] at same
          obtain ⟨rfl, same⟩ := described_delimited same
          simp only [List.append_cancel_left_eq] at same
          obtain ⟨parts, ends⟩ := braced_append_cancel
            (fun field _ => open_entryText open_described describeSlot field)
            (fun a mem b _ => unambiguous_entryText described_delimited
              (unambiguous_describeSlot (ih a mem (plain a mem) b.2.schema))) same
          exact ⟨by rw [asShown_model, parts, asShown_model], by simpa using ends⟩
      | _ => cases ctorIdx_eq marked marked' same

mutual
theorem describe_asShown : ∀ schema : Schema, schema.asShown.describe = schema.describe
  | .any | .scalar _ | .anyMember | .instanceOf _ => rfl
  | .enumeration type => by
      rw [asShown, describe, describe, type.describe_asShown]
  | .literal alternatives => by
      rw [asShown, describe, describe, List.map_map]
      have texts := List.map_congr_left fun literal (_ : literal ∈ alternatives) =>
        literal.describe_asShown
      exact congrArg (fun texts => applied "Literal" (bracketed texts)) texts
  | .list item | .dict item | .optional item => by
      rw [asShown, describe, describe, describe_asShown item]
  | .tuple schemas | .union schemas => by
      rw [asShown, describe, describe, describeAll_asShown schemas]
  | .annotated inner _ => by
      rw [asShown, describe, describe, describe_asShown inner]
  | .model _ fields => by
      rw [asShown, describe, describe, describeFields_asShown fields]

theorem describeAll_asShown : ∀ schemas : List Schema,
    describeAll (allAsShown schemas) = describeAll schemas
  | [] => rfl
  | schema :: rest => by
      rw [allAsShown, describeAll, describeAll, describe_asShown schema,
        describeAll_asShown rest]

theorem describeFields_asShown : ∀ fields : List (String × Slot Schema),
    describeFields (fieldsAsShown fields) = describeFields fields
  | [] => rfl
  | (_, ⟨schema, default?, _⟩) :: rest => by
      have default : (default?.map Value.asShown).map Value.describe =
          default?.map Value.describe := by
        rw [Option.map_map]
        exact Option.map_congr fun value _ => value.describe_asShown
      rw [fieldsAsShown, describeFields, describeFields, describe_asShown schema, default,
        describeFields_asShown rest]
end

end Schema

end Containment
