import Containment.Proofs.Related
import Containment.Proofs.Schema.Occurrence
import Containment.Proofs.Schema.Textual
import Containment.Proofs.Schema.Validation

namespace Containment

/-! Text and its bytes in UTF-8 are read alike: bytes anywhere in a value can be replaced by the
text that they encode, and a schema that goes by types tells the two values apart only in what it
says it was given. -/

/-- Mismatches that differ at most in the value that was found. -/
structure Mismatch.Alike (mismatch other : Mismatch) : Prop where
  location : mismatch.location = other.location
  kind : mismatch.kind = other.kind
  message : mismatch.message = other.message
  expected? : mismatch.expected? = other.expected?

namespace Report

variable {α β : Type} {outcome other : Except Report α}

/-- The same result, or mismatches that are alike in turn. -/
inductive Alike : Except Report α → Except Report α → Prop where
  | ok (result : α) : Alike (.ok result) (.ok result)
  | error {report other : Report}
      (each : List.Forall₂ Mismatch.Alike report.toList other.toList) :
      Alike (.error report) (.error other)

namespace Alike

theorem refl (outcome : Except Report α) : Alike outcome outcome := by
  cases outcome with
  | ok result => exact .ok result
  | error report => exact .error (List.forall₂_same.mpr fun _ _ => ⟨rfl, rfl, rfl, rfl⟩)

theorem report (fault : Fault) (value value' : Value) (location : Location) :
    Alike (.error (fault.report value location) : Except Report α)
      (.error (fault.report value' location)) :=
  .error (.cons ⟨rfl, rfl, rfl, rfl⟩ .nil)

theorem map (make : α → β) (alike : Alike outcome other) :
    Alike (outcome.map make) (other.map make) := by
  cases alike with
  | ok result => exact .ok (make result)
  | error each => exact .error each

theorem gather {outcomes others : List (Except Report α)}
    (each : List.Forall₂ Alike outcomes others) :
    Alike (Report.gather outcomes) (Report.gather others) := by
  induction each with
  | nil => exact .ok []
  | @cons _ _ rest others head _ ih =>
      cases head with
      | ok result =>
          rw [gather_ok_cons, gather_ok_cons]
          exact ih.map _
      | error first =>
          rw [Report.gather, Report.gather]
          generalize Report.gather rest = outcome at ih
          generalize Report.gather others = other at ih
          cases ih with
          | ok => exact .error first
          | error later => exact .error (List.rel_append first later)

end Alike

end Report

namespace Value

mutual
/-- Some of the bytes in a value are replaced by the text that they encode: the value itself, or
any bytes inside lists, maps and objects. -/
inductive Decoded : Value → Value → Prop where
  | same (value : Value) : Decoded value value
  | text {content : List UInt8} {text : String} (encoded : Text.ofUTF8? content = some text) :
      Decoded (.bytes content) (.str text)
  | list {items others : List Value} (each : List.Forall₂ Decoded items others) :
      Decoded (.list items) (.list others)
  | map {entries others : List (String × Value)}
      (each : List.Forall₂ DecodedEntry entries others) : Decoded (.map entries) (.map others)
  | object {typeName : String} {attributes others : List (String × Value)}
      (each : List.Forall₂ DecodedEntry attributes others) :
      Decoded (.object typeName attributes) (.object typeName others)

/-- Names are kept. -/
inductive DecodedEntry : String × Value → String × Value → Prop where
  | named (name : String) {value other : Value} (part : Decoded value other) :
      DecodedEntry (name, value) (name, other)
end

namespace Decoded

variable {value other : Value}

theorem isNull_eq (decoded : value.Decoded other) : value.isNull = other.isNull := by
  cases decoded <;> rfl

theorem lookup? {entries others : Entries Value} (each : List.Forall₂ DecodedEntry entries others)
    (name : String) :
    Option.Rel Decoded (Entries.lookup? name entries) (Entries.lookup? name others) := by
  induction each with
  | nil => exact .none
  | cons head _ ih =>
      cases head with
      | named key part =>
          rw [Entries.lookup?_cons, Entries.lookup?_cons]
          split
          · exact .some part
          · exact ih

end Decoded

end Value

/-- A type reads bytes and the text that they encode alike. -/
theorem Scalar.coerce_decoded (type : Scalar) {value other : Value}
    (decoded : value.Decoded other) : type.coerce value = type.coerce other := by
  cases decoded with
  | same => rfl
  | @text content text encoded =>
      cases reads : type.reader? with
      | some reader =>
          obtain ⟨unreadable, read⟩ := reader
          have textual : (Value.bytes content).text? = some text := encoded
          have textual' : (Value.str text).text? = some text := rfl
          rw [coerce_of_text? reads textual, coerce_of_text? reads textual']
      | none =>
          cases type with
          | null => rfl
          | bytes =>
              obtain rfl := Text.ofUTF8?_eq_some_iff.mp encoded
              rfl
          | str => simp only [coerce, toStr, encoded]
          | _ => cases reads
  | list | map | object => cases type <;> rfl

namespace Schema

open Report (Alike)

/-- A type of scalars, lists, tuples or maps, a model, or one of these or null. -/
def IsTyped : Schema → Prop
  | .scalar _ => True
  | .list _ => True
  | .tuple _ => True
  | .dict _ => True
  | .optional _ => True
  | .model _ _ => True
  | _ => False

variable {value other : Value} {location : Location}

theorem judge_alike {α : Type} (outcome : Except Fault α) (value other : Value)
    (location : Location) : Alike (judge outcome value location) (judge outcome other location) := by
  cases outcome with
  | ok result => exact .ok result
  | error fault => exact .report fault value other location

theorem surplusItems_alike {items others : List Value}
    (each : List.Forall₂ Value.Decoded items others) (limit : Nat) (location : Location) :
    List.Forall₂ Alike (surplusItems limit items location)
      (surplusItems limit others location) := by
  rw [surplusItems, surplusItems, each.length_eq]
  apply List.forall₂_map_left_iff.mpr
  apply List.forall₂_map_right_iff.mpr
  refine (List.forall₂_drop limit (forall₂_zipIdx each 0)).imp ?_
  rintro ⟨item, position⟩ ⟨other, position'⟩ ⟨rfl, -⟩
  exact .report _ _ _ _

theorem positionOutcome_alike {schema : Schema} {item? other? : Option Value}
    (rel : Option.Rel Value.Decoded item? other?) (location : Location)
    (ih : ∀ {value other : Value}, value.Decoded other → ∀ location,
      Alike (schema.validate value location) (schema.validate other location)) :
    Alike (schema.positionOutcome location item?) (schema.positionOutcome location other?) := by
  cases rel with
  | some decoded => exact ih decoded location
  | none => exact .refl _

theorem rel_fieldValue? {entries others : Entries Value}
    (each : List.Forall₂ Value.DecodedEntry entries others) (name : String)
    (alias? : Option String) :
    Option.Rel Value.Decoded (fieldValue? name alias? entries) (fieldValue? name alias? others) := by
  have named := Value.Decoded.lookup? each name
  cases alias? with
  | none => exact named
  | some key =>
      have aliased := Value.Decoded.lookup? each key
      rw [fieldValue?, fieldValue?, Option.bind_some, Option.bind_some]
      generalize Entries.lookup? key entries = found at aliased
      generalize Entries.lookup? key others = found' at aliased
      cases aliased with
      | some part => exact .some part
      | none => exact named

theorem fieldOutcome_alike {field : String × Slot Schema} {entries others : Entries Value}
    (each : List.Forall₂ Value.DecodedEntry entries others) (location : Location)
    (ih : ∀ {value other : Value}, value.Decoded other → ∀ location,
      Alike (field.2.schema.validate value location) (field.2.schema.validate other location)) :
    Alike (fieldOutcome entries location field) (fieldOutcome others location field) := by
  have rel := rel_fieldValue? each field.1 field.2.alias?
  rw [fieldOutcome, fieldOutcome]
  generalize fieldValue? field.1 field.2.alias? entries = found at rel
  generalize fieldValue? field.1 field.2.alias? others = found' at rel
  cases rel with
  | some part => exact (ih part _).map _
  | none => exact .refl _

theorem validate_alike {schema : Schema} (typed : schema.Everywhere IsTyped)
    (decoded : value.Decoded other) (location : Location) :
    Alike (schema.validate value location) (schema.validate other location) := by
  induction schema generalizing value other location with
  | scalar type =>
      rw [validate, validate, type.coerce_decoded decoded]
      exact judge_alike _ value other location
  | list item ih =>
      cases decoded with
      | same => exact .refl _
      | list each =>
          rw [validate, validate]
          refine .map _ (.gather (forall₂_mapIdx each ?_))
          intro position item other part
          exact ih (typed.child (List.mem_singleton.mpr rfl)) part _
      | text | map | object => exact .report _ _ _ _
  | tuple positions ih =>
      cases decoded with
      | same => exact .refl _
      | list each =>
          rw [validate, validate, validatePositions_eq_mapIdx, validatePositions_eq_mapIdx]
          have members : List.Forall₂ (fun schema other => schema ∈ positions ∧ other = schema)
              positions positions := List.forall₂_same.mpr fun _ mem => ⟨mem, rfl⟩
          refine .map _ (.gather (List.rel_append (forall₂_mapIdx members ?_)
            (surplusItems_alike each _ _)))
          rintro position schema _ ⟨mem, rfl⟩
          exact positionOutcome_alike (rel_getElem? each _) _ (ih _ mem (typed.child mem))
      | text | map | object => exact .report _ _ _ _
  | dict item ih =>
      cases decoded with
      | same => exact .refl _
      | map each =>
          rw [validate, validate]
          refine .map _ (.gather ?_)
          rw [List.forall₂_map_left_iff, List.forall₂_map_right_iff]
          refine each.imp ?_
          rintro _ _ ⟨name, part⟩
          exact .map _ (ih (typed.child (List.mem_singleton.mpr rfl)) part _)
      | text | list | object => exact .report _ _ _ _
  | optional inner ih =>
      rw [validate, validate, decoded.isNull_eq]
      split
      · exact .refl _
      · exact ih (typed.child (List.mem_singleton.mpr rfl)) decoded location
  | model name fields ih =>
      cases decoded with
      | same => exact .refl _
      | map each | object each =>
          rw [validate, validate, Value.fields?, Value.fields?]
          simp only [validateFields_eq_map]
          refine .map _ (.gather ?_)
          rw [List.forall₂_map_left_iff, List.forall₂_map_right_iff, List.forall₂_same]
          intro field mem
          exact fieldOutcome_alike each location
            (ih field mem (typed.child (List.mem_map_of_mem mem)))
      | text | list => exact .report _ _ _ _
  | _ => exact typed.here.elim

/-- Where bytes in a value are replaced by the text that they encode, a schema of types has the
same output for both values, or the same mismatches in the same order, but for what it says it was
given. -/
theorem text_read_like_its_bytes {schema : Schema} (typed : schema.Everywhere IsTyped)
    {value other : Value} (decoded : value.Decoded other) (location : Location) :
    (∀ result, schema.validate value location = .ok result ↔
      schema.validate other location = .ok result) ∧
    ∀ report, schema.validate value location = .error report →
      ∃ report', schema.validate other location = .error report' ∧
        List.Forall₂ Mismatch.Alike report.toList report'.toList := by
  have alike := validate_alike typed decoded location
  generalize schema.validate value location = outcome at alike
  generalize schema.validate other location = outcome' at alike
  cases alike with
  | ok result => exact ⟨fun _ => Iff.rfl, nofun⟩
  | error each =>
      refine ⟨fun _ => iff_of_false nofun nofun, ?_⟩
      rintro _ ⟨⟩
      exact ⟨_, rfl, each⟩

/-- Two of four bytes are replaced, one of them by a text that is no number. Of the others one is
wanted as it is, and one encodes no text. -/
theorem text_read_like_its_bytes_of_parcel :
    let schema : Schema := .model "Parcel" [("labels", .required (.list (.scalar .str))),
      ("seal", .required (.scalar .bytes)), ("count", .required (.scalar .int))]
    let value : Value := .map [("count", .bytes (Text.toUTF8 " 1x")), ("seal", .bytes [0x41]),
      ("labels", .list [.bytes (Text.toUTF8 "a"), .bytes [0xFF]])]
    let other : Value := .map [("count", .str " 1x"), ("seal", .bytes [0x41]),
      ("labels", .list [.str "a", .bytes [0xFF]])]
    schema.Everywhere IsTyped ∧ value.Decoded other ∧
      ∃ report report', schema.validate value [.field "at"] = .error report ∧
        schema.validate other [.field "at"] = .error report' ∧
        report.locations =
          [[.field "at", .field "labels", .index 1], [.field "at", .field "count"]] ∧
        List.Forall₂ Mismatch.Alike report.toList report'.toList := by
  intro schema value other
  have scalar (type : Scalar) : (Schema.scalar type).Everywhere IsTyped :=
    everywhere_iff.mpr ⟨trivial, fun _ mem => nomatch mem⟩
  have labels : (Schema.list (.scalar .str)).Everywhere IsTyped :=
    everywhere_iff.mpr ⟨trivial, by simp [children, scalar]⟩
  have typed : schema.Everywhere IsTyped :=
    everywhere_iff.mpr ⟨trivial, by simp [schema, children, Slot.required, scalar, labels]⟩
  have text (text : String) : (Value.bytes (Text.toUTF8 text)).Decoded (.str text) :=
    .text (Text.ofUTF8?_toUTF8 text)
  have decoded : value.Decoded other :=
    .map (.cons (.named _ (text _)) (.cons (.named _ (.same _))
      (.cons (.named _ (.list (.cons (text _) (.cons (.same _) .nil)))) .nil)))
  obtain ⟨report, failed, places⟩ : ∃ report, schema.validate value [.field "at"] = .error report ∧
      report.locations =
        [[.field "at", .field "labels", .index 1], [.field "at", .field "count"]] :=
    ⟨_, rfl, by decide⟩
  obtain ⟨report', failed', alike⟩ :=
    (text_read_like_its_bytes typed decoded [.field "at"]).2 report failed
  exact ⟨typed, decoded, report, report', failed, failed', places, alike⟩

end Schema

end Containment
