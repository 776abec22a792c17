import Containment.Json
import Mathlib.Data.List.Forall2
import Mathlib.Data.List.Nodup
import Mathlib.Data.Option.Basic

namespace Containment

/-! The export of a report tells the report: it can be read back, whatever the order of the
members of its records. -/

namespace Json

/-- Of members with one name the last counts. -/
def member? (name : String) : Json → Option Json
  | .object members => Entries.lookup? name members.reverse
  | _ => none

def text? : Json → Option String
  | .string text => some text
  | _ => none

/-- One document, but for the order of the members of its objects. -/
inductive Same : Json → Json → Prop where
  | refl (document : Json) : Same document document
  | array {items others : List Json} (each : List.Forall₂ Same items others) :
      Same (.array items) (.array others)
  | object {members others : List (String × Json)}
      (each : ∀ name, Option.Rel Same (member? name (.object members))
        (member? name (.object others))) :
      Same (.object members) (.object others)

namespace Same

theorem rel_refl (found? : Option Json) : Option.Rel Same found? found? := by
  cases found? with
  | none => exact .none
  | some document => exact .some (.refl document)

theorem of_perm {members others : List (String × Json)} (distinct : (Entries.names members).Nodup)
    (perm : members.Perm others) : Same (.object members) (.object others) := by
  refine .object fun name => ?_
  have backwards : members.reverse.Perm others.reverse :=
    members.reverse_perm.trans (perm.trans others.reverse_perm.symm)
  have distinct' : (Entries.names members.reverse).Nodup := by
    rwa [Entries.names, List.map_reverse, List.nodup_reverse]
  have found : member? name (.object members) = member? name (.object others) :=
    Entries.lookup?_perm distinct' backwards name
  rw [found]
  exact rel_refl _

variable {document other : Json}

theorem member? (same : Same document other) (name : String) :
    Option.Rel Same (document.member? name) (other.member? name) := by
  cases same with
  | refl => exact rel_refl _
  | array => exact .none
  | object each => exact each name

theorem text?_eq (same : Same document other) : document.text? = other.text? := by
  cases same <;> rfl

end Same

end Json

def Segment.ofJson? : Json → Option Segment
  | .string name => some (.field name)
  | .integer (.ofNat position) => some (.index position)
  | _ => none

def Location.ofJson? : Json → Option Location
  | .array segments => segments.mapM Segment.ofJson?
  | _ => none

def Mismatch.ofJson? (document : Json) : Option Mismatch := do
  let location ← (document.member? "loc").bind Location.ofJson?
  let kind ← (document.member? "type").bind Json.text?
  let message ← (document.member? "msg").bind Json.text?
  return ⟨location, kind, message, (document.member? "got").bind Json.text?,
    (document.member? "expected").bind Json.text?⟩

def Report.ofJson? : Json → Option Report
  | .array documents => (documents.mapM Mismatch.ofJson?).bind Report.ofList?
  | _ => none

theorem mapM_eq_some_of_forall₂ {α β : Type} {read : α → Option β} {items : List α}
    {results : List β}
    (each : List.Forall₂ (fun item result => read item = some result) items results) :
    items.mapM read = some results := by
  induction each with
  | nil => rfl
  | cons head _ ih =>
      rw [List.mapM_cons, head, ih]
      rfl

namespace Json.Same

variable {document : Json}

theorem array_cases {items : List Json} (same : Same (.array items) document) :
    ∃ others, document = .array others ∧ List.Forall₂ Same items others := by
  cases same with
  | refl => exact ⟨items, rfl, List.forall₂_same.mpr fun item _ => .refl item⟩
  | array each => exact ⟨_, rfl, each⟩

theorem some_cases {found? : Option Json} (same : Option.Rel Same (some document) found?) :
    ∃ other, found? = some other ∧ Same document other := by
  cases same with
  | some same => exact ⟨_, rfl, same⟩

/-- An array is read back if each of its items is. -/
theorem reads_items {α : Type} {write : α → Json} {read : Json → Option α} {items : List α}
    {documents : List Json}
    (reads : ∀ item document, Same (write item) document → read document = some item)
    (each : List.Forall₂ Same (items.map write) documents) :
    documents.mapM read = some items := by
  apply mapM_eq_some_of_forall₂
  apply List.Forall₂.flip
  exact (List.forall₂_map_left_iff.mp each).imp reads

theorem reads_segment {segment : Segment} (same : Same segment.toJson document) :
    Segment.ofJson? document = some segment := by
  cases segment with
  | field name =>
      cases same
      rfl
  | index position =>
      cases same
      rfl

theorem reads_location {location : Location}
    (same : Same (.array (location.map Segment.toJson)) document) :
    Location.ofJson? document = some location := by
  obtain ⟨segments, rfl, each⟩ := same.array_cases
  exact reads_items (fun _ _ => reads_segment) each

/-- An absent text stays absent, and is told from an empty one. -/
theorem reads_optional {text? : Option String} {found? : Option Json}
    (same : Option.Rel Same (text?.map .string) found?) : found?.bind Json.text? = text? := by
  cases text? with
  | none =>
      cases same
      rfl
  | some text =>
      cases same with
      | some same => rw [Option.bind_some, ← same.text?_eq, Json.text?]

end Json.Same

namespace Mismatch

/-- What the record of a mismatch has under a name. -/
def part? (mismatch : Mismatch) (name : String) : Option Json :=
  match name with
  | "loc" => some (.array (mismatch.location.map Segment.toJson))
  | "type" => some (.string mismatch.kind)
  | "msg" => some (.string mismatch.message)
  | "got" => mismatch.got?.map .string
  | "expected" => mismatch.expected?.map .string
  | _ => none

theorem member?_toJson (mismatch : Mismatch) (name : String) :
    mismatch.toJson.member? name = mismatch.part? name := by
  unfold part?
  split <;> cases got : mismatch.got? <;> cases expected : mismatch.expected? <;>
    simp_all [toJson, Json.member?, Entries.lookup?, eq_comm]

variable {document : Json}

theorem ofJson?_of_same {mismatch : Mismatch} (same : Json.Same mismatch.toJson document) :
    ofJson? document = some mismatch := by
  have member (name : String) :
      Option.Rel Json.Same (mismatch.part? name) (document.member? name) :=
    member?_toJson mismatch name ▸ same.member? name
  obtain ⟨location, eqLocation, sameLocation⟩ := Json.Same.some_cases (member "loc")
  obtain ⟨kind, eqKind, sameKind⟩ := Json.Same.some_cases (member "type")
  obtain ⟨message, eqMessage, sameMessage⟩ := Json.Same.some_cases (member "msg")
  have got := Json.Same.reads_optional (member "got")
  have expected := Json.Same.reads_optional (member "expected")
  rw [ofJson?, eqLocation, eqKind, eqMessage, got, expected]
  simp only [Option.bind_some]
  rw [Json.Same.reads_location sameLocation, ← sameKind.text?_eq, ← sameMessage.text?_eq]
  rfl

end Mismatch

namespace Report

theorem ofJson?_of_same {report : Report} {document : Json}
    (same : Json.Same report.toJson document) : ofJson? document = some report := by
  obtain ⟨documents, rfl, each⟩ := same.array_cases
  have mismatches : documents.mapM Mismatch.ofJson? = some report.toList :=
    Json.Same.reads_items (fun _ _ => Mismatch.ofJson?_of_same) each
  rw [ofJson?, mismatches, Option.bind_some, ofList?_toList]

theorem toJson_lossless (report : Report) :
    ofJson? report.toJson = some report ∧
      (∀ document, Json.Same report.toJson document → ofJson? document = some report) ∧
      ∀ other : Report, Json.Same report.toJson other.toJson → other = report := by
  have exported (report : Report) : ofJson? report.toJson = some report :=
    ofJson?_of_same (.refl _)
  refine ⟨exported report, fun _ => ofJson?_of_same, fun other same => ?_⟩
  exact Option.some.inj ((exported other).symm.trans (ofJson?_of_same same))

/-- A field and a position that look alike, an empty text and an absent one. -/
theorem toJson_lossless_reordered :
    ofJson? (.array [
      .object [("type", .string "type_error"), ("loc", .array [.string "0"]),
        ("msg", .string "not one of these"), ("got", .string "")],
      .object [("loc", .array [.integer 0]), ("type", .string "type_error"),
        ("msg", .string "not one of these"), ("expected", .string "")]]) =
      some ⟨⟨[.field "0"], "type_error", "not one of these", some "", none⟩,
        [⟨[.index 0], "type_error", "not one of these", none, some ""⟩]⟩ := by
  refine (toJson_lossless _).2.1 _ (.array (.cons ?_ (.cons (.refl _) .nil)))
  exact .of_perm (by decide) (.swap _ _ _)

end Report

end Containment
