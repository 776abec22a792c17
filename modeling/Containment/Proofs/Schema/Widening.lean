import Containment.Proofs.Number.IntegerAsFloat
import Containment.Proofs.Related
import Containment.Proofs.Schema.IntegerText
import Containment.Proofs.Schema.Occurrence
import Containment.Proofs.Schema.Union

namespace Containment

/-! Integers widened to floats: a schema that wants floats in place of some integers accepts
whatever it accepted before. Without a choice between members it comes to the same result, with
the nearest floats for those integers. -/

attribute [local instance(1100)] instPowNat

namespace Report

variable {α β γ δ : Type} {single : Prop} {related : α → β → Prop} {outcome : Except Report α}
  {other : Except Report β}

/-- Where the first outcome is a result so is the second, and under a condition the two results
are related. -/
def Follows (single : Prop) (related : α → β → Prop) (outcome : Except Report α)
    (other : Except Report β) : Prop :=
  ∀ result, outcome = .ok result → ∃ wide, other = .ok wide ∧ (single → related result wide)

namespace Follows

theorem ok {result : α} {wide : β} (alike : related result wide) :
    Follows single related (.ok result) (.ok wide) := by
  rintro _ ⟨⟩
  exact ⟨wide, rfl, fun _ => alike⟩

theorem error (report : Report) (other : Except Report β) :
    Follows single related (.error report) other :=
  fun _ made => nomatch made

theorem refl {related : α → α → Prop} (same : ∀ result, related result result)
    (outcome : Except Report α) : Follows single related outcome outcome :=
  fun result made => ⟨result, made, fun _ => same result⟩

theorem map {related' : γ → δ → Prop} {make : α → γ} {make' : β → δ}
    (follows : Follows single related outcome other)
    (step : single → ∀ result wide, related result wide → related' (make result) (make' wide)) :
    Follows single related' (outcome.map make) (other.map make') := by
  intro _ mapped
  obtain ⟨result, made, rfl⟩ := map_eq_ok_iff.mp mapped
  obtain ⟨wide, rfl, alike⟩ := follows result made
  exact ⟨make' wide, rfl, fun holds => step holds result wide (alike holds)⟩

theorem gather {outcomes : List (Except Report α)} {others : List (Except Report β)}
    (each : List.Forall₂ (Follows single related) outcomes others) :
    Follows single (List.Forall₂ related) (Report.gather outcomes) (Report.gather others) := by
  induction each with
  | nil => exact .ok .nil
  | @cons outcome _ rest _ head _ ih =>
      cases outcome with
      | error report =>
          exact fun results gathered => absurd gathered (gather_error_cons_ne_ok report rest results)
      | ok result =>
          obtain ⟨wide, rfl, alike⟩ := head result rfl
          rw [gather_ok_cons, gather_ok_cons]
          exact ih.map fun holds _ _ => .cons (alike holds)

end Follows

end Report

namespace Value

mutual
/-- Some of the integers in a value are replaced by the floats nearest to them: the value itself,
or any inside lists and maps. A zero can come with a sign. -/
inductive Rounded : Value → Value → Prop where
  | same (value : Value) : Rounded value value
  | number {number : Int64} {x : Binary64}
      (nearest : (Binary64.ofInt number.toInt).equals x = true) :
      Rounded (.int number) (.float x)
  | list {items others : List Value} (each : List.Forall₂ Rounded items others) :
      Rounded (.list items) (.list others)
  | map {entries others : List (String × Value)}
      (each : List.Forall₂ RoundedEntry entries others) : Rounded (.map entries) (.map others)

/-- Names are kept. -/
inductive RoundedEntry : String × Value → String × Value → Prop where
  | named (name : String) {value other : Value} (part : Rounded value other) :
      RoundedEntry (name, value) (name, other)
end

end Value

namespace Scalar

open Text Numeral

variable {value result : Value} {text : List Char}

theorem floatOfText_of_intOfText (made : intOfText text = .ok result) :
    ∃ wide, floatOfText text = .ok wide ∧ result.Rounded wide := by
  obtain ⟨number, denotes, least, most, rfl⟩ := intOfText_eq_ok_iff.mp made
  have few : (Nat.toDigits 10 number.natAbs).length ≤ 19 :=
    (Nat.length_toDigits_le_iff (by decide) (by decide)).mpr (by omega)
  obtain ⟨x, read, nearest⟩ :=
    exists_binary64?_of_denotes denotes (Nat.le_trans few (by decide))
  have kept : (Int64.ofInt number).toInt = number :=
    Int64.toInt_ofInt_of_le least (Int.lt_of_le_sub_one most)
  refine ⟨.float x, ?_, .number (kept.symm ▸ nearest)⟩
  rw [floatOfText, read]

theorem rounded_of_intOfFloat {x : Binary64} (made : intOfFloat x = .ok result) :
    result.Rounded (.float x) := by
  unfold intOfFloat at made
  split at made
  case h_1 | h_2 => cases made
  case h_3 whole =>
    split at made
    case h_1 fits =>
      cases made
      exact .number (toInt_of_int64? fits ▸ Binary64.ofInt_equals_of_toInt? whole)
    case h_2 => cases made

/-- What is taken for an integer is also taken for a float, and for the nearest one. -/
theorem toFloat_of_toInt (made : int.coerce value = .ok result) :
    ∃ wide, float.coerce value = .ok wide ∧ result.Rounded wide := by
  have itself (number : Int) : (Binary64.ofInt number).equals (.ofInt number) = true :=
    Binary64.equals_self (Binary64.isNan_ofInt number)
  have read {text : String} (textual : value.text? = some text) :
      ∃ wide, float.coerce value = .ok wide ∧ result.Rounded wide := by
    rw [coerce_of_text? rfl textual] at made
    rw [coerce_of_text? rfl textual]
    exact floatOfText_of_intOfText made
  cases value with
  | int number =>
      cases made
      exact ⟨_, rfl, .number (itself number.toInt)⟩
  | bool flag =>
      cases made
      refine ⟨_, rfl, .number ?_⟩
      rw [← Binary64.ofInt_natCast]
      cases flag with
      | false => exact itself 0
      | true => exact itself 1
  | float x => exact ⟨.float x, rfl, rounded_of_intOfFloat made⟩
  | str text => exact read rfl
  | bytes content =>
      cases decoded : ofUTF8? content with
      | some text => exact read decoded
      | none =>
          rw [coerce_of_no_text rfl decoded] at made
          cases made
  | _ => cases made

end Scalar

namespace Schema

open Report (Follows)
open Value (Rounded RoundedEntry)

mutual
/-- Some of the integer types in a schema are replaced by floats: the schema itself, or any inside
lists, tuples, maps, options, choices and models. What stands under checks is kept, as these may
be made for integers. -/
inductive Widened : Schema → Schema → Prop where
  | same (schema : Schema) : Widened schema schema
  | int : Widened (.scalar .int) (.scalar .float)
  | list {item wider : Schema} (inside : Widened item wider) :
      Widened (.list item) (.list wider)
  | tuple {positions others : List Schema} (each : List.Forall₂ Widened positions others) :
      Widened (.tuple positions) (.tuple others)
  | dict {item wider : Schema} (inside : Widened item wider) :
      Widened (.dict item) (.dict wider)
  | optional {inner wider : Schema} (inside : Widened inner wider) :
      Widened (.optional inner) (.optional wider)
  | union {members others : List Schema} (each : List.Forall₂ Widened members others) :
      Widened (.union members) (.union others)
  | model (name : String) {fields others : List (String × Slot Schema)}
      (each : List.Forall₂ WidenedField fields others) :
      Widened (.model name fields) (.model name others)

/-- Name, default and alias are kept. -/
inductive WidenedField : String × Slot Schema → String × Slot Schema → Prop where
  | named (name : String) (default? : Option Value) (alias? : Option String)
      {schema wider : Schema} (inside : Widened schema wider) :
      WidenedField (name, ⟨schema, default?, alias?⟩) (name, ⟨wider, default?, alias?⟩)
end

/-- Nothing to choose from. -/
def IsChoiceless : Schema → Prop
  | .union _ => False
  | _ => True

/-- What the one schema accepts the other accepts at the same location, and under a condition the
result is only rounded. -/
def RoundsTo (single : Prop) (schema wider : Schema) : Prop :=
  ∀ value location, Follows single Rounded (schema.validate value location)
    (wider.validate value location)

variable {single : Prop}

namespace RoundsTo

theorem refl (schema : Schema) : RoundsTo single schema schema :=
  fun _ _ => .refl .same _

theorem accepts {schema wider : Schema} (rounds : RoundsTo single schema wider) {value : Value}
    (accepts : schema.Accepts value) : wider.Accepts value := by
  obtain ⟨result, accepted⟩ := accepts
  obtain ⟨wide, accepted, -⟩ := rounds value Location.root result accepted
  exact ⟨wide, accepted⟩

theorem int : RoundsTo single (.scalar .int) (.scalar .float) := by
  intro value location result accepted
  rw [validate, judge_eq_ok_iff] at accepted
  obtain ⟨wide, made, rounded⟩ := Scalar.toFloat_of_toInt accepted
  exact ⟨wide, judge_eq_ok_iff.mpr made, fun _ => rounded⟩

theorem list {item wider : Schema} (inside : RoundsTo single item wider) :
    RoundsTo single (.list item) (.list wider) := by
  intro value location
  cases value with
  | list items =>
      have parts : List.Forall₂ Eq items items := List.forall₂_same.mpr fun _ _ => rfl
      rw [validate, validate]
      refine (Follows.gather (forall₂_mapIdx parts ?_)).map fun _ _ _ => .list
      rintro position part _ rfl
      exact inside part _
  | _ => exact .error _ _

theorem positionOutcome {schema wider : Schema} (rounds : RoundsTo single schema wider)
    (location : Location) (item? : Option Value) :
    Follows single Rounded (schema.positionOutcome location item?)
      (wider.positionOutcome location item?) := by
  cases item? with
  | some item => exact rounds item location
  | none => exact .error _ _

theorem tuple {positions others : List Schema}
    (each : List.Forall₂ (RoundsTo single) positions others) :
    RoundsTo single (.tuple positions) (.tuple others) := by
  intro value location
  cases value with
  | list items =>
      have surplus : List.Forall₂ (Follows single Rounded)
          (surplusItems others.length items location) (surplusItems others.length items location) :=
        List.forall₂_same.mpr fun outcome _ => .refl .same outcome
      rw [validate, validate, validatePositions_eq_mapIdx, validatePositions_eq_mapIdx,
        each.length_eq]
      refine (Follows.gather (List.rel_append (forall₂_mapIdx each ?_) surplus)).map
        fun _ _ _ => .list
      intro position schema wider rounds
      exact rounds.positionOutcome _ _
  | _ => exact .error _ _

theorem dict {item wider : Schema} (inside : RoundsTo single item wider) :
    RoundsTo single (.dict item) (.dict wider) := by
  intro value location
  cases value with
  | map entries =>
      rw [validate, validate]
      refine (Follows.gather ?_).map fun _ _ _ (each : List.Forall₂ RoundedEntry _ _) => .map each
      rw [List.forall₂_map_left_iff, List.forall₂_map_right_iff, List.forall₂_same]
      rintro ⟨name, part⟩ -
      exact (inside part _).map fun _ _ _ => .named name
  | _ => exact .error _ _

theorem optional {inner wider : Schema} (inside : RoundsTo single inner wider) :
    RoundsTo single (.optional inner) (.optional wider) := by
  intro value location
  rw [validate, validate]
  split
  · exact .refl .same _
  · exact inside value location

/-- The choice can fall on another member than before, so that only acceptance is kept. -/
theorem union {members others : List Schema} (choice : ¬ single)
    (each : List.Forall₂ (RoundsTo single) members others) :
    RoundsTo single (.union members) (.union others) := by
  intro value location result accepted
  have before : (Schema.union members).Accepts value :=
    (accepts_iff_validate location).mpr ⟨result, accepted⟩
  have after : (Schema.union others).Accepts value := by
    rw [union_accepts_iff] at before ⊢
    refine before.imp ?_ (exists_mem_of_forall₂ (each.imp fun _ _ rounds => rounds.accepts))
    rintro rfl
    exact List.forall₂_nil_left_iff.mp each
  obtain ⟨wide, accepted⟩ := (accepts_iff_validate location).mp after
  exact ⟨wide, accepted, fun holds => absurd holds choice⟩

theorem fieldOutcome {schema wider : Schema} (inside : RoundsTo single schema wider)
    (name : String) (default? : Option Value) (alias? : Option String) (entries : Entries Value)
    (location : Location) :
    Follows single RoundedEntry
      (Schema.fieldOutcome entries location (name, ⟨schema, default?, alias?⟩))
      (Schema.fieldOutcome entries location (name, ⟨wider, default?, alias?⟩)) := by
  rw [Schema.fieldOutcome, Schema.fieldOutcome]
  cases fieldValue? name alias? entries with
  | some part => exact (inside part _).map fun _ _ _ => .named name
  | none =>
      cases default? with
      | some default => exact .ok (.named name (.same default))
      | none => exact .error _ _

theorem model (name : String) {fields others : List (String × Slot Schema)}
    (each : List.Forall₂ (fun field other => ∀ entries location, Follows single RoundedEntry
      (Schema.fieldOutcome entries location field) (Schema.fieldOutcome entries location other))
      fields others) :
    RoundsTo single (.model name fields) (.model name others) := by
  intro value location
  rw [validate, validate]
  cases value.fields? with
  | none => exact .error _ _
  | some entries =>
      simp only [validateFields_eq_map]
      refine (Follows.gather ?_).map fun _ _ _ (each : List.Forall₂ RoundedEntry _ _) => .map each
      rw [List.forall₂_map_left_iff, List.forall₂_map_right_iff]
      exact each.imp fun _ _ each => each entries location

end RoundsTo

theorem Widened.roundsTo {schema wider : Schema} (widened : schema.Widened wider)
    (choiceless : single → schema.Everywhere IsChoiceless) : RoundsTo single schema wider := by
  -- On the schema and not on the relation, which is nested in lists.
  induction schema generalizing wider with
  | any | enumeration | anyMember | instanceOf | literal | annotated =>
      cases widened
      exact .refl _
  | scalar type =>
      cases widened with
      | same => exact .refl _
      | int => exact .int
  | list item ih =>
      cases widened with
      | same => exact .refl _
      | list inside => exact .list (ih inside fun holds => (choiceless holds).child (.head _))
  | tuple positions ih =>
      cases widened with
      | same => exact .refl _
      | tuple each =>
          refine .tuple (forall₂_imp_of_mem each fun schema mem _ inside => ?_)
          exact ih schema mem inside fun holds => (choiceless holds).child mem
  | dict item ih =>
      cases widened with
      | same => exact .refl _
      | dict inside => exact .dict (ih inside fun holds => (choiceless holds).child (.head _))
  | optional inner ih =>
      cases widened with
      | same => exact .refl _
      | optional inside =>
          exact .optional (ih inside fun holds => (choiceless holds).child (.head _))
  | union members ih =>
      cases widened with
      | same => exact .refl _
      | union each =>
          refine .union (fun holds => (choiceless holds).here) ?_
          refine forall₂_imp_of_mem each fun schema mem _ inside => ?_
          exact ih schema mem inside fun holds => (choiceless holds).child mem
  | model name fields ih =>
      cases widened with
      | same => exact .refl _
      | model _ each =>
          refine .model name (forall₂_imp_of_mem each fun field mem _ widened => ?_)
          cases widened with
          | named key default? alias? inside =>
              have rounds := ih _ mem inside fun holds =>
                (choiceless holds).child (List.mem_map_of_mem mem)
              exact rounds.fieldOutcome key default? alias?

/-- A schema in which integers are widened to floats accepts whatever it accepted before, at any
location. Without a choice between members, its result is the one of before, rounded. -/
theorem widening_never_rejects {schema wider : Schema} (widened : schema.Widened wider)
    {value result : Value} {location : Location}
    (accepted : schema.validate value location = .ok result) :
    ∃ wide, wider.validate value location = .ok wide ∧
      (schema.Everywhere IsChoiceless → result.Rounded wide) :=
  widened.roundsTo id value location result accepted

/-- Numbers as a text and as a truth value, one of them under an alias, and a default; and a zero
for which the choice changes. -/
theorem widening_never_rejects_of_order :
    let order (number : Schema) : Schema := .model "Order" [("count", ⟨number, none, some "n"⟩),
      ("sizes", .required (.list (.optional number))), ("page", .optional number (.int 1))]
    let value : Value := .map [("sizes", .list [.null, .bool true, .str "-7"]),
      ("n", .bytes (Text.toUTF8 " +1_000\n"))]
    let result : Value := .map [("count", .int 1000),
      ("sizes", .list [.null, .int 1, .int (-7)]), ("page", .int 1)]
    let choice (number : Schema) : Schema := .union [.scalar .bool, number]
    (order (.scalar .int)).Widened (order (.scalar .float)) ∧
      (order (.scalar .int)).validate value [.field "at"] = .ok result ∧
      (order (.scalar .int)).Everywhere IsChoiceless ∧
      (∃ wide, (order (.scalar .float)).validate value [.field "at"] = .ok wide ∧
        result.Rounded wide) ∧
      (choice (.scalar .int)).check (.float (.zero true)) = .ok (.bool false) ∧
      ∃ wide, (choice (.scalar .float)).check (.float (.zero true)) = .ok wide := by
  intro order value result choice
  have widened : (order (.scalar .int)).Widened (order (.scalar .float)) :=
    .model "Order" (.cons (.named _ _ _ .int) (.cons (.named _ _ _ (.list (.optional .int)))
      (.cons (.named _ _ _ .int) .nil)))
  have accepted : (order (.scalar .int)).validate value [.field "at"] = .ok result := rfl
  have choiceless : (order (.scalar .int)).Everywhere IsChoiceless := by
    have number : (Schema.scalar .int).Everywhere IsChoiceless :=
      everywhere_iff.mpr ⟨trivial, fun _ mem => nomatch mem⟩
    have sizes : (Schema.list (.optional (.scalar .int))).Everywhere IsChoiceless :=
      everywhere_iff.mpr ⟨trivial, List.forall_mem_singleton.mpr
        (everywhere_iff.mpr ⟨trivial, List.forall_mem_singleton.mpr number⟩)⟩
    exact everywhere_iff.mpr ⟨trivial, by
      simp [order, children, Slot.required, Slot.optional, number, sizes]⟩
  obtain ⟨wide, read, rounded⟩ := widening_never_rejects widened accepted
  have zero : (Binary64.zero true).equals (.ofNat 0) = true := by decide +kernel
  have falsity : Scalar.toBool (.float (.zero true)) = .ok (.bool false) := by
    rw [Scalar.toBool, if_pos zero]
  have chosen : (choice (.scalar .int)).check (.float (.zero true)) = .ok (.bool false) := by
    simp only [choice, check, validate, validateExact?, isExact, validateAlternatives,
      Scalar.coerce, falsity, judge, Report.choose, Bool.false_eq_true, if_false]
  have changed : (choice (.scalar .int)).Widened (choice (.scalar .float)) :=
    .union (.cons (.same _) (.cons .int .nil))
  obtain ⟨other, read', -⟩ := widening_never_rejects changed chosen
  exact ⟨widened, accepted, choiceless, ⟨wide, read, rounded choiceless⟩, chosen, other, read'⟩

/-- The choice falls on the float, as the value is one. -/
example : (Schema.union [.scalar .bool, .scalar .float]).check (.float (.zero true)) =
    .ok (.float (.zero true)) := rfl

/-- Under a check that wants an integer, the float is refused. -/
example :
    let whole : Check := ⟨"whole", .declared 0, fun
      | .int number => .ok (.int number)
      | _ => .error "no integer"⟩
    (Schema.annotated (.scalar .int) [whole]).check (.int 1) = .ok (.int 1) ∧
      (Schema.annotated (.scalar .float) [whole]).check (.int 1) =
        .error ((Fault.rejected "no integer").report (.float (.ofInt 1)) Location.root) :=
  ⟨rfl, rfl⟩

end Schema

end Containment
