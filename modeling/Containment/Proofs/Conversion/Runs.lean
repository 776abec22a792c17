import Containment.Proofs.Conversion.Parts

namespace Containment

open Recognizer (standardStatics standardDynamics mapping sequence)

/-! Two runs of a conversion, by the same recognizers or by others. Recognizers may use the run
to tell their checks apart, but not for anything else, so that outcomes differ in the origin of
checks at most where those for the parts do. -/

def anonymousAnswer (answer : Except Unclaimed (Option Rule)) :
    Except Unclaimed (Option Rule) :=
  answer.map (Option.map Rule.anonymous)

/-- The answers depend on the shape and the location alone. -/
def Recognizer.IsStatic (recognizer : Recognizer) : Prop :=
  ∀ (shape : Shape) (context other : Context shape.size), context.location = other.location →
    anonymousAnswer (recognizer.recognize shape context) =
      anonymousAnswer (recognizer.recognize shape other)

/-- A recognizer of the standard ones, or any that depends on shape and location alone. -/
def Recognizer.IsKnown (recognizer : Recognizer) : Prop :=
  recognizer ∈ standardStatics ++ standardDynamics ∨ recognizer.IsStatic

namespace Recognizer

theorem isStatic_ofShape (name : String) (claim : Shape → Option Rule) :
    (ofShape name claim).IsStatic :=
  fun _ _ _ _ => rfl

theorem isStatic_of_mem_standardStatics {recognizer : Recognizer}
    (mem : recognizer ∈ standardStatics) : recognizer.IsStatic := by
  simp only [standardStatics, List.mem_cons, List.not_mem_nil, or_false] at mem
  rcases mem with rfl | rfl | rfl | rfl | rfl | rfl | rfl
  · exact isStatic_ofShape _ _
  · exact isStatic_ofShape _ _
  · exact isStatic_ofShape _ _
  · exact isStatic_ofShape _ _
  · intro shape context other _
    cases shape with
    | value constant =>
        simp only [equalityConstant]
        split <;> rfl
    | _ => rfl
  · exact isStatic_ofShape _ _
  · intro shape context other _
    cases shape <;> rfl

end Recognizer

namespace Registry

open Recognizer

variable {recognizers others : List Recognizer} {run other : Nat}

def Alike (recognizers others : List Recognizer) (run other : Nat) (shape : Shape) : Prop :=
  ∀ location, anonymousOutcome (convertAt recognizers run location shape) =
    anonymousOutcome (convertAt others other location shape)

section Conversions

variable {first second : Location → Shape → Except Unclaimed Rule} {shape : Shape}
  {location : Location}

theorem collect_alike {κ : Type} (place : κ → Location) {parts : List (κ × Shape)}
    (alike : ∀ part ∈ parts, anonymousOutcome (first (place part.1) part.2) =
      anonymousOutcome (second (place part.1) part.2)) :
    (collect (parts.map fun part => (part.1, first (place part.1) part.2))).map
        (List.map (Prod.map id Rule.anonymous)) =
      (collect (parts.map fun part => (part.1, second (place part.1) part.2))).map
        (List.map (Prod.map id Rule.anonymous)) := by
  rw [collect_anonymous, collect_anonymous, List.map_map, List.map_map]
  exact congrArg collect (List.map_congr_left fun part mem => Prod.ext rfl (alike part mem))

theorem anonymousAnswer_map {κ : Type} {make : List (κ × Rule) → Option Rule}
    (commutes : ∀ rules, make (rules.map (Prod.map id Rule.anonymous)) =
      (make rules).map Rule.anonymous)
    (outcome : Except Unclaimed (List (κ × Rule))) :
    anonymousAnswer (outcome.map make) =
      (outcome.map (List.map (Prod.map id Rule.anonymous))).map make := by
  cases outcome with
  | error unclaimed => rfl
  | ok rules => exact congrArg Except.ok (commutes rules).symm

theorem mapping_alike
    (alike : ∀ part place, shape.ChildAt location part place →
      anonymousOutcome (first place part) = anonymousOutcome (second place part)) :
    anonymousAnswer (mapping.recognize shape (.ofConversion first run location shape.size)) =
      anonymousAnswer
        (mapping.recognize shape (.ofConversion second other location shape.size)) := by
  cases found : shape.entries? with
  | none => rw [mapping_pass found, mapping_pass found]
  | some entries =>
      have commutes : ∀ rules : List (Value × Rule),
          (Fields.ofRules (rules.map (Prod.map id Rule.anonymous))).toOption.map
              (fun fields => Slot.required (Schema.model modelName fields)) =
            ((Fields.ofRules rules).toOption.map
              fun fields => Slot.required (Schema.model modelName fields)).map
                Rule.anonymous := by
        intro rules
        have keys : (rules.map (Prod.map id Rule.anonymous)).map Prod.fst =
            rules.map Prod.fst := by
          rw [List.map_map]
          rfl
        rw [Fields.toOption_ofRules, Fields.toOption_ofRules, keys]
        split
        · rw [Option.map_some, Option.map_some, Option.map_some, Schema.anonymous_model,
            List.map_map, List.map_map]
          rfl
        · rfl
      rw [mapping_ofConversion _ _ _ found, mapping_ofConversion _ _ _ found,
        anonymousAnswer_map commutes, anonymousAnswer_map commutes,
        collect_alike (fun key => location.field (Fields.keyText key))
          fun entry mem => alike _ _ (.value found mem)]

theorem sequence_alike
    (alike : ∀ part place, shape.ChildAt location part place →
      anonymousOutcome (first place part) = anonymousOutcome (second place part)) :
    anonymousAnswer (sequence.recognize shape (.ofConversion first run location shape.size)) =
      anonymousAnswer
        (sequence.recognize shape (.ofConversion second other location shape.size)) := by
  cases found : shape.items? with
  | none => rw [sequence_pass found, sequence_pass found]
  | some items =>
      have commutes : ∀ rules : List (Nat × Rule),
          some (Slot.required (Schema.tuple ((rules.map (Prod.map id Rule.anonymous)).map
              fun rule => rule.2.schema))) =
            (some (Slot.required (Schema.tuple (rules.map fun rule => rule.2.schema)))).map
              Rule.anonymous := by
        intro rules
        rw [Option.map_some, Schema.anonymous_tuple, List.map_map, List.map_map]
        rfl
      rw [sequence_ofConversion _ _ _ found, sequence_ofConversion _ _ _ found,
        anonymousAnswer_map commutes, anonymousAnswer_map commutes,
        collect_alike location.index fun part mem => alike _ _ (.item found mem)]

theorem known_alike {recognizer : Recognizer} (known : recognizer.IsKnown)
    (alike : ∀ part place, shape.ChildAt location part place →
      anonymousOutcome (first place part) = anonymousOutcome (second place part)) :
    anonymousAnswer (recognizer.recognize shape (.ofConversion first run location shape.size)) =
      anonymousAnswer
        (recognizer.recognize shape (.ofConversion second other location shape.size)) := by
  rcases known with standard | static
  · rcases List.mem_append.mp standard with static | dynamic
    · exact isStatic_of_mem_standardStatics static shape _ _ rfl
    · simp only [standardDynamics, List.mem_cons, List.not_mem_nil, or_false] at dynamic
      rcases dynamic with rfl | rfl
      · exact mapping_alike alike
      · exact sequence_alike alike
  · exact static shape _ _ rfl

end Conversions

def answered (answer : Except Unclaimed (Option Rule)) (later : Except Unclaimed Rule) :
    Except Unclaimed Rule :=
  match answer with
  | .error unclaimed => .error unclaimed
  | .ok (some rule) => .ok rule
  | .ok none => later

theorem firstClaim_cons {shape : Shape} (context : Context shape.size) (recognizer : Recognizer)
    (rest : List Recognizer) :
    firstClaim shape context (recognizer :: rest) =
      answered (recognizer.recognize shape context) (firstClaim shape context rest) := rfl

theorem anonymousOutcome_answered (answer : Except Unclaimed (Option Rule))
    (later : Except Unclaimed Rule) :
    anonymousOutcome (answered answer later) =
      answered (anonymousAnswer answer) (anonymousOutcome later) := by
  rcases answer with unclaimed | _ | rule <;> rfl

theorem firstClaim_alike {shape : Shape} {context second : Context shape.size}
    (place : context.location = second.location) {asked : List Recognizer}
    (alike : ∀ recognizer ∈ asked, anonymousAnswer (recognizer.recognize shape context) =
      anonymousAnswer (recognizer.recognize shape second)) :
    anonymousOutcome (firstClaim shape context asked) =
      anonymousOutcome (firstClaim shape second asked) := by
  induction asked with
  | nil => rw [firstClaim, firstClaim, place]
  | cons recognizer rest ih =>
      obtain ⟨head, tail⟩ := List.forall_mem_cons.mp alike
      rw [firstClaim_cons, firstClaim_cons, anonymousOutcome_answered,
        anonymousOutcome_answered, head, ih tail]

end Registry

end Containment
