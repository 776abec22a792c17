import Containment.Proofs.Conversion.Outcome
import Containment.Proofs.Session.Transparency

namespace Containment

open Recognizer (standardStatics standardDynamics)

/-! The order in which a built registry asks its recognizers. Those behind the standard ones
change nothing for the shapes that the standard ones convert. -/

namespace Builder

inductive Call where
  | addStandard
  | addStatic (recognizer : Recognizer)
  | addDynamic (recognizer : Recognizer)
  | withCaching (caching : Bool)
  | withCapacity (capacity : Nat)

namespace Call

def statics : Call → List Recognizer
  | .addStandard => standardStatics
  | .addStatic recognizer => [recognizer]
  | _ => []

def dynamics : Call → List Recognizer
  | .addStandard => standardDynamics
  | .addDynamic recognizer => [recognizer]
  | _ => []

end Call

def step (builder : Builder) : Call → Builder
  | .addStandard => builder.addStandard
  | .addStatic recognizer => builder.addStatic recognizer
  | .addDynamic recognizer => builder.addDynamic recognizer
  | .withCaching caching => builder.withCaching caching
  | .withCapacity capacity => builder.withCapacity capacity

def after (calls : List Call) : Builder :=
  calls.foldl step empty

theorem statics_step (builder : Builder) (call : Call) :
    (builder.step call).statics = builder.statics ++ call.statics := by
  cases call with
  | addStandard | addStatic => rfl
  | addDynamic | withCaching | withCapacity => exact (List.append_nil _).symm

theorem dynamics_step (builder : Builder) (call : Call) :
    (builder.step call).dynamics = builder.dynamics ++ call.dynamics := by
  cases call with
  | addStandard | addDynamic => rfl
  | addStatic | withCaching | withCapacity => exact (List.append_nil _).symm

theorem foldl_step {kept : Builder → List Recognizer} {added : Call → List Recognizer}
    (adds : ∀ builder call, kept (step builder call) = kept builder ++ added call)
    (calls : List Call) (builder : Builder) :
    kept (calls.foldl step builder) = kept builder ++ calls.flatMap added := by
  induction calls generalizing builder with
  | nil => exact (List.append_nil _).symm
  | cons call rest ih =>
      rw [List.foldl_cons, ih, adds, List.flatMap_cons, List.append_assoc]

theorem recognizers_after (calls : List Call) :
    (after calls).build.recognizers =
      calls.flatMap Call.statics ++ calls.flatMap Call.dynamics := by
  rw [build, after, foldl_step statics_step, foldl_step dynamics_step]
  rfl

/-- What is said before is settings only, and what is said after adds no static recognizer. -/
theorem recognizers_after_standard {before later : List Call}
    (settings : ∀ call ∈ before, call.statics = [] ∧ call.dynamics = [])
    (dynamic : ∀ call ∈ later, call.statics = []) :
    (after (before ++ .addStandard :: later)).build.recognizers =
      Registry.standard.recognizers ++ later.flatMap Call.dynamics := by
  have noStatics : before.flatMap Call.statics = [] :=
    List.flatMap_eq_nil_iff.mpr fun call mem => (settings call mem).1
  have noDynamics : before.flatMap Call.dynamics = [] :=
    List.flatMap_eq_nil_iff.mpr fun call mem => (settings call mem).2
  rw [recognizers_after, List.flatMap_append, List.flatMap_append, noStatics, noDynamics,
    List.flatMap_cons, List.flatMap_cons, List.flatMap_eq_nil_iff.mpr dynamic]
  rfl

end Builder

/-- The answer of the first recognizer that does not pass the shape over, be it a rule or a
failure. Where all pass it over, the shape is unclaimed. -/
inductive FirstAnswer (shape : Shape) (context : Context shape.size) :
    List Recognizer → Except Unclaimed Rule → Prop where
  | claimed {before after : List Recognizer} {recognizer : Recognizer} {rule : Rule}
      (passed : ∀ other ∈ before, other.recognize shape context = .ok none)
      (answer : recognizer.recognize shape context = .ok (some rule)) :
      FirstAnswer shape context (before ++ recognizer :: after) (.ok rule)
  | failed {before after : List Recognizer} {recognizer : Recognizer} {unclaimed : Unclaimed}
      (passed : ∀ other ∈ before, other.recognize shape context = .ok none)
      (answer : recognizer.recognize shape context = .error unclaimed) :
      FirstAnswer shape context (before ++ recognizer :: after) (.error unclaimed)
  | nobody {recognizers : List Recognizer}
      (passed : ∀ other ∈ recognizers, other.recognize shape context = .ok none) :
      FirstAnswer shape context recognizers (.error ⟨context.location, shape⟩)

section FirstAnswer

variable {shape : Shape} {context : Context shape.size} {recognizers : List Recognizer}
  {outcome : Except Unclaimed Rule}

theorem FirstAnswer.later {recognizer : Recognizer}
    (passes : recognizer.recognize shape context = .ok none)
    (first : FirstAnswer shape context recognizers outcome) :
    FirstAnswer shape context (recognizer :: recognizers) outcome := by
  cases first with
  | claimed passed answer =>
      rw [← List.cons_append]
      exact .claimed (List.forall_mem_cons.mpr ⟨passes, passed⟩) answer
  | failed passed answer =>
      rw [← List.cons_append]
      exact .failed (List.forall_mem_cons.mpr ⟨passes, passed⟩) answer
  | nobody passed => exact .nobody (List.forall_mem_cons.mpr ⟨passes, passed⟩)

theorem firstAnswer_firstClaim (shape : Shape) (context : Context shape.size)
    (recognizers : List Recognizer) :
    FirstAnswer shape context recognizers (firstClaim shape context recognizers) := by
  induction recognizers with
  | nil => exact .nobody fun _ mem => nomatch mem
  | cons recognizer rest ih =>
      have none : ∀ other ∈ ([] : List Recognizer),
          other.recognize shape context = .ok none := fun _ mem => nomatch mem
      rw [firstClaim]
      split
      case h_1 answer => exact .failed none answer
      case h_2 answer => exact .claimed none answer
      case h_3 passes => exact ih.later passes

theorem FirstAnswer.eq_firstClaim (first : FirstAnswer shape context recognizers outcome) :
    outcome = firstClaim shape context recognizers := by
  cases first with
  | claimed passed answer => rw [firstClaim_append _ passed, firstClaim, answer]
  | failed passed answer => rw [firstClaim_append _ passed, firstClaim, answer]
  | nobody passed =>
      have all := firstClaim_append [] passed
      rw [List.append_nil] at all
      rw [all, firstClaim]

/-- A rule stands, whoever else could be asked. -/
theorem firstClaim_append_of_ok {rule : Rule} (others : List Recognizer)
    (made : firstClaim shape context recognizers = .ok rule) :
    firstClaim shape context (recognizers ++ others) = .ok rule := by
  have first := firstAnswer_firstClaim shape context recognizers
  rw [made] at first
  cases first with
  | claimed passed answer =>
      rw [List.append_assoc, firstClaim_append _ passed, List.cons_append, firstClaim, answer]

end FirstAnswer

namespace Shape

/-- A shape and its parts at any depth, each with its place. -/
inductive PartAt : Shape → Location → Shape → Location → Prop where
  | whole (shape : Shape) (location : Location) : PartAt shape location shape location
  | inside {shape child part : Shape} {location between place : Location}
      (isChild : shape.ChildAt location child between) (within : PartAt child between part place) :
      PartAt shape location part place

theorem PartAt.firstBad?_eq_none {whole part : Shape} {location place : Location}
    (isPart : whole.PartAt location part place) (clean : whole.firstBad? location = none) :
    part.firstBad? place = none := by
  induction isPart with
  | whole => exact clean
  | inside isChild _ ih => exact ih (isChild.firstBad?_eq_none clean)

end Shape

namespace Registry

/-- The standard recognizers are asked before any other, and for the parts as well. What comes
after them is left open; it may convert shapes of any size. -/
def StandardFirst (run : Nat) (conversion : Location → Shape → Except Unclaimed Rule) : Prop :=
  ∀ location shape rule,
    firstClaim shape (.ofConversion conversion run location shape.size) standard.recognizers =
        .ok rule →
      conversion location shape = .ok rule

theorem standardFirst_convertAt (others : List Recognizer) (run : Nat) :
    StandardFirst run (convertAt (standard.recognizers ++ others) run) := by
  intro location shape rule made
  rw [convertAt_eq]
  exact firstClaim_append_of_ok others made

/-- Every part comes to what it comes to by the standard recognizers: to the same type but for
the origin of checks, with the same metadata. -/
def KeepsParts (run : Nat) (conversion : Location → Shape → Except Unclaimed Rule)
    (location : Location) (shape : Shape) : Prop :=
  ∀ part place, shape.PartAt location part place →
    ∃ rule rule', convertAt standard.recognizers run place part = .ok rule ∧
      conversion place part = .ok rule' ∧
      Rule.anonymous rule = Rule.anonymous rule' ∧ Rule.Equivalent rule rule'

namespace StandardFirst

variable {conversion : Location → Shape → Except Unclaimed Rule} {other : Nat}

theorem anonymous_eq (first : StandardFirst other conversion) (run : Nat) {shape : Shape}
    {location : Location} (clean : shape.firstBad? location = none) :
    anonymousOutcome (convertAt standard.recognizers run location shape) =
      anonymousOutcome (conversion location shape) := by
  induction size : shape.size using Nat.strongRecOn generalizing shape location with
  | ind _ ih =>
      subst size
      obtain ⟨rule, made⟩ := (convertAt_ok_iff run).mpr clean
      -- Each standard recognizer answers alike, since it converts the parts alike. It is here that
      -- the parts need to convert: an unclaimed one could be claimed behind.
      have alike : anonymousOutcome (convertAt standard.recognizers run location shape) =
          anonymousOutcome (firstClaim shape (.ofConversion conversion other location shape.size)
            standard.recognizers) := by
        rw [convertAt_eq]
        apply firstClaim_alike
        · rfl
        · intro recognizer mem
          exact known_alike (.inl mem) fun part place child =>
            ih _ child.size_lt (child.firstBad?_eq_none clean) rfl
      cases claim : firstClaim shape (.ofConversion conversion other location shape.size)
          standard.recognizers with
      | error unclaimed =>
          rw [made, claim] at alike
          cases alike
      | ok rule' => rw [alike, claim, first location shape rule' claim]

theorem keepsParts (first : StandardFirst other conversion) {run : Nat} {location : Location}
    {shape : Shape} {rule : Rule}
    (made : convertAt standard.recognizers run location shape = .ok rule) :
    KeepsParts run conversion location shape := by
  intro part place isPart
  have clean : part.firstBad? place = none :=
    isPart.firstBad?_eq_none ((convertAt_ok_iff run).mp ⟨rule, made⟩)
  have alike := first.anonymous_eq run clean
  obtain ⟨rule, made⟩ := (convertAt_ok_iff run).mpr clean
  rw [made] at alike
  cases made' : conversion place part with
  | error unclaimed =>
      rw [made'] at alike
      cases alike
  | ok rule' =>
      rw [made'] at alike
      have same : Rule.anonymous rule = Rule.anonymous rule' := Except.ok.inj alike
      exact ⟨rule, rule', made, rfl, same, Rule.equivalent_of_anonymous same⟩

end StandardFirst

/-- The recognizers that are added behind the standard ones do as they like, but the shapes that
convert without them do not come to them, in whole or in part. Nor do they with a memory, as
long as it takes no shape for another. -/
theorem dispatch_conservative :
    (∀ calls : List Builder.Call,
      let registry := (Builder.after calls).build
      let asked := calls.flatMap Builder.Call.statics ++ calls.flatMap Builder.Call.dynamics
      registry.recognizers = asked ∧
        (∀ run location shape outcome,
          FirstAnswer shape (contextOf asked run location shape.size) asked outcome ↔
            convertAt registry.recognizers run location shape = outcome) ∧
        ∀ operations (shape : Shape), shape.Unmistaken operations → ∃ run,
          FirstAnswer shape (contextOf asked run Location.root shape.size) asked
            ((registry.convert shape).run (registry.after operations)).1) ∧
      (∀ before later : List Builder.Call,
        (∀ call ∈ before, call.statics = [] ∧ call.dynamics = []) →
        (∀ call ∈ later, call.statics = []) →
        let extended := (Builder.after (before ++ .addStandard :: later)).build
        (∀ run other location shape rule,
          convertAt standard.recognizers run location shape = .ok rule →
            KeepsParts run (convertAt extended.recognizers other) location shape) ∧
          ∀ operations others (shape : Shape) rule,
            shape.Unmistaken operations → shape.Unmistaken others →
            ((standard.convert shape).run (standard.after others)).1 = .ok rule →
              ∃ rule', ((extended.convert shape).run (extended.after operations)).1 = .ok rule' ∧
                Rule.anonymous rule = Rule.anonymous rule' ∧ Rule.Equivalent rule rule') ∧
      ∀ run other conversion location shape rule, StandardFirst other conversion →
        convertAt standard.recognizers run location shape = .ok rule →
          KeepsParts run conversion location shape := by
  refine ⟨?order, ?extended, ?any⟩
  case order =>
    intro calls registry asked
    have recognizers : registry.recognizers = asked := Builder.recognizers_after calls
    refine ⟨recognizers, fun run location shape outcome => ?_,
      fun operations shape unmistaken => ?_⟩
    · rw [recognizers, convertAt_eq]
      refine ⟨fun first => first.eq_firstClaim.symm, ?_⟩
      rintro rfl
      exact firstAnswer_firstClaim _ _ _
    · obtain ⟨run, made⟩ := convert_after_eq registry unmistaken
      refine ⟨run, ?_⟩
      rw [made, recognizers, convertAt_eq]
      exact firstAnswer_firstClaim _ _ _
  case extended =>
    intro before later settings dynamic extended
    have recognizers : extended.recognizers =
        standard.recognizers ++ later.flatMap Builder.Call.dynamics :=
      Builder.recognizers_after_standard settings dynamic
    have first (other : Nat) : StandardFirst other (convertAt extended.recognizers other) :=
      recognizers ▸ standardFirst_convertAt _ other
    refine ⟨fun run other location shape rule => (first other).keepsParts, ?_⟩
    intro operations others shape rule unmistaken unmistaken' converted
    obtain ⟨run, made⟩ := convert_after_eq standard unmistaken'
    obtain ⟨other, made'⟩ := convert_after_eq extended unmistaken
    rw [made] at converted
    obtain ⟨rule, rule', kept, kept', same⟩ :=
      (first other).keepsParts converted _ _ (.whole shape Location.root)
    obtain rfl := Except.ok.inj (converted.symm.trans kept)
    exact ⟨rule', made'.trans kept', same⟩
  case any => exact fun run other conversion location shape rule first => first.keepsParts

/-- One recognizer behind the standard ones that refuses every shape, and one that takes every
shape. -/
theorem dispatch_conservative_behind :
    let refusing : Recognizer := ⟨"refusing", fun shape context => .error ⟨context.location, shape⟩⟩
    let taking : Recognizer := .ofShape "taking" fun _ => some (.required .any)
    let before := [Builder.Call.withCaching true]
    let later := [.addDynamic refusing, .withCapacity 1, .addDynamic taking]
    let extended := (Builder.after (before ++ .addStandard :: later)).build
    let line : Shape := .dict [(.str "price", .present)]
    let order : Shape := .list [.nothing, line]
    let operations : List Operation := [.convert line, .convert order]
    (∀ call ∈ before, call.statics = [] ∧ call.dynamics = []) ∧
      (∀ call ∈ later, call.statics = []) ∧
      (∃ rule rule',
        convertAt standard.recognizers 0 [.field "order", .index 1] line = .ok rule ∧
          convertAt extended.recognizers 4 [.field "order", .index 1] line = .ok rule' ∧
          Rule.anonymous rule = Rule.anonymous rule' ∧ Rule.Equivalent rule rule') ∧
      order.Unmistaken operations ∧
      (∃ rule', ((extended.convert order).run (extended.after operations)).1 = .ok rule') ∧
      StandardFirst 3 (convertAt (standard.recognizers ++ [taking]) 3) ∧
      KeepsParts 0 (convertAt (standard.recognizers ++ [taking]) 3) Location.root order := by
  intro refusing taking before later extended line order operations
  have settings : ∀ call ∈ before, call.statics = [] ∧ call.dynamics = [] :=
    List.forall_mem_singleton.mpr ⟨rfl, rfl⟩
  have dynamic : ∀ call ∈ later, call.statics = [] := by
    simp only [later, List.forall_mem_cons, List.not_mem_nil, false_imp_iff, implies_true,
      and_true]
    exact ⟨rfl, rfl, rfl⟩
  have converts (location : Location) :
      ∃ rule, convertAt standard.recognizers 0 location order = .ok rule :=
    (convertAt_ok_iff 0).mpr rfl
  have second : (1, line) ∈ Recognizer.positioned [.nothing, line] := .tail _ (.head _)
  have isPart : order.PartAt [.field "order"] line [.field "order", .index 1] :=
    .inside (.item rfl second) (.whole _ _)
  obtain ⟨-, extension, any⟩ := dispatch_conservative
  obtain ⟨keeps, sessions⟩ := extension before later settings dynamic
  obtain ⟨rule, made⟩ := converts [.field "order"]
  obtain ⟨rule', made'⟩ := converts Location.root
  have first := standardFirst_convertAt [taking] 3
  have unmistaken : order.Unmistaken operations := .of_shown rfl rfl
  obtain ⟨kept, converted, -⟩ := sessions operations [] order rule' unmistaken (.fresh order) made'
  exact ⟨settings, dynamic, keeps 0 4 _ _ rule made line _ isPart, unmistaken, ⟨kept, converted⟩,
    first, any 0 3 _ _ _ _ first made'⟩

end Registry

end Containment
