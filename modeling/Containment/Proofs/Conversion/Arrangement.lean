import Containment.Proofs.Session.Transparency

namespace Containment

/-! The standard recognizers share no shape, so that the order in which they are asked is
immaterial. -/

namespace Recognizer

/-- The only standard recognizer that may claim a shape. -/
def claimant : Shape → Recognizer
  | .value .null => nothing
  | .value (.date _) => equalityConstant
  | .value (.time _) => equalityConstant
  | .value (.datetime _) => equalityConstant
  | .value (.object _ _) => equalityConstant
  | .value (.list _) => sequence
  | .value (.map _) => mapping
  | .value _ => literal
  | .present => something
  | .schema .any => anything
  | .schema _ => typeExpression
  | .generator _ => typeGenerator
  | .list _ => sequence
  | .dict _ => mapping

theorem claimant_of_items? {shape : Shape} {items : List Shape}
    (found : shape.items? = some items) : claimant shape = sequence := by
  unfold Shape.items? at found
  split at found
  · rfl
  · rfl
  · cases found

theorem claimant_of_entries? {shape : Shape} {entries : List (Value × Shape)}
    (found : shape.entries? = some entries) : claimant shape = mapping := by
  unfold Shape.entries? at found
  split at found
  · rfl
  · rfl
  · cases found

theorem claimant_mem (shape : Shape) : claimant shape ∈ standardStatics ++ standardDynamics := by
  unfold claimant
  split <;> simp [standardStatics, standardDynamics]

/-- Every other standard recognizer passes the shape over. -/
theorem eq_claimant_or_pass {shape : Shape} (context : Context shape.size)
    {recognizer : Recognizer} (mem : recognizer ∈ standardStatics ++ standardDynamics) :
    recognizer = claimant shape ∨ recognizer.recognize shape context = .ok none := by
  simp only [standardStatics, standardDynamics, List.cons_append, List.nil_append, List.mem_cons,
    List.not_mem_nil, or_false] at mem
  rcases mem with rfl | rfl | rfl | rfl | rfl | rfl | rfl | rfl | rfl
  · cases shape with
    | value constant =>
        cases constant with
        | null => exact .inl rfl
        | _ => exact .inr rfl
    | _ => exact .inr rfl
  · cases shape with
    | present => exact .inl rfl
    | _ => exact .inr rfl
  · cases shape with
    | schema type =>
        cases type with
        | any => exact .inl rfl
        | _ => exact .inr rfl
    | _ => exact .inr rfl
  · cases shape with
    | value constant =>
        cases constant with
        | bool | int | float | bytes | str | member => exact .inl rfl
        | _ => exact .inr rfl
    | _ => exact .inr rfl
  · cases shape with
    | value constant =>
        cases constant with
        | date | time | datetime | object => exact .inl rfl
        | _ => exact .inr rfl
    | _ => exact .inr rfl
  · cases shape with
    | schema type =>
        cases type with
        | any => exact .inr rfl
        | _ => exact .inl rfl
    | _ => exact .inr rfl
  · cases shape with
    | generator source => exact .inl rfl
    | _ => exact .inr rfl
  · cases found : shape.entries? with
    | none => exact .inr (mapping_pass found context)
    | some entries => exact .inl (claimant_of_entries? found).symm
  · cases found : shape.items? with
    | none => exact .inr (sequence_pass found context)
    | some items => exact .inl (claimant_of_items? found).symm

theorem nodup_standard : (standardStatics ++ standardDynamics).Nodup := by
  have names : ((standardStatics ++ standardDynamics).map name).Nodup := by decide
  exact List.Pairwise.of_map name (fun _ _ differ same => differ (congrArg name same)) names

end Recognizer

namespace Registry

open Recognizer

theorem answers_length_le_one (run : Nat) (location : Location) (shape : Shape) :
    (standard.answers run location shape).length ≤ 1 := by
  let context := contextOf standard.recognizers run location shape.size
  obtain ⟨before, after, split⟩ := List.append_of_mem (claimant_mem shape)
  have distinct := nodup_standard
  rw [split, List.nodup_append, List.nodup_cons] at distinct
  obtain ⟨-, ⟨notAfter, -⟩, apart⟩ := distinct
  have notBefore : claimant shape ∉ before := fun mem => apart _ mem _ (.head _) rfl
  have pass : ∀ recognizer ∈ before ++ after, recognizer.recognize shape context = .ok none := by
    intro recognizer mem
    have asked : recognizer ∈ standardStatics ++ standardDynamics := by
      rw [split]
      exact List.mem_append.mpr ((List.mem_append.mp mem).imp_right (.tail _))
    refine (eq_claimant_or_pass context asked).resolve_left ?_
    rintro rfl
    rcases List.mem_append.mp mem with mem | mem
    · exact notBefore mem
    · exact notAfter mem
  obtain ⟨passBefore, passAfter⟩ := List.forall_mem_append.mp pass
  have whole : standard.recognizers = before ++ claimant shape :: after := split
  rw [answers]
  conv => lhs; arg 1; arg 2; rw [whole]
  rw [List.filterMap_append, List.filterMap_cons,
    List.filterMap_eq_nil_iff.mpr fun recognizer mem => by rw [passBefore recognizer mem],
    List.filterMap_eq_nil_iff.mpr fun recognizer mem => by rw [passAfter recognizer mem]]
  split <;> simp

variable {recognizers : List Recognizer}

/-- Whoever else is asked, the answer is that of the claimant. -/
theorem firstClaim_eq_claimant {shape : Shape} (context : Context shape.size)
    (standard : ∀ recognizer ∈ recognizers, recognizer ∈ standardStatics ++ standardDynamics)
    (asked : claimant shape ∈ recognizers) :
    firstClaim shape context recognizers =
      answered ((claimant shape).recognize shape context) (.error ⟨context.location, shape⟩) := by
  by_cases passes : (claimant shape).recognize shape context = .ok none
  · have all : ∀ recognizer ∈ recognizers, recognizer.recognize shape context = .ok none := by
      intro recognizer mem
      rcases eq_claimant_or_pass context (standard recognizer mem) with rfl | pass
      · exact passes
      · exact pass
    have nobody := firstClaim_append [] all
    rw [List.append_nil] at nobody
    rw [nobody, passes]
    rfl
  · induction recognizers with
    | nil => cases asked
    | cons recognizer rest ih =>
        obtain ⟨head, tail⟩ := List.forall_mem_cons.mp standard
        rw [firstClaim_cons]
        rcases eq_claimant_or_pass context head with rfl | pass
        · cases answer : (claimant shape).recognize shape context with
          | error unclaimed => rfl
          | ok rule? =>
              cases rule? with
              | some rule => rfl
              | none => exact absurd answer passes
        · have later : claimant shape ∈ rest := by
            refine (List.mem_cons.mp asked).resolve_left ?_
            rintro rfl
            exact passes pass
          rw [pass]
          exact ih tail later

theorem convertAt_arranged
    (arranged : ∀ recognizer, recognizer ∈ recognizers ↔ recognizer ∈ standard.recognizers)
    (run other : Nat) (shape : Shape) :
    Alike recognizers standard.recognizers run other shape := by
  induction size : shape.size using Nat.strongRecOn generalizing shape with
  | ind _ ih =>
      subst size
      intro location
      have asked : claimant shape ∈ standard.recognizers := claimant_mem shape
      have known : ∀ recognizer ∈ standard.recognizers,
          recognizer ∈ standardStatics ++ standardDynamics := fun _ mem => mem
      have alike : anonymousAnswer ((claimant shape).recognize shape
            (contextOf recognizers run location shape.size)) =
          anonymousAnswer ((claimant shape).recognize shape
            (contextOf standard.recognizers other location shape.size)) :=
        known_alike (.inl asked) fun part place child => ih _ child.size_lt part rfl place
      rw [convertAt_eq, convertAt_eq,
        firstClaim_eq_claimant _ (fun recognizer => (arranged recognizer).mp)
          ((arranged _).mpr asked),
        firstClaim_eq_claimant _ known asked, anonymousOutcome_answered,
        anonymousOutcome_answered, alike]
      rfl

/-- At most one standard recognizer claims a shape. So however they are arranged, be it as static
or as dynamic ones, and be it repeatedly, every conversion comes to the same; and with their
memories, it does so where neither of them takes the shape for another. -/
theorem arrangement_immaterial (builder : Builder)
    (arranged : ∀ recognizer, recognizer ∈ builder.statics ++ builder.dynamics ↔
      recognizer ∈ standardStatics ++ standardDynamics) :
    (∀ run location shape, (standard.answers run location shape).length ≤ 1) ∧
      (∀ run other location shape,
        SameOutcome (convertAt builder.build.recognizers run location shape)
          (convertAt standard.recognizers other location shape)) ∧
      ∀ operations others (shape : Shape), shape.Unmistaken operations → shape.Unmistaken others →
        SameOutcome ((builder.build.convert shape).run (builder.build.after operations)).1
          ((standard.convert shape).run (standard.after others)).1 := by
  refine ⟨answers_length_le_one, ?_, ?_⟩
  · intro run other location shape
    exact sameOutcome_of_anonymous (convertAt_arranged arranged run other shape location)
  · intro operations others shape unmistaken unmistaken'
    obtain ⟨run, made⟩ := convert_after_eq builder.build unmistaken
    obtain ⟨other, made'⟩ := convert_after_eq standard unmistaken'
    rw [made, made']
    exact sameOutcome_of_anonymous (convertAt_arranged arranged run other shape Location.root)

/-- The dynamic recognizers first and twice, the static ones behind them and backwards. -/
theorem arrangement_immaterial_backwards :
    let builder : Builder :=
      ⟨standardDynamics ++ standardDynamics, standardStatics.reverse, true, 1⟩
    let order (price : Shape) : Shape := .list [.nothing, .dict [(.str "price", price)]]
    let operations : List Operation := [.convert .nothing, .convert (order .present)]
    (∀ recognizer, recognizer ∈ builder.statics ++ builder.dynamics ↔
        recognizer ∈ standardStatics ++ standardDynamics) ∧
      (standard.answers 0 Location.root (order .present)).length ≤ 1 ∧
      (order .present).Unmistaken operations ∧ (order .present).Unmistaken [] ∧
      SameOutcome
        ((builder.build.convert (order .present)).run (builder.build.after operations)).1
        ((standard.convert (order .present)).run Memo.empty).1 ∧
      SameOutcome
        (convertAt builder.build.recognizers 0 [.field "orders"] (order (.value (.float .nan))))
        (convertAt standard.recognizers 0 [.field "orders"] (order (.value (.float .nan)))) := by
  intro builder order operations
  have arranged : ∀ recognizer, recognizer ∈ builder.statics ++ builder.dynamics ↔
      recognizer ∈ standardStatics ++ standardDynamics := by
    intro recognizer
    simp only [builder, List.mem_append, List.mem_reverse, or_self]
    exact or_comm
  obtain ⟨alone, places, sessions⟩ := arrangement_immaterial builder arranged
  have unmistaken : (order .present).Unmistaken operations := .of_shown rfl rfl
  have fresh := Shape.Unmistaken.fresh (order .present)
  exact ⟨arranged, alone 0 Location.root _, unmistaken, fresh,
    sessions operations [] _ unmistaken fresh, places 0 0 _ _⟩

end Registry

end Containment
