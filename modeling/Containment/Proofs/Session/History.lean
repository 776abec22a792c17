import Containment.Proofs.Conversion.Runs
import Containment.Proofs.Shape.Distinctive
import Containment.Proofs.Shape.Key
import Containment.Registry.Session

namespace Containment

/-! The memory over a history of operations. Every kept rule is the outcome of some run for
a shape of its key, converted since the memory was last cleared. So to look a rule up is to run
the conversion of the shape itself, or of another one with the same key. -/

inductive Operation where
  | convert (shape : Shape)
  | convertToSchema (shape : Shape)
  | convertAliased (shape : Shape) (name : String)
  | contains (actual : Value) (expected : Shape)
  | clearMemo

namespace Operation

/-- The shape that an operation converts. -/
def shape? : Operation → Option Shape
  | .convert shape => some shape
  | .convertToSchema shape => some shape
  | .convertAliased shape _ => some shape
  | .contains _ expected => some expected
  | .clearMemo => none

def recentAfter (shapes : List Shape) (operation : Operation) : List Shape :=
  match operation.shape? with
  | some shape => shape :: shapes
  | none => []

/-- The shapes converted since the memory was last cleared. -/
def recent (operations : List Operation) : List Shape :=
  operations.foldl recentAfter []

end Operation

namespace Shape

/-- The shapes whose rule the memory may give for a shape: itself, and those of its key that were
converted since the memory was last cleared. -/
inductive HeldFor (shape : Shape) (operations : List Operation) : Shape → Prop where
  | itself : HeldFor shape operations shape
  | lookalike {held : Shape} {key : String} (recent : held ∈ Operation.recent operations)
      (keyed : shape.key? = some key) (keyed' : held.key? = some key) :
      HeldFor shape operations held

/-- No other shape was recently converted under the key of this one. -/
def Unmistaken (shape : Shape) (operations : List Operation) : Prop :=
  ∀ held, shape.HeldFor operations held → held = shape

variable {shape held : Shape} {operations : List Operation}

theorem HeldFor.asShown_eq (holds : shape.HeldFor operations held) :
    held.asShown = shape.asShown := by
  cases holds with
  | itself => rfl
  | lookalike recent keyed keyed' => exact asShown_eq_of_key? keyed' keyed

theorem Unmistaken.fresh (shape : Shape) : shape.Unmistaken [] := by
  intro held holds
  cases holds with
  | itself => rfl
  | lookalike recent => cases recent

theorem Unmistaken.of_unkeyed (unkeyed : shape.key? = none) (operations : List Operation) :
    shape.Unmistaken operations := by
  intro held holds
  cases holds with
  | itself => rfl
  | lookalike recent keyed => rw [unkeyed] at keyed; cases keyed

/-- Among shapes that are as they are shown, none is mistaken for another. -/
theorem Unmistaken.of_shown (shown : shape.asShown = shape)
    (recents : (Operation.recent operations).map asShown = Operation.recent operations) :
    shape.Unmistaken operations := by
  have each := List.map_eq_map_iff.mp (recents.trans (List.map_id _).symm)
  intro held holds
  have same := holds.asShown_eq
  cases holds with
  | itself => rfl
  | lookalike recent => exact (each held recent).symm.trans (same.trans shown)

theorem Distinctive.unmistaken (distinctive : shape.Distinctive) (operations : List Operation) :
    shape.Unmistaken operations :=
  fun held holds => distinctive held holds.asShown_eq

end Shape

/-- Every kept rule is what one run made of one of the shapes, under the key of that shape. -/
def Memo.Sound (recognizers : List Recognizer) (shapes : List Shape) (memo : Memo) : Prop :=
  ∀ entry ∈ memo.entries, ∃ run, ∃ shape ∈ shapes, shape.key? = some entry.1 ∧
    Registry.convertAt recognizers run Location.root shape = .ok entry.2

namespace Memo

variable {recognizers : List Recognizer} {shapes : List Shape} {memo : Memo}

theorem sound_empty : Sound recognizers shapes empty :=
  fun _ mem => nomatch mem

theorem sound_clear : Sound recognizers shapes memo.clear :=
  fun _ mem => nomatch mem

theorem Sound.nextRun (sound : Sound recognizers shapes memo) :
    Sound recognizers shapes memo.nextRun :=
  sound

theorem Sound.cons (sound : Sound recognizers shapes memo) (shape : Shape) :
    Sound recognizers (shape :: shapes) memo := by
  intro entry mem
  obtain ⟨run, kept, among, made⟩ := sound entry mem
  exact ⟨run, kept, List.mem_cons_of_mem shape among, made⟩

theorem mem_of_mem_store {capacity : Nat} {key : String} {rule : Rule} {entry : String × Rule}
    (mem : entry ∈ (memo.store capacity key rule).entries) :
    entry ∈ memo.entries ∨ entry = (key, rule) := by
  simp only [Memo.store] at mem
  have room : ∀ entry ∈ (if capacity ≤ memo.size then memo.entries.drop 1 else memo.entries),
      entry ∈ memo.entries := by
    intro entry mem
    split at mem
    · exact List.mem_of_mem_drop mem
    · exact mem
  split at mem
  · rcases List.mem_append.mp mem with mem | mem
    · exact .inl (room entry mem)
    · exact .inr (List.mem_singleton.mp mem)
  · exact .inl (room entry mem)

theorem Sound.store (sound : Sound recognizers shapes memo) (capacity : Nat) {shape : Shape}
    {key : String} {rule : Rule} {run : Nat} (among : shape ∈ shapes)
    (keyed : shape.key? = some key)
    (made : Registry.convertAt recognizers run Location.root shape = .ok rule) :
    Sound recognizers shapes (memo.store capacity key rule) := by
  intro entry mem
  rcases mem_of_mem_store mem with mem | rfl
  · exact sound entry mem
  · exact ⟨run, shape, among, keyed, made⟩

theorem lookup?_eq_entries (memo : Memo) (key : String) :
    memo.lookup? key = Entries.lookup? key memo.entries := by
  rw [lookup?]
  induction memo.entries with
  | nil => rfl
  | cons entry rest ih =>
      rw [Entries.lookup?_cons, List.find?_cons]
      by_cases same : entry.1 = key
      · rw [decide_eq_true same, if_pos same]
        rfl
      · rw [decide_eq_false same, if_neg same]
        exact ih

theorem mem_of_lookup? {key : String} {rule : Rule} (found : memo.lookup? key = some rule) :
    (key, rule) ∈ memo.entries := by
  rw [lookup?_eq_entries] at found
  exact Entries.mem_of_lookup? found

end Memo

theorem Session.memo_bind {α β : Type} {first : Session α} {next : α → Session β}
    (keeps : ∀ a memo, ((next a).run memo).2 = memo) (memo : Memo) :
    ((first >>= next).run memo).2 = (first.run memo).2 :=
  keeps _ _

namespace Registry

variable (registry : Registry)

def step (memo : Memo) : Operation → Memo
  | .convert shape => ((registry.convert shape).run memo).2
  | .convertToSchema shape => ((registry.convertToSchema shape).run memo).2
  | .convertAliased shape name => ((registry.convertAliased shape name).run memo).2
  | .contains actual expected => ((registry.contains actual expected).run memo).2
  | .clearMemo => (clearMemo.run memo).2

def after (operations : List Operation) : Memo :=
  operations.foldl registry.step Memo.empty

theorem run_convert (shape : Shape) (memo : Memo) :
    (registry.convert shape).run memo =
      match registry.memoKey? shape with
      | none =>
          (convertAt registry.recognizers memo.runs Location.root shape, memo.nextRun)
      | some key =>
          match memo.lookup? key with
          | some rule => (.ok rule, memo)
          | none =>
              match convertAt registry.recognizers memo.runs Location.root shape with
              | .ok rule => (.ok rule, memo.nextRun.store registry.capacity key rule)
              | .error unclaimed => (.error unclaimed, memo.nextRun) := by
  unfold convert
  cases registry.memoKey? shape with
  | none => rfl
  | some key =>
      simp only [StateT.run_bind, StateT.run_get, pure_bind]
      cases memo.lookup? key with
      | some rule => rfl
      | none =>
          simp only [convertFresh, StateT.run_bind, StateT.run_get, StateT.run_set, pure_bind]
          cases convertAt registry.recognizers memo.runs Location.root shape <;> rfl

theorem run_convertToSchema (shape : Shape) (memo : Memo) :
    ((registry.convertToSchema shape).run memo).1 =
      ((registry.convert shape).run memo).1.map Slot.schema := rfl

theorem memo_convertToSchema (shape : Shape) (memo : Memo) :
    ((registry.convertToSchema shape).run memo).2 = ((registry.convert shape).run memo).2 := rfl

theorem memo_contains (actual : Value) (expected : Shape) (memo : Memo) :
    ((registry.contains actual expected).run memo).2 =
      ((registry.convert expected).run memo).2 := by
  rw [← memo_convertToSchema]
  apply Session.memo_bind
  intro outcome next
  cases outcome with
  | error cause => rfl
  | ok schema =>
      dsimp only
      cases schema.check actual <;> rfl

/-- An operation leaves the memory as the conversion of its shape leaves it. -/
theorem step_of_shape? {operation : Operation} {shape : Shape}
    (converts : operation.shape? = some shape) (memo : Memo) :
    registry.step memo operation = ((registry.convert shape).run memo).2 := by
  cases operation with
  | convert | convertToSchema | convertAliased =>
      cases converts
      rfl
  | contains actual =>
      cases converts
      exact registry.memo_contains actual shape memo
  | clearMemo => cases converts

theorem step_of_shape?_eq_none {operation : Operation} (forgets : operation.shape? = none)
    (memo : Memo) : registry.step memo operation = memo.clear := by
  cases operation with
  | clearMemo => rfl
  | _ => cases forgets

variable {registry}

theorem key?_of_memoKey? {shape : Shape} {key : String}
    (found : registry.memoKey? shape = some key) : shape.key? = some key := by
  unfold memoKey? at found
  split at found
  · exact found
  · cases found

variable {shapes : List Shape}

theorem sound_convert {memo : Memo} (sound : memo.Sound registry.recognizers shapes)
    (shape : Shape) : Memo.Sound registry.recognizers (shape :: shapes)
      ((registry.convert shape).run memo).2 := by
  rw [run_convert]
  cases found : registry.memoKey? shape with
  | none => exact (sound.cons shape).nextRun
  | some key =>
      simp only []
      cases memo.lookup? key with
      | some rule => exact sound.cons shape
      | none =>
          simp only []
          cases made : convertAt registry.recognizers memo.runs Location.root shape with
          | ok rule =>
              exact (sound.cons shape).nextRun.store _ List.mem_cons_self
                (key?_of_memoKey? found) made
          | error unclaimed => exact (sound.cons shape).nextRun

theorem sound_step {memo : Memo} (sound : memo.Sound registry.recognizers shapes)
    (operation : Operation) : Memo.Sound registry.recognizers (operation.recentAfter shapes)
      (registry.step memo operation) := by
  rw [Operation.recentAfter]
  cases converts : operation.shape? with
  | some shape =>
      rw [step_of_shape? registry converts]
      exact sound_convert sound shape
  | none =>
      rw [step_of_shape?_eq_none registry converts]
      exact Memo.sound_clear

theorem sound_after (operations : List Operation) :
    Memo.Sound registry.recognizers (Operation.recent operations) (registry.after operations) := by
  have steps : ∀ (operations : List Operation) (shapes : List Shape) (memo : Memo),
      memo.Sound registry.recognizers shapes →
        Memo.Sound registry.recognizers (operations.foldl Operation.recentAfter shapes)
          (operations.foldl registry.step memo) := by
    intro operations
    induction operations with
    | nil => exact fun _ _ sound => sound
    | cons operation rest ih =>
        exact fun shapes memo sound => ih _ _ (sound_step sound operation)
  exact steps operations [] Memo.empty Memo.sound_empty

theorem convert_of_miss (registry : Registry) {memo : Memo} {shape : Shape}
    (miss : ∀ key, registry.memoKey? shape = some key → memo.lookup? key = none) :
    ((registry.convert shape).run memo).1 =
      convertAt registry.recognizers memo.runs Location.root shape := by
  rw [run_convert]
  cases found : registry.memoKey? shape with
  | none => rfl
  | some key =>
      simp only [miss key found]
      cases convertAt registry.recognizers memo.runs Location.root shape <;> rfl

/-- What the memory answers is what some run makes of the shape, or of one that it holds in the
place of the shape. Such a one has converted. -/
theorem convert_after_held (registry : Registry) (operations : List Operation) (shape : Shape) :
    ∃ run held, shape.HeldFor operations held ∧
      ((registry.convert shape).run (registry.after operations)).1 =
        convertAt registry.recognizers run Location.root held ∧
      (held = shape ∨ ∃ rule, convertAt registry.recognizers run Location.root held = .ok rule) := by
  by_cases miss : ∀ key, registry.memoKey? shape = some key →
      (registry.after operations).lookup? key = none
  · exact ⟨_, shape, .itself, registry.convert_of_miss miss, .inl rfl⟩
  · push Not at miss
    obtain ⟨key, found, hit⟩ := miss
    obtain ⟨rule, kept⟩ := Option.ne_none_iff_exists'.mp hit
    obtain ⟨run, held, recent, keyed, made⟩ := sound_after operations _ (Memo.mem_of_lookup? kept)
    refine ⟨run, held, .lookalike recent (key?_of_memoKey? found) keyed, ?_, .inr ⟨rule, made⟩⟩
    rw [run_convert, found]
    simp only [kept]
    exact made.symm

/-- A shape that is not mistaken for another gets what some run makes of it. -/
theorem convert_after_eq (registry : Registry) {operations : List Operation} {shape : Shape}
    (unmistaken : shape.Unmistaken operations) :
    ∃ run, ((registry.convert shape).run (registry.after operations)).1 =
      convertAt registry.recognizers run Location.root shape := by
  obtain ⟨run, held, holds, made, -⟩ := convert_after_held registry operations shape
  exact ⟨run, unmistaken held holds ▸ made⟩

end Registry

end Containment
