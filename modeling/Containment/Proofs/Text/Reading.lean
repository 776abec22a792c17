namespace Containment.Text

/-! Readers: what is taken from the front of a text, and what is left of it. -/

section Runs

variable {p : Char → Bool} {run rest : List Char}

theorem takeWhile_run (all : ∀ c ∈ run, p c = true) (ends : ∀ c ∈ rest.head?, p c = false) :
    (run ++ rest).takeWhile p = run := by
  rw [List.takeWhile_append_of_pos all]
  cases rest with
  | nil => exact List.append_nil run
  | cons c rest => rw [List.takeWhile_cons_of_neg (by simp [ends c rfl]), List.append_nil]

theorem dropWhile_head (ends : ∀ c ∈ rest.head?, p c = false) : rest.dropWhile p = rest := by
  cases rest with
  | nil => rfl
  | cons c rest => exact List.dropWhile_cons_of_neg (by simp [ends c rfl])

theorem dropWhile_run (all : ∀ c ∈ run, p c = true) (ends : ∀ c ∈ rest.head?, p c = false) :
    (run ++ rest).dropWhile p = rest := by
  rw [List.dropWhile_append_of_pos all, dropWhile_head ends]

end Runs

variable {α β : Type} {text mid rest : List Char}

/-- The reader takes a value from the front of a text and leaves a rest. -/
def Reads (reader : StateT (List Char) Option α) (text : List Char) (value : α)
    (rest : List Char) : Prop :=
  reader text = some (value, rest)

namespace Reads

variable {reader : StateT (List Char) Option α} {a : α}

theorem bind_eq (first : Reads reader text a mid) (next : α → StateT (List Char) Option β) :
    (reader >>= next) text = next a mid := by
  change (reader text >>= fun (a, mid) => next a mid) = _
  rw [first]
  rfl

theorem bind {next : α → StateT (List Char) Option β} {b : β}
    (first : Reads reader text a mid) (second : Reads (next a) mid b rest) :
    Reads (reader >>= next) text b rest :=
  (first.bind_eq next).trans second

theorem pure (a : α) (text : List Char) : Reads (Pure.pure a) text a text := rfl

theorem map (reads : Reads reader text a rest) (f : α → β) :
    Reads (reader >>= fun a => Pure.pure (f a)) text (f a) rest :=
  reads.bind (Reads.pure (f a) rest)

theorem get (text : List Char) : Reads MonadState.get text text text := rfl

theorem set (text rest : List Char) : Reads (MonadStateOf.set rest) text PUnit.unit rest := rfl

theorem modify (f : List Char → List Char) (text : List Char) :
    Reads (modify f) text PUnit.unit (f text) := rfl

theorem lift {answer : Option α} (made : answer = some a) (text : List Char) :
    Reads (liftM answer) text a text := by
  subst made
  rfl

theorem guarded {p : Prop} [Decidable p] (holds : p) (text : List Char) :
    Reads (guard p) text () text := by
  unfold guard
  rw [if_pos holds]
  exact Reads.pure () text

end Reads

end Containment.Text
