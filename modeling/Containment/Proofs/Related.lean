import Mathlib.Data.List.Forall2

namespace Containment

/-! Lists whose members are related one by one, and lists that a function makes the same. -/

variable {α β γ δ : Type} {related : α → β → Prop} {items : List α} {others : List β}

theorem forall₂_zipIdx (each : List.Forall₂ related items others) (start : Nat) :
    List.Forall₂ (fun part other => part.2 = other.2 ∧ related part.1 other.1)
      (items.zipIdx start) (others.zipIdx start) := by
  induction each generalizing start with
  | nil => exact .nil
  | cons head _ ih => exact .cons ⟨rfl, head⟩ (ih (start + 1))

theorem rel_getElem? (each : List.Forall₂ related items others) (position : Nat) :
    Option.Rel related items[position]? others[position]? := by
  induction each generalizing position with
  | nil => exact .none
  | cons head _ ih =>
      cases position with
      | zero => exact .some head
      | succ position => exact ih position

theorem forall₂_mapIdx {related' : γ → δ → Prop} {f : Nat → α → γ} {g : Nat → β → δ}
    (each : List.Forall₂ related items others)
    (step : ∀ position a b, related a b → related' (f position a) (g position b)) :
    List.Forall₂ related' (items.mapIdx f) (others.mapIdx g) := by
  induction each generalizing f g with
  | nil => exact .nil
  | cons head _ ih =>
      rw [List.mapIdx_cons, List.mapIdx_cons]
      exact .cons (step 0 _ _ head) (ih fun position => step (position + 1))

theorem forall₂_imp_of_mem {related' : α → β → Prop} (each : List.Forall₂ related items others)
    (step : ∀ a ∈ items, ∀ b, related a b → related' a b) : List.Forall₂ related' items others :=
  ((List.forall₂_and_left items others).mpr ⟨step, each⟩).imp fun _ b both => both.1 b both.2

/-- Where one of the members on the left is of a kind, so is one on the right. -/
theorem exists_mem_of_forall₂ {p : α → Prop} {q : β → Prop}
    (each : List.Forall₂ (fun a b => p a → q b) items others) (among : ∃ a ∈ items, p a) :
    ∃ b ∈ others, q b := by
  induction each with
  | nil =>
      obtain ⟨_, mem, -⟩ := among
      cases mem
  | @cons _ b _ _ head _ ih =>
      obtain ⟨a, mem, holds⟩ := among
      cases mem with
      | head => exact ⟨b, .head _, head holds⟩
      | tail _ mem =>
          obtain ⟨b, mem, holds⟩ := ih ⟨a, mem, holds⟩
          exact ⟨b, .tail _ mem, holds⟩

section SameImage

variable {f : α → β} {items others : List α}

theorem getElem?_of_map_eq (same : items.map f = others.map f) {position : Nat} {item : α}
    (stands : others[position]? = some item) :
    ∃ other, items[position]? = some other ∧ f other = f item := by
  have image := congrArg (·[position]?) same
  simp only [List.getElem?_map, stands, Option.map_some] at image
  exact Option.map_eq_some_iff.mp image

theorem exists_mem_of_map_eq (same : items.map f = others.map f) {item : α} (mem : item ∈ others) :
    ∃ other ∈ items, f other = f item := by
  have image := List.mem_map_of_mem (f := f) mem
  rw [← same] at image
  exact List.mem_map.mp image

/-- A function that tells the members of a list from all others tells the list. -/
theorem eq_of_map_eq (each : ∀ item ∈ items, ∀ other, f other = f item → other = item)
    (same : others.map f = items.map f) : others = items := by
  induction items generalizing others with
  | nil => exact List.map_eq_nil_iff.mp same
  | cons item rest ih =>
      obtain ⟨other, later, rfl, head, tail⟩ := List.map_eq_cons_iff.mp same
      obtain ⟨here, there⟩ := List.forall_mem_cons.mp each
      rw [here other head, ih there tail]

end SameImage

end Containment
