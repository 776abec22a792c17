import Containment.Proofs.Text.Reading
import Containment.Text.Blank
import Containment.Text.Digit

namespace Containment.Text

/-! Trimming takes away the blanks at both ends of a text, and nothing else. -/

variable {text core : List Char}

/-- No blank stands at either end. -/
structure Bare (text : List Char) : Prop where
  opens : ∀ c ∈ text.head?, isBlank c = false
  closes : ∀ c ∈ text.getLast?, isBlank c = false

/-- What is left of a text when the blanks around it are taken away. -/
structure Stripped (text core : List Char) : Prop where
  within : ∃ before after, text = before ++ core ++ after ∧
    ∀ c ∈ before ++ after, isBlank c = true
  bare : Bare core

theorem Bare.join {front back : List Char} (bare : Bare front) (bare' : Bare back)
    (nonempty : front ≠ []) (nonempty' : back ≠ []) (middle : List Char) :
    Bare (front ++ middle ++ back) := by
  constructor
  · intro c first
    obtain ⟨d, rest, rfl⟩ := List.exists_cons_of_ne_nil nonempty
    exact bare.opens c first
  · intro c last
    rw [List.getLast?_append, List.getLast?_eq_some_getLast nonempty', Option.some_or,
      ← List.getLast?_eq_some_getLast nonempty'] at last
    exact bare'.closes c last

theorem head?_dropWhile {p : Char → Bool} {c : Char} (first : c ∈ (text.dropWhile p).head?) :
    p c = false := by
  have stopped := List.head?_dropWhile_not p text
  rw [Option.mem_def.mp first] at stopped
  exact stopped

theorem Stripped.trim_eq (stripped : Stripped text core) : trim text = core := by
  obtain ⟨⟨before, after, rfl, blank⟩, ⟨opens, closes⟩⟩ := stripped
  have front : ∀ c ∈ before, isBlank c = true := fun c mem => blank c (by simp [mem])
  have back : ∀ c ∈ after.reverse, isBlank c = true := fun c mem =>
    blank c (by simp [List.mem_reverse.mp mem])
  have started : trimStart (before ++ core ++ after) = if core = [] then [] else core ++ after := by
    rw [trimStart, List.append_assoc, List.dropWhile_append_of_pos front]
    cases core with
    | nil =>
        rw [List.nil_append, ← List.append_nil after, List.dropWhile_append_of_pos fun c mem =>
          blank c (List.mem_append_right before mem)]
        rfl
    | cons c rest => exact dropWhile_head opens
  rw [trim, started, trimEnd]
  split
  case isTrue empty => rw [empty]; rfl
  case isFalse =>
    have ends : ∀ c ∈ core.reverse.head?, isBlank c = false := by rwa [List.head?_reverse]
    rw [List.reverse_append, dropWhile_run back ends, List.reverse_reverse]

theorem stripped_trim (text : List Char) : Stripped text (trim text) := by
  have front := List.takeWhile_append_dropWhile (p := isBlank) (l := text)
  have back := List.takeWhile_append_dropWhile (p := isBlank) (l := (trimStart text).reverse)
  have whole : trim text ++ ((trimStart text).reverse.takeWhile isBlank).reverse =
      trimStart text := by
    rw [trim, trimEnd, ← List.reverse_append, back, List.reverse_reverse]
  refine ⟨⟨text.takeWhile isBlank, ((trimStart text).reverse.takeWhile isBlank).reverse, ?_, ?_⟩,
    ⟨?_, ?_⟩⟩
  · rw [List.append_assoc, whole]
    exact front.symm
  · intro c mem
    rcases List.mem_append.mp mem with mem | mem
    · exact List.all_eq_true.mp List.all_takeWhile c mem
    · exact List.all_eq_true.mp List.all_takeWhile c (List.mem_reverse.mp mem)
  · intro c first
    have started : c ∈ (trimStart text).head? := by
      rw [← whole, List.head?_append, Option.mem_def.mp first]
      rfl
    exact head?_dropWhile started
  · intro c last
    rw [trim, trimEnd, List.getLast?_reverse] at last
    exact head?_dropWhile last

end Containment.Text
