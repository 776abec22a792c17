import Containment.Proofs.Text.Unambiguous

namespace Containment.Text

/-! Items written one after the other up to a stop, with escapes for what could be taken for the
stop. Inside, every backslash belongs to an escape, and each escape stands for one item. -/

variable {α : Type}

/-- An item is written as a character of its own, by the letter of a short escape, or by its
number behind a mark. -/
structure Escaping (write : α → List Char) (stop : Char) where
  own : α → Char
  short : List (α × Char)
  mark : Char
  number : α → List Char
  forms : ∀ a, (write a = [own a] ∧ own a ≠ stop ∧ own a ≠ '\\') ∨
    (∃ letter, write a = ['\\', letter] ∧ (a, letter) ∈ short) ∨
    write a = '\\' :: mark :: number a
  stop_ne_backslash : stop ≠ '\\'
  own_injective : Function.Injective own
  short_injective : ∀ p ∈ short, ∀ q ∈ short, p.2 = q.2 → p.1 = q.1
  short_unmarked : ∀ p ∈ short, p.2 ≠ mark
  number_delimited : SelfDelimiting number

namespace Escaping

variable {write : α → List Char} {stop : Char}

theorem delimited (escaping : Escaping write stop) : SelfDelimiting write := by
  intro a b rest others same
  rcases escaping.forms a with ⟨ha, -, plain⟩ | ⟨letter, ha, short⟩ | ha <;>
    rcases escaping.forms b with ⟨hb, -, plain'⟩ | ⟨letter', hb, short'⟩ | hb <;>
    rw [ha, hb] at same <;>
    simp only [List.cons_append, List.nil_append, List.cons.injEq, true_and] at same
  · exact ⟨escaping.own_injective same.1, same.2⟩
  · exact absurd same.1 plain
  · exact absurd same.1 plain
  · exact absurd same.1.symm plain'
  · obtain ⟨rfl, ends⟩ := same
    exact ⟨escaping.short_injective _ short _ short' rfl, ends⟩
  · exact absurd same.1 (escaping.short_unmarked _ short)
  · exact absurd same.1.symm plain'
  · exact absurd same.1.symm (escaping.short_unmarked _ short')
  · exact escaping.number_delimited same

theorem ne_stop (escaping : Escaping write stop) (a : α) (rest others : List Char) :
    write a ++ rest ≠ stop :: others := by
  intro same
  rcases escaping.forms a with ⟨ha, noStop, -⟩ | ⟨letter, ha, -⟩ | ha <;>
    rw [ha] at same <;>
    simp only [List.cons_append, List.nil_append, List.cons.injEq] at same
  · exact noStop same.1
  · exact escaping.stop_ne_backslash same.1.symm
  · exact escaping.stop_ne_backslash same.1.symm

/-- The items end at the first stop that belongs to no escape. -/
theorem flatMap_append_cancel (escaping : Escaping write stop) :
    ∀ {items items' : List α} {rest others : List Char},
      items.flatMap write ++ stop :: rest = items'.flatMap write ++ stop :: others →
        items = items' ∧ rest = others
  | [], [], _, _, same => by simpa using same
  | [], b :: _, _, _, same => by
      rw [List.flatMap_cons, List.append_assoc] at same
      exact absurd same.symm (escaping.ne_stop b _ _)
  | a :: _, [], _, _, same => by
      rw [List.flatMap_cons, List.append_assoc] at same
      exact absurd same (escaping.ne_stop a _ _)
  | a :: items, b :: items', _, _, same => by
      rw [List.flatMap_cons, List.flatMap_cons, List.append_assoc, List.append_assoc] at same
      obtain ⟨rfl, tails⟩ := escaping.delimited same
      obtain ⟨rfl, ends⟩ := escaping.flatMap_append_cancel tails
      exact ⟨rfl, ends⟩

end Escaping

end Containment.Text
