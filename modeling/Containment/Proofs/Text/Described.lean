import Containment.Proofs.Text.Digits
import Containment.Proofs.Text.Escaping

namespace Containment.Text

/-! A described text ends at its closing quote, whatever follows. -/

/-- The characters with an escape of their own, each with the letter of its escape. -/
def shortEscapes : List (Char × Char) :=
  [('"', '"'), ('\\', '\\'), ('\n', 'n'), ('\r', 'r'), ('\t', 't'), ('\x00', '0')]

theorem describeChar_cases (c : Char) :
    (describeChar c = [c] ∧ c ≠ '"' ∧ c ≠ '\\') ∨
      (∃ letter, describeChar c = ['\\', letter] ∧ (c, letter) ∈ shortEscapes) ∨
      describeChar c = '\\' :: 'u' :: '\x7b' :: (Nat.toDigits 16 c.toNat ++ ['\x7d']) := by
  unfold describeChar
  split
  case h_7 noQuote noBackslash _ _ _ _ =>
    split
    · exact .inl ⟨rfl, noQuote, noBackslash⟩
    · exact .inr (.inr rfl)
  all_goals exact .inr (.inl ⟨_, rfl, by decide⟩)

theorem toDigits_brace_cancel {m n : Nat} {rest others : List Char}
    (same : Nat.toDigits 16 m ++ '\x7d' :: rest = Nat.toDigits 16 n ++ '\x7d' :: others) :
    m = n ∧ rest = others := by
  obtain ⟨digits, ends⟩ := clear_append_cancel (clear_toDigits (by decide) (by decide) m)
    (clear_toDigits (by decide) (by decide) n) (by simp [isMark]) (by simp [isMark]) same
  exact ⟨toDigits_injective (by decide) (by decide) digits, (List.cons.inj ends).2⟩

def describing : Escaping describeChar '"' where
  own := id
  short := shortEscapes
  mark := 'u'
  number c := '\x7b' :: (Nat.toDigits 16 c.toNat ++ ['\x7d'])
  forms := describeChar_cases
  stop_ne_backslash := by decide
  own_injective _ _ same := same
  short_injective := by decide
  short_unmarked := by decide
  number_delimited c d rest others same := by
    simp only [List.cons_append, List.append_assoc, List.nil_append, List.cons.injEq,
      true_and] at same
    obtain ⟨codes, ends⟩ := toDigits_brace_cancel same
    exact ⟨Char.toNat_inj.mp codes, ends⟩

theorem toList_described (text : String) :
    (described text).toList = '"' :: (text.toList.flatMap describeChar ++ ['"']) := by
  simp [described]

theorem described_delimited : SelfDelimiting fun text : String => (described text).toList := by
  intro text other rest others same
  simp only [toList_described, List.cons_append, List.append_assoc, List.cons.injEq, true_and,
    List.nil_append] at same
  obtain ⟨chars, ends⟩ := describing.flatMap_append_cancel same
  exact ⟨String.toList_inj.mp chars, ends⟩

theorem open_described (text : String) : Open (described text).toList :=
  ⟨_, _, toList_described text, rfl⟩

end Containment.Text
