import Containment.Proofs.Text.Digits
import Containment.Proofs.Text.Escaping
import Containment.Text.Quoted

namespace Containment.Text

/-! Quoted texts and byte strings end at their closing quote, whatever follows. -/

/-- The characters that are written by a letter inside quotes. -/
def quotedEscapes (quote : Char) : List (Char × Char) :=
  [('\\', '\\'), ('\n', 'n'), ('\r', 'r'), ('\t', 't'), (quote, quote)]

theorem escapeChar_cases (quote c : Char) :
    (escapeChar quote c = [c] ∧ c ≠ quote ∧ c ≠ '\\') ∨
      ∃ letter, escapeChar quote c = ['\\', letter] ∧ (c, letter) ∈ quotedEscapes quote := by
  unfold escapeChar
  split
  case h_5 noBackslash _ _ _ =>
    split
    case isTrue same =>
      subst same
      exact .inr ⟨c, rfl, by simp [quotedEscapes]⟩
    case isFalse noQuote => exact .inl ⟨rfl, noQuote, noBackslash⟩
  all_goals exact .inr ⟨_, rfl, by simp [quotedEscapes]⟩

/-- No character is written by its number. -/
def quoting {quote : Char} (known : quote = '\'' ∨ quote = '"') :
    Escaping (escapeChar quote) quote where
  own := id
  short := quotedEscapes quote
  mark := 'u'
  number c := [c]
  forms c := (escapeChar_cases quote c).imp_right .inl
  stop_ne_backslash := by rcases known with rfl | rfl <;> decide
  own_injective _ _ same := same
  short_injective := by rcases known with rfl | rfl <;> decide
  short_unmarked := by rcases known with rfl | rfl <;> decide
  number_delimited _ _ _ _ same := List.cons.inj same

theorem quoteOf_cases (text : List Char) : quoteOf text = '\'' ∨ quoteOf text = '"' := by
  unfold quoteOf
  split
  · exact .inr rfl
  · exact .inl rfl

theorem quoted_delimited : SelfDelimiting fun text : String => (quoted text).toList := by
  intro text other rest others same
  simp only [toList_quoted, quotedChars, List.cons_append, List.append_assoc, List.nil_append,
    List.cons.injEq] at same
  obtain ⟨quote, same⟩ := same
  rw [← quote] at same
  obtain ⟨chars, ends⟩ := (quoting (quoteOf_cases text.toList)).flatMap_append_cancel same
  exact ⟨String.toList_inj.mp chars, ends⟩

theorem open_quoted (text : String) : Open (quoted text).toList := by
  refine ⟨quoteOf text.toList, _, toList_quoted text, ?_⟩
  rcases quoteOf_cases text.toList with quote | quote <;> rw [quote] <;> rfl

/-- The bytes that are written by a letter. -/
def byteEscapes : List (UInt8 × Char) :=
  [(0x5C, '\\'), (0x27, '\''), (0x0A, 'n'), (0x0D, 'r'), (0x09, 't')]

theorem toNat_ofNat_byte (byte : UInt8) : (Char.ofNat byte.toNat).toNat = byte.toNat := by
  have small : byte.toNat < 256 := byte.toNat_lt
  have valid : byte.toNat.isValidChar := .inl (by omega)
  rw [Char.ofNat, dif_pos valid]
  rfl

theorem escapeByte_cases (byte : UInt8) :
    (escapeByte byte = [Char.ofNat byte.toNat] ∧ Char.ofNat byte.toNat ≠ '\'' ∧
        Char.ofNat byte.toNat ≠ '\\') ∨
      (∃ letter, escapeByte byte = ['\\', letter] ∧ (byte, letter) ∈ byteEscapes) ∨
      escapeByte byte = '\\' :: 'x' :: hexByte byte := by
  unfold escapeByte
  split
  case h_6 noBackslash noQuote _ _ _ =>
    split
    case isTrue =>
      refine .inl ⟨rfl, fun same => noQuote ?_, fun same => noBackslash ?_⟩
      · rw [← toNat_ofNat_byte, same]
        rfl
      · rw [← toNat_ofNat_byte, same]
        rfl
    case isFalse => exact .inr (.inr rfl)
  all_goals
    rename_i code
    refine .inr (.inl ⟨_, rfl, ?_⟩)
    rw [← UInt8.ofNat_toNat (x := byte), code]
    decide

theorem hexByte_delimited : SelfDelimiting hexByte := by
  intro byte other rest others same
  have small : byte.toNat < 256 := byte.toNat_lt
  have small' : other.toNat < 256 := other.toNat_lt
  simp only [hexByte, List.cons_append, List.nil_append, List.cons.injEq] at same
  obtain ⟨high, low, ends⟩ := same
  have quotients := digitChar_injective (by omega) (by omega) high
  have remainders := digitChar_injective (by omega) (by omega) low
  exact ⟨UInt8.toNat_inj.mp (by omega), ends⟩

def byteQuoting : Escaping escapeByte '\'' where
  own byte := Char.ofNat byte.toNat
  short := byteEscapes
  mark := 'x'
  number := hexByte
  forms := escapeByte_cases
  stop_ne_backslash := by decide
  own_injective byte other same := by
    have codes := congrArg Char.toNat same
    rw [toNat_ofNat_byte, toNat_ofNat_byte] at codes
    exact UInt8.toNat_inj.mp codes
  short_injective := by decide
  short_unmarked := by decide
  number_delimited := hexByte_delimited

theorem toList_quotedBytes (content : List UInt8) :
    (quotedBytes content).toList =
      'b' :: '\'' :: (content.flatMap escapeByte ++ ['\'']) := by
  simp [quotedBytes]

theorem quotedBytes_delimited :
    SelfDelimiting fun content : List UInt8 => (quotedBytes content).toList := by
  intro content other rest others same
  simp only [toList_quotedBytes, List.cons_append, List.append_assoc, List.nil_append,
    List.cons.injEq, true_and] at same
  exact byteQuoting.flatMap_append_cancel same

end Containment.Text
