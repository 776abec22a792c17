import Containment.Proofs.Number.Integer
import Containment.Proofs.Schema.Textual
import Containment.Proofs.Schema.Validation

namespace Containment

open Text Numeral

/-! Text where an integer is expected: which texts are taken and for which number, and how the
others are reported. -/

attribute [local instance(1100)] instPowNat

namespace Scalar

variable {text : List Char} {value : Value} {number : Int}

/-- The three outcomes for a text: an integer of 64 bits in ASCII digits, any other written
integer, and what is no written integer. -/
theorem intOfText_cases (text : List Char) :
    (∃ number, Denotes Char.isDigit text number ∧ -2 ^ (63 : Nat) ≤ number ∧
      number ≤ 2 ^ (63 : Nat) - 1 ∧ intOfText text = .ok (.int (Int64.ofInt number))) ∨
    (∃ number, Denotes isDecimalDigit text number ∧
      (number < -2 ^ (63 : Nat) ∨ 2 ^ (63 : Nat) - 1 < number ∨
        ¬ Denotes Char.isDigit text number) ∧ intOfText text = .error .intTextSize) ∨
    ((∀ number, ¬ Denotes isDecimalDigit text number) ∧ intOfText text = .error .intText) := by
  by_cases integer : isInteger text = true
  case neg =>
    refine .inr (.inr ⟨fun number denotes => ?_, if_neg integer⟩)
    exact integer (isInteger_iff_denotes.mpr ⟨number, denotes⟩)
  have outcome : intOfText text =
      ((int? text).bind int64?).elim (.error .intTextSize) fun word => .ok (.int word) := by
    rw [intOfText, if_pos integer]
    cases (int? text).bind int64? <;> rfl
  cases read : int? text with
  | none =>
      obtain ⟨number, denotes⟩ := isInteger_iff_denotes.mp integer
      rw [read] at outcome
      refine .inr (.inl ⟨number, denotes, .inr (.inr fun ascii => ?_), outcome⟩)
      rw [(int?_eq_some_iff integer).mpr ascii] at read
      cases read
  | some number =>
      have ascii := (int?_eq_some_iff integer).mp read
      rw [read, Option.bind_some] at outcome
      cases fits : int64? number with
      | some word =>
          rw [fits] at outcome
          obtain ⟨least, most, rfl⟩ := int64?_eq_some_iff.mp fits
          exact .inl ⟨number, ascii, least, most, outcome⟩
      | none =>
          rw [fits] at outcome
          have beyond := int64?_eq_none_iff.mp fits
          exact .inr (.inl ⟨number, ascii.of_ascii, beyond.imp_right .inl, outcome⟩)

theorem intOfText_eq_ok_iff :
    intOfText text = .ok value ↔ ∃ number, Denotes Char.isDigit text number ∧
      -2 ^ (63 : Nat) ≤ number ∧ number ≤ 2 ^ (63 : Nat) - 1 ∧
        value = .int (Int64.ofInt number) := by
  constructor
  · intro made
    rcases intOfText_cases text with
      ⟨number, denotes, least, most, outcome⟩ | ⟨_, _, _, outcome⟩ | ⟨_, outcome⟩ <;>
      rw [outcome] at made <;> cases made
    exact ⟨number, denotes, least, most, rfl⟩
  · rintro ⟨number, denotes, least, most, rfl⟩
    rcases intOfText_cases text with
      ⟨other, denotes', _, _, outcome⟩ | ⟨other, decimal, excluded, _⟩ | ⟨none, _⟩
    · rw [outcome, denotes'.of_ascii.unique denotes.of_ascii]
    · obtain rfl := decimal.unique denotes.of_ascii
      rcases excluded with low | high | foreign
      · omega
      · omega
      · exact absurd denotes foreign
    · exact absurd denotes.of_ascii (none number)

end Scalar

namespace Schema

open Scalar

variable {value : Value} {text : String}

theorem validate_int_of_stripped {core : List Char} (textual : value.text? = some text)
    (stripped : Stripped text.toList core) (location : Location) :
    (scalar .int).validate value location = judge (intOfText core) value location := by
  rw [validate, coerce_of_stripped rfl textual stripped]

/-- A text is taken for an integer if and only if, without the blanks around it, it is a sign or
none and then groups of ASCII digits with single underscores between them, and the number that
these denote fits 64 bits. Bytes are taken as the text that they encode, or refused. -/
theorem integer_text_grammar (location : Location) :
    (∀ (value : Value) (text : String), value.text? = some text → ∀ result : Value,
      ((scalar .int).validate value location = .ok result ↔
        ∃ core number, Stripped text.toList core ∧ Denotes Char.isDigit core number ∧
          -2 ^ (63 : Nat) ≤ number ∧ number ≤ 2 ^ (63 : Nat) - 1 ∧
            result = .int (Int64.ofInt number))) ∧
    ∀ content : List UInt8, (∀ text, content ≠ toUTF8 text) →
      (scalar .int).validate (.bytes content) location =
        .error (Fault.intText.report (.bytes content) location) := by
  constructor
  · intro value text textual result
    have stripped := stripped_trim text.toList
    rw [validate_int_of_stripped textual stripped, judge_eq_ok_iff, intOfText_eq_ok_iff]
    constructor
    · rintro ⟨number, accepted⟩
      exact ⟨_, number, stripped, accepted⟩
    · rintro ⟨core, number, stripped', accepted⟩
      obtain rfl := stripped'.trim_eq
      exact ⟨number, accepted⟩
  · intro content encodesNone
    have none : ofUTF8? content = none := by
      refine Option.eq_none_iff_forall_ne_some.mpr fun text decoded => ?_
      exact encodesNone text (ofUTF8?_eq_some_iff.mp decoded)
    have reads : Scalar.int.reader? = some (.intText, intOfText) := rfl
    rw [validate, coerce_of_no_text reads none]
    rfl

/-- A minus sign, a leading zero and an underscore, between blanks and in bytes; and a byte that
encodes no text. -/
theorem integer_text_grammar_of_twelve :
    let value : Value := .bytes (toUTF8 "\u3000-0_12\n")
    value.text? = some "\u3000-0_12\n" ∧
      (scalar .int).validate value Location.root = .ok (.int (-12)) ∧
      (∀ text, [0xFF] ≠ toUTF8 text) ∧
      (scalar .int).validate (.bytes [0xFF]) Location.root =
        .error (Fault.intText.report (.bytes [0xFF]) Location.root) := by
  intro value
  have textual : value.text? = some "\u3000-0_12\n" := Value.text?_bytes_toUTF8 _
  have stripped : Stripped "\u3000-0_12\n".toList ['-', '0', '_', '1', '2'] :=
    ⟨⟨['\u3000'], ['\n'], rfl, List.all_eq_true.mp rfl⟩, ⟨by rintro c ⟨⟩; rfl, by rintro c ⟨⟩; rfl⟩⟩
  have denotes : Denotes Char.isDigit ['-', '0', '_', '1', '2'] (-12) :=
    ⟨true, ['0', '1', '2'], .minus (.next ['0'] (by decide) (List.all_eq_true.mp rfl)
      (.last (by decide) (List.all_eq_true.mp rfl))), by decide⟩
  have encodesNone : ∀ text, [0xFF] ≠ toUTF8 text := by
    intro text same
    have decoded := ofUTF8?_eq_some_iff.mpr same
    have none : ofUTF8? [0xFF] = none := by decide
    rw [none] at decoded
    cases decoded
  have grammar := integer_text_grammar Location.root
  refine ⟨textual, ?_, encodesNone, grammar.2 [0xFF] encodesNone⟩
  exact (grammar.1 value _ textual _).mpr
    ⟨_, -12, stripped, denotes, by decide, by decide, by decide⟩

/-- A text that is refused is reported as too large if and only if it is a written integer in
the digits of any script that does not fit 64 bits or has a digit that is not ASCII. All other
texts are reported as no integers. -/
theorem integer_text_rejections {value : Value} {text : String} {core : List Char}
    {location : Location} {report : Report} (textual : value.text? = some text)
    (stripped : Stripped text.toList core)
    (rejected : (scalar .int).validate value location = .error report) :
    (report.toList.map Mismatch.kind = ["int_parsing_size"] ∧
      ∃ number, Denotes isDecimalDigit core number ∧
        (number < -2 ^ (63 : Nat) ∨ 2 ^ (63 : Nat) - 1 < number ∨
          ¬ Denotes Char.isDigit core number)) ∨
    (report.toList.map Mismatch.kind = ["int_parsing"] ∧
      ∀ number, ¬ Denotes isDecimalDigit core number) := by
  rw [validate_int_of_stripped textual stripped] at rejected
  rcases intOfText_cases core with
    ⟨_, _, _, _, outcome⟩ | ⟨number, denotes, excluded, outcome⟩ | ⟨none, outcome⟩ <;>
    rw [outcome, judge] at rejected <;> cases rejected
  · exact .inl ⟨rfl, number, denotes, excluded⟩
  · exact .inr ⟨rfl, none⟩

/-- The first number past the greatest. -/
theorem integer_text_rejections_past_the_limit :
    let value : Value := .str " 9223372036854775_808"
    let core := "9223372036854775".toList ++ '_' :: "808".toList
    value.text? = some " 9223372036854775_808" ∧
      Stripped " 9223372036854775_808".toList core ∧
      ∃ report, (scalar .int).validate value Location.root = .error report ∧
        report.toList.map Mismatch.kind = ["int_parsing_size"] ∧
        ∃ number, Denotes isDecimalDigit core number ∧
          (number < -2 ^ (63 : Nat) ∨ 2 ^ (63 : Nat) - 1 < number ∨
            ¬ Denotes Char.isDigit core number) := by
  intro value core
  have stripped : Stripped " 9223372036854775_808".toList core :=
    ⟨⟨[' '], [], rfl, List.all_eq_true.mp rfl⟩, ⟨by rintro c ⟨⟩; rfl, by rintro c ⟨⟩; rfl⟩⟩
  have denotes : Denotes isDecimalDigit core 9223372036854775808 :=
    ⟨false, _, .bare (.next _ (by decide) (List.all_eq_true.mp (by decide))
      (.last (by decide) (List.all_eq_true.mp (by decide)))), by decide⟩
  cases outcome : (scalar .int).validate value Location.root with
  | ok result =>
      rw [validate_int_of_stripped rfl stripped, judge_eq_ok_iff] at outcome
      obtain ⟨number, ascii, _, most, _⟩ := intOfText_eq_ok_iff.mp outcome
      have same := denotes.unique ascii.of_ascii
      omega
  | error report =>
      have reported := integer_text_rejections rfl stripped outcome
      exact ⟨rfl, stripped, report, rfl,
        reported.resolve_right fun parsing => parsing.2 _ denotes⟩

/-- An Arabic three is reported as too large. It denotes three in its own script, and in ASCII
digits it denotes no number. -/
theorem arabic_three_reported_as_too_large :
    let value : Value := .str "٣"
    (scalar .int).check value = .error (Fault.intTextSize.report value Location.root) ∧
      Fault.intTextSize.kind = "int_parsing_size" ∧ Stripped "٣".toList ['٣'] ∧
      Denotes isDecimalDigit ['٣'] 3 ∧ ∀ number, ¬ Denotes Char.isDigit ['٣'] number := by
  intro value
  have stripped : Stripped "٣".toList ['٣'] :=
    ⟨⟨[], [], rfl, List.all_eq_true.mp rfl⟩, ⟨by rintro c ⟨⟩; rfl, by rintro c ⟨⟩; rfl⟩⟩
  have outcome : intOfText ['٣'] = .error .intTextSize := rfl
  have rejected : (scalar .int).check value =
      .error (Fault.intTextSize.report value Location.root) := by
    rw [check, validate_int_of_stripped rfl stripped, outcome]
    rfl
  refine ⟨rejected, rfl, stripped, ?_, fun number ascii => ?_⟩
  · exact ⟨false, ['٣'], .bare (.last (by decide) (List.all_eq_true.mp (by decide))), by decide⟩
  · have read : int? ['٣'] = none := rfl
    rw [(int?_eq_some_iff (by decide)).mpr ascii] at read
    cases read

end Schema

end Containment
