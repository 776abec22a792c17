import Containment.Proofs.Text.Trimming
import Containment.Schema.Validation

namespace Containment

/-! Values that are texts, or bytes that encode texts: the types that read text read both alike,
without the blanks around them. -/

namespace Text

theorem ofUTF8?_eq_some_iff {content : List UInt8} {text : String} :
    ofUTF8? content = some text ↔ content = toUTF8 text := by
  constructor
  · intro decoded
    rw [ofUTF8?, String.fromUTF8?] at decoded
    split at decoded
    · cases decoded
      rfl
    · cases decoded
  · rintro rfl
    exact ofUTF8?_toUTF8 text

end Text

namespace Value

/-- The text that a value is or encodes. -/
def text? : Value → Option String
  | .str text => some text
  | .bytes content => Text.ofUTF8? content
  | _ => none

theorem text?_bytes_toUTF8 (text : String) : (bytes (Text.toUTF8 text)).text? = some text :=
  Text.ofUTF8?_toUTF8 text

/-- A value that is or encodes a text is that text, or its bytes. -/
theorem text?_eq_some_iff {value : Value} {text : String} :
    value.text? = some text ↔ value = .str text ∨ value = .bytes (Text.toUTF8 text) := by
  cases value with
  | str | bytes => simp [text?, Text.ofUTF8?_eq_some_iff]
  | _ => simp [text?]

end Value

namespace Scalar

open Text

/-- How a type reads text: the fault of bytes that encode none, and the reader of trimmed text. -/
def reader? : Scalar → Option (Fault × (List Char → Except Fault Value))
  | .bool => some (.boolText, boolOfText)
  | .int => some (.intText, intOfText)
  | .float => some (.floatText, floatOfText)
  | .date => some (.dateText, dateOfText)
  | .time => some (.timeText, timeOfText)
  | .datetime => some (.dateTimeText, dateTimeOfText)
  | _ => none

variable {type : Scalar} {unreadable : Fault} {read : List Char → Except Fault Value}

theorem coerce_of_text? {value : Value} {text : String}
    (reads : type.reader? = some (unreadable, read)) (textual : value.text? = some text) :
    type.coerce value = read (trim text.toList) := by
  rcases Value.text?_eq_some_iff.mp textual with rfl | rfl <;> cases type with
  | null | bytes | str => cases reads
  | _ =>
      cases reads
      simp only [coerce, toBool, toInt, toFloat, toDate, toTime, toDateTime, ofText,
        ofUTF8?_toUTF8]

theorem coerce_of_no_text {content : List UInt8}
    (reads : type.reader? = some (unreadable, read)) (none : ofUTF8? content = none) :
    type.coerce (.bytes content) = .error unreadable := by
  cases type with
  | null | bytes | str => cases reads
  | _ =>
      cases reads
      simp only [coerce, toBool, toInt, toFloat, toDate, toTime, toDateTime, ofText, none]

/-- The outcome for a text is that of what the blanks around it leave. -/
theorem coerce_of_stripped {value : Value} {text : String} {core : List Char}
    (reads : type.reader? = some (unreadable, read)) (textual : value.text? = some text)
    (stripped : Stripped text.toList core) : type.coerce value = read core := by
  rw [coerce_of_text? reads textual, stripped.trim_eq]

end Scalar

end Containment
