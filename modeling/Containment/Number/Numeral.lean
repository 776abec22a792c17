import Containment.Number.Binary64
import Containment.Text.Digit

namespace Containment.Numeral

open Containment.Text

/-! Numbers written as text. The written forms admit the digits of every script, but only
ASCII digits denote a number. -/

attribute [local instance(1100)] instPowNat

/-- An optional sign, then digit groups joined by single underscores. -/
def isInteger (text : List Char) : Bool :=
  isDigitGroups isDecimalDigit (splitSign text).2

/-- The number that an optional sign and ASCII digits denote; underscores are passed over. -/
def int? (text : List Char) : Option Int :=
  let (negative, digits) := splitSign (dropUnderscores text)
  (natOfDigits? digits).map (Binary64.signed negative)

/-- The parts of a written number. The exponent keeps its sign and digits as written. -/
structure Parts where
  negative : Bool
  whole : List Char
  fraction : List Char
  exponent : List Char
  deriving DecidableEq

def isGroupChar (c : Char) : Bool :=
  isDecimalDigit c || c == '_'

def isExponentMark (c : Char) : Bool :=
  c == 'e' || c == 'E'

/-- What may follow the digits: nothing, or an exponent with at least one digit. -/
def exponent? : List Char → Option (List Char)
  | [] => some []
  | mark :: rest =>
      if isExponentMark mark && isDigits isDecimalDigit (splitSign rest).2 then some rest
      else none

/-- Takes a written number apart: digit groups on at least one side of the point. -/
def parts? (text : List Char) : Option Parts :=
  let (negative, digits) := splitSign text
  let (whole, rest) := digits.span isGroupChar
  match rest with
  | '.' :: rest =>
      let (fraction, rest) := rest.span isGroupChar
      let wholeOk := whole.isEmpty || isDigitGroups isDecimalDigit whole
      let fractionOk := fraction.isEmpty || isDigitGroups isDecimalDigit fraction
      if wholeOk && fractionOk && !(whole.isEmpty && fraction.isEmpty) then
        (exponent? rest).map fun exponent => ⟨negative, whole, fraction, exponent⟩
      else none
  | rest =>
      if isDigitGroups isDecimalDigit whole then
        (exponent? rest).map fun exponent => ⟨negative, whole, [], exponent⟩
      else none

def Parts.toBinary64? (parts : Parts) : Option Binary64 := do
  let fraction := dropUnderscores parts.fraction
  let digits ← natOfDigits? (dropUnderscores parts.whole ++ fraction)
  let exponent ← if parts.exponent.isEmpty then some 0 else int? parts.exponent
  return Binary64.ofDecimal parts.negative digits (exponent - fraction.length)

/-- The words for infinity and not-a-number, with an optional sign and in any case. -/
def special? (text : List Char) : Option Binary64 :=
  let (negative, word) := splitSign text
  match String.ofList (word.map Char.toLower) with
  | "inf" => some (.infinite negative)
  | "infinity" => some (.infinite negative)
  | "nan" => some .nan
  | _ => none

def binary64? (text : List Char) : Option Binary64 :=
  match special? text with
  | some x => some x
  | none => (parts? text).bind Parts.toBinary64?

/-- The 64-bit integer with this value, if there is one. -/
def int64? (n : Int) : Option Int64 :=
  if -2 ^ (63 : Nat) ≤ n ∧ n < 2 ^ (63 : Nat) then some (Int64.ofInt n) else none

theorem int64?_toInt (n : Int64) : int64? n.toInt = some n := by
  rw [int64?, if_pos ⟨n.le_toInt, n.toInt_lt⟩, Int64.ofInt_toInt]

theorem toInt_of_int64? {n : Int} {m : Int64} (h : int64? n = some m) : m.toInt = n := by
  simp only [int64?] at h
  split at h
  · rename_i bounds
    cases h
    exact Int64.toInt_ofInt_of_le bounds.1 bounds.2
  · cases h

end Containment.Numeral
