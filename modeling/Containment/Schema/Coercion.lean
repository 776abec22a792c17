import Containment.Calendar.Reader
import Containment.Calendar.Timestamp
import Containment.Fault
import Containment.Number.Numeral
import Containment.Schema
import Containment.Text.Encoding

namespace Containment

/-! What the scalar types accept beyond the values of their own kind, and the value that is
taken instead. Text is trimmed, and bytes count as the text they encode. -/

namespace Scalar

open Containment.Text

/-- Reads a trimmed text; there is none where bytes encode none. -/
def ofText (unreadable : Fault) (read : List Char → Except Fault Value) :
    Option String → Except Fault Value
  | some text => read (trim text.toList)
  | none => .error unreadable

def falseWords : List String := ["0", "off", "f", "false", "n", "no"]

def trueWords : List String := ["1", "on", "t", "true", "y", "yes"]

def boolOfText (text : List Char) : Except Fault Value :=
  let word := String.ofList (text.map Char.toLower)
  if word ∈ falseWords then .ok (.bool false)
  else if word ∈ trueWords then .ok (.bool true)
  else .error .boolText

def toBool : Value → Except Fault Value
  | .bool flag => .ok (.bool flag)
  | .int number =>
      if number = 0 then .ok (.bool false)
      else if number = 1 then .ok (.bool true)
      else .error .boolText
  | .float number =>
      if number.equals (.ofNat 0) then .ok (.bool false)
      else if number.equals (.ofNat 1) then .ok (.bool true)
      else .error .boolText
  | .str text => ofText .boolText boolOfText (some text)
  | .bytes content => ofText .boolText boolOfText (ofUTF8? content)
  | _ => .error .notBool

/-- The text must be a written integer; whether its value fits is another question. -/
def intOfText (text : List Char) : Except Fault Value :=
  if Numeral.isInteger text then
    match (Numeral.int? text).bind Numeral.int64? with
    | some number => .ok (.int number)
    | none => .error .intTextSize
  else .error .intText

def intOfFloat (number : Binary64) : Except Fault Value :=
  match number.units?, number.toInt? with
  | none, _ => .error .notFinite
  | some _, none => .error .floatFraction
  | some _, some whole =>
      match Numeral.int64? whole with
      | some number => .ok (.int number)
      | none => .error .floatSize

def toInt : Value → Except Fault Value
  | .int number => .ok (.int number)
  | .bool flag => .ok (.int (if flag then 1 else 0))
  | .float number => intOfFloat number
  | .str text => ofText .intText intOfText (some text)
  | .bytes content => ofText .intText intOfText (ofUTF8? content)
  | _ => .error .notInt

def floatOfText (text : List Char) : Except Fault Value :=
  match Numeral.binary64? text with
  | some number => .ok (.float number)
  | none => .error .floatText

def toFloat : Value → Except Fault Value
  | .float number => .ok (.float number)
  | .int number => .ok (.float (.ofInt number.toInt))
  | .bool flag => .ok (.float (.ofNat (if flag then 1 else 0)))
  | .str text => ofText .floatText floatOfText (some text)
  | .bytes content => ofText .floatText floatOfText (ofUTF8? content)
  | _ => .error .notFloat

def toStr : Value → Except Fault Value
  | .str text => .ok (.str text)
  | .bytes content =>
      match ofUTF8? content with
      | some text => .ok (.str text)
      | none => .error .strEncoding
  | .member _ _ (.str text) => .ok (.str text)
  | _ => .error .notStr

def toBytes : Value → Except Fault Value
  | .bytes content => .ok (.bytes content)
  | .str text => .ok (.bytes (toUTF8 text))
  | _ => .error .notBytes

def dateOfText (text : List Char) : Except Fault Value :=
  match Date.ofText? text with
  | some day => .ok (.date day)
  | none => .error .dateText

def toDate : Value → Except Fault Value
  | .date day => .ok (.date day)
  | .datetime moment =>
      if moment.time = Time.midnight then .ok (.date moment.date) else .error .inexactDate
  | .str text => ofText .dateText dateOfText (some text)
  | .bytes content => ofText .dateText dateOfText (ofUTF8? content)
  | _ => .error .notDate

def timeOfText (text : List Char) : Except Fault Value :=
  match Time.ofText? text with
  | some clock => .ok (.time clock)
  | none => .error .timeText

def toTime : Value → Except Fault Value
  | .time clock => .ok (.time clock)
  | .str text => ofText .timeText timeOfText (some text)
  | .bytes content => ofText .timeText timeOfText (ofUTF8? content)
  | _ => .error .notTime

def momentOr (moment? : Option DateTime) : Except Fault Value :=
  match moment? with
  | some moment => .ok (.datetime moment)
  | none => .error .dateTimeText

def dateTimeOfText (text : List Char) : Except Fault Value :=
  momentOr (DateTime.ofText? text)

def toDateTime : Value → Except Fault Value
  | .datetime moment => .ok (.datetime moment)
  | .str text => ofText .dateTimeText dateTimeOfText (some text)
  | .bytes content => ofText .dateTimeText dateTimeOfText (ofUTF8? content)
  | .int number => momentOr (DateTime.ofTimestamp? (.ofInt number.toInt))
  | .float number => momentOr (DateTime.ofTimestamp? number)
  | _ => .error .notDateTime

def toNull : Value → Except Fault Value
  | .null => .ok .null
  | _ => .error .notNull

def coerce : Scalar → Value → Except Fault Value
  | .null => toNull
  | .bool => toBool
  | .int => toInt
  | .float => toFloat
  | .bytes => toBytes
  | .str => toStr
  | .date => toDate
  | .time => toTime
  | .datetime => toDateTime

end Scalar

/-- A member of the enumeration is kept, and the payload of a member stands for it. -/
def EnumType.coerce (type : EnumType) (value : Value) : Except Fault Value :=
  if type.contains value then .ok value
  else
    match type.ofPayload? value with
    | some member => .ok member
    | none => .error (.notOfEnumeration type)

end Containment
