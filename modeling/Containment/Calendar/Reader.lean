import Containment.Calendar.Time
import Containment.Text.Blank
import Containment.Text.Digit

namespace Containment

open Containment.Text

/-! Reading dates and times from text. Blanks may stand before every number; the spaced
forms allow them before every separator and at the end as well. -/

attribute [local instance(1100)] instPowNat

namespace Calendar

/-- A step through a text: what was read and what is left of it. -/
abbrev Reader := StateT (List Char) Option

namespace Reader

def blanks : Reader Unit :=
  modify trimStart

def literal (expected : Char) : Reader Unit := fun text =>
  match text with
  | c :: rest => if c = expected then some ((), rest) else none
  | [] => none

/-- The longest run of ASCII digits up to a width, at least one. -/
def digits (width : Nat) : Reader (List Char) := fun text =>
  match (text.takeWhile Char.isDigit).take width with
  | [] => none
  | run => some (run, text.drop run.length)

def number (width : Nat) : Reader Nat := do
  let run ← digits width
  return Nat.ofDigitChars 10 run 0

def twoDigits : Reader Nat := do
  blanks
  number 2

def year : Reader Int := do
  blanks
  let text ← get
  match text with
  | '-' :: rest =>
      set rest
      return -(← number rest.length)
  | '+' :: rest =>
      set rest
      return (← number rest.length)
  | _ => return (← number 4)

def separator (spaced : Bool) (mark : Char) : Reader Unit := do
  if spaced then blanks
  literal mark

/-- A point and at least one digit, of which nine count. -/
def fraction : Reader Nat := do
  match ← get with
  | '.' :: rest =>
      set rest
      let run ← digits 9
      modify (List.dropWhile Char.isDigit)
      return Nat.ofDigitChars 10 run 0 * 10 ^ (9 - run.length)
  | _ => return 0

/-- Second and nanoseconds. Second 60 is the leap second of second 59. -/
def seconds (spaced : Bool) : Reader (Nat × Nat) := do
  separator spaced ':'
  let second ← twoDigits
  let nanos ← fraction
  if spaced then blanks
  return if second = 60 then (59, nanos + 1000000000) else (second, nanos)

def date (spaced : Bool) : Reader Date := do
  let year ← year
  separator spaced '-'
  let month ← twoDigits
  separator spaced '-'
  let day ← twoDigits
  if spaced then blanks
  Date.ofParts? year month day

def hourAndMinute (spaced : Bool) : Reader (Nat × Nat) := do
  let hour ← twoDigits
  separator spaced ':'
  return (hour, ← twoDigits)

/-- The reader's value, or a default where it fails; then nothing is used up. -/
def orElse (reader : Reader α) (default : α) : Reader α := fun text =>
  some ((reader text).getD (default, text))

def time (spaced : Bool) (seconds : Reader (Nat × Nat)) : Reader Time := do
  let (hour, minute) ← hourAndMinute spaced
  let (second, nanos) ← seconds
  if spaced then blanks
  Time.ofParts? hour minute second nanos

def complete? (reader : Reader α) (text : List Char) : Option α :=
  match reader text with
  | some (value, []) => some value
  | _ => none

end Reader

end Calendar

open Calendar

def Date.ofText? (text : List Char) : Option Date :=
  (Reader.date true).complete? text

def Time.ofText? (text : List Char) : Option Time :=
  (Reader.time true (Reader.orElse (Reader.seconds true) (0, 0))).complete? text

namespace DateTime

def marked : Reader DateTime := do
  let date ← Reader.date true
  Reader.literal 'T'
  return ⟨date, ← Reader.time true (Reader.seconds true)⟩

def blankSeparated (seconds : Reader (Nat × Nat)) : Reader DateTime := do
  let date ← Reader.date false
  Reader.blanks
  return ⟨date, ← Reader.time false seconds⟩

/-- The first form that fits: with the letter T, with blanks and seconds, with blanks and
without seconds, a date alone at midnight. -/
def ofText? (text : List Char) : Option DateTime :=
  marked.complete? text
    |>.or ((blankSeparated (Reader.seconds false)).complete? text)
    |>.or ((blankSeparated (pure (0, 0))).complete? text)
    |>.or ((Date.ofText? text).map fun date => ⟨date, Time.midnight⟩)

end DateTime

end Containment
