import Containment.Json

namespace Containment.Json

/-! Reading JSON text. Object members are kept in the order of their names, and of members
with one name the last is taken. Numbers without fraction and exponent are integers as far
as 64 bits hold them. All other numbers are scaled from the leading digits that 64 bits
hold, and a number beyond the range is refused. -/

attribute [local instance(1100)] instPowNat

abbrev Reader := StateT (List Char) Option

namespace Reader

def isSpace (c : Char) : Bool :=
  c == ' ' || c == '\n' || c == '\t' || c == '\r'

def spaces : Reader Unit :=
  modify (List.dropWhile isSpace)

def next : Reader Char := do
  match ← get with
  | c :: rest =>
      set rest
      return c
  | [] => failure

def expect (expected : Char) : Reader Unit := do
  if (← next) = expected then return () else failure

def keyword (word : List Char) (document : Json) : Reader Json := do
  let text ← get
  if text.take word.length = word then
    set (text.drop word.length)
    return document
  else failure

def codeUnit? (digits : List Char) : Option Nat :=
  let value? (c : Char) : Option Nat :=
    if c.isDigit then some (c.toNat - '0'.toNat)
    else if 'a' ≤ c ∧ c ≤ 'f' then some (c.toNat - 'a'.toNat + 10)
    else if 'A' ≤ c ∧ c ≤ 'F' then some (c.toNat - 'A'.toNat + 10)
    else none
  digits.foldlM (fun sum c => (value? c).map (16 * sum + ·)) 0

def escaped? : Char → Option Char
  | '"' => some '"'
  | '\\' => some '\\'
  | '/' => some '/'
  | 'b' => some '\x08'
  | 'f' => some '\x0c'
  | 'n' => some '\n'
  | 'r' => some '\r'
  | 't' => some '\t'
  | _ => none

/-- The rest of a string up to its closing quote, and what follows it. A character beyond
the first plane may be escaped as a pair of surrogate code units. -/
def stringRest : List Char → Option (List Char × List Char)
  | [] => none
  | '"' :: rest => some ([], rest)
  | '\\' :: 'u' :: a :: b :: c :: d :: rest => do
      let unit ← codeUnit? [a, b, c, d]
      if 0xD800 ≤ unit ∧ unit < 0xDC00 then
        match rest with
        | '\\' :: 'u' :: e :: f :: g :: h :: rest =>
            let low ← codeUnit? [e, f, g, h]
            guard (0xDC00 ≤ low ∧ low < 0xE000)
            let (text, rest) ← stringRest rest
            return (Char.ofNat (0x10000 + (unit - 0xD800) * 0x400 + (low - 0xDC00)) :: text,
              rest)
        | _ => none
      else
        guard (¬(0xDC00 ≤ unit ∧ unit < 0xE000))
        let (text, rest) ← stringRest rest
        return (Char.ofNat unit :: text, rest)
  | '\\' :: mark :: rest => do
      let c ← escaped? mark
      let (text, rest) ← stringRest rest
      return (c :: text, rest)
  | c :: rest => do
      guard (0x20 ≤ c.toNat)
      let (text, rest) ← stringRest rest
      return (c :: text, rest)

def string : Reader String := do
  expect '"'
  let text ← stringRest
  return String.ofList text

def digits : Reader (List Char) := do
  let text ← get
  set (text.dropWhile Char.isDigit)
  return text.takeWhile Char.isDigit

/-- Takes digits into a significand as far as 64 bits hold it; also how many were taken. -/
def accumulate : Nat → List Char → Nat × Nat
  | significand, [] => (significand, 0)
  | significand, c :: rest =>
      let longer := 10 * significand + (c.toNat - '0'.toNat)
      if longer < 2 ^ (64 : Nat) then
        let (result, taken) := accumulate longer rest
        (result, taken + 1)
      else (significand, 0)

def maxPower : Int := 308

/-- A significand scaled by a power of ten, in steps that are rounded one by one. -/
def scaled (significand : Nat) (exponent : Int) : Binary64 :=
  let start := Binary64.ofNat significand
  let power (k : Int) := Binary64.ofNat (10 ^ k.toNat)
  if significand = 0 then start
  else if maxPower < exponent then .infinite false
  else if 0 ≤ exponent then start.mul (power exponent)
  else if -maxPower ≤ exponent then start.div (power (-exponent))
  else if -2 * maxPower ≤ exponent then
    (start.div (power maxPower)).div (power (-exponent - maxPower))
  else .zero false

def exponent : Reader Int := do
  let negative ← match ← get with
    | '-' :: rest => do
        set rest
        pure true
    | '+' :: rest => do
        set rest
        pure false
    | _ => pure false
  let run ← digits
  guard !run.isEmpty
  return Binary64.signed negative (Nat.ofDigitChars 10 run 0)

def fraction? : Reader (Option (List Char)) := do
  match ← get with
  | '.' :: rest =>
      set rest
      let run ← digits
      guard !run.isEmpty
      return some run
  | _ => return none

def exponent? : Reader (Option Int) := do
  match ← get with
  | 'e' :: rest =>
      set rest
      return some (← exponent)
  | 'E' :: rest =>
      set rest
      return some (← exponent)
  | _ => return none

/-- The number with these parts. Minus zero is not an integer. -/
def numberOf (negative : Bool) (whole : List Char) (fraction? : Option (List Char))
    (exponent? : Option Int) : Option Json := do
  let (significand, wholeTaken) := accumulate 0 whole
  let integral := fraction?.isNone && exponent?.isNone && wholeTaken == whole.length
  if integral && (!negative || (0 < significand && significand ≤ 2 ^ (63 : Nat))) then
    return .integer (Binary64.signed negative significand)
  let (significand, fractionTaken) := accumulate significand (fraction?.getD [])
  let shift : Int := whole.length - wholeTaken - fractionTaken
  let size := scaled significand (shift + exponent?.getD 0)
  let number := if negative then size.neg else size
  if finite : number.units?.isSome = true then some (.decimal number finite) else none

/-- No digit stands before or after a leading zero. -/
def number : Reader Json := do
  let negative ← match ← get with
    | '-' :: rest => do
        set rest
        pure true
    | _ => pure false
  let whole ← digits
  guard (!whole.isEmpty && (whole.length == 1 || whole.head? != some '0'))
  let fraction ← fraction?
  let power ← exponent?
  numberOf negative whole fraction power

/-- Enters a member in the order of names, in place of one with the same name. -/
def insertMember (name : String) (document : Json) : Entries Json → Entries Json
  | [] => [(name, document)]
  | (other, old) :: rest =>
      if name = other then (name, document) :: rest
      else if name < other then (name, document) :: (other, old) :: rest
      else (other, old) :: insertMember name document rest

mutual
/-- A document; the first number bounds the steps and the second the depth. -/
def document : Nat → Nat → Reader Json
  | 0, _ => failure
  | _, 0 => failure
  | steps + 1, depth + 1 => do
      spaces
      match ← get with
      | 'n' :: _ => keyword ['n', 'u', 'l', 'l'] .null
      | 't' :: _ => keyword ['t', 'r', 'u', 'e'] (.bool true)
      | 'f' :: _ => keyword ['f', 'a', 'l', 's', 'e'] (.bool false)
      | '"' :: _ => return .string (← string)
      | '[' :: rest =>
          set rest
          guard (0 < depth)
          spaces
          match ← get with
          | ']' :: rest =>
              set rest
              return .array []
          | _ => return .array (← elements steps depth)
      | '{' :: rest =>
          set rest
          guard (0 < depth)
          spaces
          match ← get with
          | '}' :: rest =>
              set rest
              return .object []
          | _ =>
              let pairs ← members steps depth
              return .object (pairs.foldl (fun sorted pair =>
                insertMember pair.1 pair.2 sorted) [])
      | _ => number

def elements : Nat → Nat → Reader (List Json)
  | 0, _ => failure
  | steps + 1, depth => do
      let first ← document steps depth
      spaces
      match ← next with
      | ',' => return first :: (← elements steps depth)
      | ']' => return [first]
      | _ => failure

def members : Nat → Nat → Reader (List (String × Json))
  | 0, _ => failure
  | steps + 1, depth => do
      spaces
      let name ← string
      spaces
      expect ':'
      let first ← document steps depth
      spaces
      match ← next with
      | ',' => return (name, first) :: (← members steps depth)
      | '}' => return [(name, first)]
      | _ => failure
end

def maxDepth : Nat := 128

end Reader

def ofText? (text : String) : Option Json :=
  let chars := text.toList
  match (Reader.document (2 * chars.length + 2) Reader.maxDepth) chars with
  | some (document, rest) => if rest.all Reader.isSpace then some document else none
  | none => none

end Containment.Json
