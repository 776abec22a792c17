namespace Containment.Text

/-! Quoted texts and byte strings, and joined lists of texts. -/

/-- Single quotes, unless the text holds a single quote and no double quote. -/
def quoteOf (text : List Char) : Char :=
  if text.contains '\'' && !text.contains '"' then '"' else '\''

def escapeChar (quote : Char) : Char → List Char
  | '\\' => ['\\', '\\']
  | '\n' => ['\\', 'n']
  | '\r' => ['\\', 'r']
  | '\t' => ['\\', 't']
  | c => if c = quote then ['\\', c] else [c]

def quotedChars (text : List Char) : List Char :=
  quoteOf text :: (text.flatMap (escapeChar (quoteOf text)) ++ [quoteOf text])

def quoted (text : String) : String :=
  String.ofList (quotedChars text.toList)

def hexByte (byte : UInt8) : List Char :=
  [Nat.digitChar (byte.toNat / 16), Nat.digitChar (byte.toNat % 16)]

def escapeByte (byte : UInt8) : List Char :=
  match byte.toNat with
  | 0x5C => ['\\', '\\']
  | 0x27 => ['\\', '\'']
  | 0x0A => ['\\', 'n']
  | 0x0D => ['\\', 'r']
  | 0x09 => ['\\', 't']
  | code =>
      if 0x20 ≤ code ∧ code ≤ 0x7E then [Char.ofNat code]
      else '\\' :: 'x' :: hexByte byte

def quotedBytes (bytes : List UInt8) : String :=
  String.ofList ('b' :: '\'' :: (bytes.flatMap escapeByte ++ ['\'']))

def join (separator : String) : List String → String
  | [] => ""
  | [text] => text
  | text :: rest => text ++ separator ++ join separator rest

/-- A choice in words: a comma between the alternatives and "or" before the last. -/
def oneOf : List String → String
  | [] => ""
  | [text] => text
  | [text, last] => text ++ " or " ++ last
  | text :: rest => text ++ ", " ++ oneOf rest

def braced (texts : List String) : String :=
  "\x7b" ++ join ", " texts ++ "\x7d"

def bracketed (texts : List String) : String :=
  "[" ++ join ", " texts ++ "]"

@[simp] theorem toList_quoted (text : String) :
    (quoted text).toList = quotedChars text.toList := by
  simp [quoted]

end Containment.Text
