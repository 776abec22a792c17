import Containment.Generator
import Containment.Number.Numeral
import Containment.Schema.Description

namespace Containment

/-! Unordered collections of literals. Booleans, integers and floats that denote one number
count as one item. -/

inductive ItemKey where
  | whole (number : Int)
  | fractional (number : Binary64)
  | other (literal : Literal)
  deriving DecidableEq

namespace ItemKey

/-- A float counts as an integer if it has the value of a 64-bit one. -/
def ofLiteral : Literal → ItemKey
  | .bool flag => .whole (if flag then 1 else 0)
  | .int number => .whole number.toInt
  | .float number =>
      match number.toInt?.bind Numeral.int64? with
      | some value => .whole value.toInt
      | none => .fractional number
  | literal => .other literal

def same : ItemKey → ItemKey → Bool
  | .whole a, .whole b => a == b
  | .fractional a, .fractional b => a.agrees b
  | .other a, .other b => a.agrees b
  | _, _ => false

end ItemKey

def Literal.sameItem (left right : Literal) : Bool :=
  (ItemKey.ofLiteral left).same (ItemKey.ofLiteral right)

/-- The elements that exactly so many earlier ones are the same as. -/
def occurrences {α : Type} (same : α → α → Bool) (count : Nat) (earlier : List α) :
    List α → List α
  | [] => []
  | element :: rest =>
      let later := occurrences same count (element :: earlier) rest
      if earlier.countP (same element) = count then element :: later else later

def distinct {α : Type} (same : α → α → Bool) (elements : List α) : List α :=
  occurrences same 0 [] elements

def repeated {α : Type} (same : α → α → Bool) (elements : List α) : List α :=
  occurrences same 1 [] elements

structure Collection where
  items : List Literal
  checkExtra : Bool
  checkRepeats : Bool
  itemType : Schema

namespace Collection

/-- A collection of the distinct literals of a list, with all its checks on. -/
def ofItems (items : List Literal) : Collection :=
  ⟨distinct Literal.agrees items, true, true, .anyLiteral⟩

inductive Discrepancy where
  | notList (value : Value)
  | unhashable (elements : List Value)
  | missing (items : List Literal)
  | extra (items : List Literal)
  | repeats (items : List Literal)

def Discrepancy.render : Discrepancy → String
  | .notList value => "expected a list, got " ++ value.render
  | .unhashable elements =>
      "unhashable items found: " ++ Text.braced (elements.map Value.render)
  | .missing items => "items missing: " ++ Text.braced (items.map Literal.render)
  | .extra items => "extra items found: " ++ Text.braced (items.map Literal.render)
  | .repeats items => "repeating items found: " ++ Text.braced (items.map Literal.render)

/-- The literals of one list that are no items of another, each once. -/
def lacking (items others : List Literal) : List Literal :=
  (distinct Literal.sameItem items).filter fun item => !others.any item.sameItem

def compare (collection : Collection) (literals : List Literal) : Except Discrepancy Unit :=
  let missing := lacking collection.items literals
  let extra := lacking literals collection.items
  let repeats := repeated Literal.sameItem literals
  if !missing.isEmpty then .error (.missing missing)
  else if collection.checkExtra && !extra.isEmpty then .error (.extra extra)
  else if collection.checkRepeats && !repeats.isEmpty then .error (.repeats repeats)
  else .ok ()

/-- The first discrepancy: elements that are no literals, then missing items, extra items
and repeated items. -/
def inspect (collection : Collection) : Value → Except Discrepancy Unit
  | .list elements =>
      let unhashable := elements.filter fun element => (Literal.ofValue? element).isNone
      if unhashable.isEmpty then collection.compare (elements.filterMap Literal.ofValue?)
      else .error (.unhashable unhashable)
  | value => .error (.notList value)

def describe (collection : Collection) : String :=
  Text.record "UnorderedLiteralCollection" [
    ("items", Text.braced (collection.items.map Literal.describe)),
    ("check_extra", Text.describeBool collection.checkExtra),
    ("check_repeats", Text.describeBool collection.checkRepeats),
    ("item_type", collection.itemType.describe)]

def toGenerator (collection : Collection) : Generator where
  name := "UnorderedLiteralCollection"
  dataType := .list collection.itemType
  check value := (collection.inspect value).mapError Discrepancy.render
  shown := collection.describe

end Collection

end Containment
