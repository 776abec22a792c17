import Containment.Registry
import Containment.Schema.Description
import Containment.Schema.Equality
import Containment.Schema.Validation
import Containment.Shape.Key

namespace Containment

/-! Conversion with a memory. Rules of plain shapes are kept for reuse, up to a capacity,
the oldest being dropped first. The parts of a shape are never looked up or kept. -/

/-- The kept rules, oldest first, and the number of runs so far, which tells the checks of
one run from those of another. -/
structure Memo where
  entries : List (String × Rule)
  runs : Nat

namespace Memo

def empty : Memo := ⟨[], 0⟩

def size (memo : Memo) : Nat :=
  memo.entries.length

def lookup? (memo : Memo) (key : String) : Option Rule :=
  (memo.entries.find? fun entry => entry.1 = key).map Prod.snd

/-- Keeps a rule, dropping the oldest one where the memory is full. -/
def store (memo : Memo) (capacity : Nat) (key : String) (rule : Rule) : Memo :=
  let room := if capacity ≤ memo.size then memo.entries.drop 1 else memo.entries
  { memo with entries := if 0 < capacity then room ++ [(key, rule)] else room }

def nextRun (memo : Memo) : Memo :=
  { memo with runs := memo.runs + 1 }

def clear (memo : Memo) : Memo :=
  { memo with entries := [] }

end Memo

abbrev Session := StateM Memo

inductive Failure where
  | unclaimed (cause : Unclaimed)
  | mismatched (report : Report)

namespace Failure

def message : Failure → String
  | .unclaimed cause => cause.message
  | .mismatched report => report.render

def assertion : Failure → String
  | .unclaimed cause => cause.message
  | .mismatched report => "actual value does not contain expected shape\n" ++ report.render

end Failure

namespace Registry

def convertFresh (registry : Registry) (shape : Shape) : Session (Except Unclaimed Rule) := do
  let memo ← get
  set memo.nextRun
  return convertAt registry.recognizers memo.runs Location.root shape

def memoKey? (registry : Registry) (shape : Shape) : Option String :=
  if registry.caching then shape.key? else none

/-- The kept rule of a shape, or else a new one, which is then kept. -/
def convert (registry : Registry) (shape : Shape) : Session (Except Unclaimed Rule) := do
  match registry.memoKey? shape with
  | none => registry.convertFresh shape
  | some key =>
      match (← get).lookup? key with
      | some rule => return .ok rule
      | none =>
          let outcome ← registry.convertFresh shape
          if let .ok rule := outcome then
            modify fun memo => memo.store registry.capacity key rule
          return outcome

def convertToSchema (registry : Registry) (shape : Shape) :
    Session (Except Unclaimed Schema) := do
  return (← registry.convert shape).map Slot.schema

/-- The rule under an alias. The kept rule stays without it. -/
def convertAliased (registry : Registry) (shape : Shape) (name : String) :
    Session (Except Unclaimed Rule) := do
  return (← registry.convert shape).map fun rule => rule.withAlias name

def contains (registry : Registry) (actual : Value) (expected : Shape) :
    Session (Except Failure Unit) := do
  match ← registry.convertToSchema expected with
  | .error cause => return .error (.unclaimed cause)
  | .ok schema =>
      match schema.check actual with
      | .ok _ => return .ok ()
      | .error report => return .error (.mismatched report)

def clearMemo : Session Unit :=
  modify Memo.clear

def recognizerNames (registry : Registry) : List String :=
  registry.recognizers.map Recognizer.name

def describe (registry : Registry) (memo : Memo) : String :=
  Text.record "ConversionRegistry" [
    ("field_kinds", Text.bracketed (registry.recognizerNames.map Text.described)),
    ("cached", toString memo.size),
    ("cache_capacity", toString registry.capacity)]

end Registry

/-- Whether a value contains an expected shape, by the standard recognizers. -/
def contains (actual : Value) (expected : Shape) : Except Failure Unit :=
  ((Registry.standard.contains actual expected).run Memo.empty).1

end Containment
