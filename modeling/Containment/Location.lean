namespace Containment

/-! Locations inside nested data: the way from the root to a part. -/

inductive Segment where
  | field (name : String)
  | index (position : Nat)
  deriving DecidableEq

/-- Fields come before positions. -/
def Segment.compare : Segment → Segment → Ordering
  | .field a, .field b => Ord.compare a b
  | .field _, .index _ => .lt
  | .index _, .field _ => .gt
  | .index a, .index b => Ord.compare a b

abbrev Location := List Segment

namespace Location

def root : Location := []

def push (location : Location) (segment : Segment) : Location :=
  location ++ [segment]

def field (location : Location) (name : String) : Location :=
  location.push (.field name)

def index (location : Location) (position : Nat) : Location :=
  location.push (.index position)

/-- The order by the first difference; a location comes before the ones it leads to. -/
def compare : Location → Location → Ordering
  | [], [] => .eq
  | [], _ :: _ => .lt
  | _ :: _, [] => .gt
  | a :: as, b :: bs => (a.compare b).then (compare as bs)

/-- Every segment but the first is set off: a field by a dot, a position by brackets. -/
def renderRest : Location → String
  | [] => ""
  | .field name :: rest => "." ++ name ++ renderRest rest
  | .index position :: rest => "[" ++ toString position ++ "]" ++ renderRest rest

def render : Location → String
  | .field name :: rest => name ++ renderRest rest
  | location => renderRest location

def label (location : Location) : String :=
  if location.isEmpty then "(root)" else location.render

@[simp] theorem root_append (location : Location) : root ++ location = location := rfl

theorem append_push (first second : Location) (segment : Segment) :
    first ++ second.push segment = Location.push (first ++ second) segment := by
  simp [push]

end Location

end Containment
