import Containment.Shape

namespace Containment

/-! Recognizers: each turns the shapes of one kind into rules. -/

/-- No recognizer claims the shape at a location. -/
structure Unclaimed where
  location : Location
  shape : Shape

def Unclaimed.message (unclaimed : Unclaimed) : String :=
  "couldn't convert expected shape at " ++ unclaimed.location.label ++ ": " ++
    unclaimed.shape.render

/-- What a recognizer works in: the run and the location of the conversion, and the
conversion of parts smaller than a limit. -/
structure Context (limit : Nat) where
  run : Nat
  location : Location
  convert : Location → (part : Shape) → part.size < limit → Except Unclaimed Rule

namespace Context

def origin {limit : Nat} (context : Context limit) : Origin :=
  .converted context.run context.location

/-- The rules of all parts in order, each at its own segment, or the first failure. -/
def convertParts {limit : Nat} {κ : Type} (context : Context limit) (segment : κ → Segment) :
    (parts : List (κ × Shape)) → (∀ part ∈ parts, part.2.size < limit) →
      Except Unclaimed (List (κ × Rule))
  | [], _ => .ok []
  | (key, shape) :: rest, smaller =>
      match context.convert (context.location.push (segment key)) shape
          (smaller (key, shape) (by simp)) with
      | .error unclaimed => .error unclaimed
      | .ok rule =>
          match context.convertParts segment rest
              (fun part mem => smaller part (by simp [mem])) with
          | .error unclaimed => .error unclaimed
          | .ok rules => .ok ((key, rule) :: rules)

end Context

/-- Answers the rule of a shape, or nothing where the shape is not of its kind. -/
structure Recognizer where
  name : String
  recognize : (shape : Shape) → Context shape.size → Except Unclaimed (Option Rule)

def Recognizer.ofShape (name : String) (claim : Shape → Option Rule) : Recognizer :=
  ⟨name, fun shape _ => .ok (claim shape)⟩

def firstClaim (shape : Shape) (context : Context shape.size) :
    List Recognizer → Except Unclaimed Rule
  | [] => .error ⟨context.location, shape⟩
  | recognizer :: rest =>
      match recognizer.recognize shape context with
      | .error unclaimed => .error unclaimed
      | .ok (some rule) => .ok rule
      | .ok none => firstClaim shape context rest

end Containment
