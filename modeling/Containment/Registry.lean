import Containment.Recognizer.Standard

namespace Containment

/-! Registries: recognizers in the order in which they are asked, and the settings of the
memory for converted shapes. -/

structure Registry where
  recognizers : List Recognizer
  caching : Bool
  capacity : Nat

/-- A registry in the making. Static recognizers come before dynamic ones. -/
structure Builder where
  statics : List Recognizer
  dynamics : List Recognizer
  caching : Bool
  capacity : Nat

namespace Builder

def defaultCapacity : Nat := 256

def empty : Builder :=
  ⟨[], [], true, defaultCapacity⟩

def addStandard (builder : Builder) : Builder :=
  { builder with
    statics := builder.statics ++ Recognizer.standardStatics
    dynamics := builder.dynamics ++ Recognizer.standardDynamics }

def addStatic (builder : Builder) (recognizer : Recognizer) : Builder :=
  { builder with statics := builder.statics ++ [recognizer] }

def addDynamic (builder : Builder) (recognizer : Recognizer) : Builder :=
  { builder with dynamics := builder.dynamics ++ [recognizer] }

def withCaching (builder : Builder) (caching : Bool) : Builder :=
  { builder with caching := caching }

def withCapacity (builder : Builder) (capacity : Nat) : Builder :=
  { builder with capacity := capacity }

def build (builder : Builder) : Registry :=
  ⟨builder.statics ++ builder.dynamics, builder.caching, builder.capacity⟩

end Builder

namespace Registry

def standard : Registry :=
  Builder.empty.addStandard.build

/-- Converts a shape of limited size. Parts are smaller, so that the limit decreases. -/
def convertWithin (recognizers : List Recognizer) (run : Nat) :
    (limit : Nat) → Location → (shape : Shape) → shape.size < limit → Except Unclaimed Rule
  | 0, _, _, small => absurd small (Nat.not_lt_zero _)
  | limit + 1, location, shape, small =>
      firstClaim shape
        ⟨run, location, fun location part smaller =>
          convertWithin recognizers run limit location part (by omega)⟩
        recognizers

/-- Converts a shape at a location, its parts with the same recognizers. -/
def convertAt (recognizers : List Recognizer) (run : Nat) (location : Location)
    (shape : Shape) : Except Unclaimed Rule :=
  convertWithin recognizers run (shape.size + 1) location shape (Nat.lt_succ_self _)

def contextOf (recognizers : List Recognizer) (run : Nat) (location : Location)
    (limit : Nat) : Context limit :=
  ⟨run, location, fun location part _ => convertAt recognizers run location part⟩

/-- The answers of all recognizers that do not pass a shape over, with their names. -/
def answers (registry : Registry) (run : Nat) (location : Location) (shape : Shape) :
    List (String × Except Unclaimed Rule) :=
  registry.recognizers.filterMap fun recognizer =>
    match recognizer.recognize shape
        (contextOf registry.recognizers run location shape.size) with
    | .error unclaimed => some (recognizer.name, .error unclaimed)
    | .ok (some rule) => some (recognizer.name, .ok rule)
    | .ok none => none

theorem convertWithin_eq (recognizers : List Recognizer) (run : Nat) (location : Location)
    (shape : Shape) {limit : Nat} (small : shape.size < limit) :
    convertWithin recognizers run limit location shape small =
      convertAt recognizers run location shape := by
  have step : ∀ (first second : Nat) (location : Location) (shape : Shape)
      (hf : shape.size < first) (hs : shape.size < second),
      convertWithin recognizers run first location shape hf =
        convertWithin recognizers run second location shape hs := by
    intro first
    induction first with
    | zero => intro _ _ _ hf; omega
    | succ first ih =>
        intro second location shape hf hs
        cases second with
        | zero => omega
        | succ second =>
            simp only [convertWithin]
            congr 2
            funext location part smaller
            exact ih second location part _ _
  exact step limit (shape.size + 1) location shape small _

theorem convertAt_eq (recognizers : List Recognizer) (run : Nat) (location : Location)
    (shape : Shape) :
    convertAt recognizers run location shape =
      firstClaim shape (contextOf recognizers run location shape.size) recognizers := by
  rw [convertAt, convertWithin, contextOf]
  congr 2
  funext location part smaller
  exact convertWithin_eq recognizers run location part _

end Registry

end Containment
