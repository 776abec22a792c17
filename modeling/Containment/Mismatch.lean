import Containment.Location
import Containment.Text.Quoted

namespace Containment

/-! Mismatches between data and expectation, and reports: collections of at least one. -/

structure Mismatch where
  location : Location
  kind : String
  message : String
  got? : Option String
  expected? : Option String
  deriving DecidableEq

namespace Mismatch

def generalKind : String := "value_error"

def clause (word : String) : Option String → String
  | some text => " (" ++ word ++ ": " ++ text ++ ")"
  | none => ""

def render (mismatch : Mismatch) : String :=
  mismatch.location.label ++ ": " ++ mismatch.message ++
    clause "expected" mismatch.expected? ++ clause "got" mismatch.got?

/-- The mismatch seen from further up: its location continues the given one. -/
def under (location : Location) (mismatch : Mismatch) : Mismatch :=
  { mismatch with location := location ++ mismatch.location }

end Mismatch

structure Report where
  first : Mismatch
  rest : List Mismatch
  deriving DecidableEq

namespace Report

def toList (report : Report) : List Mismatch :=
  report.first :: report.rest

def single (mismatch : Mismatch) : Report :=
  ⟨mismatch, []⟩

def ofList? : List Mismatch → Option Report
  | [] => none
  | first :: rest => some ⟨first, rest⟩

def append (left right : Report) : Report :=
  ⟨left.first, left.rest ++ right.toList⟩

instance : Append Report := ⟨append⟩

def map (f : Mismatch → Mismatch) (report : Report) : Report :=
  ⟨f report.first, report.rest.map f⟩

def size (report : Report) : Nat :=
  report.toList.length

def atLocation (report : Report) (location : Location) : List Mismatch :=
  report.toList.filter (·.location = location)

def withKind (report : Report) (kind : String) : List Mismatch :=
  report.toList.filter (·.kind = kind)

/-- Puts a mismatch at the end of the group of its location. -/
def addToGroup (mismatch : Mismatch) :
    List (Location × List Mismatch) → List (Location × List Mismatch)
  | [] => [(mismatch.location, [mismatch])]
  | (location, group) :: rest =>
      if location = mismatch.location then (location, group ++ [mismatch]) :: rest
      else (location, group) :: addToGroup mismatch rest

/-- The mismatches by location, locations in the order of their first mismatch. -/
def groups (report : Report) : List (Location × List Mismatch) :=
  report.toList.foldl (fun groups mismatch => addToGroup mismatch groups) []

def locations (report : Report) : List Location :=
  report.groups.map Prod.fst

def renderLines : Nat → List Mismatch → String
  | _, [] => ""
  | number, mismatch :: rest =>
      "  " ++ toString number ++ ". " ++ mismatch.render ++ "\n" ++
        renderLines (number + 1) rest

def render (report : Report) : String :=
  "Validation failed with " ++ toString report.size ++ " error(s):\n" ++
    renderLines 1 report.toList

/-- All the values in order, or all the reports joined. -/
def gather {α : Type} : List (Except Report α) → Except Report (List α)
  | [] => .ok []
  | .ok value :: rest =>
      match gather rest with
      | .ok values => .ok (value :: values)
      | .error report => .error report
  | .error report :: rest =>
      match gather rest with
      | .ok _ => .error report
      | .error other => .error (report ++ other)

/-- The first value, or all the reports joined; a value of last resort where there is
nothing to choose from. -/
def choose {α : Type} (lastResort : α) : List (Except Report α) → Except Report α
  | [] => .ok lastResort
  | .ok value :: _ => .ok value
  | [.error report] => .error report
  | .error report :: rest =>
      match choose lastResort rest with
      | .ok value => .ok value
      | .error other => .error (report ++ other)

@[simp] theorem toList_single (mismatch : Mismatch) :
    (single mismatch).toList = [mismatch] := rfl

@[simp] theorem toList_append (left right : Report) :
    (left ++ right).toList = left.toList ++ right.toList := rfl

@[simp] theorem toList_map (f : Mismatch → Mismatch) (report : Report) :
    (report.map f).toList = report.toList.map f := rfl

theorem toList_ne_nil (report : Report) : report.toList ≠ [] := by
  simp [toList]

theorem toList_injective {left right : Report} (h : left.toList = right.toList) :
    left = right := by
  cases left
  cases right
  simpa [toList] using h

@[simp] theorem ofList?_toList (report : Report) : ofList? report.toList = some report := rfl

end Report

end Containment
