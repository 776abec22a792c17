import Containment.Number.Decimal
import Containment.Text.Quoted
import Containment.Value

namespace Containment.Value

/-! The text of a value in messages. -/

def renderBool (flag : Bool) : String :=
  if flag then "True" else "False"

mutual
def render : Value → String
  | .null => "None"
  | .bool flag => renderBool flag
  | .int number => toString number.toInt
  | .float number => number.render
  | .bytes content => Text.quotedBytes content
  | .str text => Text.quoted text
  | .member enumeration name payload =>
      "<" ++ enumeration ++ "." ++ name ++ ": " ++ payload.render ++ ">"
  | .date day => day.render
  | .time clock => clock.render
  | .datetime moment => moment.render
  | .list items => Text.bracketed (renderItems items)
  | .map entries => Text.braced (renderEntries entries)
  | .object typeName attributes =>
      typeName ++ "(" ++ Text.join ", " (renderAttributes attributes) ++ ")"

def renderItems : List Value → List String
  | [] => []
  | item :: rest => item.render :: renderItems rest

def renderEntries : List (String × Value) → List String
  | [] => []
  | (name, value) :: rest =>
      (Text.quoted name ++ ": " ++ value.render) :: renderEntries rest

def renderAttributes : List (String × Value) → List String
  | [] => []
  | (name, value) :: rest => (name ++ "=" ++ value.render) :: renderAttributes rest
end

theorem renderItems_eq_map (items : List Value) : renderItems items = items.map render := by
  induction items with
  | nil => rfl
  | cons item rest ih => simp [renderItems, ih]

theorem renderEntries_eq_map (entries : List (String × Value)) :
    renderEntries entries =
      entries.map fun (name, value) => Text.quoted name ++ ": " ++ value.render := by
  induction entries with
  | nil => rfl
  | cons entry rest ih => rw [renderEntries, ih, List.map_cons]

end Containment.Value
