import RuntimeProfiles.Data
import RuntimeProfiles.Json.Text

/-!
# Writing JSON

Data is written with one field or item a line, indented by two spaces a level.
-/

namespace RuntimeProfiles.Json

/-- A new line at a level of indentation. -/
def newLine (level : Nat) : List Char := '\n' :: List.replicate (2 * level) ' '

mutual

/-- A value whose brackets stand at a level of indentation. -/
def render (level : Nat) : Data → List Char
  | .null | .float _ | .moment | .unreadable | .broken => "null".toList
  | .bool value => (toString value).toList
  | .integer value => (toString value).toList
  | .text value => encode value.toList
  | .list [] _ => ['[', ']']
  | .list (item :: items) _ =>
    '[' :: newLine (level + 1) ++ render (level + 1) item ++ renderItems (level + 1) items
      ++ newLine level ++ [']']
  | .record [] _ => ['{', '}']
  | .record ((key, value) :: fields) _ =>
    '{' :: newLine (level + 1) ++ encode key.toList ++ ':' :: ' ' :: render (level + 1) value
      ++ renderFields (level + 1) fields ++ newLine level ++ ['}']

/-- The items of a list after the first. -/
def renderItems (level : Nat) : List Data → List Char
  | [] => []
  | item :: items => ',' :: newLine level ++ render level item ++ renderItems level items

/-- The fields of a record after the first. -/
def renderFields (level : Nat) : List (String × Data) → List Char
  | [] => []
  | (key, value) :: fields =>
    ',' :: newLine level ++ encode key.toList ++ ':' :: ' ' :: render level value
      ++ renderFields level fields

end

/-- The text of a value. -/
def write (data : Data) : String := String.ofList (render 0 data)

end RuntimeProfiles.Json
