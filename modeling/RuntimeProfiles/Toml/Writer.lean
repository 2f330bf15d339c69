import RuntimeProfiles.Data
import RuntimeProfiles.Toml.Text

/-!
# Writing TOML

A record is written as its scalars, one a line, and then one section for each record in it, with an
empty line between the blocks. Keys are written bare. Sections hold scalars only; what is neither a
scalar nor a section is left out.
-/

namespace RuntimeProfiles.Toml

/-- The text of a scalar. -/
def scalarText? : Data → Option (List Char)
  | .bool value => some (toString value).toList
  | .integer value => some (toString value).toList
  | .text value => some (encode value.toList)
  | _ => none

/-- The line of a field that holds a scalar. -/
def fieldLine (field : String × Data) : List Char :=
  match scalarText? field.2 with
  | some text => field.1.toList ++ ' ' :: '=' :: ' ' :: text ++ ['\n']
  | none => []

/-- The section of a field that holds a record. -/
def section? (field : String × Data) : Option (List Char) :=
  match field.2 with
  | .record fields _ => some ('[' :: field.1.toList ++ ']' :: '\n' :: fields.flatMap fieldLine)
  | _ => none

/-- The lines and sections of a record. -/
def render (fields : List (String × Data)) : List Char :=
  let lines := fields.flatMap fieldLine
  let sections := fields.filterMap section?
  ['\n'].intercalate (if lines.isEmpty then sections else lines :: sections)

/-- The text of a record. -/
def write : Data → String
  | .record fields _ => String.ofList (render fields)
  | _ => ""

end RuntimeProfiles.Toml
