import RuntimeProfiles.Data.Schema
import RuntimeProfiles.Toml.Statement

/-!
# Reading TOML

A text is split into statements, the statements build the tables, and the tables are the data. A
text that fails in any of these steps is no TOML document.
-/

namespace RuntimeProfiles.Toml

/-- The tables that have been built, and the path of the table that is open. -/
structure Builder where
  root : Entries
  current : List String

namespace Builder

def start : Builder := ⟨[], []⟩

/-- Carries out a statement. -/
def step (builder : Builder) : Statement → Option Builder
  | .pair key data => do
    let root ← Entries.changeAt builder.current (Entries.put key.path key.name data) builder.root
    return { builder with root }
  | .table key => do
    let root ← Entries.openTable key.path key.name builder.root
    return ⟨root, key.path ++ [key.name]⟩
  | .element key => do
    let root ← Entries.openElement key.path key.name builder.root
    return ⟨root, key.path ++ [key.name]⟩

end Builder

/-- The fields that statements define. -/
def fieldsOf? (statements : List Statement) : Option (List (String × Data)) := do
  let builder ← statements.foldlM Builder.step Builder.start
  return Entries.toFields builder.root

/-- A byte order mark may open a text. -/
def skipMark : List Char → List Char
  | '\uFEFF' :: rest => rest
  | text => text

/-- The fields of a document. -/
def read? (text : String) : Option (List (String × Data)) := do
  let chars := skipMark text.toList
  fieldsOf? (← Statement.readAll (2 * chars.length + 2) chars)

/-- Reads a text as a value of a type. -/
def decode (codec : Codec α) (text : String) : Except Fault α :=
  match read? text with
  | some fields => codec.decode .toml (.ofFields fields)
  | none => .error .malformed

end RuntimeProfiles.Toml
