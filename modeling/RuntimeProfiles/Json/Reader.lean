import RuntimeProfiles.Data.Schema
import RuntimeProfiles.Json.Number
import RuntimeProfiles.Json.Text

/-!
# Reading JSON

`read` turns every text into a `Document`. Where the text stops being JSON, the data read so far is
kept and marked as broken at that place, so that `decode` reports the first fault in the order of
the text, whether it lies in the text or in the data. Parts that no type asks for are only checked
for their form.
-/

namespace RuntimeProfiles.Json

/-- What a text holds: one value, and whether nothing but space follows it. -/
structure Document where
  root : Data
  isComplete : Bool

def isSpace (c : Char) : Bool := c = ' ' || c = '\n' || c = '\t' || c = '\r'

def skipSpace (text : List Char) : List Char := text.dropWhile isSpace

/-- A value that is written as a word. -/
def word (letters : String) (value : Data) (text : List Char) : Data × Option (List Char) :=
  if letters.toList.isPrefixOf text then (value, some (text.drop letters.length))
  else (.broken, none)

/-- A string after its opening quote. -/
def stringValue (text : List Char) : Data × Option (List Char) :=
  match scan text with
  | none => (.broken, none)
  | some (pieces, rest) =>
    match Piece.join pieces with
    | some chars => (.text (String.ofList chars), some rest)
    | none => (.unreadable, some rest)

/-- A number. -/
def numberValue (text : List Char) : Data × Option (List Char) :=
  match Literal.scan text with
  | some (literal, rest) => (literal.value, some rest)
  | none => (.broken, none)

/-- How a list or record ends whose text goes on or does not. -/
def endingOf (rest : Option (List Char)) : Ending := if rest.isSome then .closed else .broken

/-- Adds a field in front of others. A key that is no string of characters hides them. -/
def addField (pieces : List Piece) (value : Data) (fields : List (String × Data))
    (ending : Ending) :
    List (String × Data) × Ending :=
  match Piece.join pieces with
  | some chars => ((String.ofList chars, value) :: fields, ending)
  | none => ([], if ending = .broken then .broken else .garbled)

mutual

/-- A value, and the text after it unless the text is broken within the value. -/
def value : (fuel : Nat) → List Char → Data × Option (List Char)
  | 0, _ => (.broken, none)
  | fuel + 1, text =>
    match skipSpace text with
    | [] => (.broken, none)
    | c :: rest =>
      if c = '"' then stringValue rest
      else if c = '[' then
        match skipSpace rest with
        | ']' :: rest => (.list [] .closed, some rest)
        | rest =>
          let (items, rest) := items fuel rest
          (.list items (endingOf rest), rest)
      else if c = '{' then
        match skipSpace rest with
        | '}' :: rest => (.record [] .closed, some rest)
        | rest =>
          let ((fields, ending), rest) := fields fuel rest
          (.record fields ending, rest)
      else if c = 't' then word "true" (.bool true) (c :: rest)
      else if c = 'f' then word "false" (.bool false) (c :: rest)
      else if c = 'n' then word "null" .null (c :: rest)
      else numberValue (c :: rest)

/-- The items of a list up to its closing bracket. -/
def items : (fuel : Nat) → List Char → List Data × Option (List Char)
  | 0, _ => ([], none)
  | fuel + 1, text =>
    match value fuel text with
    | (item, none) => ([item], none)
    | (item, some rest) =>
      match skipSpace rest with
      | ']' :: rest => ([item], some rest)
      | ',' :: rest =>
        let (items, rest) := items fuel rest
        (item :: items, rest)
      | _ => ([item], none)

/-- The fields of a record up to its closing bracket. -/
def fields : (fuel : Nat) → List Char → (List (String × Data) × Ending) × Option (List Char)
  | 0, _ => (([], .broken), none)
  | fuel + 1, text =>
    match skipSpace text with
    | '"' :: rest =>
      match scan rest with
      | none => (([], .broken), none)
      | some (key, rest) =>
        match skipSpace rest with
        | ':' :: rest =>
          match value fuel rest with
          | (item, none) => (addField key item [] .broken, none)
          | (item, some rest) =>
            match skipSpace rest with
            | '}' :: rest => (addField key item [] .closed, some rest)
            | ',' :: rest =>
              let ((others, ending), rest) := fields fuel rest
              (addField key item others ending, rest)
            | _ => (addField key item [] .broken, none)
        | _ => (addField key .broken [] .broken, none)
    | _ => (([], .broken), none)

end

/-- Reads a text. -/
def read (text : String) : Document :=
  let chars := text.toList
  match value (2 * chars.length + 2) chars with
  | (root, some rest) => ⟨root, (skipSpace rest).isEmpty⟩
  | (root, none) => ⟨root, false⟩

/-- Reads a text as a value of a type. -/
def decode (codec : Codec α) (text : String) : Except Fault α := do
  let document := read text
  let value ← codec.decode .jsonText document.root
  if document.isComplete then return value else throw .malformed

end RuntimeProfiles.Json
