import RuntimeProfiles.Toml.Moment
import RuntimeProfiles.Toml.Number
import RuntimeProfiles.Toml.Table
import RuntimeProfiles.Toml.Text

/-!
# TOML keys and values

A key is a sequence of parts, each bare or quoted, with points between them. A value is a scalar, an
array, which may spread over lines and hold comments, or an inline table, which may not.
-/

namespace RuntimeProfiles.Toml

def skipSpace (text : List Char) : List Char := text.dropWhile isSpace

/-- Whether a character may stand in a bare key. -/
def isBare (c : Char) : Bool := c.isAlphanum || c = '_' || c = '-'

/-- One part of a key. -/
def readKeyPart : List Char → Option (String × List Char)
  | '"' :: rest => (readBasic rest).map fun (chars, rest) => (String.ofList chars, rest)
  | '\'' :: rest => (readLiteral rest).map fun (chars, rest) => (String.ofList chars, rest)
  | text =>
    match text.takeWhile isBare with
    | [] => none
    | chars => some (String.ofList chars, text.dropWhile isBare)

/-- A key: the path to a table, and a name in it. -/
structure Key where
  path : List String
  name : String
deriving DecidableEq, Repr

/-- A key with the space around its parts. -/
def readKey : (fuel : Nat) → List Char → Option (Key × List Char)
  | 0, _ => none
  | fuel + 1, text => do
    let (part, text) ← readKeyPart (skipSpace text)
    match skipSpace text with
    | '.' :: rest =>
      let (key, rest) ← readKey fuel rest
      return (⟨part :: key.path, key.name⟩, rest)
    | text => return (⟨[], part⟩, text)

/-- Drops space, ends of line and comments; `comment` says that one is open. -/
def skipFiller (comment : Bool) : List Char → List Char
  | [] => []
  | c :: rest =>
    if comment && isPlain c then skipFiller true rest
    else if isSpace c || c = '\n' then skipFiller false rest
    else if c = '#' then skipFiller true rest
    else if c = '\r' then
      match rest with
      | '\n' :: _ => skipFiller false rest
      | _ => c :: rest
    else c :: rest

/-- A value that is neither an array nor an inline table. -/
def readScalar (text : List Char) : Option (Data × List Char) :=
  match text with
  | '"' :: _ | '\'' :: _ =>
    (readString text).map fun (chars, rest) => (.text (String.ofList chars), rest)
  | 't' :: 'r' :: 'u' :: 'e' :: rest => some (.bool true, rest)
  | 'f' :: 'a' :: 'l' :: 's' :: 'e' :: rest => some (.bool false, rest)
  | _ =>
    match skipMoment text with
    | .found rest => some (.moment, rest)
    | .broken => none
    | .none => readNumber text

/-- The table of key-value pairs between braces. -/
def inlineTable (pairs : List (Key × Data)) : Option Data := do
  let entries ← pairs.foldlM
    (fun entries (key, data) => Entries.put key.path key.name data entries) []
  return .record (Entries.toFields entries) .closed

mutual

/-- A value, and the text after it. -/
def readValue : (fuel : Nat) → List Char → Option (Data × List Char)
  | 0, _ => none
  | fuel + 1, text =>
    match text with
    | '[' :: rest => do
      let (items, rest) ← readItems fuel rest
      return (.list items .closed, rest)
    | '\x7b' :: rest =>
      match skipSpace rest with
      | '\x7d' :: rest => some (.record [] .closed, rest)
      | rest => do
        let (pairs, rest) ← readPairs fuel rest
        return (← inlineTable pairs, rest)
    | text => readScalar text

/-- The items of an array up to its closing bracket; a comma may follow the last one. -/
def readItems : (fuel : Nat) → List Char → Option (List Data × List Char)
  | 0, _ => none
  | fuel + 1, text =>
    match skipFiller false text with
    | ']' :: rest => some ([], rest)
    | text => do
      let (item, text) ← readValue fuel text
      match skipFiller false text with
      | ']' :: rest => return ([item], rest)
      | ',' :: rest =>
        let (items, rest) ← readItems fuel rest
        return (item :: items, rest)
      | _ => none

/-- The pairs of an inline table up to its closing brace. -/
def readPairs : (fuel : Nat) → List Char → Option (List (Key × Data) × List Char)
  | 0, _ => none
  | fuel + 1, text => do
    let (key, text) ← readKey fuel text
    let text ← skipChar '=' text
    let (data, text) ← readValue fuel (skipSpace text)
    match skipSpace text with
    | '\x7d' :: rest => return ([(key, data)], rest)
    | ',' :: rest =>
      let (pairs, rest) ← readPairs fuel rest
      return ((key, data) :: pairs, rest)
    | _ => none

end

end RuntimeProfiles.Toml
