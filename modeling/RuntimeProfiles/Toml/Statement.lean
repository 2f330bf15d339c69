import RuntimeProfiles.Toml.Value

/-!
# TOML statements

A document is a sequence of statements, one a line: a key with its value, or the header of a table
or of another table in an array. `Statement.readAll` splits a text into them.
-/

namespace RuntimeProfiles.Toml

/-- A line of a document. -/
inductive Statement where
  | pair (key : Key) (data : Data)
  | table (key : Key)
  | element (key : Key)

/-- The text after an end of line, or at the end of the text. -/
def newLine? : List Char → Option (List Char)
  | [] => some []
  | '\n' :: rest => some rest
  | '\r' :: '\n' :: rest => some rest
  | _ => none

/-- The text after the end of a line on which nothing but a comment is left. -/
def endLine? (text : List Char) : Option (List Char) :=
  match skipSpace text with
  | '#' :: rest => newLine? (rest.dropWhile isPlain)
  | text => newLine? text

namespace Statement

/-- A header after its opening brackets. -/
def readHeader (fuel : Nat) (isElement : Bool) (text : List Char) :
    Option (Statement × List Char) := do
  let (key, text) ← readKey fuel text
  let text ← skipChar ']' text
  if isElement then
    let text ← skipChar ']' text
    return (.element key, ← endLine? text)
  else
    return (.table key, ← endLine? text)

/-- A key with its value. -/
def readPair (fuel : Nat) (text : List Char) : Option (Statement × List Char) := do
  let (key, text) ← readKey fuel text
  let text ← skipChar '=' text
  let (data, text) ← readValue fuel (skipSpace text)
  return (.pair key data, ← endLine? text)

/-- The statements of a text. -/
def readAll : (fuel : Nat) → List Char → Option (List Statement)
  | 0, _ => none
  | fuel + 1, text =>
    match skipSpace text with
    | [] => some []
    | '#' :: rest => do readAll fuel (← newLine? (rest.dropWhile isPlain))
    | '\n' :: rest => readAll fuel rest
    | '\r' :: rest => do readAll fuel (← skipChar '\n' rest)
    | '[' :: '[' :: rest => do
      let (statement, rest) ← readHeader fuel true rest
      return statement :: (← readAll fuel rest)
    | '[' :: rest => do
      let (statement, rest) ← readHeader fuel false rest
      return statement :: (← readAll fuel rest)
    | text => do
      let (statement, rest) ← readPair fuel text
      return statement :: (← readAll fuel rest)

end Statement

end RuntimeProfiles.Toml
