import RuntimeProfiles.Text.Hex

/-!
# TOML strings

TOML has four forms of string: basic ones in double quotes, where a backslash opens an escape, and
literal ones in single quotes, each on one line or, between tripled quotes, on several. Every reader
here starts after the opening quotes and gives the characters of the string and the text after the
closing quotes. `encode` writes a string in the first form that fits it.
-/

namespace RuntimeProfiles.Toml

/-- The characters that may stand on a line: no controls but the tab. -/
def isPlain (c : Char) : Bool := c = '\t' || (0x20 ≤ c.toNat && c.toNat ≠ 0x7F)

def isSpace (c : Char) : Bool := c = ' ' || c = '\t'

/-- Adds a character in front of what a reader has found. -/
def push (c : Char) (found : Option (List Char × List Char)) : Option (List Char × List Char) :=
  found.map fun (chars, rest) => (c :: chars, rest)

/-- The character of a code point, which is no surrogate and in range. -/
def charOf? (n : Nat) : Option Char := if n.isValidChar then some (Char.ofNat n) else none

/-- The character that hexadecimal digits write. -/
def hexChar? (digits : List Char) : Option Char :=
  (Text.ofDigits? 16 Text.hexValue? digits).bind charOf?

/-- The character that a one-letter escape stands for. -/
def escaped? : Char → Option Char
  | '"' => some '"'
  | '\\' => some '\\'
  | 'b' => some '\x08'
  | 'f' => some '\x0c'
  | 'n' => some '\n'
  | 'r' => some '\r'
  | 't' => some '\t'
  | _ => none

/-- A basic string on one line. -/
def readBasic : List Char → Option (List Char × List Char)
  | [] => none
  | '"' :: rest => some ([], rest)
  | '\\' :: 'u' :: a :: b :: c :: d :: rest => do push (← hexChar? [a, b, c, d]) (readBasic rest)
  | '\\' :: 'U' :: a :: b :: c :: d :: e :: f :: g :: h :: rest => do
    push (← hexChar? [a, b, c, d, e, f, g, h]) (readBasic rest)
  | '\\' :: e :: rest => do push (← escaped? e) (readBasic rest)
  | c :: rest => if isPlain c ∧ c ≠ '\\' then push c (readBasic rest) else none

/-- A literal string on one line. -/
def readLiteral : List Char → Option (List Char × List Char)
  | [] => none
  | '\'' :: rest => some ([], rest)
  | c :: rest => if isPlain c then push c (readLiteral rest) else none

/-- The end of a string between tripled quotes: up to two quotes before the closing ones belong to
the string. -/
def closeTripled (quote : Char) (rest : List Char) : List Char × List Char :=
  match rest with
  | a :: b :: tail =>
    if a = quote then if b = quote then ([quote, quote], tail) else ([quote], b :: tail)
    else ([], rest)
  | [a] => if a = quote then ([quote], []) else ([], rest)
  | [] => ([], [])

/-- Whether nothing but space precedes the next end of line. -/
def endsLine (text : List Char) : Bool :=
  match text.dropWhile isSpace with
  | '\n' :: _ | '\r' :: '\n' :: _ => true
  | _ => false

/-- A basic string on several lines. A backslash at the end of a line joins it with the next
character that is neither space nor an end of line; `joining` says that such a gap is open. -/
def readTripledBasic (joining : Bool) : List Char → Option (List Char × List Char)
  | [] => none
  | x :: text =>
    if joining && (isSpace x || x = '\n') then readTripledBasic true text
    else if x = '"' then
      match text with
      | '"' :: '"' :: rest => some (closeTripled '"' rest)
      | _ => push '"' (readTripledBasic false text)
    else if x = '\\' then
      if endsLine text then readTripledBasic true text
      else
        match text with
        | 'u' :: a :: b :: c :: d :: rest => do
          push (← hexChar? [a, b, c, d]) (readTripledBasic false rest)
        | 'U' :: a :: b :: c :: d :: e :: f :: g :: h :: rest => do
          push (← hexChar? [a, b, c, d, e, f, g, h]) (readTripledBasic false rest)
        | e :: rest => do push (← escaped? e) (readTripledBasic false rest)
        | [] => none
    else if x = '\r' then
      match text with
      | '\n' :: _ => readTripledBasic joining text
      | _ => none
    else if x = '\n' || isPlain x then push x (readTripledBasic false text)
    else none

/-- A literal string on several lines. -/
def readTripledLiteral : List Char → Option (List Char × List Char)
  | [] => none
  | x :: text =>
    if x = '\'' then
      match text with
      | '\'' :: '\'' :: rest => some (closeTripled '\'' rest)
      | _ => push '\'' (readTripledLiteral text)
    else if x = '\r' then
      match text with
      | '\n' :: _ => readTripledLiteral text
      | _ => none
    else if x = '\n' || isPlain x then push x (readTripledLiteral text)
    else none

/-- Drops the end of line that may follow tripled quotes. -/
def dropFirstNewline : List Char → List Char
  | '\n' :: rest => rest
  | '\r' :: '\n' :: rest => rest
  | text => text

/-- A string of any form, from its opening quotes on. -/
def readString : List Char → Option (List Char × List Char)
  | '"' :: '"' :: '"' :: rest => readTripledBasic false (dropFirstNewline rest)
  | '"' :: rest => readBasic rest
  | '\'' :: '\'' :: '\'' :: rest => readTripledLiteral (dropFirstNewline rest)
  | '\'' :: rest => readLiteral rest
  | _ => none

/-! ## Writing -/

/-- Whether a character can be written only as an escape. -/
def isControl (c : Char) : Bool :=
  (c.toNat < 0x20 && c ≠ '\t' && c ≠ '\n') || c.toNat = 0x7F

/-- The length of the longest run of a character; `current` is the length of the run that is
open. -/
def longestRun (quote : Char) (current : Nat) : List Char → Nat
  | [] => current
  | c :: rest =>
    if c = quote then longestRun quote (current + 1) rest
    else max current (longestRun quote 0 rest)

/-- How a character is written as an escape. -/
def escapeChar (c : Char) : List Char :=
  if c = '"' ∨ c = '\\' then ['\\', c]
  else if c = '\x08' then ['\\', 'b']
  else if c = '\t' then ['\\', 't']
  else if c = '\n' then ['\\', 'n']
  else if c = '\x0c' then ['\\', 'f']
  else if c = '\r' then ['\\', 'r']
  else '\\' :: 'u' :: Text.hexDigits4 c.toNat

/-- Whether a character is escaped in every basic string. -/
def needsEscape (c : Char) : Bool := c = '\\' || c = '\t' || isControl c

/-- The characters of a basic string on one line. -/
def basicChars (text : List Char) : List Char :=
  text.flatMap fun c => if needsEscape c || c = '"' || c = '\n' then escapeChar c else [c]

/-- The characters of a basic string on several lines. A quote is escaped where it would be the
third in a row; `run` quotes stand unescaped before this point. -/
def tripledBasicChars (run : Nat) : List Char → List Char
  | [] => []
  | c :: rest =>
    if c = '"' then
      if run < 2 then c :: tripledBasicChars (run + 1) rest
      else '\\' :: c :: tripledBasicChars 0 rest
    else if needsEscape c then escapeChar c ++ tripledBasicChars 0 rest
    else c :: tripledBasicChars 0 rest

/-- The forms in which a string can be written. -/
inductive StringForm where
  | basic
  | literal
  | tripledBasic
  | tripledLiteral
deriving DecidableEq, Repr

/-- The first form that shows a string as it is; if none does, a basic one with escapes. -/
def formOf (text : List Char) : StringForm :=
  let controls := text.any isControl
  let lines := text.contains '\n'
  let escapes := text.contains '\\'
  if !controls && !escapes && !lines && longestRun '"' 0 text == 0 then .basic
  else if !controls && !lines && longestRun '\'' 0 text == 0 then .literal
  else if !controls && !escapes && longestRun '"' 0 text ≤ 2 then .tripledBasic
  else if !controls && longestRun '\'' 0 text ≤ 2 then .tripledLiteral
  else if lines then .tripledBasic
  else .basic

/-- A string with its quotes. Text on several lines starts on a line of its own. -/
def encode (text : List Char) : List Char :=
  let start := if text.contains '\n' then ['\n'] else []
  match formOf text with
  | .basic => '"' :: basicChars text ++ ['"']
  | .literal => '\'' :: text ++ ['\'']
  | .tripledBasic => ['"', '"', '"'] ++ start ++ tripledBasicChars 0 text ++ ['"', '"', '"']
  | .tripledLiteral => ['\'', '\'', '\''] ++ start ++ text ++ ['\'', '\'', '\'']

end RuntimeProfiles.Toml
