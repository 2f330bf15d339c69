import RuntimeProfiles.Text.Hex

/-!
# JSON strings

A string is scanned into plain characters and escaped UTF-16 code units (`scan`); `Piece.join` then
puts the units together, which fails exactly if a surrogate is left without its partner. `encode`
writes a string, escaping as little as the grammar allows.
-/

namespace RuntimeProfiles.Json

/-- A part of a string between its quotes. -/
inductive Piece where
  | char (c : Char)
  /-- A code unit written as an escape with four hexadecimal digits. -/
  | unit (value : Nat)
deriving DecidableEq, Repr

namespace Piece

/-- Whether a code unit opens a surrogate pair. -/
def isLead (unit : Nat) : Bool := 0xD800 ≤ unit && unit ≤ 0xDBFF

/-- Whether a code unit closes a surrogate pair. -/
def isTrail (unit : Nat) : Bool := 0xDC00 ≤ unit && unit ≤ 0xDFFF

/-- The characters of a string, unless it holds half a surrogate pair. -/
def join : List Piece → Option (List Char)
  | [] => some []
  | .char c :: rest => (c :: ·) <$> join rest
  | .unit lead :: .unit trail :: rest =>
    if isLead lead then
      if isTrail trail then
        (Char.ofNat (0x10000 + (lead - 0xD800) * 0x400 + (trail - 0xDC00)) :: ·) <$> join rest
      else none
    else if isTrail lead then none
    else (Char.ofNat lead :: ·) <$> join (.unit trail :: rest)
  | .unit value :: rest =>
    if isLead value || isTrail value then none else (Char.ofNat value :: ·) <$> join rest

end Piece

/-- The character that a one-letter escape stands for. -/
def escaped? : Char → Option Char
  | '"' => some '"'
  | '\\' => some '\\'
  | '/' => some '/'
  | 'b' => some '\x08'
  | 'f' => some '\x0c'
  | 'n' => some '\n'
  | 'r' => some '\r'
  | 't' => some '\t'
  | _ => none

/-- The pieces of a string after its opening quote, and the text after its closing quote. -/
def scan : List Char → Option (List Piece × List Char)
  | [] => none
  | '"' :: rest => some ([], rest)
  | '\\' :: 'u' :: a :: b :: c :: d :: rest => do
    let value ← Text.ofDigits? 16 Text.hexValue? [a, b, c, d]
    let (pieces, rest) ← scan rest
    return (.unit value :: pieces, rest)
  | '\\' :: e :: rest => do
    let c ← escaped? e
    let (pieces, rest) ← scan rest
    return (.char c :: pieces, rest)
  | c :: rest =>
    if c.toNat < 0x20 ∨ c = '\\' then none else do
      let (pieces, rest) ← scan rest
      return (.char c :: pieces, rest)

/-- How a character is written between quotes. -/
def encodeChar (c : Char) : List Char :=
  if c = '"' ∨ c = '\\' then ['\\', c]
  else if c = '\x08' then ['\\', 'b']
  else if c = '\x0c' then ['\\', 'f']
  else if c = '\n' then ['\\', 'n']
  else if c = '\r' then ['\\', 'r']
  else if c = '\t' then ['\\', 't']
  else if c.toNat < 0x20 then
    '\\' :: 'u' :: '0' :: '0' :: Nat.digitChar (c.toNat / 16) :: [Nat.digitChar (c.toNat % 16)]
  else [c]

/-- A string with its quotes. -/
def encode (text : List Char) : List Char := '"' :: text.flatMap encodeChar ++ ['"']

end RuntimeProfiles.Json
