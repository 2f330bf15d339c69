import RuntimeProfiles.Data
import RuntimeProfiles.Text.Hex

/-!
# TOML numbers

Integers are decimal with an optional sign, or hexadecimal, octal or binary without one, and fit in
64 bits with a sign. Floats have a fraction, an exponent or both, or are one of the words `inf` and
`nan`. Single underscores may stand between digits.
-/

namespace RuntimeProfiles.Toml

/-- The digits at the front of a text, with underscores between them dropped. There is no result if
an underscore is not followed by a digit. -/
def moreDigits (isDigit : Char → Bool) : List Char → Option (List Char × List Char)
  | [] => some ([], [])
  | x :: text =>
    if x = '_' then
      match text with
      | c :: rest =>
        if isDigit c then (moreDigits isDigit rest).map fun (ds, rest) => (c :: ds, rest) else none
      | [] => none
    else if isDigit x then (moreDigits isDigit text).map fun (ds, rest) => (x :: ds, rest)
    else some ([], x :: text)

/-- One or more digits, of which the first may be a zero. -/
def digits1 (isDigit : Char → Bool) : List Char → Option (List Char × List Char)
  | [] => none
  | c :: rest =>
    if isDigit c then (moreDigits isDigit rest).map fun (ds, rest) => (c :: ds, rest) else none

/-- The whole part of a decimal number: a zero stands alone. -/
def wholeDigits : List Char → Option (List Char × List Char)
  | '0' :: rest => some (['0'], rest)
  | text => digits1 Char.isDigit text

/-- The number that digits write. -/
def natOf (base : Nat) (digits : List Char) : Nat :=
  (Text.ofDigits? base Text.hexValue? digits).getD 0

/-- An integer that fits in 64 bits with a sign. -/
def integer? (n : Int) : Option Data :=
  if -0x8000000000000000 ≤ n ∧ n < 0x8000000000000000 then some (.integer n) else none

/-- The double nearest to `digits * 10 ^ exponent`. -/
def floatOf (digits : List Char) (exponent : Int) : Float :=
  let n := natOf 10 digits
  let size := (Nat.toDigits 10 n).length + exponent
  if n = 0 ∨ size < -330 then 0.0
  else if 310 < size then 1.0 / 0.0
  else .ofScientific n (exponent < 0) exponent.natAbs

/-- A float with its sign. A number too large for a double is refused unless it is negative. -/
def float? (negative : Bool) (digits : List Char) (exponent : Int) : Option Data :=
  let x := floatOf digits exponent
  if negative then some (.float (-x)) else if x.isInf then none else some (.float x)

/-- The exponent of a float after its letter. -/
def readExponent (text : List Char) : Option (Int × List Char) := do
  let (negative, text) := match text with
    | '+' :: rest => (false, rest)
    | '-' :: rest => (true, rest)
    | text => (false, text)
  let (digits, text) ← digits1 Char.isDigit text
  let n : Int := natOf 10 digits
  return (if negative then -n else n, text)

/-- A decimal number after its sign. -/
def readDecimal (negative : Bool) (text : List Char) : Option (Data × List Char) := do
  let (whole, text) ← wholeDigits text
  match text with
  | '.' :: rest =>
    let (fraction, text) ← digits1 Char.isDigit rest
    let (exponent, text) ← match text with
      | 'e' :: rest | 'E' :: rest => readExponent rest
      | text => some (0, text)
    let data ← float? negative (whole ++ fraction) (exponent - fraction.length)
    return (data, text)
  | 'e' :: rest | 'E' :: rest =>
    let (exponent, text) ← readExponent rest
    let data ← float? negative whole exponent
    return (data, text)
  | text =>
    let n : Int := natOf 10 whole
    let data ← integer? (if negative then -n else n)
    return (data, text)

/-- An integer in another base after the letter of the base. -/
def readBased (base : Nat) (isDigit : Char → Bool) (text : List Char) :
    Option (Data × List Char) := do
  let (digits, text) ← digits1 isDigit text
  let data ← integer? (natOf base digits)
  return (data, text)

/-- A number after its sign; the words for infinity and for what is no number are numbers here. -/
def readSigned (negative : Bool) : List Char → Option (Data × List Char)
  | 'i' :: 'n' :: 'f' :: rest => some (.float (if negative then -1.0 / 0.0 else 1.0 / 0.0), rest)
  | 'n' :: 'a' :: 'n' :: rest => some (.float (0.0 / 0.0), rest)
  | text => readDecimal negative text

/-- A number. -/
def readNumber : List Char → Option (Data × List Char)
  | '0' :: 'x' :: rest => readBased 16 (fun c => (Text.hexValue? c).isSome) rest
  | '0' :: 'o' :: rest => readBased 8 (fun c => '0' ≤ c && c ≤ '7') rest
  | '0' :: 'b' :: rest => readBased 2 (fun c => c = '0' || c = '1') rest
  | '+' :: rest => readSigned false rest
  | '-' :: rest => readSigned true rest
  | text => readSigned false text

end RuntimeProfiles.Toml
