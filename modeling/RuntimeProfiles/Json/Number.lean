import RuntimeProfiles.Data
import RuntimeProfiles.Text.Hex

/-!
# JSON numbers

A number is scanned into its sign and its digits (`Literal.scan`) and then given a value. An integer
that fits in 64 bits keeps its exact value, with or without sign. Everything else is a float: the
leading digits that fit in 64 bits, scaled by a power of ten in double precision. A number beyond
the range of doubles is unreadable.
-/

namespace RuntimeProfiles.Json

/-- The parts of a number as they are written. -/
structure Literal where
  negative : Bool
  whole : List Char
  /-- The digits after the point, if there is one. -/
  fraction : Option (List Char)
  /-- The sign and the digits of the exponent, if there is one. -/
  exponent : Option (Bool × List Char)
deriving DecidableEq, Repr

namespace Literal

/-- One or more digits, and the text after them. -/
def digits1 (text : List Char) : Option (List Char × List Char) :=
  match text.takeWhile Char.isDigit with
  | [] => none
  | digits => some (digits, text.dropWhile Char.isDigit)

/-- The digits before the point: a zero stands alone. -/
def scanWhole : List Char → Option (List Char × List Char)
  | '0' :: rest =>
    match rest with
    | c :: _ => if c.isDigit then none else some (['0'], rest)
    | [] => some (['0'], [])
  | text => digits1 text

/-- The point and the digits after it. -/
def scanFraction : List Char → Option (Option (List Char) × List Char)
  | '.' :: rest => (fun (digits, rest) => (some digits, rest)) <$> digits1 rest
  | text => some (none, text)

/-- The sign of an exponent, and the text after it. -/
def scanSign : List Char → Bool × List Char
  | '+' :: rest => (false, rest)
  | '-' :: rest => (true, rest)
  | text => (false, text)

/-- The exponent with its letter. -/
def scanExponent (text : List Char) : Option (Option (Bool × List Char) × List Char) :=
  match text with
  | c :: rest =>
    if c = 'e' ∨ c = 'E' then do
      let (negative, rest) := scanSign rest
      let (digits, rest) ← digits1 rest
      return (some (negative, digits), rest)
    else some (none, text)
  | [] => some (none, [])

/-- A number, and the text after it. -/
def scan (text : List Char) : Option (Literal × List Char) := do
  let (negative, text) := match text with
    | '-' :: rest => (true, rest)
    | text => (false, text)
  let (whole, text) ← scanWhole text
  let (fraction, text) ← scanFraction text
  let (exponent, text) ← scanExponent text
  return (⟨negative, whole, fraction, exponent⟩, text)

/-- The number that decimal digits write. -/
def natOf (digits : List Char) : Nat := digits.foldl (fun n c => n * 10 + (c.toNat - 48)) 0

/-- Appends digits to a number as long as it fits in 64 bits; gives the number and how many digits
went into it. -/
def absorb : Nat → List Char → Nat × Nat
  | n, [] => (n, 0)
  | n, c :: rest =>
    let next := n * 10 + (c.toNat - 48)
    if next < UInt64.size then
      let (total, used) := absorb next rest
      (total, used + 1)
    else (n, 0)

/-- Scales a float by a power of ten. Beyond the greatest power that a double holds the division is
done in steps, after the second of which nothing but zero is left. -/
def scale : (steps : Nat) → Float → Int → Option Float
  | 0, x, _ => some x
  | steps + 1, x, exponent =>
    if exponent.natAbs ≤ 308 then
      let power := Float.ofScientific 1 false exponent.natAbs
      if 0 ≤ exponent then
        let product := x * power
        if product.isInf then none else some product
      else some (x / power)
    else if x == 0 then some x
    else if 0 ≤ exponent then none
    else scale steps (x / 1e308) (exponent + 308)

/-- The float with a given decimal significand and exponent. -/
def float (negative : Bool) (significand : Nat) (exponent : Int) : Data :=
  match scale 4 (UInt64.ofNat significand).toFloat exponent with
  | some x => .float (if negative then -x else x)
  | none => .unreadable

/-- The value of a number. -/
def value (literal : Literal) : Data :=
  let (whole, used) := absorb 0 literal.whole
  let dropped := literal.whole.length - used
  match literal.fraction, literal.exponent with
  | none, none =>
    if dropped = 0 then
      if literal.negative then
        if 0 < whole ∧ whole ≤ 0x8000000000000000 then .integer (-whole) else float true whole 0
      else .integer whole
    else float literal.negative whole dropped
  | fraction, exponent =>
    let (significand, places) := absorb whole (fraction.getD [])
    let shift : Int := match exponent with
      | none => 0
      | some (true, digits) => -(natOf digits : Int)
      | some (false, digits) => natOf digits
    float literal.negative significand (dropped - places + shift)

end Literal

end RuntimeProfiles.Json
