import RuntimeProfiles.Decimal.Shortest

/-!
# Floats in messages

A float is shown with the fewest digits that read back, and always with a point or an exponent. A
`FloatStyle` says which digits are taken in a tie, and between which sizes the point is placed among
them; outside of that `PositionalRange` the exponent is written out with its sign.
-/

namespace RuntimeProfiles.Decimal

/-- Where positional writing ends. The leading digit stands at `10 ^ e` for an exponent `e`. -/
structure PositionalRange where
  /-- The exponents below this one are written out; `none` if there is no such limit. -/
  least : Option Int
  /-- The exponents above this one are written out; `none` if there is no such limit. -/
  greatest : Option Int
deriving DecidableEq, Repr

namespace PositionalRange

/-- Every float is written positionally. -/
def unbounded : PositionalRange := ⟨none, none⟩

/-- Floats from `10 ^ -5` up to `10 ^ 16` are written positionally. -/
def moderate : PositionalRange := ⟨some (-5), some 15⟩

def contains (range : PositionalRange) (exponent : Int) : Bool :=
  range.least.all (· ≤ exponent) && range.greatest.all (exponent ≤ ·)

end PositionalRange

/-- How floats are written. -/
structure FloatStyle where
  tie : Tie
  range : PositionalRange
deriving DecidableEq, Repr

/-- The digits with a point among them, and a zero where the point would have nothing beside it. -/
def Digits.positional (d : Digits) : List Char :=
  if d.exponent < 0 then
    '0' :: '.' :: List.replicate (-d.exponent - 1).toNat '0' ++ d.digits
  else
    let whole := d.exponent.toNat + 1
    let fraction := d.digits.drop whole
    d.digits.take whole ++ List.replicate (whole - d.digits.length) '0'
      ++ '.' :: if fraction.isEmpty then ['0'] else fraction

/-- The leading digit, the others after a point, and the exponent. -/
def Digits.scientific (d : Digits) : List Char :=
  let fraction := d.digits.drop 1
  d.digits.take 1 ++ (if fraction.isEmpty then [] else '.' :: fraction)
    ++ 'e' :: (if d.exponent < 0 then '-' else '+')
    :: Nat.toDigits 10 d.exponent.natAbs

def Digits.text (range : PositionalRange) (d : Digits) : List Char :=
  if range.contains d.exponent then d.positional else d.scientific

/-- The text of a float. -/
def floatText (style : FloatStyle) (x : Float) : String :=
  let bits : Nat := x.toBits.toNat
  let magnitude : Nat := bits % signBit
  let field : Nat := magnitude / hiddenBit
  let fraction : Nat := magnitude % hiddenBit
  let sign := if bits < signBit then "" else "-"
  if field = 2047 then
    if fraction = 0 then sign ++ "inf" else "NaN"
  else if magnitude = 0 then sign ++ "0.0"
  else
    let d :=
      if field = 0 then shortest style.tie fraction (-1074)
      else shortest style.tie (hiddenBit + fraction) ((field : Int) - 1075)
    sign ++ String.ofList (d.text style.range)

end RuntimeProfiles.Decimal
