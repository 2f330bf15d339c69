/-!
# Shortest decimals

The shortest decimal that reads back as a given double, and of those the nearest; a `Tie` says which
of two that are equally near. A positive double is `mantissa * 2 ^ exponent`; the reals that round
to it form an interval whose ends belong to it if the mantissa is even. For one, two, … seventeen
digits the two decimals around the value are tried in exact arithmetic, and the first that lies in
the interval wins.
-/

namespace RuntimeProfiles.Decimal

/-- A positive decimal: `d₁.d₂d₃… * 10 ^ exponent`, without trailing zeros. -/
structure Digits where
  digits : List Char
  exponent : Int
deriving DecidableEq, Repr

/-- The bit above the fraction of a double, which its bits leave out. -/
def hiddenBit : Nat := 0x10000000000000

/-- The sign of a double. -/
def signBit : Nat := 0x8000000000000000

/-- A positive fraction. -/
structure Ratio where
  num : Nat
  den : Nat

/-- `n * 2 ^ e` as a fraction. -/
def Ratio.scaled (n : Nat) (e : Int) : Ratio :=
  if 0 ≤ e then ⟨n <<< e.toNat, 1⟩ else ⟨n, 1 <<< (-e).toNat⟩

/-- `n * 10 ^ e` as a fraction. -/
def Ratio.decimal (n : Nat) (e : Int) : Ratio :=
  if 0 ≤ e then ⟨n * Nat.pow 10 e.toNat, 1⟩ else ⟨n, Nat.pow 10 (-e).toNat⟩

def Ratio.le (a b : Ratio) : Bool := a.num * b.den ≤ b.num * a.den

def Ratio.lt (a b : Ratio) : Bool := a.num * b.den < b.num * a.den

/-- The exponent of the leading decimal digit of a fraction above `10 ^ -400`. -/
def Ratio.leadingExponent (r : Ratio) : Int :=
  if r.den ≤ r.num then ((Nat.toDigits 10 (r.num / r.den)).length : Int) - 1
  else -(((List.range 400).find? fun k => r.den ≤ r.num * Nat.pow 10 k).getD 400 : Nat)

/-- The reals that round to one double. -/
structure Interval where
  low : Ratio
  high : Ratio
  closed : Bool

def Interval.contains (interval : Interval) (r : Ratio) : Bool :=
  if interval.closed then interval.low.le r && r.le interval.high
  else interval.low.lt r && r.lt interval.high

/-- The reals that round to `mantissa * 2 ^ exponent`. Below a power of two the doubles lie twice as
close. -/
def Interval.around (mantissa : Nat) (exponent : Int) : Interval where
  low :=
    .scaled (if mantissa = hiddenBit ∧ -1074 < exponent then 4 * mantissa - 1 else 4 * mantissa - 2)
      (exponent - 2)
  high := .scaled (4 * mantissa + 2) (exponent - 2)
  closed := mantissa % 2 = 0

/-- Which of two neighbours on a grid is taken for the value in their middle. -/
inductive Tie where
  | up
  | toEven
deriving DecidableEq, Repr

/-- Whether the middle above a multiple of the grid goes down to it. -/
def Tie.goesDown (tie : Tie) (below : Nat) : Bool :=
  match tie with
  | .up => false
  | .toEven => below % 2 = 0

/-- The decimals next to a value on the grid `10 ^ step`, nearer one first. -/
def neighbours (tie : Tie) (value : Ratio) (step : Int) : List Nat :=
  let unit := Ratio.decimal 1 step
  let num := value.num * unit.den
  let den := value.den * unit.num
  let below := num / den
  let rest := 2 * (num % den)
  if rest < den || rest = den && tie.goesDown below then [below, below + 1] else [below + 1, below]

/-- A multiple of `10 ^ step` in digits. -/
def Digits.ofGrid (n : Nat) (step : Int) : Digits :=
  let all := Nat.toDigits 10 n
  ⟨(all.reverse.dropWhile (· == '0')).reverse, step + all.length - 1⟩

/-- The shortest decimal that reads back as `mantissa * 2 ^ exponent`. -/
def shortest (tie : Tie) (mantissa : Nat) (exponent : Int) : Digits :=
  let value := Ratio.scaled mantissa exponent
  let interval := Interval.around mantissa exponent
  let lead := value.leadingExponent
  let found := (List.range 17).findSome? fun (n : Nat) =>
    let step := lead - n
    ((neighbours tie value step).find? fun k => k != 0 && interval.contains (.decimal k step)).map
      (Digits.ofGrid · step)
  found.getD ⟨['0'], 0⟩

end RuntimeProfiles.Decimal
