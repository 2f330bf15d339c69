import RuntimeProfiles.Layout
import RuntimeProfiles.Text.Hex

/-!
# Offsets on the command line

An offset is written in decimal, or in hexadecimal after `0x`; one plus sign may stand in front of
the digits. Its value is below two to the power of 64. Faults are found from left to right: a number
that has grown too large is reported before a wrong digit further on.
-/

namespace RuntimeProfiles

/-- Why a text is no offset. -/
inductive OffsetFault where
  | empty
  | invalidDigit
  | tooLarge
deriving DecidableEq, Repr

/-- The text of a fault. -/
def OffsetFault.message : OffsetFault → String
  | .empty => "cannot parse integer from empty string"
  | .invalidDigit => "invalid digit found in string"
  | .tooLarge => "number too large to fit in target type"

namespace Offset

/-- Appends digits to a number. -/
def appendDigits (base : Nat) (value? : Char → Option Nat) :
    Nat → List Char → Except OffsetFault Nat
  | total, [] => .ok total
  | total, c :: rest =>
    match value? c with
    | none => .error .invalidDigit
    | some digit =>
      if total * base + digit < UInt64.size then
        appendDigits base value? (total * base + digit) rest
      else .error .tooLarge

/-- The digits of a number after its sign. A sign alone is a wrong digit. -/
def unsigned (text : List Char) : Except OffsetFault (List Char) :=
  match text with
  | [] => .error .empty
  | ['+'] => .error .invalidDigit
  | '+' :: digits => .ok digits
  | digits => .ok digits

/-- The value of a number in a base. -/
def readDigits (base : Nat) (value? : Char → Option Nat) (text : List Char) :
    Except OffsetFault UInt64 := do
  let total ← appendDigits base value? 0 (← unsigned text)
  return .ofNat total

/-- The value of an offset. -/
def read (text : String) : Except OffsetFault UInt64 :=
  match text.toList with
  | '0' :: 'x' :: digits | '0' :: 'X' :: digits => readDigits 16 Text.hexValue? digits
  | digits => readDigits 10 Text.digitValue? digits

/-- An offset in hexadecimal. -/
def hex (offset : UInt64) : String := "0x" ++ String.ofList (Text.hexDigits offset.toNat)

/-- The line about an offset. -/
def line (offset : UInt64) : String :=
  "  " ++ hex offset ++ ": "
    ++ if Layout.native.canDoImplicitNullCheckOn offset then "implicit" else "explicit"

end Offset

end RuntimeProfiles
