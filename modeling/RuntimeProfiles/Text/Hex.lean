/-!
# Hexadecimal digits

Numbers in base sixteen, as escapes and offsets write them.
-/

namespace RuntimeProfiles.Text

/-- The value of a hexadecimal digit of either case. -/
def hexValue? (c : Char) : Option Nat :=
  if '0' ≤ c ∧ c ≤ '9' then some (c.toNat - '0'.toNat)
  else if 'a' ≤ c ∧ c ≤ 'f' then some (c.toNat - 'a'.toNat + 10)
  else if 'A' ≤ c ∧ c ≤ 'F' then some (c.toNat - 'A'.toNat + 10)
  else none

/-- The value of a decimal digit. -/
def digitValue? (c : Char) : Option Nat :=
  if '0' ≤ c ∧ c ≤ '9' then some (c.toNat - '0'.toNat) else none

/-- The number that digits of a base write, most significant first, if all of them are digits. -/
def ofDigits? (base : Nat) (value? : Char → Option Nat) (digits : List Char) : Option Nat :=
  digits.foldlM (fun total c => (value? c).map (total * base + ·)) 0

/-- The digits of a number in base sixteen, in lower case. -/
def hexDigits (n : Nat) : List Char := Nat.toDigits 16 n

/-- The digits of a number in base sixteen, in upper case, padded with zeros to four. -/
def hexDigits4 (n : Nat) : List Char :=
  let digits := (hexDigits n).map Char.toUpper
  List.replicate (4 - digits.length) '0' ++ digits

end RuntimeProfiles.Text
