import RuntimeProfiles.Text.Hex

/-!
# TOML dates and times

Only the form of a date or time matters here, so `skipMoment` drops one from the front of a text. A
date needs a day that its month has; a time may follow it after a letter or a space, with an offset.
-/

namespace RuntimeProfiles.Toml

/-- A number of two digits within bounds, and the text after it. -/
def twoDigits (least greatest : Nat) : List Char → Option (Nat × List Char)
  | a :: b :: rest => do
    let n ← Text.ofDigits? 10 Text.digitValue? [a, b]
    if least ≤ n ∧ n ≤ greatest then return (n, rest) else none
  | _ => none

/-- Drops a given character. -/
def skipChar (c : Char) : List Char → Option (List Char)
  | x :: rest => if x = c then some rest else none
  | [] => none

/-- The number of days of a month. -/
def daysIn (year month : Nat) : Nat :=
  if month = 2 then
    if year % 4 = 0 ∧ (year % 100 ≠ 0 ∨ year % 400 = 0) then 29 else 28
  else if month = 4 ∨ month = 6 ∨ month = 9 ∨ month = 11 then 30
  else 31

/-- Drops the fraction of a second. -/
def skipFraction (text : List Char) : List Char :=
  match text with
  | '.' :: c :: rest => if c.isDigit then rest.dropWhile Char.isDigit else text
  | _ => text

/-- Drops the minutes and seconds of a time. A minute may have a leap second. -/
def skipMinutes (text : List Char) : Option (List Char) := do
  let (_, text) ← twoDigits 0 59 text
  let text ← skipChar ':' text
  let (_, text) ← twoDigits 0 60 text
  return skipFraction text

/-- The text after the hours of a time and the colon. -/
def hours? (text : List Char) : Option (List Char) := do
  let (_, text) ← twoDigits 0 23 text
  skipChar ':' text

/-- Drops the offset of a time, if there is one. -/
def skipOffset : List Char → Option (List Char)
  | 'Z' :: rest | 'z' :: rest => some rest
  | '+' :: rest | '-' :: rest => do
    let text ← hours? rest
    let (_, text) ← twoDigits 0 59 text
    return text
  | text => some text

/-- Drops the time that may follow a date. -/
def skipTimeOfDay (text : List Char) : Option (List Char) :=
  match text with
  | c :: rest =>
    if c = 'T' ∨ c = 't' ∨ c = ' ' then
      match hours? rest with
      | some rest => (skipMinutes rest).bind skipOffset
      | none => some text
    else some text
  | [] => some []

/-- The year of a date, and the text after its hyphen. -/
def year? : List Char → Option (Nat × List Char)
  | a :: b :: c :: d :: '-' :: rest => do
    let year ← Text.ofDigits? 10 Text.digitValue? [a, b, c, d]
    return (year, rest)
  | _ => none

/-- Drops the rest of a date after its year, and the time that may follow it. -/
def skipDate (year : Nat) (text : List Char) : Option (List Char) := do
  let (month, text) ← twoDigits 1 12 text
  let text ← skipChar '-' text
  let (_, text) ← twoDigits 1 (daysIn year month) text
  skipTimeOfDay text

/-- What a text starts with, as far as dates and times go. -/
inductive MomentStart where
  /-- Neither a date nor a time. -/
  | none
  /-- A date or time that is not well formed. -/
  | broken
  /-- A date or time, and the text after it. -/
  | found (rest : List Char)

/-- Drops a date or a time from the front of a text. -/
def skipMoment (text : List Char) : MomentStart :=
  match year? text with
  | some (year, rest) => (skipDate year rest).elim .broken .found
  | none =>
    match hours? text with
    | some rest => (skipMinutes rest).elim .broken .found
    | none => .none

end RuntimeProfiles.Toml
