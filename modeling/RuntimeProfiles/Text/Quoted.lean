import RuntimeProfiles.Text.Hex
import RuntimeProfiles.Text.Invisible

/-!
# Quoted text in messages

Messages show a text that they complain about in double quotes, with everything that would not be
seen written as an escape.
-/

namespace RuntimeProfiles.Text

/-- How a character is shown between double quotes. -/
def quotedChar (c : Char) : List Char :=
  if c = '\x00' then ['\\', '0']
  else if c = '\t' then ['\\', 't']
  else if c = '\n' then ['\\', 'n']
  else if c = '\r' then ['\\', 'r']
  else if c = '"' ∨ c = '\\' then ['\\', c]
  else if c.toNat < 0x20 ∨ c.toNat = 0x7F ∨ isInvisible c then
    ['\\', 'u', '{'] ++ hexDigits c.toNat ++ ['}']
  else [c]

/-- A text as messages show it. -/
def quoted (text : String) : String :=
  String.ofList ('"' :: text.toList.flatMap quotedChar ++ ['"'])

end RuntimeProfiles.Text
