/-!
# Plain data

What a text or a request holds before it is read as a value of some type: scalars, lists and
records. The readers of JSON and TOML produce `Data`, the writers consume it.

A text may stop being well formed in the middle. Its readers then keep what stood before that point,
so that whoever walks the data in the order of the text meets the faults in that order: `broken`
stands in the place of a value that is not there, and every list or record ends in an `Ending`.
-/

namespace RuntimeProfiles

/-- How a list or a record comes to its end. -/
inductive Ending where
  /-- With its closing bracket. -/
  | closed
  /-- Without a bracket: the items of the list are tables, each under a header of its own. -/
  | headed
  /-- With its closing bracket, but a key in it is no string of characters; that key and what
  follows it have been left out. -/
  | garbled
  /-- The text stops being well formed after the part that is there. -/
  | broken
deriving DecidableEq, Repr

/-- Whether everything that the text holds of a list or record is there. -/
def Ending.isSound : Ending → Bool
  | .closed | .headed => true
  | .garbled | .broken => false

/-- Data without a type. -/
inductive Data where
  | null
  | bool (value : Bool)
  | integer (value : Int)
  | float (value : Float)
  | text (value : String)
  /-- A date, a time, or both. -/
  | moment
  | list (items : List Data) (ending : Ending)
  /-- Fields in the order of the text. -/
  | record (fields : List (String × Data)) (ending : Ending)
  /-- A scalar of the right form without a meaning, such as a number beyond all bounds. -/
  | unreadable
  /-- The place where a text stops being well formed. -/
  | broken
deriving Inhabited

namespace Data

/-- Whether the text went on after the value: nothing in it was broken. -/
def isWhole : Data → Bool
  | .broken => false
  | .list _ ending | .record _ ending => ending != .broken
  | _ => true

/-- The value under a key of a record. -/
def get? (data : Data) (key : String) : Option Data :=
  match data with
  | .record fields _ => fields.lookup key
  | _ => none

/-- A well-formed record. -/
def ofFields (fields : List (String × Data)) : Data := .record fields .closed

end Data

end RuntimeProfiles
