import RuntimeProfiles.Data
import RuntimeProfiles.Decimal.FloatText
import RuntimeProfiles.Text.Quoted

/-!
# Faults of data

Why data cannot be read as a value of a type. The formats agree on most of it; where they differ, a
function of `Format` states the rule of each.
-/

namespace RuntimeProfiles

/-- Where data comes from. -/
inductive Format where
  /-- A JSON value that has been read as a whole before anything is asked of it. -/
  | jsonValue
  /-- A JSON text, whose faults are met in the order of the text. -/
  | jsonText
  | toml
deriving DecidableEq, Repr

/-- Why data cannot be read as a value of a type. -/
inductive Fault where
  /-- The text does not follow the grammar of its format. -/
  | malformed
  /-- A value of the wrong kind. -/
  | wrongType (found wanted : String)
  /-- A value of the right kind that is out of range. -/
  | wrongValue (found wanted : String)
  /-- A list with too few or too many items. -/
  | wrongLength (length : Nat) (wanted : String)
  /-- A name that is none of the known ones. -/
  | unknownVariant (given : String) (known : List String)
  /-- A record without a required key. -/
  | missingField (key : String)
  /-- A record with a key twice. -/
  | duplicateField (key : String)
  /-- Something else in the place of a name. -/
  | noVariant
  /-- A table in the place of a name that holds no key. -/
  | noVariantKey
  /-- A table in the place of a name that holds several keys. -/
  | manyVariantKeys
  /-- A name with a payload that holds something. -/
  | payloadNotEmpty
  /-- A name with tables under headers of their own as its payload. -/
  | payloadHasItems
  /-- A name with a payload that is no table. -/
  | payloadNotTable (found : String)
deriving DecidableEq, Repr

namespace Fault

/-- The text of a fault; a malformed text has no text of its own. -/
def message : Fault → String
  | .malformed => "malformed text"
  | .wrongType found wanted => "invalid type: " ++ found ++ ", expected " ++ wanted
  | .wrongValue found wanted => "invalid value: " ++ found ++ ", expected " ++ wanted
  | .wrongLength length wanted => "invalid length " ++ toString length ++ ", expected " ++ wanted
  | .unknownVariant given known =>
    "unknown variant `" ++ given ++ "`, expected one of "
      ++ ", ".intercalate (known.map fun name => "`" ++ name ++ "`")
  | .missingField key => "missing field `" ++ key ++ "`"
  | .duplicateField key => "duplicate field `" ++ key ++ "`"
  | .noVariant => "wanted string or table"
  | .noVariantKey => "wanted exactly 1 element, found 0 elements"
  | .manyVariantKeys => "wanted exactly 1 element, more than 1 element"
  | .payloadNotEmpty => "expected empty table"
  | .payloadHasItems => "expected empty array"
  | .payloadNotTable found => "expected table, found " ++ found

end Fault

namespace Format

/-- How messages write floats: those of TOML always positionally and with ties going up, those of
JSON positionally if they are of moderate size and with ties going to the even digit. -/
def floatStyle : Format → Decimal.FloatStyle
  | .toml => ⟨.up, .unbounded⟩
  | .jsonValue | .jsonText => ⟨.toEven, .moderate⟩

/-- What a list of `length` items is faulted with if there are fewer fields for them. A text is
malformed where its next item stands, and TOML leaves such items alone. -/
def surplus (format : Format) (length : Nat) : Option Fault :=
  match format with
  | .jsonValue => some (.wrongLength length "fewer elements in array")
  | .jsonText => some .malformed
  | .toml => none

end Format

namespace Data

/-- What messages call a value. -/
def description (format : Format) : Data → String
  | .null => "null"
  | .bool value => "boolean `" ++ toString value ++ "`"
  | .integer value => "integer `" ++ toString value ++ "`"
  | .float value => "floating point `" ++ Decimal.floatText format.floatStyle value ++ "`"
  | .text value => "string " ++ Text.quoted value
  | .list _ _ => "sequence"
  | .moment | .record _ _ => "map"
  | .unreadable | .broken => "nothing"

/-- What TOML calls the kind of a value. -/
def kindName : Data → String
  | .text _ => "string"
  | .integer _ => "integer"
  | .float _ => "float"
  | .bool _ => "boolean"
  | .moment => "datetime"
  | .list _ _ => "array"
  | .record _ _ => "table"
  | .null | .unreadable | .broken => "nothing"

/-- The fault of a value of the wrong kind. Where there is no value, the text is malformed. -/
def mismatch (format : Format) (wanted : String) (data : Data) : Fault :=
  match data with
  | .unreadable | .broken => .malformed
  | _ => .wrongType (data.description format) wanted

end Data

end RuntimeProfiles
