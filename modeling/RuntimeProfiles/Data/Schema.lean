import RuntimeProfiles.Data.Fault

/-!
# Reading and writing typed values

A `Codec` reads values of a type from plain data and writes them back. Records have a `Schema`: one
table of fields, each with its key, the way its value is read into the record and the way it is
written. `Schema.codec` derives both directions from that one table, so the keys, their order and
the defaults of a type are stated once.

A record is read from fields in any order, unknown keys being left alone, or from a list of values
in the order of the table. A record starts as `blank`; a field that is optional keeps its value of
`blank` if it does not occur.
-/

namespace RuntimeProfiles

/-- How values of a type are read from plain data and written as such. -/
structure Codec (α : Type) where
  encode : α → Data
  decode : Format → Data → Except Fault α

namespace Codec

def bool : Codec Bool where
  encode := .bool
  decode format
    | .bool value => .ok value
    | data => .error (data.mismatch format "a boolean")

def text : Codec String where
  encode := .text
  decode format
    | .text value => .ok value
    | data => .error (data.mismatch format "a string")

/-- Sizes are integers from zero up to the greatest 64-bit word. -/
def size : Codec UInt64 where
  encode value := .integer value.toNat
  decode format
    | .integer value =>
      if 0 ≤ value ∧ value < UInt64.size then .ok (.ofNat value.toNat)
      else .error (.wrongValue ((Data.integer value).description format) "usize")
    | data => .error (data.mismatch format "usize")

/-- A value that may be left out, but not written as something else. -/
def optional (codec : Codec α) : Codec (Option α) where
  encode value := value.elim .null codec.encode
  decode format data := some <$> codec.decode format data

/-- The value of a name. -/
def variantOf (names : List (String × α)) (given : String) : Except Fault α :=
  match names.lookup given with
  | some value => .ok value
  | none => .error (.unknownVariant given (names.map (·.1)))

/-- A name may carry a payload, but there is nothing to be said in it. -/
def checkPayload (format : Format) (payload : Data) : Except Fault Unit :=
  match format, payload with
  | .toml, .record [] _ | .toml, .list [] _ => .ok ()
  | .toml, .list _ .headed => .error .payloadHasItems
  | .toml, .record _ _ | .toml, .list _ _ => .error .payloadNotEmpty
  | .toml, _ => .error (.payloadNotTable payload.kindName)
  | _, .null => .ok ()
  | _, _ => .error (payload.mismatch format "unit")

/-- Drops all but the last of the fields with the same key, as a value that has been read as a whole
holds only those. -/
def lastOfEach (fields : List (String × Data)) : List (String × Data) :=
  match fields with
  | [] => []
  | (key, value) :: rest =>
    if rest.any (·.1 == key) then lastOfEach rest else (key, value) :: lastOfEach rest

/-- The value of a name that is written as a record with that name as its only key. -/
def variantOfFields (format : Format) (names : List (String × α)) (fields : List (String × Data))
    (ending : Ending) : Except Fault α :=
  match format, fields with
  | .jsonText, [] => .error .malformed
  | .jsonText, (name, payload) :: rest => do
    let value ← variantOf names name
    checkPayload format payload
    if rest.isEmpty && ending.isSound then return value else throw .malformed
  | .jsonValue, fields =>
    match lastOfEach fields with
    | [(name, payload)] => do
      let value ← variantOf names name
      checkPayload format payload
      return value
    | _ => .error (.wrongValue "map" "map with a single key")
  | .toml, [] => .error .noVariantKey
  | .toml, [(name, payload)] => do
    let value ← variantOf names name
    checkPayload format payload
    return value
  | .toml, _ => .error .manyVariantKeys

/-- One of finitely many values, each known by a name. -/
def variant (name : α → String) (all : List α) : Codec α where
  encode value := .text (name value)
  decode format data :=
    let names := all.map fun value => (name value, value)
    match data with
    | .text given => variantOf names given
    | .record fields ending => variantOfFields format names fields ending
    | data =>
      match format with
      | .toml => .error .noVariant
      | .jsonText => .error .malformed
      | .jsonValue => .error (data.mismatch format "string or map")

end Codec

/-- A field of a record: its key and how its value goes into the record and out of it. -/
structure Field (σ : Type) where
  key : String
  required : Bool
  write : σ → Data
  read : Format → Data → σ → Except Fault σ

namespace Field

/-- A field that has to be there. -/
def ofCodec (key : String) (codec : Codec α) (get : σ → α) (set : σ → α → σ) : Field σ where
  key
  required := true
  write record := codec.encode (get record)
  read format data record := set record <$> codec.decode format data

/-- A field that keeps its default if it is left out. -/
def withDefault (key : String) (codec : Codec α) (get : σ → α) (set : σ → α → σ) : Field σ :=
  { ofCodec key codec get set with required := false }

end Field

/-- The table of a record type. -/
structure Schema (σ : Type) where
  /-- The name of the type in messages. -/
  name : String
  /-- The record before any field is read. -/
  blank : σ
  fields : List (Field σ)

namespace Schema

/-- The data of a record. -/
def encode (schema : Schema σ) (record : σ) : Data :=
  .ofFields (schema.fields.map fun field => (field.key, field.write record))

/-- The field with a given key. -/
def field? (schema : Schema σ) (key : String) : Option (Field σ) :=
  schema.fields.find? (·.key == key)

/-- Reads fields in their order into a record. `seen` are the known keys that have occurred. -/
def readFields (schema : Schema σ) (format : Format) :
    List (String × Data) → (seen : List String) → σ → Except Fault (List String × σ)
  | [], seen, record => .ok (seen, record)
  | (key, value) :: rest, seen, record =>
    match schema.field? key with
    | none =>
      if value.isWhole then readFields schema format rest seen record else .error .malformed
    | some field =>
      if seen.contains key then .error (.duplicateField key)
      else do
        let record ← field.read format value record
        readFields schema format rest (key :: seen) record

/-- Reads a record from its fields. -/
def ofFields (schema : Schema σ) (format : Format) (fields : List (String × Data))
    (ending : Ending) : Except Fault σ := do
  let fields := if format = .jsonValue then Codec.lastOfEach fields else fields
  let (seen, record) ← schema.readFields format fields [] schema.blank
  if !ending.isSound then throw .malformed
  match schema.fields.find? fun field => field.required && !seen.contains field.key with
  | some field => throw (.missingField field.key)
  | none => return record

/-- What messages call the fields of a record. -/
def extent (schema : Schema σ) : String :=
  "struct " ++ schema.name ++ " with " ++ toString schema.fields.length
    ++ if schema.fields.length = 1 then " element" else " elements"

/-- Reads a record from values in the order of its fields. `index` of them have been read before,
and `length` is the number of all. -/
def readItems (schema : Schema σ) (format : Format) (length : Nat) (ending : Ending) :
    List (Field σ) → List Data → (index : Nat) → σ → Except Fault σ
  | [], [], _, record => if ending.isSound then .ok record else .error .malformed
  | [], _ :: _, _, record => (format.surplus length).elim (.ok record) .error
  | field :: fields, [], index, record =>
    if !ending.isSound then .error .malformed
    else if field.required then .error (.wrongLength index schema.extent)
    else readItems schema format length ending fields [] (index + 1) record
  | field :: fields, value :: values, index, record => do
    let record ← field.read format value record
    readItems schema format length ending fields values (index + 1) record

/-- Reads a record. A date counts as a record with one unknown key. -/
def decode (schema : Schema σ) (format : Format) : Data → Except Fault σ
  | .record fields ending => schema.ofFields format fields ending
  | .moment => schema.ofFields format [] .closed
  | .list items ending =>
    schema.readItems format items.length ending schema.fields items 0 schema.blank
  | data => .error (data.mismatch format ("struct " ++ schema.name))

/-- The codec of a record type. -/
def codec (schema : Schema σ) : Codec σ where
  encode := schema.encode
  decode := schema.decode

end Schema

end RuntimeProfiles
