import RuntimeProfiles.Proofs.Data.Lookup
import RuntimeProfiles.Proofs.Data.Schema

/-!
# Records are read by key

A record is read from its fields in the order in which they stand, and each of them changes the
record a bit. If no two fields of the schema get in each other's way (`Schema.IsKeyed`), that order
does not matter: the record might as well be read in the order of the schema, with each field
looking up its own key (`Schema.readByKey?`). Whatever stands under other keys has no say in it.
Only the fault that is met first depends on the order, so faults are left out of account here.

* **`Schema.readByKey?_cons`** — a field may be read before all others;
* **`Schema.toOption_readFields`** — so reading fields one after the other is reading by key;
* **`Schema.decode_record_iff`** — and so is reading a record, if the required keys are there;
* **`Field.readAt?_eq_some_iff`** — a field takes the value under its key, or keeps its default.
-/

namespace RuntimeProfiles

variable {σ α β ε : Type}

theorem toOption_eq_some_iff {outcome : Except ε α} {value : α} :
    outcome.toOption = some value ↔ outcome = .ok value := by
  cases outcome with
  | error fault => exact ⟨nofun, nofun⟩
  | ok other => exact ⟨fun h => congrArg Except.ok (Option.some.inj h), fun h => by cases h; rfl⟩

namespace Field

/-- What a record becomes by reading a field, if there is no fault. -/
def read? (field : Field σ) (format : Format) (data : Data) (record : σ) : Option σ :=
  (field.read format data record).toOption

/-- Reads a field from what stands under its key, if anything does. -/
def readAt? (field : Field σ) (format : Format) (entry : Option Data) (record : σ) : Option σ :=
  match entry with
  | some data => field.read? format data record
  | none => some record

/-- Two fields do not get in each other's way: they can be read in either order. -/
def Commutes (first second : Field σ) : Prop :=
  ∀ format data data' record,
    (first.read? format data record).bind (second.read? format data')
      = (second.read? format data' record).bind (first.read? format data)

variable {first second : Field σ} {format : Format}

/-- A field that is left out is in nobody's way. -/
theorem Commutes.readAt? (h : first.Commutes second) (entry : Option Data) (data : Data)
    (record : σ) :
    (first.readAt? format entry record).bind (second.read? format data)
      = (second.read? format data record).bind (first.readAt? format entry) := by
  cases entry with
  | some other => exact h format other data record
  | none =>
    exact (Option.bind_fun_some _).symm

end Field

namespace Schema

/-- The fields of a schema have distinct keys and do not get in each other's way. -/
structure IsKeyed (schema : Schema σ) : Prop where
  keys : (schema.fields.map (·.key)).Nodup
  commute : schema.fields.Pairwise Field.Commutes

/-- Reads fields in the order in which they are given, each from what a table has under its key. -/
def readByKey? (fields : List (Field σ)) (format : Format) (table : List (String × Data))
    (record : σ) : Option σ :=
  fields.foldlM (fun record field => field.readAt? format (table.lookup field.key) record) record

variable {schema : Schema σ} {fields : List (Field σ)} {format : Format}
  {table table' : List (String × Data)} {record result : σ} {key other : String} {value : Data}

theorem readByKey?_fields_cons (field : Field σ) (record : σ) :
    readByKey? (field :: fields) format table record
      = (field.readAt? format (table.lookup field.key) record).bind
        (readByKey? fields format table) :=
  rfl

/-- Only the values under the keys of the fields matter. -/
theorem readByKey?_congr (h : ∀ field ∈ fields, table'.lookup field.key = table.lookup field.key) :
    readByKey? fields format table' = readByKey? fields format table := by
  induction fields with
  | nil => rfl
  | cons field fields ih =>
    obtain ⟨hfield, hfields⟩ := List.forall_mem_cons.1 h
    funext record
    rw [readByKey?_fields_cons, readByKey?_fields_cons, hfield, ih hfields]

theorem readByKey?_cons_of_notMem (h : key ∉ fields.map (·.key)) :
    readByKey? fields format ((key, value) :: table) = readByKey? fields format table := by
  apply readByKey?_congr
  intro field hfield
  apply lookup_cons_of_ne
  intro hsame
  exact h (List.mem_map.2 ⟨field, hfield, hsame⟩)

/-- The field of the first value may be read before all other fields. -/
theorem readByKey?_cons {field : Field σ} (hfield : field ∈ fields)
    (hkeys : (fields.map (·.key)).Nodup) (hcommute : fields.Pairwise Field.Commutes)
    (hfresh : table.lookup field.key = none) (value : Data) (record : σ) :
    readByKey? fields format ((field.key, value) :: table) record
      = (field.read? format value record).bind (readByKey? fields format table) := by
  induction fields generalizing record with
  | nil => cases hfield
  | cons head fields ih =>
    obtain ⟨hkey, hkeys⟩ := List.nodup_cons.1 hkeys
    obtain ⟨hhead, hcommute⟩ := List.pairwise_cons.1 hcommute
    rcases List.mem_cons.1 hfield with rfl | hmem
    · -- the other fields have other keys, and later on this one finds nothing more
      have hself : ((field.key, value) :: table).lookup field.key = some value := by simp
      have hagain : readByKey? (field :: fields) format table = readByKey? fields format table := by
        funext record
        rw [readByKey?_fields_cons, hfresh]
        rfl
      rw [readByKey?_fields_cons, hself, readByKey?_cons_of_notMem hkey, hagain]
      rfl
    · -- the field in front may be read before this one or after it
      have hne : head.key ≠ field.key := fun hsame =>
        hkey (List.mem_map.2 ⟨field, hmem, hsame.symm⟩)
      calc readByKey? (head :: fields) format ((field.key, value) :: table) record
          = (head.readAt? format (table.lookup head.key) record).bind
              (readByKey? fields format ((field.key, value) :: table)) := by
            rw [readByKey?_fields_cons, lookup_cons_of_ne hne]
        _ = (head.readAt? format (table.lookup head.key) record).bind fun between =>
              (field.read? format value between).bind (readByKey? fields format table) := by
            congr 1
            funext between
            exact ih hmem hkeys hcommute between
        _ = ((field.read? format value record).bind
              (head.readAt? format (table.lookup head.key))).bind
                (readByKey? fields format table) := by
            rw [← Option.bind_assoc, (hhead field hmem).readAt?]
        _ = (field.read? format value record).bind (readByKey? (head :: fields) format table) := by
            rw [Option.bind_assoc]
            rfl

/-- The keys of a table that belong to fields of the schema. -/
def knownKeys (schema : Schema σ) (table : List (String × Data)) : List String :=
  (table.map (·.1)).filter fun key => (schema.field? key).isSome

theorem field?_eq_none_iff : schema.field? key = none ↔ key ∉ schema.fields.map (·.key) := by
  rw [field?, List.find?_eq_none]
  simp

theorem key_of_field? {field : Field σ} (h : schema.field? key = some field) :
    field ∈ schema.fields ∧ field.key = key :=
  ⟨List.mem_of_find?_eq_some h, by simpa using List.find?_some h⟩

/-- A table with distinct keys is read by key, if nothing in it is broken. -/
theorem toOption_readFields (format : Format) (hschema : schema.IsKeyed)
    (hkeys : (table.map (·.1)).Nodup)
    (hwhole : ∀ field ∈ table, field.2.isWhole = true) {seen : List String}
    (hseen : ∀ field ∈ table, field.1 ∉ seen) (record : σ) :
    (schema.readFields format table seen record).toOption
      = (readByKey? schema.fields format table record).map fun result =>
        ((schema.knownKeys table).reverse ++ seen, result) := by
  induction table generalizing seen record with
  | nil =>
    have hnone : readByKey? schema.fields format [] record = some record := by
      induction schema.fields with
      | nil => rfl
      | cons field fields ih => exact ih
    rw [hnone]
    rfl
  | cons entry table ih =>
    obtain ⟨key, value⟩ := entry
    obtain ⟨hkey, hothers⟩ := List.nodup_cons.1 hkeys
    obtain ⟨hvalue, hvalues⟩ := List.forall_mem_cons.1 hwhole
    obtain ⟨hnew, hunseen⟩ := List.forall_mem_cons.1 hseen
    unfold readFields
    cases hfield : schema.field? key with
    | none =>
      -- an unknown key is passed over, here and there
      have hknown : schema.knownKeys ((key, value) :: table) = schema.knownKeys table := by
        rw [knownKeys, List.map_cons, List.filter_cons, hfield]
        rfl
      dsimp only
      rw [if_pos hvalue, ih hothers hvalues hunseen, hknown,
        readByKey?_cons_of_notMem (field?_eq_none_iff.1 hfield)]
    | some field =>
      obtain ⟨hmem, rfl⟩ := key_of_field? hfield
      have hknown : schema.knownKeys ((field.key, value) :: table)
          = field.key :: schema.knownKeys table := by
        rw [knownKeys, List.map_cons, List.filter_cons, hfield]
        rfl
      have hcontains : seen.contains field.key = false := by simpa using hnew
      have hfresh : table.lookup field.key = none := lookup_eq_none_iff_notMem.2 hkey
      have hlater : ∀ other ∈ table, other.1 ∉ field.key :: seen := by
        intro other hother hmem
        rcases List.mem_cons.1 hmem with hsame | hold
        · exact hkey (List.mem_map.2 ⟨other, hother, hsame⟩)
        · exact hunseen other hother hold
      dsimp only
      rw [hcontains, if_neg Bool.false_ne_true, hknown,
        readByKey?_cons hmem hschema.keys hschema.commute hfresh, Field.read?]
      cases field.read format value record with
      | error fault => rfl
      | ok between =>
        rw [ok_bind, ih hothers hvalues hlater, List.reverse_cons, List.append_assoc]
        rfl

/-- A record is read exactly if its required keys are there and every field can be read by key. -/
theorem decode_record_iff (hschema : schema.IsKeyed) (hkeys : (table.map (·.1)).Nodup)
    (hwhole : ∀ field ∈ table, field.2.isWhole = true) :
    schema.decode format (.record table .closed) = .ok result
      ↔ (∀ field ∈ schema.fields, field.required = true → field.key ∈ table.map (·.1))
        ∧ readByKey? schema.fields format table schema.blank = some result := by
  have hlast : (if format = .jsonValue then Codec.lastOfEach table else table) = table := by
    rw [Codec.lastOfEach_of_nodup hkeys, ite_self]
  have hunseen : ∀ field ∈ table, field.1 ∉ ([] : List String) := fun _ _ => List.not_mem_nil
  have hread := toOption_readFields format hschema hkeys hwhole hunseen schema.blank
  show schema.ofFields format table .closed = _ ↔ _
  rw [ofFields]
  dsimp only
  rw [hlast]
  cases hfields : schema.readFields format table [] schema.blank with
  | error fault =>
    rw [hfields] at hread
    have hnone : readByKey? schema.fields format table schema.blank = none := by
      cases hsome : readByKey? schema.fields format table schema.blank with
      | none => rfl
      | some other =>
        rw [hsome] at hread
        cases hread
    rw [hnone]
    exact iff_of_false (fun h => by cases h) fun h => by cases h.2
  | ok found =>
    rw [hfields] at hread
    obtain ⟨record, hrecord, rfl⟩ := Option.map_eq_some_iff.1 hread.symm
    have hseen : ∀ field ∈ schema.fields,
        (field.key ∈ (schema.knownKeys table).reverse ++ [] ↔ field.key ∈ table.map (·.1)) := by
      intro field hfield
      rw [List.append_nil, List.mem_reverse, knownKeys, List.mem_filter,
        field?_eq_some hschema.keys hfield]
      exact and_iff_left rfl
    have hmissing : (schema.fields.find? fun field => field.required
          && !((schema.knownKeys table).reverse ++ []).contains field.key) = none
        ↔ ∀ field ∈ schema.fields, field.required = true → field.key ∈ table.map (·.1) := by
      rw [List.find?_eq_none]
      refine forall₂_congr fun field hfield => ?_
      rw [← hseen field hfield, Bool.and_eq_true, Bool.not_eq_true', not_and, Bool.not_eq_false,
        List.contains_iff_mem]
    rw [hrecord, ok_bind, Option.some_inj, ← hmissing, if_neg (by decide)]
    split
    · next field hfound =>
      refine iff_of_false (fun h => by cases h) fun h => ?_
      rw [hfound] at h
      cases h.1
    · next hnone =>
      show Except.ok record = Except.ok result ↔ _
      rw [Except.ok.injEq, and_iff_right hnone]

end Schema

namespace Codec

theorem decode_text_iff {format : Format} {data : Data} {read : String} :
    text.decode format data = .ok read ↔ data = .text read := by
  cases data with
  | text value =>
    show Except.ok value = .ok read ↔ _
    rw [Except.ok.injEq, Data.text.injEq]
  | _ => exact ⟨nofun, nofun⟩

/-- What a codec makes of the entry under a key: the value that it is decoded as, or the default if
there is no entry. -/
def Gives (codec : Codec α) (format : Format) (fallback : α) (entry : Option Data) (value : α) :
    Prop :=
  match entry with
  | some data => codec.decode format data = .ok value
  | none => value = fallback

/-- Only what is there can be unreadable. -/
theorem exists_gives_iff {codec : Codec α} {format : Format} {fallback : α} {entry : Option Data} :
    (∃ value, codec.Gives format fallback entry value)
      ↔ ∀ data, entry = some data → ∃ value, codec.decode format data = .ok value := by
  cases entry with
  | none => exact iff_of_true ⟨_, rfl⟩ nofun
  | some data =>
    constructor
    · intro hgives other hsame
      cases hsame
      exact hgives
    · intro hreadable
      exact hreadable data rfl

end Codec

/-! ## Fields with a place of their own -/

namespace Field

/-- A field has a place of its own in the record, where it puts the value that its codec decodes. -/
def Puts (field : Field σ) (codec : Codec α) (set : σ → α → σ) : Prop :=
  ∀ format data record, field.read format data record = set record <$> codec.decode format data

variable {format : Format} {record result : σ} {codec : Codec α} {get : σ → α} {set : σ → α → σ}
  {codec' : Codec β} {set' : σ → β → σ} {first second field : Field σ}

theorem puts_ofCodec (key : String) : (ofCodec key codec get set).Puts codec set := fun _ _ _ => rfl

theorem puts_withDefault (key : String) : (withDefault key codec get set).Puts codec set :=
  fun _ _ _ => rfl

theorem Puts.read?_eq (h : field.Puts codec set) (data : Data) (record : σ) :
    field.read? format data record = (codec.decode format data).toOption.map (set record) := by
  rw [read?, h]
  cases codec.decode format data <;> rfl

/-- Two fields with different places do not get in each other's way. -/
theorem Puts.commutes (hfirst : first.Puts codec set) (hsecond : second.Puts codec' set')
    (h : ∀ record value value', set' (set record value) value' = set (set' record value') value) :
    first.Commutes second := by
  intro format data data' record
  have hreadFirst : first.read? format data = fun record =>
      (codec.decode format data).toOption.map (set record) := funext (hfirst.read?_eq data)
  have hreadSecond : second.read? format data' = fun record =>
      (codec'.decode format data').toOption.map (set' record) := funext (hsecond.read?_eq data')
  rw [hreadFirst, hreadSecond]
  cases (codec.decode format data).toOption with
  | none =>
    cases (codec'.decode format data').toOption with
    | none => rfl
    | some value' => rfl
  | some value =>
    cases (codec'.decode format data').toOption with
    | none => rfl
    | some value' => exact congrArg some (h record value value')

/-- A field takes the value under its key, or keeps the one that it has. -/
theorem Puts.readAt?_eq_some_iff (h : field.Puts codec set)
    (hset : ∀ record, set record (get record) = record) {entry : Option Data} :
    field.readAt? format entry record = some result
      ↔ ∃ value, codec.Gives format (get record) entry value ∧ set record value = result := by
  cases entry with
  | some data =>
    show field.read? format data record = some result
      ↔ ∃ value, codec.decode format data = .ok value ∧ set record value = result
    simp only [h.read?_eq, Option.map_eq_some_iff, toOption_eq_some_iff]
  | none =>
    show some record = some result ↔ ∃ value, value = get record ∧ set record value = result
    rw [exists_eq_left, hset, Option.some_inj]

end Field

end RuntimeProfiles
