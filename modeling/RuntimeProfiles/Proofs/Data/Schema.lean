import RuntimeProfiles.Data.Schema

/-!
# Typed values come back

A codec is lawful if it reads every value back from the data that it writes, whatever the format:

* **`Codec.bool_lawful`**, **`Codec.text_lawful`**, **`Codec.variant_lawful`** — scalars;
* **`Schema.codec_lawful`** — records. A schema has to have distinct keys and to copy: reading each
  field from what was written for it turns the blank record into the one that was written.

The second condition is a fold over the table of fields, without keys and data, so a record type
discharges it by computation.
-/

namespace RuntimeProfiles

@[simp]
theorem ok_bind {ε α β : Type} (value : α) (next : α → Except ε β) :
    (Except.ok value >>= next) = next value := rfl

/-- A truth value or a text. -/
inductive Data.IsWord : Data → Prop where
  | bool (value : Bool) : IsWord (.bool value)
  | text (value : String) : IsWord (.text value)

namespace Codec

/-- Every value is read from the data that is written for it. -/
def Lawful (codec : Codec α) : Prop :=
  ∀ format value, codec.decode format (codec.encode value) = .ok value

theorem bool_lawful : bool.Lawful := fun _ _ => rfl

theorem text_lawful : text.Lawful := fun _ _ => rfl

theorem lookup_map_name [BEq κ] [LawfulBEq κ] {name : α → κ} {all : List α}
    (hnodup : (all.map name).Nodup) {value : α} (h : value ∈ all) :
    (all.map fun v => (name v, v)).lookup (name value) = some value := by
  induction all with
  | nil => simp at h
  | cons first all ih =>
    obtain ⟨hfresh, hnodup⟩ := List.nodup_cons.1 hnodup
    rw [List.map_cons, List.lookup_cons]
    rcases List.mem_cons.1 h with rfl | hmem
    · simp
    · have hne : name value ≠ name first := fun heq =>
        hfresh (heq ▸ List.mem_map_of_mem hmem)
      rw [beq_eq_false_iff_ne.2 hne, ih hnodup hmem]

/-- Values that are all listed under distinct names come back from their names. -/
theorem variant_lawful {name : α → String} {all : List α} (hnodup : (all.map name).Nodup)
    (hall : ∀ value, value ∈ all) : (variant name all).Lawful := by
  intro format value
  simp only [variant, variantOf, lookup_map_name hnodup (hall value)]

/-- Nothing is dropped from fields under distinct keys. -/
theorem lastOfEach_of_nodup {fields : List (String × Data)} (h : (fields.map (·.1)).Nodup) :
    lastOfEach fields = fields := by
  induction fields with
  | nil => rfl
  | cons field fields ih =>
    obtain ⟨hfresh, hnodup⟩ := List.nodup_cons.1 h
    have hany : fields.any (·.1 == field.1) = false := by
      rw [List.any_eq_false]
      intro other hother
      rw [beq_iff_eq]
      intro heq
      exact hfresh (List.mem_map.2 ⟨other, hother, heq⟩)
    rw [lastOfEach, hany, ih hnodup]
    rfl

end Codec

namespace Schema

variable {σ : Type} {schema : Schema σ}

/-- The fields of a record as they are written. -/
def written (fields : List (Field σ)) (record : σ) : List (String × Data) :=
  fields.map fun field => (field.key, field.write record)

/-- Reads each of some fields from what is written for a record. -/
def copy (format : Format) (record : σ) (fields : List (Field σ)) (start : σ) : Except Fault σ :=
  fields.foldlM (fun copied field => field.read format (field.write record) copied) start

/-- Reading the fields of any record, one after the other, gives that record. -/
def Copies (schema : Schema σ) : Prop :=
  ∀ format record, copy format record schema.fields schema.blank = .ok record

theorem written_keys (fields : List (Field σ)) (record : σ) :
    (written fields record).map (·.1) = fields.map (·.key) := by
  simp [written, Function.comp_def]

/-- Fields that are known, not seen before and under distinct keys are read one after the other. -/
theorem readFields_written (format : Format) (record : σ) {fields : List (Field σ)}
    (hknown : ∀ field ∈ fields, schema.field? field.key = some field) (seen : List String)
    (h : (fields.map (·.key) ++ seen).Nodup) (start : σ) :
    schema.readFields format (written fields record) seen start
      = (copy format record fields start).map
          fun copied => ((fields.map (·.key)).reverse ++ seen, copied) := by
  -- the invariant is that the keys to come and the keys seen are distinct
  induction fields generalizing seen start with
  | nil => rfl
  | cons field fields ih =>
    have hfresh : field.key ∉ seen := fun hmem =>
      (List.nodup_append.1 h).2.2 _ List.mem_cons_self _ hmem rfl
    have hrest : (fields.map (·.key) ++ field.key :: seen).Nodup := by
      refine (List.Perm.nodup_iff ?_).1 h
      exact (List.perm_middle).symm
    have hcontains : seen.contains field.key = false := by simpa using hfresh
    simp only [written, List.map_cons, readFields, hknown field List.mem_cons_self, hcontains,
      Bool.false_eq_true, if_false, copy, List.foldlM_cons]
    cases field.read format (field.write record) start with
    | error fault => rfl
    | ok copied =>
      have ih := ih (fun f hf => hknown f (List.mem_cons_of_mem _ hf)) _ hrest copied
      simp only [written, copy] at ih
      simp only [ok_bind, ih, List.reverse_cons, List.append_assoc, List.cons_append,
        List.nil_append]

theorem field?_eq_some {schema : Schema σ} (h : (schema.fields.map (·.key)).Nodup) {field : Field σ}
    (hfield : field ∈ schema.fields) : schema.field? field.key = some field := by
  unfold field?
  -- the schema is fixed, but the induction is over its table alone
  generalize schema.fields = fields at h hfield
  induction fields with
  | nil => simp at hfield
  | cons first fields ih =>
    obtain ⟨hfresh, hnodup⟩ := List.nodup_cons.1 h
    rw [List.find?_cons]
    rcases List.mem_cons.1 hfield with rfl | hmem
    · simp
    · have hne : (first.key == field.key) = false := by
        rw [beq_eq_false_iff_ne]
        intro heq
        exact hfresh (List.mem_map.2 ⟨field, hmem, heq.symm⟩)
      rw [hne]
      exact ih hnodup hmem

/-- No field is missing once every key has been seen. -/
theorem find?_missing {fields : List (Field σ)} {seen : List String}
    (h : ∀ field ∈ fields, field.key ∈ seen) :
    (fields.find? fun field => field.required && !seen.contains field.key) = none := by
  rw [List.find?_eq_none]
  intro field hfield
  simp [h field hfield]

/-- **Records come back** in every format, if the keys of their schema are distinct and each of its
fields is read as it is written. -/
theorem codec_lawful (hkeys : (schema.fields.map (·.key)).Nodup) (hcopies : schema.Copies) :
    schema.codec.Lawful := by
  intro format record
  have hlast : Codec.lastOfEach (written schema.fields record) = written schema.fields record :=
    Codec.lastOfEach_of_nodup (by rwa [written_keys])
  have hread := readFields_written format record (fun _ hfield => field?_eq_some hkeys hfield)
    [] (by simpa using hkeys) schema.blank
  rw [hcopies format record] at hread
  have hseen : ∀ field ∈ schema.fields, field.key ∈ (schema.fields.map (·.key)).reverse ++ [] := by
    intro field hfield
    simpa using ⟨field, hfield, rfl⟩
  show schema.ofFields format (written schema.fields record) .closed = .ok record
  simp only [ofFields, hlast, ite_self, hread, Except.map, ok_bind, find?_missing hseen]
  rfl

end Schema

end RuntimeProfiles
