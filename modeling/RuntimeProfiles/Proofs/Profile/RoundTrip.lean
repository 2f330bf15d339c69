import RuntimeProfiles.Profile
import RuntimeProfiles.Proofs.Data.Schema
import RuntimeProfiles.Proofs.Toml.Document

/-!
# Profiles come back

A profile is written as TOML and read from it. Both directions follow from one table of fields, so
the round trip is that of its codec behind that of TOML documents:

* **`ToggleSet.codec_lawful`**, **`Profile.codec_lawful`** — a record comes back from its data;
* **`Profile.isDocument`** — the data of a profile is a document: two strings and one section;
* **`Profile.ofToml_toToml`** — the profile comes back from its text, and what follows from it.
-/

namespace RuntimeProfiles

theorem ReadBarrier.codec_lawful : ReadBarrier.codec.Lawful :=
  Codec.variant_lawful (by decide) fun barrier => by cases barrier <;> decide

namespace Field

variable {σ α : Type}

/-- A field with a lawful codec is read as it is written. -/
theorem read_ofCodec {codec : Codec α} (h : codec.Lawful) (key : String) (get : σ → α)
    (set : σ → α → σ) (format : Format) (record copied : σ) :
    (ofCodec key codec get set).read format ((ofCodec key codec get set).write record) copied
      = .ok (set copied (get record)) := by
  simp only [ofCodec, h format (get record)]
  rfl

theorem read_withDefault {codec : Codec α} (h : codec.Lawful) (key : String) (get : σ → α)
    (set : σ → α → σ) (format : Format) (record copied : σ) :
    (withDefault key codec get set).read format ((withDefault key codec get set).write record)
        copied
      = .ok (set copied (get record)) :=
  read_ofCodec h key get set format record copied

end Field

theorem ToggleSet.codec_lawful : ToggleSet.codec.Lawful := by
  refine Schema.codec_lawful (by decide) fun format toggles => ?_
  simp only [Schema.copy, schema, flag, List.foldlM_cons, List.foldlM_nil,
    Field.read_withDefault Codec.bool_lawful, Field.read_withDefault ReadBarrier.codec_lawful,
    ok_bind]
  rfl

/-! ## The data of a profile -/

/-- What a schema writes is flat if its keys are bare and its fields hold scalars. -/
theorem Toml.isFlat_written {σ : Type} {fields : List (Field σ)} {record : σ}
    (hkeys : ∀ key ∈ fields.map (·.key), Toml.IsBareKey key)
    (hnodup : (fields.map (·.key)).Nodup)
    (hscalars : ∀ field ∈ fields, Toml.ComesBack (field.write record)) :
    Toml.IsFlat (Schema.written fields record) where
  keys := by
    intro field hfield
    obtain ⟨written, hwritten, rfl⟩ := List.mem_map.1 hfield
    exact hkeys _ (List.mem_map_of_mem hwritten)
  scalars := by
    intro field hfield
    obtain ⟨written, hwritten, rfl⟩ := List.mem_map.1 hfield
    exact hscalars written hwritten
  nodup := by rwa [Schema.written_keys]

theorem Toml.comesBack_word {data : Data} (h : data.IsWord) : ComesBack data := by
  cases h with
  | bool value => exact comesBack_bool value
  | text value => exact comesBack_text value

theorem ToggleSet.isWord_write (toggles : ToggleSet) :
    ∀ field ∈ schema.fields, (field.write toggles).IsWord := by
  simp only [schema, List.forall_mem_cons]
  refine ⟨?_, ?_, ?_, ?_, ?_, ?_, ?_, ?_, ?_, ?_, ?_, ?_, by simp⟩
  all_goals first | exact .bool _ | exact .text _

theorem ToggleSet.isFlat (toggles : ToggleSet) :
    Toml.IsFlat (Schema.written ToggleSet.schema.fields toggles) := by
  refine Toml.isFlat_written (by decide) (by decide) fun field hfield => ?_
  exact Toml.comesBack_word (toggles.isWord_write field hfield)

namespace Profile

theorem codec_lawful : Profile.codec.Lawful := by
  refine Schema.codec_lawful (by decide) fun format profile => ?_
  simp only [Schema.copy, schema, List.foldlM_cons, List.foldlM_nil,
    Field.read_ofCodec Codec.text_lawful, Field.read_withDefault Codec.text_lawful,
    Field.read_withDefault ToggleSet.codec_lawful, ok_bind]
  rfl

/-- The strings of a profile. -/
def scalars (profile : Profile) : List (String × Data) :=
  [("name", .text profile.name), ("description", .text profile.description)]

/-- The section of a profile. -/
def togglesSection (profile : Profile) : Toml.Section :=
  ("toggles", Schema.written ToggleSet.schema.fields profile.toggles)

theorem encode_eq (profile : Profile) :
    codec.encode profile
      = .ofFields (profile.scalars ++ [profile.togglesSection].map Toml.Section.field) := rfl

theorem isDocument (profile : Profile) :
    Toml.IsDocument profile.scalars [profile.togglesSection] where
  flat :=
    { keys := by simp only [scalars, List.forall_mem_cons]; decide
      scalars := by
        simp only [scalars, List.forall_mem_cons]
        exact ⟨Toml.comesBack_text _, Toml.comesBack_text _, by simp⟩
      nodup := by simp [scalars] }
  keys := by simp only [List.forall_mem_singleton, togglesSection]; decide
  flatSections := by
    simp only [List.forall_mem_singleton]
    exact ToggleSet.isFlat profile.toggles
  nodup := by simp [scalars, togglesSection]

/-- The text of a profile holds its data. -/
theorem read?_toToml (profile : Profile) :
    Toml.read? profile.toToml
      = some (profile.scalars ++ [profile.togglesSection].map Toml.Section.field) := by
  rw [toToml, encode_eq]
  exact Toml.read?_write profile.isDocument

/-- A profile is read from its text as itself. -/
theorem ofToml_toToml (profile : Profile) : ofToml profile.toToml = .ok profile := by
  rw [ofToml, Toml.decode, read?_toToml]
  exact codec_lawful .toml profile

/-- **Profiles come back.** Every profile is read from its text as itself, so no two profiles have
the same text, and writing what was read from any text and reading that again changes nothing. -/
theorem toToml_faithful :
    (∀ profile : Profile, ofToml profile.toToml = .ok profile)
      ∧ Function.Injective toToml
      ∧ ∀ text, (do ofToml (← ofToml text).toToml) = ofToml text := by
  refine ⟨ofToml_toToml, ?_, ?_⟩
  · -- equal texts are read as one and the same profile
    intro first second heq
    have hfirst := ofToml_toToml first
    rw [heq, ofToml_toToml second] at hfirst
    exact (Except.ok.inj hfirst).symm
  · intro text
    cases hread : ofToml text with
    | error fault => rfl
    | ok profile => rw [ok_bind, ofToml_toToml]

end Profile

end RuntimeProfiles
