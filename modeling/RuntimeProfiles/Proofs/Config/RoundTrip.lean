import RuntimeProfiles.Command.Report
import RuntimeProfiles.Proofs.Json.Document
import RuntimeProfiles.Proofs.Profile.RoundTrip
import RuntimeProfiles.Proofs.Toml.Number

/-!
# Configurations come back

A configuration is a record of three records: toggles, capabilities and a layout. It can be written
in two formats (`Dump`) and is decoded from both:

* **`RuntimeConfig.codec_lawful`** — a configuration comes back from its data, whichever values its
  fields have; nothing asks for them to agree with each other;
* **`RuntimeConfig.comesBack`**, **`RuntimeConfig.isDocument`** — the data comes back from its text;
* **`RuntimeConfig.decode_dump`**, **`Profile.decode_toJson`** — so the whole way back is the
  identity.

Integers of TOML have a sign, so there a layout has to keep to the lower half of the 64-bit words.
-/

namespace RuntimeProfiles

/-! ## The data of a configuration -/

theorem Codec.size_lawful : Codec.size.Lawful := by
  intro format value
  -- a word passes both bounds that the reader checks
  have hlow : (0 : Int) ≤ (value.toNat : Int) := Int.natCast_nonneg _
  have hhigh : (value.toNat : Int) < (UInt64.size : Int) := by exact_mod_cast value.toNat_lt
  simp only [Codec.size, hlow, hhigh, and_self, if_true, Int.toNat_natCast, UInt64.ofNat_toNat]

theorem Platform.codec_lawful : Platform.codec.Lawful :=
  Codec.variant_lawful (by decide) fun platform => by cases platform <;> decide

theorem TraceClock.codec_lawful : TraceClock.codec.Lawful :=
  Codec.variant_lawful (by decide) fun clock => by cases clock <;> decide

theorem Capabilities.codec_lawful : Capabilities.codec.Lawful := by
  refine Schema.codec_lawful (by decide) fun format capabilities => ?_
  simp only [Schema.copy, schema, flag, List.foldlM_cons, List.foldlM_nil,
    Field.read_ofCodec Codec.bool_lawful, Field.read_ofCodec Platform.codec_lawful,
    Field.read_ofCodec ReadBarrier.codec_lawful, Field.read_ofCodec TraceClock.codec_lawful,
    ok_bind]
  rfl

theorem Layout.codec_lawful : Layout.codec.Lawful := by
  refine Schema.codec_lawful (by decide) fun format layout => ?_
  simp only [Schema.copy, schema, constant, List.foldlM_cons, List.foldlM_nil,
    Field.read_ofCodec Codec.size_lawful, ok_bind]
  rfl

theorem RuntimeConfig.codec_lawful : RuntimeConfig.codec.Lawful := by
  refine Schema.codec_lawful (by decide) fun format config => ?_
  simp only [Schema.copy, schema, List.foldlM_cons, List.foldlM_nil,
    Field.read_ofCodec ToggleSet.codec_lawful, Field.read_ofCodec Capabilities.codec_lawful,
    Field.read_ofCodec Layout.codec_lawful, ok_bind]
  rfl

/-! ## JSON -/

namespace Json

theorem comesBack_size (n : UInt64) : ComesBack (Codec.size.encode n) :=
  comesBack_integer n.toNat_lt

/-- The record of a schema comes back if what is written for each field does. -/
theorem comesBack_encode {σ : Type} {schema : Schema σ} {record : σ}
    (h : ∀ field ∈ schema.fields, ComesBack (field.write record)) :
    ComesBack (schema.codec.encode record) := by
  refine comesBack_ofFields ?_
  intro field hfield
  obtain ⟨written, hwritten, rfl⟩ := List.mem_map.1 hfield
  exact h written hwritten

end Json

theorem Json.comesBack_word {data : Data} (h : data.IsWord) : ComesBack data := by
  cases h with
  | bool value => exact comesBack_bool value
  | text value => exact comesBack_text value

theorem Capabilities.isWord_write (capabilities : Capabilities) :
    ∀ field ∈ schema.fields, (field.write capabilities).IsWord := by
  simp only [schema, List.forall_mem_cons]
  refine ⟨?_, ?_, ?_, ?_, ?_, ?_, ?_, ?_, ?_, ?_, ?_, ?_, ?_, ?_, ?_, ?_, ?_, ?_, ?_, ?_, ?_, ?_,
    ?_, by simp⟩
  all_goals first | exact .bool _ | exact .text _

theorem ToggleSet.comesBack (toggles : ToggleSet) : Json.ComesBack (codec.encode toggles) :=
  Json.comesBack_encode fun field hfield => Json.comesBack_word (toggles.isWord_write field hfield)

theorem Capabilities.comesBack (capabilities : Capabilities) :
    Json.ComesBack (codec.encode capabilities) :=
  Json.comesBack_encode fun field hfield =>
    Json.comesBack_word (capabilities.isWord_write field hfield)

theorem Layout.comesBack (layout : Layout) : Json.ComesBack (codec.encode layout) := by
  refine Json.comesBack_encode ?_
  simp only [schema, List.forall_mem_cons]
  refine ⟨?_, ?_, ?_, ?_, ?_, ?_, ?_, ?_, ?_, by simp⟩
  all_goals exact Json.comesBack_size _

theorem RuntimeConfig.comesBack (config : RuntimeConfig) :
    Json.ComesBack (codec.encode config) := by
  refine Json.comesBack_encode ?_
  simp only [schema, List.forall_mem_cons]
  exact ⟨config.toggles.comesBack, config.capabilities.comesBack, config.layout.comesBack, by simp⟩

theorem Profile.comesBack (profile : Profile) : Json.ComesBack (codec.encode profile) := by
  refine Json.comesBack_encode ?_
  simp only [schema, List.forall_mem_cons]
  exact ⟨Json.comesBack_text _, Json.comesBack_text _, profile.toggles.comesBack, by simp⟩

theorem Report.unlines_singleton (line : String) : unlines [line] = line ++ "\n" := by
  simp [unlines, String.join]

/-- A profile is decoded from the line that shows it in JSON. -/
theorem Profile.decode_toJson (profile : Profile) :
    Json.decode codec (Report.unlines [profile.toJson]) = .ok profile := by
  rw [Report.unlines_singleton, toJson]
  exact Json.decode_write codec_lawful profile.comesBack Json.isBlank_endOfLine

/-! ## TOML -/

theorem Toml.comesBack_size {n : UInt64} (h : n.toNat < 0x8000000000000000) :
    ComesBack (Codec.size.encode n) :=
  comesBack_integer h

/-- All constants of a layout. -/
def Layout.constants (layout : Layout) : List UInt64 :=
  [layout.bitsPerByte, layout.bitsPerByteLog2, layout.bitsPerPointer, layout.stackAlignment,
    layout.pageSize, layout.objectAlignmentShift, layout.objectAlignment,
    layout.largeObjectAlignment, layout.heapReferenceSize]

/-- The constants of a layout leave room for a sign. -/
def Layout.FitsSigned (layout : Layout) : Prop :=
  ∀ n ∈ layout.constants, n.toNat < 0x8000000000000000

theorem Layout.fitsSigned_native : native.FitsSigned := by
  simp only [FitsSigned, constants, List.forall_mem_cons]
  refine ⟨?_, ?_, ?_, ?_, ?_, ?_, ?_, ?_, ?_, by simp⟩
  all_goals decide

theorem Layout.isFlat {layout : Layout} (h : layout.FitsSigned) :
    Toml.IsFlat (Schema.written schema.fields layout) := by
  refine Toml.isFlat_written (by decide) (by decide) ?_
  simp only [FitsSigned, constants, List.forall_mem_cons] at h
  obtain ⟨h1, h2, h3, h4, h5, h6, h7, h8, h9, -⟩ := h
  simp only [schema, List.forall_mem_cons]
  exact ⟨Toml.comesBack_size h1, Toml.comesBack_size h2, Toml.comesBack_size h3,
    Toml.comesBack_size h4, Toml.comesBack_size h5, Toml.comesBack_size h6, Toml.comesBack_size h7,
    Toml.comesBack_size h8, Toml.comesBack_size h9, by simp⟩

theorem Capabilities.isFlat (capabilities : Capabilities) :
    Toml.IsFlat (Schema.written schema.fields capabilities) := by
  refine Toml.isFlat_written (by decide) (by decide) fun field hfield => ?_
  exact Toml.comesBack_word (capabilities.isWord_write field hfield)

namespace RuntimeConfig

def sections (config : RuntimeConfig) : List Toml.Section :=
  [("toggles", Schema.written ToggleSet.schema.fields config.toggles),
    ("capabilities", Schema.written Capabilities.schema.fields config.capabilities),
    ("layout", Schema.written Layout.schema.fields config.layout)]

theorem encode_eq (config : RuntimeConfig) :
    codec.encode config = .ofFields ([] ++ config.sections.map Toml.Section.field) := rfl

theorem isDocument {config : RuntimeConfig} (h : config.layout.FitsSigned) :
    Toml.IsDocument [] config.sections where
  flat := { keys := by simp, scalars := by simp, nodup := by simp }
  keys := by
    simp only [sections, List.forall_mem_cons]
    decide
  flatSections := by
    simp only [sections, List.forall_mem_cons]
    exact ⟨config.toggles.isFlat, config.capabilities.isFlat, Layout.isFlat h, by simp⟩
  nodup := by simp [sections]

end RuntimeConfig

/-! ## Both formats -/

/-- The formats in which a configuration is written for other programs. -/
inductive Dump where
  | json
  | toml
deriving DecidableEq, Repr

namespace Dump

/-- The name by which the command line knows the format. -/
def name : Dump → String
  | .json => "json"
  | .toml => "toml"

/-- Reads a text of the format as a value of a type. -/
def decode (codec : Codec α) : Dump → String → Except Fault α
  | .json => Json.decode codec
  | .toml => Toml.decode codec

end Dump

namespace RuntimeConfig

/-- The text of a configuration in a format. -/
def dump (config : RuntimeConfig) : Dump → String
  | .json => Report.unlines [Json.write (codec.encode config)]
  | .toml => Toml.write (codec.encode config)

/-- **Configurations come back** from their text in JSON, and in TOML if their layout leaves room
for a sign. -/
theorem decode_dump (config : RuntimeConfig) (format : Dump)
    (h : format = .toml → config.layout.FitsSigned) :
    format.decode codec (config.dump format) = .ok config := by
  cases format with
  | json =>
    rw [Dump.decode, dump, Report.unlines_singleton]
    exact Json.decode_write codec_lawful config.comesBack Json.isBlank_endOfLine
  | toml =>
    have hread := Toml.read?_write (isDocument (h rfl))
    rw [← encode_eq] at hread
    rw [Dump.decode, dump, Toml.decode, hread]
    exact codec_lawful .toml config

end RuntimeConfig

end RuntimeProfiles
