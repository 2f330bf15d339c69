import RuntimeProfiles.Proofs.Data.Record
import RuntimeProfiles.Proofs.Profile.RoundTrip
import RuntimeProfiles.Proofs.Toml.Table
import Mathlib.Data.List.Pairwise
import Mathlib.Logic.Function.Basic
import Mathlib.Logic.Relation

/-!
# Profiles are read by key

A profile file is a table, and it is read field by field. What comes of it is said here without any
order: each known key is looked up and read on its own, a toggle that is not there has its value of
`ToggleSet.host`, and nothing else in the table matters.

* **`Toggle.field`** — all toggles are read in one and the same way, each with a codec of its own;
* **`ToggleSet.decode_iff`**, **`Profile.decode_iff`** — what is read from a table;
* **`Schema.Edit`** — changes to a table that make no difference, and **`Schema.Edit.decode_iff`**:
  that they make none;
* **`Profile.read_by_key`** — the result for profile files.
-/

namespace RuntimeProfiles

/-! ## Toggles by name -/

namespace Toggle

/-- The type of the values of a toggle. -/
def Value : Toggle → Type
  | .readBarrier => ReadBarrier
  | _ => Bool

/-- How the values of a toggle are read. -/
def valueCodec : (toggle : Toggle) → Codec toggle.Value
  | .readBarrier => ReadBarrier.codec
  | .deviceTarget | .targetLinux | .targetAndroid | .heapPoisoning | .tlab | .debugBuild | .vdex
  | .staticHostBinaries | .forceReadBarrier | .movingCollector | .markCompact => Codec.bool

theorem all_nodup : all.Nodup := by decide

theorem mem_all (toggle : Toggle) : toggle ∈ all := by cases toggle <;> decide

end Toggle

namespace ToggleSet

def value (toggles : ToggleSet) : (toggle : Toggle) → toggle.Value
  | .deviceTarget => toggles.deviceTarget
  | .targetLinux => toggles.targetLinux
  | .targetAndroid => toggles.targetAndroid
  | .readBarrier => toggles.readBarrier
  | .heapPoisoning => toggles.heapPoisoning
  | .tlab => toggles.tlab
  | .debugBuild => toggles.debugBuild
  | .vdex => toggles.vdex
  | .staticHostBinaries => toggles.staticHostBinaries
  | .forceReadBarrier => toggles.forceReadBarrier
  | .movingCollector => toggles.movingCollector
  | .markCompact => toggles.markCompact

/-- The toggle set with given values. -/
def ofValues (value : (toggle : Toggle) → toggle.Value) : ToggleSet where
  deviceTarget := value .deviceTarget
  targetLinux := value .targetLinux
  targetAndroid := value .targetAndroid
  readBarrier := value .readBarrier
  heapPoisoning := value .heapPoisoning
  tlab := value .tlab
  debugBuild := value .debugBuild
  vdex := value .vdex
  staticHostBinaries := value .staticHostBinaries
  forceReadBarrier := value .forceReadBarrier
  movingCollector := value .movingCollector
  markCompact := value .markCompact

@[simp]
theorem value_ofValues (value : (toggle : Toggle) → toggle.Value) :
    (ofValues value).value = value := by
  funext toggle
  cases toggle <;> rfl

@[simp]
theorem ofValues_value (toggles : ToggleSet) : ofValues toggles.value = toggles := rfl

theorem value_injective : Function.Injective value :=
  Function.LeftInverse.injective ofValues_value

def set (toggles : ToggleSet) (toggle : Toggle) (value : toggle.Value) : ToggleSet :=
  ofValues (Function.update toggles.value toggle value)

@[simp]
theorem value_set (toggles : ToggleSet) (toggle : Toggle) (value : toggle.Value) :
    (toggles.set toggle value).value = Function.update toggles.value toggle value := by
  rw [set, value_ofValues]

theorem value_set_self (toggles : ToggleSet) (toggle : Toggle) (value : toggle.Value) :
    (toggles.set toggle value).value toggle = value := by
  rw [value_set, Function.update_self]

theorem value_set_of_ne (toggles : ToggleSet) {toggle other : Toggle} (h : other ≠ toggle)
    (value : toggle.Value) : (toggles.set toggle value).value other = toggles.value other := by
  rw [value_set, Function.update_of_ne h]

theorem set_value (toggles : ToggleSet) (toggle : Toggle) :
    toggles.set toggle (toggles.value toggle) = toggles := by
  rw [set, Function.update_eq_self, ofValues_value]

end ToggleSet

def Toggle.field (toggle : Toggle) : Field ToggleSet :=
  .withDefault toggle.key toggle.valueCodec (·.value toggle) (·.set toggle)

theorem Toggle.puts_field (toggle : Toggle) :
    toggle.field.Puts toggle.valueCodec (·.set toggle) := Field.puts_withDefault _

namespace ToggleSet

theorem schema_fields : schema.fields = Toggle.all.map Toggle.field := rfl

theorem field_mem (toggle : Toggle) : toggle.field ∈ schema.fields :=
  schema_fields ▸ List.mem_map_of_mem toggle.mem_all

theorem isKeyed_schema : schema.IsKeyed where
  keys := by decide
  commute := by
    rw [schema_fields, List.pairwise_map]
    apply List.Pairwise.imp _ Toggle.all_nodup
    intro first second hne
    apply first.puts_field.commutes second.puts_field
    intro toggles value value'
    -- both orders give the same values to all toggles
    apply value_injective
    simp only [value_set]
    exact (Function.update_comm hne.symm value' value _).symm

/-! ## What is read from a table -/

/-- A toggle set has the values that a table gives its toggles, and those of `host` otherwise. -/
def IsReadFrom (toggles : ToggleSet) (table : List (String × Data)) : Prop :=
  ∀ toggle : Toggle, toggle.valueCodec.Gives .toml (host.value toggle) (table.lookup toggle.key)
    (toggles.value toggle)

variable {table : List (String × Data)} {start toggles : ToggleSet}

/-- Reading the fields of some toggles changes these and leaves the others as they are. -/
theorem readByKey?_fields_iff {names : List Toggle} (h : names.Nodup) :
    Schema.readByKey? (names.map Toggle.field) .toml table start = some toggles
      ↔ (∀ toggle ∈ names, toggle.valueCodec.Gives .toml (start.value toggle)
            (table.lookup toggle.key) (toggles.value toggle))
        ∧ ∀ toggle, toggle ∉ names → toggles.value toggle = start.value toggle := by
  -- the toggles that are left start from what the ones before them have made of the set
  induction names generalizing start with
  | nil =>
    show some start = some toggles ↔ _
    rw [Option.some_inj]
    constructor
    · rintro rfl
      exact ⟨nofun, fun _ _ => rfl⟩
    · intro ⟨_, hsame⟩
      apply value_injective
      funext toggle
      exact (hsame toggle List.not_mem_nil).symm
  | cons name names ih =>
    obtain ⟨hfresh, hnames⟩ := List.nodup_cons.1 h
    have hne : ∀ toggle ∈ names, toggle ≠ name := fun toggle hmem hsame => hfresh (hsame ▸ hmem)
    rw [List.map_cons, Schema.readByKey?_fields_cons, Option.bind_eq_some_iff]
    simp only [name.puts_field.readAt?_eq_some_iff (set_value · name), ih hnames, List.mem_cons,
      not_or]
    constructor
    · rintro ⟨_, ⟨value, hgives, rfl⟩, hread, hkept⟩
      -- the fields that come later do not change the value again
      have hvalue : toggles.value name = value := by rw [hkept name hfresh, value_set_self]
      constructor
      · rintro toggle (rfl | hmem)
        · exact hvalue ▸ hgives
        · rw [← start.value_set_of_ne (hne toggle hmem) value]
          exact hread toggle hmem
      · intro toggle ⟨hother, hmem⟩
        rw [hkept toggle hmem, value_set_of_ne _ hother]
    · intro ⟨hread, hkept⟩
      refine ⟨_, ⟨toggles.value name, hread name (.inl rfl), rfl⟩, ?_, ?_⟩
      · intro toggle hmem
        rw [value_set_of_ne _ (hne toggle hmem)]
        exact hread toggle (.inr hmem)
      · intro toggle hmem
        by_cases hsame : toggle = name
        · rw [hsame, value_set_self]
        · rw [value_set_of_ne _ hsame]
          exact hkept toggle ⟨hsame, hmem⟩

theorem decode_iff (htable : Toml.IsTable table) :
    codec.decode .toml (.record table .closed) = .ok toggles ↔ toggles.IsReadFrom table := by
  -- no toggle is required
  have hrequired : ∀ field ∈ schema.fields, field.required = true →
      field.key ∈ table.map (·.1) := by
    rw [schema_fields]
    intro field hfield
    obtain ⟨toggle, -, rfl⟩ := List.mem_map.1 hfield
    exact nofun
  show schema.decode .toml (.record table .closed) = .ok toggles ↔ _
  rw [Schema.decode_record_iff isKeyed_schema htable.keys htable.isWhole, and_iff_right hrequired,
    schema_fields, readByKey?_fields_iff Toggle.all_nodup]
  constructor
  · intro ⟨hread, _⟩ toggle
    exact hread toggle toggle.mem_all
  · intro hread
    exact ⟨fun toggle _ => hread toggle, fun toggle hmem => absurd toggle.mem_all hmem⟩

/-- Every toggle that is there has a value of its type. -/
def IsReadable (table : List (String × Data)) : Prop :=
  ∀ (toggle : Toggle) (data : Data), table.lookup toggle.key = some data →
    ∃ value, toggle.valueCodec.decode .toml data = .ok value

theorem exists_isReadFrom_iff :
    (∃ toggles : ToggleSet, toggles.IsReadFrom table) ↔ IsReadable table := by
  constructor
  · intro ⟨toggles, hread⟩ toggle
    exact Codec.exists_gives_iff.1 ⟨_, hread toggle⟩
  · intro hreadable
    have hvalues : ∀ toggle : Toggle, ∃ value, toggle.valueCodec.Gives .toml (host.value toggle)
        (table.lookup toggle.key) value := fun toggle => Codec.exists_gives_iff.2 (hreadable toggle)
    choose value hvalue using hvalues
    refine ⟨ofValues value, fun toggle => ?_⟩
    rw [value_ofValues]
    exact hvalue toggle

end ToggleSet

namespace Profile

variable {table table' : List (String × Data)} {profile : Profile}

/-- The toggles that a table sets. -/
def togglesTable (table : List (String × Data)) : List (String × Data) :=
  match table.lookup "toggles" with
  | some (.record fields _) => fields
  | _ => []

/-- Where there are toggles, they stand in a table. -/
def KeepsTogglesInTable (table : List (String × Data)) : Prop :=
  ∀ data, table.lookup "toggles" = some data → ∃ fields ending, data = .record fields ending

/-- A profile has the name that a table gives it, and the description and the toggles that it gives
it or else those of a blank profile. -/
structure IsReadFrom (profile : Profile) (table : List (String × Data)) : Prop where
  name : table.lookup "name" = some (.text profile.name)
  description : Codec.text.Gives .toml "" (table.lookup "description") profile.description
  toggles : profile.toggles.IsReadFrom (togglesTable table)

/-- There is a name, and everything that is there has a value of its type. -/
structure IsReadable (table : List (String × Data)) : Prop where
  name : ∃ name, table.lookup "name" = some (.text name)
  description : ∀ data, table.lookup "description" = some data →
    ∃ description, data = .text description
  toggles : ToggleSet.IsReadable (togglesTable table)

theorem exists_isReadFrom_iff :
    (∃ profile : Profile, profile.IsReadFrom table) ↔ IsReadable table := by
  have hdescribed :
      (∃ description, Codec.text.Gives .toml "" (table.lookup "description") description)
      ↔ ∀ data, table.lookup "description" = some data →
        ∃ description, data = .text description := by
    simp only [Codec.exists_gives_iff, Codec.decode_text_iff]
  constructor
  · intro ⟨profile, hread⟩
    exact ⟨⟨_, hread.name⟩, hdescribed.1 ⟨_, hread.description⟩,
      ToggleSet.exists_isReadFrom_iff.1 ⟨_, hread.toggles⟩⟩
  · intro hreadable
    obtain ⟨name, hname⟩ := hreadable.name
    obtain ⟨description, hdescription⟩ := hdescribed.2 hreadable.description
    obtain ⟨toggles, htoggles⟩ := ToggleSet.exists_isReadFrom_iff.2 hreadable.toggles
    exact ⟨⟨name, description, toggles⟩, hname, hdescription, htoggles⟩

def nameField : Field Profile := .ofCodec "name" .text name fun p s => { p with name := s }

def descriptionField : Field Profile :=
  .withDefault "description" .text description fun p s => { p with description := s }

def togglesField : Field Profile :=
  .withDefault "toggles" ToggleSet.codec toggles fun p t => { p with toggles := t }

theorem schema_fields : schema.fields = [nameField, descriptionField, togglesField] := rfl

theorem descriptionField_mem : descriptionField ∈ schema.fields := by
  rw [schema_fields]
  exact List.mem_cons_of_mem _ List.mem_cons_self

theorem togglesField_mem : togglesField ∈ schema.fields := by
  rw [schema_fields]
  exact List.mem_cons_of_mem _ (List.mem_cons_of_mem _ List.mem_cons_self)

theorem puts_name : nameField.Puts .text fun p s => { p with name := s } := Field.puts_ofCodec _

theorem puts_description : descriptionField.Puts .text fun p s => { p with description := s } :=
  Field.puts_withDefault _

theorem puts_toggles : togglesField.Puts ToggleSet.codec fun p t => { p with toggles := t } :=
  Field.puts_withDefault _

theorem isKeyed_schema : schema.IsKeyed where
  keys := by decide
  commute := by
    simp only [schema_fields, List.pairwise_cons, List.forall_mem_cons]
    refine ⟨⟨?_, ?_, nofun⟩, ⟨?_, nofun⟩, nofun, .nil⟩
    · exact puts_name.commutes puts_description fun _ _ _ => rfl
    · exact puts_name.commutes puts_toggles fun _ _ _ => rfl
    · exact puts_description.commutes puts_toggles fun _ _ _ => rfl

theorem readByKey?_iff :
    Schema.readByKey? schema.fields .toml table schema.blank = some profile
      ↔ Codec.text.Gives .toml "" (table.lookup "name") profile.name
        ∧ Codec.text.Gives .toml "" (table.lookup "description") profile.description
        ∧ ToggleSet.codec.Gives .toml .host (table.lookup "toggles") profile.toggles := by
  have hname : ∀ p : Profile, { p with name := p.name } = p := fun _ => rfl
  have hdescription : ∀ p : Profile, { p with description := p.description } = p := fun _ => rfl
  have htoggles : ∀ p : Profile, { p with toggles := p.toggles } = p := fun _ => rfl
  constructor
  · intro h
    obtain ⟨named, hnamed, h⟩ := Option.bind_eq_some_iff.1 h
    obtain ⟨described, hdescribed, h⟩ := Option.bind_eq_some_iff.1 h
    obtain ⟨complete, hcomplete, h⟩ := Option.bind_eq_some_iff.1 h
    cases h
    obtain ⟨name, hname, rfl⟩ := (puts_name.readAt?_eq_some_iff hname).1 hnamed
    obtain ⟨description, hdescription, rfl⟩ :=
      (puts_description.readAt?_eq_some_iff hdescription).1 hdescribed
    obtain ⟨toggles, htoggles, rfl⟩ := (puts_toggles.readAt?_eq_some_iff htoggles).1 hcomplete
    exact ⟨hname, hdescription, htoggles⟩
  · intro ⟨hgivesName, hgivesDescription, hgivesToggles⟩
    apply Option.bind_eq_some_iff.2
    refine ⟨_, (puts_name.readAt?_eq_some_iff hname).2 ⟨_, hgivesName, rfl⟩, ?_⟩
    apply Option.bind_eq_some_iff.2
    refine ⟨_, (puts_description.readAt?_eq_some_iff hdescription).2 ⟨_, hgivesDescription, rfl⟩,
      ?_⟩
    apply Option.bind_eq_some_iff.2
    exact ⟨_, (puts_toggles.readAt?_eq_some_iff htoggles).2 ⟨_, hgivesToggles, rfl⟩, rfl⟩

theorem gives_toggles_iff (htable : Toml.IsTable table) (htoggles : KeepsTogglesInTable table)
    {toggles : ToggleSet} :
    ToggleSet.codec.Gives .toml .host (table.lookup "toggles") toggles
      ↔ toggles.IsReadFrom (togglesTable table) := by
  unfold togglesTable
  cases hlookup : table.lookup "toggles" with
  | none =>
    show toggles = .host ↔ ∀ toggle, toggles.value toggle = ToggleSet.host.value toggle
    rw [← ToggleSet.value_injective.eq_iff, funext_iff]
  | some data =>
    obtain ⟨fields, ending, rfl⟩ := htoggles data hlookup
    obtain ⟨hfields, rfl⟩ := (htable.values _ (mem_of_lookup hlookup)).isTable
    exact ToggleSet.decode_iff hfields

theorem decode_iff (htable : Toml.IsTable table) (htoggles : KeepsTogglesInTable table) :
    codec.decode .toml (.record table .closed) = .ok profile ↔ profile.IsReadFrom table := by
  have hrequired : (∀ field ∈ schema.fields, field.required = true → field.key ∈ table.map (·.1))
      ↔ ∃ data, table.lookup "name" = some data := by
    rw [exists_lookup_iff_mem, schema_fields]
    constructor
    · intro h
      exact h nameField List.mem_cons_self rfl
    · intro hname
      simp only [List.forall_mem_cons]
      exact ⟨fun _ => hname, nofun, nofun, nofun⟩
  show schema.decode .toml (.record table .closed) = .ok profile ↔ _
  rw [Schema.decode_record_iff isKeyed_schema htable.keys htable.isWhole, hrequired, readByKey?_iff,
    gives_toggles_iff htable htoggles]
  constructor
  · intro ⟨⟨data, hlookup⟩, hname, hdescription, htoggles⟩
    rw [hlookup] at hname
    refine ⟨?_, hdescription, htoggles⟩
    rw [hlookup, Codec.decode_text_iff.1 hname]
  · intro hread
    refine ⟨⟨_, hread.name⟩, ?_, hread.description, hread.toggles⟩
    rw [hread.name]
    rfl

end Profile

/-! ## Changes that make no difference -/

namespace Schema

variable {σ : Type} {schema : Schema σ} {table table' : List (String × Data)} {result : σ}

/-- Changes to a table of which its readers take no notice. -/
inductive Edit (schema : Schema σ) : List (String × Data) → List (String × Data) → Prop
  /-- The fields are put into another order. -/
  | permute {table table' : List (String × Data)} (h : table.Perm table') : Edit schema table table'
  /-- A field is added that the schema does not know. -/
  | ignored {table : List (String × Data)} {key : String} {value : Data}
      (hkey : key ∉ schema.fields.map (·.key)) (hnew : key ∉ table.map (·.1))
      (hvalue : Toml.IsValue value) : Edit schema table ((key, value) :: table)
  /-- A field that has been left out is added with its default. -/
  | default {table : List (String × Data)} {field : Field σ} {value : Data}
      (hfield : field ∈ schema.fields) (hoptional : field.required = false)
      (hnew : field.key ∉ table.map (·.1)) (hvalue : Toml.IsValue value)
      (hdefault : field.read .toml value schema.blank = .ok schema.blank) :
      Edit schema table ((field.key, value) :: table)

theorem Edit.isTable_iff (h : schema.Edit table table') :
    Toml.IsTable table ↔ Toml.IsTable table' := by
  cases h with
  | permute h => exact Toml.isTable_perm h
  | ignored hkey hnew hvalue =>
    rw [Toml.isTable_cons, and_iff_right hnew, and_iff_right hvalue]
  | default hfield hoptional hnew hvalue hdefault =>
    rw [Toml.isTable_cons, and_iff_right hnew, and_iff_right hvalue]

theorem Edit.required_iff (hschema : schema.IsKeyed) (h : schema.Edit table table')
    {field : Field σ}
    (hfield : field ∈ schema.fields) (hrequired : field.required = true) :
    field.key ∈ table.map (·.1) ↔ field.key ∈ table'.map (·.1) := by
  cases h with
  | permute h => exact (h.map _).mem_iff
  | ignored hkey hnew hvalue =>
    rw [List.map_cons, List.mem_cons, or_iff_right]
    intro hsame
    exact hkey (List.mem_map.2 ⟨field, hfield, hsame⟩)
  | default hother hoptional hnew hvalue hdefault =>
    -- the field that is added is optional, so it is another one
    rw [List.map_cons, List.mem_cons, or_iff_right]
    intro hsame
    rw [List.inj_on_of_nodup_map hschema.keys hfield hother hsame, hoptional] at hrequired
    cases hrequired

theorem Edit.readByKey?_eq (hschema : schema.IsKeyed) (htable : Toml.IsTable table)
    (h : schema.Edit table table') :
    readByKey? schema.fields .toml table' schema.blank
      = readByKey? schema.fields .toml table schema.blank := by
  cases h with
  | permute h =>
    have hlookup : ∀ field ∈ schema.fields, table'.lookup field.key = table.lookup field.key :=
      fun _ _ => (lookup_perm h htable.keys).symm
    rw [readByKey?_congr hlookup]
  | ignored hkey hnew hvalue => rw [readByKey?_cons_of_notMem hkey]
  | default hfield hoptional hnew hvalue hdefault =>
    rw [readByKey?_cons hfield hschema.keys hschema.commute (lookup_eq_none_iff_notMem.2 hnew),
      Field.read?, hdefault]
    rfl

theorem Edit.decode_iff (hschema : schema.IsKeyed) (htable : Toml.IsTable table)
    (h : schema.Edit table table') :
    schema.decode .toml (.record table .closed) = .ok result
      ↔ schema.decode .toml (.record table' .closed) = .ok result := by
  have htable' := h.isTable_iff.1 htable
  rw [decode_record_iff hschema htable.keys htable.isWhole,
    decode_record_iff hschema htable'.keys htable'.isWhole, h.readByKey?_eq hschema htable]
  refine and_congr_left' (forall₃_congr fun field hfield hrequired => ?_)
  exact h.required_iff hschema hfield hrequired

end Schema

namespace Profile

variable {table table' : List (String × Data)} {profile : Profile}

/-- Changes to the table of a profile file of which its readers take no notice. -/
inductive Edit : List (String × Data) → List (String × Data) → Prop
  | profile {table table' : List (String × Data)} (h : schema.Edit table table') : Edit table table'
  | toggles {inner inner' rest : List (String × Data)} (h : ToggleSet.schema.Edit inner inner') :
      Edit (("toggles", .record inner .closed) :: rest)
        (("toggles", .record inner' .closed) :: rest)

theorem Edit.isTable_iff (h : Edit table table') : Toml.IsTable table ↔ Toml.IsTable table' := by
  cases h with
  | profile h => exact h.isTable_iff
  | @toggles inner inner' rest h =>
    have hvalue : Toml.IsValue (.record inner .closed) ↔ Toml.IsValue (.record inner' .closed) :=
      ⟨fun hinner => (h.isTable_iff.1 hinner.isTable.1).isValue,
        fun hinner => (h.isTable_iff.2 hinner.isTable.1).isValue⟩
    rw [Toml.isTable_cons, Toml.isTable_cons, hvalue]

theorem Edit.decode_iff (htable : Toml.IsTable table) (h : Edit table table') :
    codec.decode .toml (.record table .closed) = .ok profile
      ↔ codec.decode .toml (.record table' .closed) = .ok profile := by
  cases h with
  | profile h => exact h.decode_iff isKeyed_schema htable
  | @toggles inner inner' rest h =>
    have htable' := (Edit.toggles h).isTable_iff.1 htable
    obtain ⟨hfresh, hinner, -⟩ := Toml.isTable_cons.1 htable
    have hnone : rest.lookup togglesField.key = none := lookup_eq_none_iff_notMem.2 hfresh
    -- the record of the toggles is edited as a table of its own
    have hsame : ∀ record : Profile, togglesField.read? .toml (.record inner .closed) record
        = togglesField.read? .toml (.record inner' .closed) record := by
      intro record
      rw [puts_toggles.read?_eq, puts_toggles.read?_eq]
      congr 1
      apply Option.ext
      intro toggles
      rw [toOption_eq_some_iff, toOption_eq_some_iff]
      exact h.decode_iff ToggleSet.isKeyed_schema hinner.isTable.1
    have hread : ∀ inner, Schema.readByKey? schema.fields .toml
        (("toggles", .record inner .closed) :: rest) schema.blank
          = (togglesField.read? .toml (.record inner .closed) schema.blank).bind
              (Schema.readByKey? schema.fields .toml rest) :=
      fun inner =>
        Schema.readByKey?_cons togglesField_mem isKeyed_schema.keys isKeyed_schema.commute
        hnone _ _
    show schema.decode .toml (.record _ .closed) = .ok profile
      ↔ schema.decode .toml (.record _ .closed) = .ok profile
    rw [Schema.decode_record_iff isKeyed_schema htable.keys htable.isWhole,
      Schema.decode_record_iff isKeyed_schema htable'.keys htable'.isWhole, hread, hread, hsame]
    exact Iff.rfl

/-- However often a table is edited or an edit is taken back, the same profile is read from it. -/
theorem decode_iff_of_edits (h : Relation.EqvGen Edit table table') :
    (Toml.IsTable table ↔ Toml.IsTable table')
      ∧ (Toml.IsTable table → ∀ profile, codec.decode .toml (.record table .closed) = .ok profile
        ↔ codec.decode .toml (.record table' .closed) = .ok profile) := by
  -- an edit is taken back on a table that has been edited, so that one has to be finished, too
  induction h with
  | rel first second h => exact ⟨h.isTable_iff, fun htable profile => h.decode_iff htable⟩
  | refl => exact ⟨Iff.rfl, fun _ _ => Iff.rfl⟩
  | symm first second _ ih =>
    obtain ⟨htables, hreads⟩ := ih
    exact ⟨htables.symm, fun htable profile => (hreads (htables.2 htable) profile).symm⟩
  | trans first second third _ _ ih ih' =>
    obtain ⟨htables, hreads⟩ := ih
    obtain ⟨htables', hreads'⟩ := ih'
    refine ⟨htables.trans htables', fun htable profile => ?_⟩
    exact (hreads htable profile).trans (hreads' (htables.1 htable) profile)

/-! ## Profile files -/

theorem ofToml_of_read? {text : String} (h : Toml.read? text = some table) :
    ofToml text = codec.decode .toml (.record table .closed) := by
  rw [ofToml, Toml.decode, h]
  rfl

/-- **A profile is read by key.** A file with a given table is read as the profile that has the name
in it, the description or else none, and for each toggle the value under its key or else that of
`host`. So there is such a profile exactly if the name is there and everything that is there has a
value of its type. Another order of the keys, other keys and defaults that are written down or left
out make no difference. -/
theorem read_by_key {text : String} (hread : Toml.read? text = some table)
    (htoggles : KeepsTogglesInTable table) :
    (∀ profile, ofToml text = .ok profile ↔ profile.IsReadFrom table)
    ∧ ((∃ profile, ofToml text = .ok profile) ↔ IsReadable table)
    ∧ ∀ text' table', Toml.read? text' = some table' → Relation.EqvGen Edit table table' →
      ∀ profile, ofToml text' = .ok profile ↔ ofToml text = .ok profile := by
  have htable := Toml.isTable_of_read? hread
  have hresult : ∀ profile, ofToml text = .ok profile ↔ profile.IsReadFrom table := by
    intro profile
    rw [ofToml_of_read? hread]
    exact decode_iff htable htoggles
  refine ⟨hresult, ?_, fun text' table' hread' hedits profile => ?_⟩
  · rw [← exists_isReadFrom_iff]
    exact exists_congr hresult
  · rw [ofToml_of_read? hread, ofToml_of_read? hread']
    exact ((decode_iff_of_edits hedits).2 htable profile).symm

/-- The strings of a file with an owner, of which profiles know nothing. -/
def ownedScalars : List (String × Data) := [("owner", .text "tools"), ("name", .text "bench")]

/-- The section of this file: it repeats a default. -/
def ownedSection : Toml.Section := ("toggles", [(Toggle.movingCollector.key, .bool true)])

theorem isDocument_owned : Toml.IsDocument ownedScalars [ownedSection] where
  flat :=
    { keys := by simp only [ownedScalars, List.forall_mem_cons]; decide
      scalars := by
        simp only [ownedScalars, List.forall_mem_cons]
        exact ⟨Toml.comesBack_text _, Toml.comesBack_text _, nofun⟩
      nodup := by decide }
  keys := by simp only [List.forall_mem_singleton]; decide
  flatSections := by
    simp only [List.forall_mem_singleton]
    exact
      { keys := by simp only [ownedSection, List.forall_mem_cons]; decide
        scalars := by
          simp only [ownedSection, List.forall_mem_cons]
          exact ⟨Toml.comesBack_bool _, nofun⟩
        nodup := by decide }
  nodup := by decide

/-- The table of a blank profile becomes that of the file, edit by edit. -/
theorem edits_owned : Relation.EqvGen Edit
    ((blank "bench").scalars ++ [(blank "bench").togglesSection].map Toml.Section.field)
    (ownedScalars ++ [ownedSection].map Toml.Section.field) := by
  have htable := Toml.isTable_of_read? (read?_toToml (blank "bench"))
  have hreverse : Edit
      [("name", .text "bench"), ("description", .text ""),
        ("toggles", ToggleSet.codec.encode .host)]
      [("toggles", ToggleSet.codec.encode .host), ("description", .text ""),
        ("name", .text "bench")] :=
    .profile (.permute (List.reverse_perm _).symm)
  have htoggles : Edit [("description", .text ""), ("name", .text "bench")]
      [("toggles", ToggleSet.codec.encode .host), ("description", .text ""),
        ("name", .text "bench")] :=
    .profile (.default togglesField_mem rfl (by decide)
      (htable.values ("toggles", _) (List.mem_append_right _ List.mem_cons_self)) rfl)
  have hdescription : Edit [("name", .text "bench")]
      [("description", .text ""), ("name", .text "bench")] :=
    .profile (.default descriptionField_mem rfl (by decide) (.text _) rfl)
  have hempty : Edit [("name", .text "bench")]
      [("toggles", .ofFields []), ("name", .text "bench")] :=
    .profile (.default togglesField_mem rfl (by decide) (.record .nil nofun) rfl)
  have hmoving : Edit [("toggles", .ofFields []), ("name", .text "bench")]
      [ownedSection.field, ("name", .text "bench")] :=
    .toggles (.default (ToggleSet.field_mem .movingCollector) rfl nofun (.bool _) rfl)
  have howner : Edit [ownedSection.field, ("name", .text "bench")]
      [("owner", .text "tools"), ownedSection.field, ("name", .text "bench")] :=
    .profile (.ignored (by decide) (by decide) (.text _))
  have hswap : Edit [("owner", .text "tools"), ownedSection.field, ("name", .text "bench")]
      [("owner", .text "tools"), ("name", .text "bench"), ownedSection.field] :=
    .profile (.permute (.cons _ (.swap ..)))
  refine .trans _ _ _ (.rel _ _ hreverse) ?_
  refine .trans _ _ _ (.symm _ _ (.rel _ _ htoggles)) ?_
  refine .trans _ _ _ (.symm _ _ (.rel _ _ hdescription)) ?_
  refine .trans _ _ _ (.rel _ _ hempty) ?_
  refine .trans _ _ _ (.rel _ _ hmoving) ?_
  exact .trans _ _ _ (.rel _ _ howner) (.rel _ _ hswap)

/-- A file with an owner and next to nothing else holds a blank profile. -/
theorem read_by_key_owned :
    Toml.read? (blank "bench").toToml
        = some ((blank "bench").scalars ++ [(blank "bench").togglesSection].map Toml.Section.field)
    ∧ KeepsTogglesInTable
        ((blank "bench").scalars ++ [(blank "bench").togglesSection].map Toml.Section.field)
    ∧ ofToml (Toml.write (.ofFields (ownedScalars ++ [ownedSection].map Toml.Section.field)))
        = .ok (blank "bench") := by
  have hread := read?_toToml (blank "bench")
  have htoggles : KeepsTogglesInTable
      ((blank "bench").scalars ++ [(blank "bench").togglesSection].map Toml.Section.field) := by
    intro data hlookup
    cases hlookup
    exact ⟨_, _, rfl⟩
  obtain ⟨-, -, hsame⟩ := read_by_key hread htoggles
  refine ⟨hread, htoggles, ?_⟩
  rw [hsame _ _ (Toml.read?_write isDocument_owned) edits_owned]
  exact ofToml_toToml _

end Profile

end RuntimeProfiles
