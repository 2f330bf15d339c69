import RuntimeProfiles.Proofs.Command.Changes
import RuntimeProfiles.Proofs.Profile.RoundTrip
import RuntimeProfiles.Proofs.Project.Lookup

/-!
# New profiles

`runNew` chains everything a profile goes through: its name is checked and turned into a path, its
text is written, and from then on it is discovered by its file and read from its text.

* **`runNew_status_iff`** — exactly when a profile can be created;
* **`Creates.find`**, **`Creates.runValidate`** — it is found, and there is nothing to say against
  it;
* **`Creates.discover`**, **`Creates.find_other`** — the project gains this profile and keeps its
  others;
* **`runNew_faithful`** — all of it together.
-/

namespace RuntimeProfiles

open FileTree

/-- There is nothing to say against a new profile, whatever its name. -/
theorem Profile.issues_blank {name : String} (h : ProfileName.fault? name = none) :
    (Profile.blank name).issues = [] := by
  have hname : (Profile.blank name).nameIssues = [] := by
    unfold nameIssues
    rw [show (Profile.blank name).name = name from rfl, h]
  have htoggles : (Profile.blank name).toggleIssues = [] := rfl
  unfold issues
  rw [hname, htoggles]
  rfl

/-- A profile is loaded from its file as itself. -/
theorem Project.load_of_file {tree : FileTree} {path : Path} {profile : Profile}
    (h : tree.get? path = some (.file profile.toToml.toUTF8)) : load tree path = .ok profile :=
  load_eq_iff.2 (.profile profile.toToml profile h (Profile.ofToml_toToml profile))

namespace Command

open Project ProfileName

variable {tree after : FileTree} {project : Path} {name other : String}

/-! ## When a profile can be created -/

theorem created_of_status (h : (runNew tree project name).status = 0) :
    Creates tree project name (runNew tree project name).tree := by
  have hdone := Outcome.status_eq_zero_iff.1 h
  rcases runNew_cases tree project name with hrefusal | ⟨-, hcreates⟩ | ⟨⟨_, hfailed⟩, -, -⟩
  · exact absurd hdone hrefusal.failed
  · exact hcreates
  · rw [hdone] at hfailed
    cases hfailed

/-- A profile can be created exactly if its name is valid and not too long, nothing stands at its
path, and the directory of the profiles is there or can be made. -/
theorem runNew_status_iff : (runNew tree project name).status = 0
    ↔ fault? name = none ∧ tree.get? (filePath project name) = none
      ∧ NameFits (filePath project name)
      ∧ (tree.isDirectory (profilesDirectory project) = true
        ∨ tree.get? (profilesDirectory project) = none ∧ tree.isDirectory project = true) := by
  rw [← exists_ensure_profiles_iff]
  constructor
  · intro h
    have hcreates := created_of_status h
    obtain ⟨made, hmade, -⟩ := hcreates.creation.steps
    exact ⟨hcreates.valid, hcreates.creation.fresh, hcreates.creation.fits, made, hmade⟩
  · rintro ⟨hvalid, hfresh, hfits, made, hmade⟩
    have hdirectory : made.isDirectory (filePath project name).dropLast = true := by
      rw [dropLast_filePath]
      exact isDirectory_of_ensureDirectory hmade
    rcases writeFile_cases hfresh (filePath_ne_profilesDirectory project name) hmade hdirectory with
      ⟨after, hwrite, -⟩ | ⟨-, hlong, -⟩
    · unfold runNew profilePath
      rw [hvalid]
      dsimp only
      rw [contains_eq_false_iff.2 hfresh, hmade]
      dsimp only
      rw [hwrite]
      rfl
    · exact absurd hfits hlong

/-! ## What there is afterwards -/

namespace Creates

theorem isValid (h : Creates tree project name after) : ProfileName.isValid name = true :=
  isValid_iff.2 h.valid

/-- The files of other profiles are as they were. -/
theorem get?_filePath_other (h : Creates tree project name after) (hne : other ≠ name) :
    after.get? (filePath project other) = tree.get? (filePath project other) :=
  h.creation.get?_other (filePath_ne_profilesDirectory project other)
    fun heq => hne (filePath_injective heq)

theorem label (h : Creates tree project name after) : after.label = tree.label :=
  h.creation.grownBy.label

theorem find (h : Creates tree project name after) :
    Project.find after (some project) name = .ok (Profile.blank name) := by
  have hcontains : after.contains (filePath project name) = true :=
    contains_iff.2 ⟨_, h.creation.get?_path⟩
  rw [find_eq, h.isValid, hcontains]
  exact load_of_file h.creation.get?_path

theorem runValidate (h : Creates tree project name after) (denyWarnings : Bool) :
    (Command.runValidate after project denyWarnings name).status = 0 := by
  unfold Command.runValidate
  rw [h.find]
  dsimp only
  rw [Profile.issues_blank h.valid]
  rfl

theorem find_other (h : Creates tree project name after) (hne : other ≠ name) :
    Project.find after (some project) other = Project.find tree (some project) other :=
  find_congr h.label (h.get?_filePath_other hne)

theorem discover (h : Creates tree project name after) :
    ∃ smaller larger, Project.discover tree project = smaller ++ larger
      ∧ Project.discover after project = smaller ++ (name, filePath project name) :: larger
      ∧ (∀ profile ∈ smaller, profile.1 < name) ∧ ∀ profile ∈ larger, name < profile.1 := by
  have hfresh : tree.contains (filePath project name) = false :=
    contains_eq_false_iff.2 h.creation.fresh
  have hnew : after.contains (filePath project name) = true :=
    contains_iff.2 ⟨_, h.creation.get?_path⟩
  refine discover_insert h.isValid hfresh hnew fun other hne => ?_
  rw [contains, contains, h.get?_filePath_other hne]

end Creates

/-- A project has gained a profile: a host build under a name, without a description. -/
structure Gains (tree : FileTree) (project : Path) (name : String) (after : FileTree) : Prop where
  found : Project.find after (some project) name = .ok ⟨name, "", .host⟩
  valid : (⟨name, "", .host⟩ : Profile).issues = []
  validates : ∀ denyWarnings, (Command.runValidate after project denyWarnings name).status = 0
  listed : ∃ smaller larger, Project.discover tree project = smaller ++ larger
    ∧ Project.discover after project = smaller ++ (name, filePath project name) :: larger
    ∧ (∀ profile ∈ smaller, profile.1 < name) ∧ ∀ profile ∈ larger, name < profile.1
  others : ∀ other, other ≠ name →
    Project.find after (some project) other = Project.find tree (some project) other

/-- Where a profile has been created, the project has gained it; and none is created under a name
that is not valid, or where anything stands at its path. -/
theorem runNew_faithful (tree : FileTree) (project : Path) (name : String) :
    ((runNew tree project name).status = 0 →
      Gains tree project name (runNew tree project name).tree)
    ∧ (ProfileName.isValid name = false ∨ tree.contains (filePath project name) = true →
      (runNew tree project name).status ≠ 0) := by
  constructor
  · intro hstatus
    have hcreates := created_of_status hstatus
    exact {
      found := hcreates.find
      valid := Profile.issues_blank hcreates.valid
      validates := hcreates.runValidate
      listed := hcreates.discover
      others := fun _ hne => hcreates.find_other hne }
  · intro hbad hstatus
    have hcreates := created_of_status hstatus
    rcases hbad with hinvalid | htaken
    · rw [hcreates.isValid] at hinvalid
      cases hinvalid
    · rw [contains_eq_false_iff.2 hcreates.creation.fresh] at htaken
      cases htaken

/-- A profile that is named after a quotation mark, in a tree without anything else. -/
theorem runNew_faithful_quote :
    (runNew (.empty "") [] "\"").status = 0
    ∧ Gains (.empty "") [] "\"" (runNew (.empty "") [] "\"").tree := by
  have hstatus : (runNew (.empty "") [] "\"").status = 0 :=
    runNew_status_iff.2 ⟨by decide, by decide, by decide, .inr ⟨by decide, by decide⟩⟩
  exact ⟨hstatus, (runNew_faithful (.empty "") [] "\"").1 hstatus⟩

end Command

end RuntimeProfiles
