import RuntimeProfiles.Command.Invocation
import RuntimeProfiles.Proofs.FileTree

/-!
# What commands do to the file tree

Two commands write. Each makes sure of the directory `profiles` and then writes one file that is not
there yet, so each has one lemma that says everything it can do to the tree:

* **`runInit_cases`** — the manifest has been created, or nothing has happened;
* **`run_newProfile_cases`** — a profile has been created, or nothing has happened, or the name of
  the profile is too long for a file and at most the directory is new;
* **`run_leavesAlone`** — every other command leaves the tree alone;
* **`Effect`**, **`run_effect`** — all of this in one relation, with one case for everything that a
  command can do.
-/

namespace RuntimeProfiles

/-! ## The project of a directory -/

/-- The directory of the nearest manifest, or else the directory itself. -/
def Project.around (tree : FileTree) (directory : Path) : Path :=
  (Manifest.nearest? tree directory.reverse).getD directory

/-- A manifest that was found is the nearest one. -/
theorem Manifest.find_eq_ok {tree : FileTree} {start : Path} {found : Option (Manifest × Path)}
    (h : find tree start = .ok found) : found.map (·.2) = nearest? tree start.reverse := by
  unfold find at h
  split at h
  · next hnone =>
    cases h
    exact hnone.symm
  · next project hsome =>
    rw [hsome]
    cases hload : load tree project with
    | error error =>
      rw [hload] at h
      cases h
    | ok manifest =>
      rw [hload] at h
      cases h
      rfl

/-- Whether a failure lies in the request or in what stands in the tree, and not in the length of a
file name. -/
def Failure.isStructural : Failure → Bool
  | .file _ .nameTooLong => false
  | _ => true

theorem Failure.isStructural_file {activity : String} {fault : FileFault}
    (h : fault ≠ .nameTooLong) : (Failure.file activity fault).isStructural = true := by
  cases fault with
  | nameTooLong => exact absurd rfl h
  | _ => rfl

/-- The tree is as it was, and a failure is not due to the length of a file name. -/
structure Outcome.LeavesAlone (tree : FileTree) (outcome : Outcome) : Prop where
  same : outcome.tree = tree
  structural : ∀ failure, outcome.failure = some failure → failure.isStructural = true

/-- The command has failed without a trace. -/
structure Outcome.IsRefusal (tree : FileTree) (outcome : Outcome) : Prop
    extends outcome.LeavesAlone tree where
  failed : outcome.failure ≠ none

theorem Outcome.status_eq_zero_iff {outcome : Outcome} :
    outcome.status = 0 ↔ outcome.failure = none := by
  unfold Outcome.status
  cases outcome.failure <;> simp

theorem Outcome.leavesAlone_printed (tree : FileTree) (stdout : String) :
    (printed tree stdout).LeavesAlone tree where
  same := rfl
  structural := fun _ h => by cases h

theorem Outcome.isRefusal_failed (tree : FileTree) {failure : Failure}
    (h : failure.isStructural = true) : (failed tree failure).IsRefusal tree where
  same := rfl
  structural := fun other hother => by
    cases hother
    exact h
  failed := fun hnone => by cases hnone

namespace Command

open FileTree Outcome

variable {tree : FileTree} {directory project : Path} {name defaultProfile : String}

/-! ## Setting up a project -/

/-- The file of the manifest of a directory. -/
def manifestPath (directory : Path) : Path := directory ++ [Manifest.fileName]

@[simp]
theorem dropLast_manifestPath (directory : Path) : (manifestPath directory).dropLast = directory :=
  List.dropLast_concat

theorem nameFits_manifestPath (directory : Path) : NameFits (manifestPath directory) := by
  have hlast : (manifestPath directory).getLast? = some Manifest.fileName := by simp [manifestPath]
  unfold NameFits
  rw [hlast]
  decide

theorem nameFits_profilesDirectory (project : Path) :
    NameFits (Project.profilesDirectory project) := by
  have hlast : (Project.profilesDirectory project).getLast? = some "profiles" := by
    simp [Project.profilesDirectory]
  unfold NameFits
  rw [hlast]
  decide

/-- No directory of profiles is called like the file of a manifest. -/
theorem manifestPath_ne_profilesDirectory (directory project : Path) :
    manifestPath directory ≠ Project.profilesDirectory project := by
  intro h
  have hname : [Manifest.fileName] = ["profiles"] := (List.append_inj' h rfl).2
  exact absurd hname (by decide)

/-- Where the directory of the profiles has been made sure of, its parent is a directory. -/
theorem isDirectory_of_ensure_profiles {made : FileTree}
    (h : tree.ensureDirectory (Project.profilesDirectory directory) = .ok made) :
    made.isDirectory directory = true := by
  have hprofiles : made.get? (Project.profilesDirectory directory) = some .directory :=
    isDirectory_iff.1 (isDirectory_of_ensureDirectory h)
  have hparent := isDirectory_dropLast hprofiles
  rwa [Project.profilesDirectory, List.dropLast_concat] at hparent

/-- The directory of the profiles can be made sure of exactly if it is there, or if nothing stands
at its path in a directory. -/
theorem exists_ensure_profiles_iff :
    (∃ made, tree.ensureDirectory (Project.profilesDirectory directory) = .ok made)
      ↔ tree.isDirectory (Project.profilesDirectory directory) = true
        ∨ tree.get? (Project.profilesDirectory directory) = none
          ∧ tree.isDirectory directory = true := by
  have hparent : (Project.profilesDirectory directory).dropLast = directory := List.dropLast_concat
  have hiff := @exists_ensureDirectory_iff tree _ (nameFits_profilesDirectory directory)
  rwa [hparent] at hiff

/-- A project has been set up in a directory. -/
structure SetsUp (tree : FileTree) (directory : Path) (defaultProfile : String)
    (after : FileTree) : Prop where
  known : (Profile.builtin? defaultProfile).isSome = true
  creation : IsCreation tree (Project.profilesDirectory directory) (manifestPath directory)
    (Manifest.template defaultProfile).toUTF8 after

/-- Setting up a project fails without a trace, or the project is set up. -/
theorem runInit_cases (tree : FileTree) (directory : Path) (defaultProfile : String) :
    (runInit tree directory defaultProfile).IsRefusal tree
    ∨ ((runInit tree directory defaultProfile).failure = none
      ∧ SetsUp tree directory defaultProfile (runInit tree directory defaultProfile).tree) := by
  unfold runInit
  rw [← manifestPath]
  dsimp only
  split
  · exact .inl (isRefusal_failed tree rfl)
  next hcontains =>
  have hfresh : tree.get? (manifestPath directory) = none :=
    contains_eq_false_iff.1 (Bool.not_eq_true _ ▸ hcontains)
  split
  · exact .inl (isRefusal_failed tree rfl)
  next hknown =>
  have hknown : (Profile.builtin? defaultProfile).isSome = true :=
    Option.isSome_iff_ne_none.2 fun hnone => hknown (by rw [hnone]; rfl)
  split
  · next fault hmake =>
    have hfault := ensureDirectory_eq_error (nameFits_profilesDirectory directory) hmake
    exact .inl (isRefusal_failed tree (Failure.isStructural_file hfault))
  next made hmade =>
  have hparent : made.isDirectory (manifestPath directory).dropLast = true := by
    rw [dropLast_manifestPath]
    exact isDirectory_of_ensure_profiles hmade
  -- the name of a manifest is short, so the file is written
  rcases writeFile_cases hfresh (manifestPath_ne_profilesDirectory directory directory) hmade
    hparent with
    ⟨after, hwrite, hcreation⟩ | ⟨-, hlong, -⟩
  · rw [hwrite]
    exact .inr ⟨rfl, hknown, hcreation⟩
  · exact absurd (nameFits_manifestPath directory) hlong

/-! ## Creating a profile -/

@[simp]
theorem dropLast_filePath (project : Path) (name : String) :
    (Project.filePath project name).dropLast = Project.profilesDirectory project :=
  List.dropLast_concat

theorem filePath_ne_profilesDirectory (project : Path) (name : String) :
    Project.filePath project name ≠ Project.profilesDirectory project := by
  intro h
  have hlength := congrArg List.length h
  simp [Project.filePath] at hlength

/-- A profile has been created in a project. -/
structure Creates (tree : FileTree) (project : Path) (name : String) (after : FileTree) :
    Prop where
  valid : ProfileName.fault? name = none
  creation : IsCreation tree (Project.profilesDirectory project) (Project.filePath project name)
    (Profile.blank name).toToml.toUTF8 after

/-- Creating a profile fails without a trace, or the profile is created, or else the name of its
file is too long and at most the directory of the profiles is new. -/
theorem runNew_cases (tree : FileTree) (project : Path) (name : String) :
    (runNew tree project name).IsRefusal tree
    ∨ ((runNew tree project name).failure = none
      ∧ Creates tree project name (runNew tree project name).tree)
    ∨ ((∃ activity, (runNew tree project name).failure = some (.file activity .nameTooLong))
      ∧ ¬ NameFits (Project.filePath project name)
      ∧ GrownBy tree [Project.profilesDirectory project] (runNew tree project name).tree) := by
  unfold runNew Project.profilePath
  cases hvalid : ProfileName.fault? name with
  | some fault => exact .inl (isRefusal_failed tree rfl)
  | none =>
    dsimp only
    split
    · exact .inl (isRefusal_failed tree rfl)
    next hcontains =>
    have hfresh : tree.get? (Project.filePath project name) = none :=
      contains_eq_false_iff.1 (Bool.not_eq_true _ ▸ hcontains)
    split
    · next fault hmake =>
      have hfault := ensureDirectory_eq_error (nameFits_profilesDirectory project) hmake
      exact .inl (isRefusal_failed tree (Failure.isStructural_file hfault))
    next made hmade =>
    have hparent : made.isDirectory (Project.filePath project name).dropLast = true := by
      rw [dropLast_filePath]
      exact isDirectory_of_ensureDirectory hmade
    rcases writeFile_cases hfresh (filePath_ne_profilesDirectory project name) hmade hparent with
      ⟨after, hwrite, hcreation⟩ | ⟨hwrite, hlong, hgrown⟩
    · rw [hwrite]
      exact .inr (.inl ⟨rfl, hvalid, hcreation⟩)
    · rw [hwrite]
      exact .inr (.inr ⟨⟨_, rfl⟩, hlong, hgrown⟩)

/-! ## All commands -/

/-- A command that needs the manifest fails without a trace, or works on the project around the
directory. -/
theorem withProject_cases (tree : FileTree) (directory : Path) (run : Path → Outcome) :
    (withProject tree directory run).IsRefusal tree
    ∨ withProject tree directory run = run (Project.around tree directory) := by
  unfold withProject withManifest
  cases hfind : Manifest.find tree directory with
  | error error => exact .inl (isRefusal_failed tree rfl)
  | ok found => exact .inr (by rw [Project.around, ← Manifest.find_eq_ok hfind])

/-- Where a manifest cannot be read, a profile is refused; otherwise it goes to the project around
the directory. -/
theorem run_newProfile_cases (tree : FileTree) (directory : Path) (name : String) :
    (Command.run tree directory (.newProfile name)).IsRefusal tree
    ∨ Command.run tree directory (.newProfile name)
      = runNew tree (Project.around tree directory) name :=
  withProject_cases tree directory fun project => runNew tree project name

theorem withManifest_leavesAlone {run : Option (Manifest × Path) → Outcome}
    (h : ∀ found, (run found).LeavesAlone tree) :
    (withManifest tree directory run).LeavesAlone tree := by
  unfold withManifest
  split
  · exact (isRefusal_failed tree rfl).toLeavesAlone
  · exact h _

theorem runDescribe_leavesAlone (tree : FileTree) (project : Path) (name : String)
    (format : Option String) : (runDescribe tree project name format).LeavesAlone tree := by
  unfold runDescribe
  split
  · exact (isRefusal_failed tree rfl).toLeavesAlone
  split
  · exact leavesAlone_printed ..
  · exact leavesAlone_printed ..
  · exact leavesAlone_printed ..
  · exact leavesAlone_printed ..
  · exact (isRefusal_failed tree rfl).toLeavesAlone

theorem runValidate_leavesAlone (tree : FileTree) (project : Path) (denyWarnings : Bool)
    (name : String) : (runValidate tree project denyWarnings name).LeavesAlone tree := by
  unfold runValidate
  split
  · exact (isRefusal_failed tree rfl).toLeavesAlone
  dsimp only
  split
  · exact leavesAlone_printed ..
  split
  · exact ⟨rfl, fun _ h => by cases h; rfl⟩
  · exact leavesAlone_printed ..

theorem runResolve_leavesAlone (tree : FileTree) (project : Option Path)
    (profile format : Option String) :
    (runResolve tree project profile format).LeavesAlone tree := by
  unfold runResolve
  split
  · exact ⟨rfl, fun _ h => by cases h; rfl⟩
  · split <;> exact ⟨rfl, fun _ h => by cases h <;> rfl⟩

theorem runLayout_leavesAlone (tree : FileTree) (format : Option String) :
    (runLayout tree format).LeavesAlone tree := by
  unfold runLayout
  split <;> exact leavesAlone_printed ..

theorem runNullCheck_leavesAlone (tree : FileTree) (offsets : List String) :
    (runNullCheck tree offsets).LeavesAlone tree where
  same := rfl
  structural := by
    intro failure h
    obtain ⟨⟨text, fault⟩, -, rfl⟩ := Option.map_eq_some_iff.1 h
    rfl

/-- Whether a command may write. -/
def writes : Command → Bool
  | .init _ | .newProfile _ => true
  | _ => false

/-- A command that does not write leaves the tree alone. -/
theorem run_leavesAlone (tree : FileTree) (directory : Path) {command : Command}
    (h : command.writes = false) : (command.run tree directory).LeavesAlone tree := by
  cases command with
  | init | newProfile => cases h
  | listProfiles => exact withManifest_leavesAlone fun _ => leavesAlone_printed ..
  | describeProfile name format =>
    exact withManifest_leavesAlone fun _ => runDescribe_leavesAlone ..
  | validateProfile name => exact withManifest_leavesAlone fun _ => runValidate_leavesAlone ..
  | resolve profile build format =>
    exact withManifest_leavesAlone fun _ => runResolve_leavesAlone ..
  | layout format => exact runLayout_leavesAlone ..
  | nullCheck offsets => exact runNullCheck_leavesAlone ..
  | doctor => exact leavesAlone_printed ..

/-- What a command with an outcome can have done to a tree. -/
inductive Effect (tree : FileTree) (directory : Path) : Command → Outcome → Prop where
  /-- It has only read the tree, whatever came of it. -/
  | readOnly {command outcome} (silent : command.writes = false)
      (alone : outcome.LeavesAlone tree) : Effect tree directory command outcome
  | refusal {command outcome} (refusal : outcome.IsRefusal tree) :
      Effect tree directory command outcome
  | setUp {defaultProfile outcome} (done : outcome.failure = none)
      (setsUp : SetsUp tree directory defaultProfile outcome.tree) :
      Effect tree directory (.init defaultProfile) outcome
  | created {name outcome} (done : outcome.failure = none)
      (creates : Creates tree (Project.around tree directory) name outcome.tree) :
      Effect tree directory (.newProfile name) outcome
  /-- The name of a profile is too long for a file. -/
  | tooLong {name activity outcome} (failed : outcome.failure = some (.file activity .nameTooLong))
      (long : ¬ NameFits (Project.filePath (Project.around tree directory) name))
      (grown : GrownBy tree [Project.profilesDirectory (Project.around tree directory)]
        outcome.tree) :
      Effect tree directory (.newProfile name) outcome

theorem run_effect (tree : FileTree) (directory : Path) (command : Command) :
    Effect tree directory command (command.run tree directory) := by
  by_cases hsilent : command.writes = false
  · exact .readOnly hsilent (run_leavesAlone tree directory hsilent)
  cases command with
  | init defaultProfile =>
    rcases runInit_cases tree directory defaultProfile with hrefusal | ⟨hdone, hsetsUp⟩
    · exact .refusal hrefusal
    · exact .setUp hdone hsetsUp
  | newProfile name =>
    rcases run_newProfile_cases tree directory name with hrefusal | hrun
    · exact .refusal hrefusal
    rw [hrun]
    rcases runNew_cases tree (Project.around tree directory) name with
      hrefusal | ⟨hdone, hcreates⟩ | ⟨⟨activity, hfailed⟩, hlong, hgrown⟩
    · exact .refusal hrefusal
    · exact .created hdone hcreates
    · exact .tooLong hfailed hlong hgrown
  | listProfiles | layout | nullCheck | doctor | describeProfile | validateProfile | resolve =>
    exact absurd rfl hsilent

theorem Effect.setsUp {outcome : Outcome} (h : Effect tree directory (.init defaultProfile) outcome)
    (hdone : outcome.failure = none) : SetsUp tree directory defaultProfile outcome.tree := by
  cases h with
  | readOnly silent => cases silent
  | refusal refusal => exact absurd hdone refusal.failed
  | setUp done setsUp => exact setsUp

theorem Effect.creates {outcome : Outcome} (h : Effect tree directory (.newProfile name) outcome)
    (hdone : outcome.failure = none) :
    Creates tree (Project.around tree directory) name outcome.tree := by
  cases h with
  | readOnly silent => cases silent
  | refusal refusal => exact absurd hdone refusal.failed
  | created done creates => exact creates
  | tooLong failed =>
    rw [hdone] at failed
    cases failed

end Command

end RuntimeProfiles
