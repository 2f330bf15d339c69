import RuntimeProfiles.Proofs.Command.Agreement
import RuntimeProfiles.Proofs.Command.Shown
import RuntimeProfiles.Proofs.Project.Search
import RuntimeProfiles.Proofs.Project.Template

/-!
# Setting up a project

`init` writes a manifest into a directory, and from then on the directory is a project with a
default profile. Everything that a later command does with it comes from that one file:

* **`Command.runInit_status_iff`** — exactly when a project can be set up;
* **`SetsUp.findManifest`** — the manifest is found from the directory and from below it, whatever
  lies above;
* **`SetsUp.run_resolve_default`** — so the default profile is the one that is shown;
* **`SetsUp.find_builtin`** — and it is the built-in one, unless a file shadows it;
* **`Command.showsIn_shownIn`** — what is printed of a configuration shows it, to people and to
  programs;
* **`Invocation.init_sets_up`** — all of it together, for runs of the program.
-/

namespace RuntimeProfiles

open FileTree

namespace Command

variable {tree after : FileTree} {directory : Path} {name : String} {below : List String}

/-! ## When a project can be set up -/

theorem setsUp_of_status (h : (runInit tree directory name).status = 0) :
    SetsUp tree directory name (runInit tree directory name).tree := by
  have hdone := Outcome.status_eq_zero_iff.1 h
  rcases runInit_cases tree directory name with hrefusal | ⟨-, hsetsUp⟩
  · exact absurd hdone hrefusal.failed
  · exact hsetsUp

theorem runInit_status_iff : (runInit tree directory name).status = 0
    ↔ tree.get? (manifestPath directory) = none ∧ (Profile.builtin? name).isSome = true
      ∧ (tree.isDirectory (Project.profilesDirectory directory) = true
        ∨ tree.get? (Project.profilesDirectory directory) = none
          ∧ tree.isDirectory directory = true) := by
  rw [← exists_ensure_profiles_iff]
  constructor
  · intro h
    have hsetsUp := setsUp_of_status h
    obtain ⟨made, hmade, -⟩ := hsetsUp.creation.steps
    exact ⟨hsetsUp.creation.fresh, hsetsUp.known, made, hmade⟩
  · rintro ⟨hfresh, hknown, made, hmade⟩
    have hparent : made.isDirectory (manifestPath directory).dropLast = true := by
      rw [dropLast_manifestPath]
      exact isDirectory_of_ensure_profiles hmade
    have hsome : (Profile.builtin? name).isNone = false := by
      rw [← Option.not_isSome, hknown]
      rfl
    -- the name of a manifest is short, so nothing keeps the file from being written
    rcases writeFile_cases hfresh (manifestPath_ne_profilesDirectory directory directory) hmade
      hparent with ⟨written, hwrite, -⟩ | ⟨-, hlong, -⟩
    · unfold runInit
      rw [← manifestPath]
      dsimp only
      rw [contains_eq_false_iff.2 hfresh, hsome, hmade]
      dsimp only
      rw [hwrite]
      rfl
    · exact absurd (nameFits_manifestPath directory) hlong

/-! ## What there is afterwards -/

namespace SetsUp

theorem isFile (h : SetsUp tree directory name after) :
    after.isFile (manifestPath directory) = true :=
  isFile_iff.2 ⟨_, h.creation.get?_path⟩

theorem load (h : SetsUp tree directory name after) :
    Manifest.load after directory = .ok ⟨some name, false⟩ := by
  have hverbatim := Profile.isVerbatim_of_builtin h.known
  exact (Manifest.load_eq_iff h.isFile).2
    (.manifest _ _ h.creation.get?_path (Manifest.ofToml_template hverbatim))

/-- The manifest is found wherever there is none nearer, whatever lies above. -/
theorem findManifest (h : SetsUp tree directory name after)
    (hbelow : Manifest.NoneBelow after directory below) :
    Manifest.find after (directory ++ below) = .ok (some (⟨some name, false⟩, directory)) := by
  rw [Manifest.find_below hbelow, Manifest.find, Manifest.nearest?_of_isFile h.isFile]
  dsimp only
  rw [h.load]
  rfl

/-- Whoever names no profile gets the default one. -/
theorem run_resolve_default (h : SetsUp tree directory name after)
    (hbelow : Manifest.NoneBelow after directory below) (format : Option String) :
    (Command.resolve none false format).run after (directory ++ below)
      = (Command.resolve (some name) false format).run after (directory ++ below) := by
  have hfind := h.findManifest hbelow
  rw [run_resolve hfind, run_resolve hfind]
  rfl

/-- Where no file stood under the name of the default profile, it is the built-in one. -/
theorem find_builtin (h : SetsUp tree directory name after)
    (hfree : tree.contains (Project.filePath directory name) = false) {builtin : Profile}
    (hbuiltin : Profile.builtin? name = some builtin) :
    Project.find after (some directory) name = .ok builtin := by
  have hget : after.get? (Project.filePath directory name)
      = tree.get? (Project.filePath directory name) :=
    h.creation.get?_other (filePath_ne_profilesDirectory directory name)
      (manifestPath_ne_filePath directory directory name).symm
  -- the manifest and the directory are all that is new
  have hnone : after.contains (Project.filePath directory name) = false :=
    contains_eq_false_iff.2 (hget.trans (contains_eq_false_iff.1 hfree))
  rw [Project.find_eq, hnone, Bool.and_false, if_neg Bool.false_ne_true, Project.findBuiltin,
    hbuiltin]

end SetsUp

/-- What shows a configuration in a format: the report for people, or a text for programs. -/
def shownIn (source : String) (config : RuntimeConfig) : (format : Option Dump) → String
  | none => Report.unlines (Report.capabilities source config.capabilities)
  | some dump => config.dump dump

/-- A text shows a configuration in a format: people read its capabilities there, and programs
decode the text as the configuration. -/
def ShowsIn (text source : String) (config : RuntimeConfig) : (format : Option Dump) → Prop
  | none => Report.Shows text source config.capabilities
  | some dump => dump.decode RuntimeConfig.codec text = .ok config

theorem showsIn_shownIn {source : String} (hsource : Report.IsLine source) {toggles : ToggleSet}
    {config : RuntimeConfig} (h : RuntimeConfig.ofToggles toggles = .ok config)
    (format : Option Dump) :
    ShowsIn (shownIn source config format) source config format := by
  cases format with
  | none => exact Report.shows_capabilities hsource config.capabilities
  | some dump => exact RuntimeConfig.decode_dump_of_ofToggles h dump

theorem runResolve_found {project : Option Path} {profile : Profile} {config : RuntimeConfig}
    (hfind : Project.find tree project name = .ok profile)
    (hconfig : profile.resolve.1 = .ok config) (format : Option Dump) :
    runResolve tree project (some name) (format.map Dump.name)
      = ⟨shownIn name config format, profile.resolve.2, none, tree⟩ := by
  have hresolve : RuntimeConfig.ofToggles profile.toggles = .ok config := hconfig
  rw [runResolve, configuration_found hfind, hresolve]
  cases format with
  | none => rfl
  | some dump => cases dump <;> rfl

end Command

/-! ## Runs of the program -/

namespace Invocation

variable {tree : FileTree} {directory : Path} {name : String}

/-- A run of the program that sets up a project, with an option that says which profile is the
default. -/
def init (tree : FileTree) (directory : Path) (option : List String) (verbosity : Nat) :
    Invocation :=
  run tree directory (List.replicate verbosity "--verbose" ++ "init" :: option)

/-- A run of the program that shows a configuration in any format or without one, with an option
that says of which profile. -/
def resolveAs (tree : FileTree) (directory : Path) (option : List String) (verbosity : Nat)
    (format : Option String) : Invocation :=
  run tree directory
    (List.replicate verbosity "--verbose"
      ++ "resolve" :: (option ++ Command.formatArguments format))

/-- The name of a built-in profile is a line and does not look like an option. -/
theorem name_of_builtin (h : (Profile.builtin? name).isSome = true) :
    Shape.of name = .word ∧ Report.IsLine name := by
  have hall : ∀ profile ∈ Profile.builtins,
      Shape.of profile.name = .word ∧ Report.IsLine profile.name := by decide +kernel
  obtain ⟨builtin, hbuiltin⟩ := Option.isSome_iff_exists.1 h
  obtain ⟨hmem, rfl⟩ := Profile.builtin?_eq_some_iff.1 hbuiltin
  exact hall builtin hmem

/-- The command is carried out, unless the name of the profile is taken for an option and
refused. -/
theorem init_cases (tree : FileTree) (directory : Path) {option : List String}
    (h : Usage.Spells "default-profile" name option) (verbosity : Nat) :
    init tree directory option verbosity = ofOutcome verbosity (Command.runInit tree directory name)
    ∨ init tree directory option verbosity = refused tree ∧ Shape.of name ≠ .word := by
  have hpossible : (Command.init name).IsPossible := trivial
  have hjoined : init tree directory [optionArgument "default-profile" name] verbosity
      = ofOutcome verbosity (Command.runInit tree directory name) :=
    run_arguments hpossible tree directory verbosity
  have hword : Shape.of "init" = .word := by decide
  have hshape : Shape.of ("--" ++ "default-profile") = .long "default-profile" none := by decide
  by_cases hname : Shape.of name = .word
  · left
    have hread : Request.readCommand verbosity "init" option
        = Request.readCommand verbosity "init" [optionArgument "default-profile" name] := by
      rw [← List.append_nil option]
      exact Request.readPlain_spelled h (by decide) hshape hname (by decide) verbosity [] _
    rw [← hjoined, init, init, run, run, Request.read_word hword, Request.read_word hword, hread]
  · cases h with
    | joined => exact .inl hjoined
    | apart =>
      right
      have hrefused : Request.readCommand verbosity "init" ["--" ++ "default-profile", name]
          = none :=
        Request.readPlain_apart_refused hshape hname (by decide) verbosity [] _
      rw [init, run, Request.read_word hword, hrefused]
      exact ⟨rfl, hname⟩

theorem resolveAs_nil (tree : FileTree) (directory : Path) (verbosity : Nat)
    (format : Option String) :
    resolveAs tree directory [] verbosity format
      = ofOutcome verbosity ((Command.resolve none false format).run tree directory) := by
  have hpossible : (Command.resolve none false format).IsPossible := nofun
  exact run_arguments hpossible tree directory verbosity

theorem resolveAs_spelled (tree : FileTree) (directory : Path) {option : List String}
    (h : Usage.Spells "profile" name option) (hname : Shape.of name = .word) (verbosity : Nat)
    (format : Option String) :
    resolveAs tree directory option verbosity format
      = ofOutcome verbosity ((Command.resolve (some name) false format).run tree directory) := by
  have hpossible : (Command.resolve (some name) false format).IsPossible := nofun
  have hjoined : resolveAs tree directory [optionArgument "profile" name] verbosity format
      = ofOutcome verbosity ((Command.resolve (some name) false format).run tree directory) :=
    run_arguments hpossible tree directory verbosity
  have hword : Shape.of "resolve" = .word := by decide
  have hread : Request.readCommand verbosity "resolve" (option ++ Command.formatArguments format)
      = Request.readCommand verbosity "resolve"
        (optionArgument "profile" name :: Command.formatArguments format) :=
    Request.readPlain_spelled h (by decide) (by decide) hname (by decide) verbosity _ _
  rw [← hjoined, resolveAs, resolveAs, run, run, Request.read_word hword, Request.read_word hword,
    hread]
  rfl

/-- In a directory, a profile of the project around it is the default: the nearest manifest says so
and denies no warnings, and whoever asks for no profile gets what asking for this one gives. -/
structure UsesByDefault (tree : FileTree) (start project : Path) (name : String) : Prop where
  manifest : Manifest.find tree start = .ok (some (⟨some name, false⟩, project))
  same : ∀ option, Usage.Spells "profile" name option → ∀ verbosity format,
    resolveAs tree start [] verbosity format = resolveAs tree start option verbosity format

/-- In a directory, the configuration of a built-in profile is shown to whoever asks for none. What
is printed is the one text for that format, and the configuration is read in it. -/
def ShowsBuiltin (tree : FileTree) (start : Path) (name : String) : Prop :=
  ∃ builtin config, Profile.builtin? name = some builtin ∧ builtin.resolve.1 = .ok config
    ∧ ∀ verbosity format,
      (resolveAs tree start [] verbosity (format.map Dump.name)).status = 0
      ∧ (resolveAs tree start [] verbosity (format.map Dump.name)).stdout
        = Command.shownIn name config format
      ∧ Command.ShowsIn (resolveAs tree start [] verbosity (format.map Dump.name)).stdout name
        config format

theorem usesByDefault {after : FileTree} {below : List String}
    (h : Command.SetsUp tree directory name after)
    (hbelow : Manifest.NoneBelow after directory below) :
    UsesByDefault after (directory ++ below) directory name where
  manifest := h.findManifest hbelow
  same := by
    intro option hoption verbosity format
    rw [resolveAs_nil, resolveAs_spelled _ _ hoption (name_of_builtin h.known).1,
      h.run_resolve_default hbelow]

theorem showsBuiltin {after : FileTree} {below : List String}
    (h : Command.SetsUp tree directory name after)
    (hbelow : Manifest.NoneBelow after directory below)
    (hfree : tree.contains (Project.filePath directory name) = false) :
    ShowsBuiltin after (directory ++ below) name := by
  obtain ⟨builtin, hbuiltin⟩ := Option.isSome_iff_exists.1 h.known
  obtain ⟨config, hconfig⟩ := Profile.resolves_of_builtin hbuiltin
  refine ⟨builtin, config, hbuiltin, hconfig, fun verbosity format => ?_⟩
  have hrun : (Command.resolve none false (format.map Dump.name)).run after (directory ++ below)
      = ⟨Command.shownIn name config format, builtin.resolve.2, none, after⟩ := by
    rw [Command.run_resolve (h.findManifest hbelow)]
    exact Command.runResolve_found (h.find_builtin hfree hbuiltin) hconfig format
  rw [resolveAs_nil, hrun]
  exact ⟨rfl, rfl, Command.showsIn_shownIn (name_of_builtin h.known).2 hconfig format⟩

/-- **Setting up a project.** In a directory, this succeeds exactly if nothing stands in the place
of the manifest, the default profile is a built-in one, and the directory of the profiles is there
or nothing stands in its place, however the option is spelled. Afterwards the profile is the default
in that directory and in every directory below it without a nearer manifest, whatever manifests lie
above; and unless something stood in the place of a file that shadows it, it is the built-in profile
that is shown. -/
theorem init_sets_up (h : tree.isDirectory directory = true) {option : List String}
    (hoption : Usage.Spells "default-profile" name option) (verbosity : Nat) :
    ((init tree directory option verbosity).status = 0
      ↔ tree.contains (Command.manifestPath directory) = false
        ∧ (∃ builtin ∈ Profile.builtins, builtin.name = name)
        ∧ (tree.contains (Project.profilesDirectory directory) = false
          ∨ tree.isDirectory (Project.profilesDirectory directory) = true))
    ∧ ((init tree directory option verbosity).status = 0 →
      ∀ below, Manifest.NoneBelow (init tree directory option verbosity).tree directory below →
        UsesByDefault (init tree directory option verbosity).tree (directory ++ below) directory
          name
        ∧ (tree.contains (Project.filePath directory name) = false →
          ShowsBuiltin (init tree directory option verbosity).tree (directory ++ below) name)) := by
  have hknown : (Profile.builtin? name).isSome = true
      ↔ ∃ builtin ∈ Profile.builtins, builtin.name = name := by
    rw [Option.isSome_iff_exists]
    simp only [Profile.builtin?_eq_some_iff]
  rcases init_cases tree directory hoption verbosity with hrun | ⟨hrefused, hname⟩
  · rw [hrun]
    constructor
    · show (Command.runInit tree directory name).status = 0 ↔ _
      rw [Command.runInit_status_iff, hknown, contains_eq_false_iff, contains_eq_false_iff, h,
        and_iff_left rfl, or_comm]
    · intro hstatus below hbelow
      have hsetsUp := Command.setsUp_of_status hstatus
      exact ⟨usesByDefault hsetsUp hbelow, showsBuiltin hsetsUp hbelow⟩
  · -- no built-in profile has a name that looks like an option
    rw [hrefused]
    constructor
    · refine iff_of_false nofun fun ⟨_, hbuiltin, _⟩ => ?_
      exact hname (name_of_builtin (hknown.2 hbuiltin)).1
    · exact nofun

end Invocation

/-- A tree with a directory below a manifest that is no text. -/
def FileTree.brokenAbove : FileTree :=
  ⟨"", [([Manifest.fileName], .file ⟨#[0xFF]⟩), (["inner"], .directory)],
    (IsTree.nil.concat (by simp) (by simp) (.inl rfl)).concat (by decide) (by simp) (.inl rfl)⟩

/-- A project that is set up below a manifest that cannot be read is not affected by it. -/
theorem Invocation.init_sets_up_broken :
    (init .brokenAbove ["inner"] ["--default-profile", "host-debug"] 0).status = 0
    ∧ UsesByDefault (init .brokenAbove ["inner"] ["--default-profile", "host-debug"] 0).tree
      ["inner"] ["inner"] "host-debug"
    ∧ ShowsBuiltin (init .brokenAbove ["inner"] ["--default-profile", "host-debug"] 0).tree
      ["inner"] "host-debug" := by
  have hdirectory : FileTree.brokenAbove.isDirectory ["inner"] = true := by decide
  have hoption : Usage.Spells "default-profile" "host-debug" ["--default-profile", "host-debug"] :=
    .apart
  obtain ⟨hstatus, hafter⟩ := init_sets_up hdirectory hoption 0
  have hdone := hstatus.2 ⟨by decide, ⟨.hostDebug, by decide, rfl⟩, .inl (by decide)⟩
  have hbelow : Manifest.NoneBelow
      (init .brokenAbove ["inner"] ["--default-profile", "host-debug"] 0).tree ["inner"] [] :=
    fun inner hne hinner => absurd (List.prefix_nil.1 hinner) hne
  obtain ⟨huses, hshows⟩ := hafter hdone [] hbelow
  exact ⟨hdone, huses, hshows (by decide)⟩

end RuntimeProfiles
