import RuntimeProfiles.Proofs.Command.Arguments
import RuntimeProfiles.Proofs.Command.Changes
import RuntimeProfiles.Proofs.Command.Shown
import RuntimeProfiles.Proofs.Config.Consistency
import RuntimeProfiles.Proofs.Config.RoundTrip

/-!
# What `resolve` prints

A request to show a configuration chooses a profile around a directory, or the compiled-in build
(`Command.Chooses`), which is the standard one throughout (`Build.standard`). What is printed for
other programs is decoded again in both formats:

* **`run_resolve_of_chooses`** — a choice is either shown or rejected, whatever the format;
* **`resolve_faithful`** — what is printed is the resolution of the choice, and both formats agree
  on it;
* **`Build.shown_shows`** — what shows the compiled-in build can be read again, by people and
  programs;
* **`resolve_build_iff`** — asked for the compiled-in build, the program shows it exactly where the
  nearest manifest can be read.
-/

namespace RuntimeProfiles

theorem Build.standardConfig_resolved :
    RuntimeConfig.ofToggles Build.standardConfig.toggles = .ok Build.standardConfig := rfl

/-- A resolved configuration is decoded from its text in both formats. -/
theorem RuntimeConfig.decode_dump_of_ofToggles {toggles : ToggleSet} {config : RuntimeConfig}
    (h : ofToggles toggles = .ok config) (format : Dump) :
    format.decode codec (config.dump format) = .ok config := by
  have hnative : config.layout = .native := (consistent_of_ofToggles h).layout
  refine decode_dump config format fun _ => ?_
  rw [hnative]
  exact Layout.fitsSigned_native

namespace Command

variable {tree : FileTree} {directory : Path} {profile : Option String}

/-! ## The choice of a configuration -/

/-- The name of the profile to show: the one that is asked for, or else the default of the
project. -/
def chosenName? (found : Option (Manifest × Path)) (profile : Option String) : Option String :=
  profile.or (found.bind (·.1.defaultProfile))

/-- What a request chooses in a directory: a profile that is found, or no profile and so the
compiled-in build. -/
inductive Chooses (tree : FileTree) (directory : Path) (profile : Option String) :
    Option Profile → Prop where
  | compiledIn {found : Option (Manifest × Path)}
      (hmanifest : Manifest.find tree directory = .ok found)
      (hname : chosenName? found profile = none) : Chooses tree directory profile none
  | profile {found : Option (Manifest × Path)} {name : String} {shown : Profile}
      (hmanifest : Manifest.find tree directory = .ok found)
      (hname : chosenName? found profile = some name)
      (hfind : Project.find tree (found.map (·.2)) name = .ok shown) :
      Chooses tree directory profile (some shown)

/-- The configuration of a choice. -/
def configOf : Option Profile → Except Rejection RuntimeConfig
  | none => .ok Build.standardConfig
  | some shown => RuntimeConfig.ofToggles shown.toggles

theorem ofToggles_of_configOf {chosen : Option Profile} {config : RuntimeConfig}
    (h : configOf chosen = .ok config) : RuntimeConfig.ofToggles config.toggles = .ok config := by
  cases chosen with
  | none =>
    cases h
    exact Build.standardConfig_resolved
  | some shown =>
    have hresolve : RuntimeConfig.ofToggles shown.toggles = .ok config := h
    rwa [RuntimeConfig.toggles_of_ofToggles hresolve]

/-! ## One run of the command -/

theorem run_resolve {found : Option (Manifest × Path)}
    (h : Manifest.find tree directory = .ok found) (profile : Option String) (build : Bool)
    (format : Option String) :
    (Command.resolve profile build format).run tree directory
      = runResolve tree (found.map (·.2)) (if build then none else chosenName? found profile)
        format := by
  rw [run, withManifest, h]
  rfl

theorem run_resolve_error {error : Manifest.LoadError}
    (h : Manifest.find tree directory = .error error) (profile : Option String) (build : Bool)
    (format : Option String) :
    (Command.resolve profile build format).run tree directory = .failed tree (.manifest error) := by
  rw [run, withManifest, h]

theorem runResolve_ok {project : Option Path} {name : Option String} {source : String}
    {config : RuntimeConfig} {log : List Log.Entry}
    (h : configuration tree project name = (.ok (source, config), log)) (format : Dump) :
    runResolve tree project name (some format.name) = ⟨config.dump format, log, none, tree⟩ := by
  rw [runResolve, h]
  cases format <;> rfl

theorem runResolve_error {project : Option Path} {name : Option String} {error : ConfigError}
    {log : List Log.Entry} (h : configuration tree project name = (.error error, log))
    (format : Option String) :
    runResolve tree project name format = ⟨"", log, some (.config error), tree⟩ := by
  rw [runResolve, h]

/-- A profile that is found is resolved, with its name as the source. -/
theorem configuration_found {project : Option Path} {name : String} {shown : Profile}
    (h : Project.find tree project name = .ok shown) :
    configuration tree project (some name)
      = (((RuntimeConfig.ofToggles shown.toggles).mapError .rejected).map fun config =>
          (name, config), shown.resolve.2) := by
  rw [configuration]
  simp only [h]
  rfl

/-- A choice is shown if its toggles resolve, and otherwise the command fails with their
rejection. -/
theorem run_resolve_of_chooses {chosen : Option Profile} (h : Chooses tree directory profile chosen)
    (format : Dump) :
    (∃ config log, configOf chosen = .ok config
      ∧ (Command.resolve profile false (some format.name)).run tree directory
        = ⟨config.dump format, log, none, tree⟩)
    ∨ (∃ rejection log, configOf chosen = .error rejection
      ∧ (Command.resolve profile false (some format.name)).run tree directory
        = ⟨"", log, some (.config (.rejected rejection)), tree⟩) := by
  cases h with
  | compiledIn hmanifest hname =>
    refine .inl ⟨Build.standardConfig, [], rfl, ?_⟩
    rw [run_resolve hmanifest, if_neg (by decide), hname]
    exact runResolve_ok rfl format
  | @profile found name shown hmanifest hname hfind =>
    have hconfiguration := configuration_found hfind
    rw [run_resolve hmanifest, if_neg (by decide), hname]
    cases hresolve : RuntimeConfig.ofToggles shown.toggles with
    | ok config =>
      rw [hresolve] at hconfiguration
      exact .inl ⟨config, shown.resolve.2, hresolve, runResolve_ok hconfiguration format⟩
    | error rejection =>
      rw [hresolve] at hconfiguration
      exact .inr ⟨rejection, shown.resolve.2, hresolve, runResolve_error hconfiguration _⟩

theorem exists_chooses {format : Option String}
    (h : ((Command.resolve profile false format).run tree directory).failure = none) :
    ∃ chosen, Chooses tree directory profile chosen := by
  cases hmanifest : Manifest.find tree directory with
  | error error =>
    rw [run_resolve_error hmanifest] at h
    cases h
  | ok found =>
    rw [run_resolve hmanifest, if_neg (by decide)] at h
    cases hname : chosenName? found profile with
    | none => exact ⟨none, .compiledIn hmanifest hname⟩
    | some name =>
      cases hfind : Project.find tree (found.map (·.2)) name with
      | ok shown => exact ⟨some shown, .profile hmanifest hname hfind⟩
      | error error =>
        have hconfiguration : configuration tree (found.map (·.2)) (some name)
            = (.error error, []) := by
          rw [configuration]
          simp only [hfind]
        rw [hname, runResolve_error hconfiguration] at h
        cases h

end Command

/-! ## What is printed -/

/-- A run of the program that shows the configuration of a profile, or of the default one. -/
def Invocation.resolve (tree : FileTree) (directory : Path) (profile : Option String)
    (verbosity : Nat) (format : Dump) : Invocation :=
  run tree directory (List.replicate verbosity "--verbose"
    ++ (Command.resolve profile false (some format.name)).arguments)

theorem Invocation.resolve_eq (tree : FileTree) (directory : Path) (profile : Option String)
    (verbosity : Nat) (format : Dump) :
    resolve tree directory profile verbosity format
      = ofOutcome verbosity
        ((Command.resolve profile false (some format.name)).run tree directory) := by
  have hpossible : (Command.resolve profile false (some format.name)).IsPossible := by
    intro hbuild
    cases hbuild
  exact run_arguments hpossible tree directory verbosity

namespace Invocation

variable {tree : FileTree} {directory : Path} {profile : Option String} {chosen : Option Profile}

theorem resolve_of_ok {config : RuntimeConfig} (h : Command.Chooses tree directory profile chosen)
    (hconfig : Command.configOf chosen = .ok config) (verbosity : Nat) (format : Dump) :
    (resolve tree directory profile verbosity format).status = 0
      ∧ (resolve tree directory profile verbosity format).stdout = config.dump format := by
  rcases Command.run_resolve_of_chooses h format with
    ⟨other, log, hother, hrun⟩ | ⟨rejection, log, herror, -⟩
  · rw [hconfig] at hother
    cases hother
    rw [resolve_eq, hrun]
    exact ⟨rfl, rfl⟩
  · rw [hconfig] at herror
    cases herror

theorem resolve_of_error {rejection : Rejection} (h : Command.Chooses tree directory profile chosen)
    (herror : Command.configOf chosen = .error rejection) (verbosity : Nat) (format : Dump) :
    (resolve tree directory profile verbosity format).status = 1
      ∧ (resolve tree directory profile verbosity format).stdout = "" := by
  rcases Command.run_resolve_of_chooses h format with
    ⟨config, log, hconfig, -⟩ | ⟨other, log, -, hrun⟩
  · rw [herror] at hconfig
    cases hconfig
  · rw [resolve_eq, hrun]
    exact ⟨rfl, rfl⟩

theorem exists_of_status_resolve {verbosity : Nat} {format : Dump}
    (h : (resolve tree directory profile verbosity format).status = 0) :
    ∃ chosen config, Command.Chooses tree directory profile chosen
      ∧ Command.configOf chosen = .ok config := by
  have hnone : ((Command.resolve profile false (some format.name)).run tree directory).failure
      = none := by
    rw [resolve_eq] at h
    exact Outcome.status_eq_zero_iff.1 h
  obtain ⟨chosen, hchooses⟩ := Command.exists_chooses hnone
  cases hconfig : Command.configOf chosen with
  | ok config => exact ⟨chosen, config, hchooses, hconfig⟩
  | error rejection =>
    have hstatus := (resolve_of_error hchooses hconfig verbosity format).1
    rw [h] at hstatus
    cases hstatus

end Invocation

/-- **What `resolve` prints is the resolution of what it was asked for.** If it succeeds in a
format, it does so in both, and both texts are decoded as one configuration. This is the resolution
of its own toggles, which are those of the chosen profile; it is the compiled-in one if there is
none. It succeeds exactly if there is a choice that resolves, and prints nothing if the choice is
rejected. -/
theorem resolve_faithful (tree : FileTree) (directory : Path) (profile : Option String)
    (verbosity : Nat) :
    let shown := Invocation.resolve tree directory profile verbosity
    (∀ format, (shown format).status = 0 →
      ∃ config chosen, Command.Chooses tree directory profile chosen
        ∧ (match chosen with
          | none => config = Build.standardConfig
          | some found => config.toggles = found.toggles)
        ∧ RuntimeConfig.ofToggles config.toggles = .ok config
        ∧ ∀ other : Dump, (shown other).status = 0
          ∧ other.decode RuntimeConfig.codec (shown other).stdout = .ok config)
    ∧ (∀ chosen config, Command.Chooses tree directory profile chosen →
      Command.configOf chosen = .ok config → ∀ format, (shown format).status = 0)
    ∧ (∀ chosen rejection, Command.Chooses tree directory profile chosen →
      Command.configOf chosen = .error rejection →
      ∀ format, (shown format).status = 1 ∧ (shown format).stdout = "") := by
  intro shown
  refine ⟨?_, ?_, ?_⟩
  · intro format hstatus
    obtain ⟨chosen, config, hchooses, hconfig⟩ := Invocation.exists_of_status_resolve hstatus
    have hresolved := Command.ofToggles_of_configOf hconfig
    refine ⟨config, chosen, hchooses, ?_, hresolved, fun other => ?_⟩
    · cases chosen with
      | none => exact (Except.ok.inj hconfig).symm
      | some found => exact RuntimeConfig.toggles_of_ofToggles hconfig
    · obtain ⟨hzero, hstdout⟩ := Invocation.resolve_of_ok hchooses hconfig verbosity other
      have hdecode := RuntimeConfig.decode_dump_of_ofToggles hresolved other
      rw [← hstdout] at hdecode
      exact ⟨hzero, hdecode⟩
  · intro chosen config hchooses hconfig format
    exact (Invocation.resolve_of_ok hchooses hconfig verbosity format).1
  · intro chosen rejection hchooses herror format
    exact Invocation.resolve_of_error hchooses herror verbosity format

/-! ## The compiled-in build -/

/-- What a run of the program shows: its status and both of its outputs. -/
def Invocation.output (invocation : Invocation) : Nat × String × String :=
  (invocation.status, invocation.stdout, invocation.stderr)

/-- A run of the program that is to show the compiled-in build. -/
def Invocation.resolveBuild (tree : FileTree) (directory : Path) (verbosity : Nat)
    (format : Option String) : Invocation :=
  run tree directory (List.replicate verbosity "--verbose"
    ++ (Command.resolve none true format).arguments)

/-- What shows the compiled-in build, which is the standard one. It depends on the format alone. -/
def Build.shown : (format : Option String) → Nat × String × String
  | none | some "human" =>
    (0, Report.unlines (Report.capabilities "<build>" standardConfig.capabilities), "")
  | some "json" => (0, standardConfig.dump .json, "")
  | some "toml" => (0, standardConfig.dump .toml, "")
  | some other =>
    (1, "", "error: unknown format '" ++ other ++ "' (expected human, json, or toml)\n")

/-- People read the capabilities of the compiled-in build in what shows it, and programs decode
it. -/
theorem Build.shown_shows :
    (∀ format ∈ [none, some "human"],
      Report.Shows (shown format).2.1 "<build>" standardConfig.capabilities)
    ∧ ∀ format : Dump,
      format.decode RuntimeConfig.codec (shown (some format.name)).2.1 = .ok standardConfig := by
  have hsource : Report.IsLine "<build>" := by decide +kernel
  have hreport := Report.shows_capabilities hsource standardConfig.capabilities
  constructor
  · simp only [List.forall_mem_cons]
    exact ⟨hreport, hreport, List.forall_mem_nil _⟩
  · intro format
    have hdecode := RuntimeConfig.decode_dump_of_ofToggles standardConfig_resolved format
    cases format with
    | json => exact hdecode
    | toml => exact hdecode

theorem Invocation.resolveBuild_eq (tree : FileTree) (directory : Path) (verbosity : Nat)
    (format : Option String) :
    resolveBuild tree directory verbosity format
      = ofOutcome verbosity ((Command.resolve none true format).run tree directory) := by
  have hpossible : (Command.resolve none true format).IsPossible := fun _ => rfl
  exact run_arguments hpossible tree directory verbosity

theorem Invocation.output_resolveBuild_of_ok {tree : FileTree} {directory : Path}
    {found : Option (Manifest × Path)} (h : Manifest.find tree directory = .ok found)
    (verbosity : Nat) (format : Option String) :
    (resolveBuild tree directory verbosity format).output = Build.shown format := by
  rw [resolveBuild_eq, Command.run_resolve h, if_pos rfl]
  unfold Command.runResolve Build.shown
  simp only [Command.configuration]
  split
  · rfl
  · rfl
  · rfl
  · rfl
  · next other hhuman hjson htoml =>
    have hreport : Outcome.stderr ⟨"", [], some (.unknownFormat other "human, json, or toml"), tree⟩
        verbosity
          = "error: "
            ++ ("unknown format '" ++ (other ++ "' (expected human, json, or toml)\n")) := by
      simp [Outcome.stderr, Outcome.shownLog, Outcome.failureReport, Failure.report, Failure.chain,
        Failure.endsWithDiagnosis, String.join, String.append_assoc]
    have hprefix : "error: " ++ "unknown format '" = "error: unknown format '" := by decide
    rw [← String.append_assoc, hprefix, ← String.append_assoc] at hreport
    simp only [Invocation.output, ofOutcome, hreport]
    rfl

theorem Invocation.output_resolveBuild_of_error {tree : FileTree} {directory : Path}
    {error : Manifest.LoadError} (h : Manifest.find tree directory = .error error)
    (verbosity : Nat) (format : Option String) :
    (resolveBuild tree directory verbosity format).output
      = (1, "", "error: " ++ (Failure.manifest error).report) := by
  rw [resolveBuild_eq, Command.run_resolve_error h]
  rfl

/-- The report about a manifest is none about a format, and no success. -/
theorem Manifest.LoadError.report_ne_shown (error : Manifest.LoadError) (format : Option String) :
    (1, "", "error: " ++ (Failure.manifest error).report) ≠ Build.shown format := by
  unfold Build.shown
  split
  · exact fun h => by cases h
  · exact fun h => by cases h
  · exact fun h => by cases h
  · exact fun h => by cases h
  · next other _ _ _ =>
    intro h
    have hreport := congrArg (fun shown => (shown.2.2.toList.drop 7).head?) h
    -- one report begins with the activity, the other with the word for what is unknown
    cases error with
    | reading path fault =>
      simp [Failure.report, Failure.chain, chain] at hreport
    | parsing path fault =>
      simp [Failure.report, Failure.chain, chain] at hreport

/-- **The compiled-in build is shown wherever the nearest manifest can be read**, and then every run
shows the same. A manifest that cannot be read makes the command fail with what is wrong with it. -/
theorem resolve_build_iff (tree : FileTree) (directory : Path) (verbosity : Nat)
    (format : Option String) :
    ((Invocation.resolveBuild tree directory verbosity format).output = Build.shown format
      ↔ ∃ found, Manifest.find tree directory = .ok found)
    ∧ ∀ error, Manifest.find tree directory = .error error →
      (Invocation.resolveBuild tree directory verbosity format).output
        = (1, "", "error: " ++ (Failure.manifest error).report) := by
  refine ⟨⟨?_, ?_⟩, fun error h => Invocation.output_resolveBuild_of_error h verbosity format⟩
  · intro hshown
    cases hmanifest : Manifest.find tree directory with
    | ok found => exact ⟨found, rfl⟩
    | error error =>
      rw [Invocation.output_resolveBuild_of_error hmanifest] at hshown
      exact absurd hshown (error.report_ne_shown format)
  · rintro ⟨found, h⟩
    exact Invocation.output_resolveBuild_of_ok h verbosity format

/-- A tree with a manifest that is no text. -/
def FileTree.garbledManifest : FileTree :=
  ⟨"", [([Manifest.fileName], .file ⟨#[0xff]⟩)], IsTree.nil.concat (by simp) (by simp) (.inl rfl)⟩

/-- Asked for the compiled-in build, the program still fails on a manifest that is no text, so what
it shows depends on the manifest. -/
theorem resolve_build_reads_manifest :
    ¬ ∀ (first second : FileTree) (here there : Path) (verbosity : Nat) (format : Option String),
      (Invocation.resolveBuild first here verbosity format).output
        = (Invocation.resolveBuild second there verbosity format).output := by
  intro h
  have hgarbled : Manifest.find .garbledManifest []
      = .error (.reading "/memcaps.toml" .notText) := by rfl
  have hempty : Manifest.find (.empty "") [] = .ok none := by rfl
  have hsame := h .garbledManifest (.empty "") [] [] 0 none
  rw [Invocation.output_resolveBuild_of_error hgarbled, Invocation.output_resolveBuild_of_ok hempty]
    at hsame
  exact Manifest.LoadError.report_ne_shown _ _ hsame

end RuntimeProfiles
