import RuntimeProfiles.Proofs.Command.NewProfile
import RuntimeProfiles.Proofs.Command.Resolve
import RuntimeProfiles.Proofs.Profile.Validation

/-!
# Which profile a name denotes

Three commands take the name of a profile: one validates it, one describes it and one shows what it
resolves to. They agree on a name (`Agrees`) if whatever passes validation is shown with the toggles
that are described, and if validation has nothing more to object than what does not keep a profile
from being shown.

Around a manifest the three look at the same project. Without one, the commands on profiles look at
the directory itself, where `resolve` knows built-in profiles only:

* **`Invocation.status_validate_of_ok`**, **`Invocation.resolve_of_find`**,
  **`Invocation.describe_of_ok`** — when the commands succeed, and what they print;
* **`agrees_of_same`** — they agree where they look a name up alike;
* **`agrees_iff_of_no_manifest`** — what it takes for them to agree without a manifest;
* **`agrees_iff`** — both together.
-/

namespace RuntimeProfiles

open Project

/-! ## Validation -/

namespace Profile

variable {profile : Profile}

/-- Validation has found a warning. -/
def Warns (profile : Profile) : Prop := ∃ issue ∈ profile.issues, issue.severity = .warning

/-- Validation lets a profile pass: there are no errors, and no warnings if these are denied. -/
def Passes (profile : Profile) (denyWarnings : Bool) : Prop :=
  hasErrors profile.issues = false ∧ (denyWarnings = true → profile.issues = [])

theorem warns_of_not_passes {denyWarnings : Bool} (herrors : hasErrors profile.issues = false)
    (h : ¬ profile.Passes denyWarnings) : denyWarnings = true ∧ profile.Warns := by
  rw [Passes, not_and] at h
  obtain ⟨hdenied, hne⟩ := Classical.not_imp.1 (h herrors)
  obtain ⟨issue, others, hissues⟩ := List.exists_cons_of_ne_nil hne
  have hmem : issue ∈ profile.issues := by
    rw [hissues]
    exact List.mem_cons_self
  have hnot : ¬ (issue.severity == .error) = true := List.any_eq_false.1 herrors issue hmem
  refine ⟨hdenied, issue, hmem, ?_⟩
  cases hseverity : issue.severity with
  | warning => rfl
  | error => exact absurd (by rw [hseverity]; rfl) hnot

theorem resolves_of_builtin {name : String} {builtin : Profile} (h : builtin? name = some builtin) :
    ∃ config, RuntimeConfig.ofToggles builtin.toggles = .ok config := by
  have hmem : builtin ∈ builtins := List.mem_of_find?_eq_some h
  simp only [builtins, List.mem_cons, List.not_mem_nil, or_false] at hmem
  rcases hmem with rfl | rfl | rfl | rfl | rfl
  all_goals exact ⟨_, rfl⟩

end Profile

/-! ## When the commands succeed -/

namespace Invocation

variable {tree : FileTree} {directory : Path} {found : Option (Manifest × Path)}

/-- A run of the program that validates a profile. -/
def validate (tree : FileTree) (directory : Path) (name : String) (verbosity : Nat) : Invocation :=
  run tree directory
    (List.replicate verbosity "--verbose" ++ (Command.validateProfile name).arguments)

/-- A run of the program that describes a profile in JSON. -/
def describe (tree : FileTree) (directory : Path) (name : String) (verbosity : Nat) : Invocation :=
  run tree directory
    (List.replicate verbosity "--verbose" ++ (Command.describeProfile name (some "json")).arguments)

/-- The project of the commands on profiles. -/
def projectOf (found : Option (Manifest × Path)) (directory : Path) : Path :=
  (found.map (·.2)).getD directory

/-- Whether the manifest, if there is one, denies warnings. -/
def denies (found : Option (Manifest × Path)) : Bool := (found.map (·.1.denyWarnings)).getD false

theorem validate_eq (h : Manifest.find tree directory = .ok found) (name : String)
    (verbosity : Nat) :
    validate tree directory name verbosity
      = ofOutcome verbosity
        (Command.runValidate tree (projectOf found directory) (denies found) name) := by
  have hpossible : (Command.validateProfile name).IsPossible := trivial
  have hrun : (Command.validateProfile name).run tree directory
      = Command.runValidate tree (projectOf found directory) (denies found) name := by
    rw [Command.run, Command.withManifest, h]
    rfl
  rw [validate, run_arguments hpossible, hrun]

theorem status_validate_of_ok (h : Manifest.find tree directory = .ok found) {name : String}
    {profile : Profile}
    (hfind : Project.find tree (some (projectOf found directory)) name = .ok profile)
    (verbosity : Nat) :
    (validate tree directory name verbosity).status = 0 ↔ profile.Passes (denies found) := by
  have hstatus : ∀ outcome : Outcome,
      (ofOutcome verbosity outcome).status = 0 ↔ outcome.failure = none :=
    fun outcome => Outcome.status_eq_zero_iff
  rw [validate_eq h, hstatus, Profile.Passes, Command.runValidate]
  simp only [hfind]
  cases hissues : profile.issues with
  | nil => simp [Outcome.printed, Profile.hasErrors]
  | cons issue others =>
    rw [if_neg (by simp)]
    cases herrors : Profile.hasErrors (issue :: others) <;> cases denies found <;>
      simp [Outcome.printed]

theorem status_validate_of_error (h : Manifest.find tree directory = .ok found) {name : String}
    {error : ConfigError}
    (hfind : Project.find tree (some (projectOf found directory)) name = .error error)
    (verbosity : Nat) : (validate tree directory name verbosity).status = 1 := by
  rw [validate_eq h, Command.runValidate]
  simp only [hfind]
  rfl

theorem describe_eq (h : Manifest.find tree directory = .ok found) {name : String}
    {profile : Profile}
    (hfind : Project.find tree (some (projectOf found directory)) name = .ok profile)
    (verbosity : Nat) :
    describe tree directory name verbosity
      = ofOutcome verbosity (.printed tree (Report.unlines [profile.toJson])) := by
  have hpossible : (Command.describeProfile name (some "json")).IsPossible := trivial
  have hrun : (Command.describeProfile name (some "json")).run tree directory
      = .printed tree (Report.unlines [profile.toJson]) := by
    rw [Command.run, Command.withProject, Command.withManifest, h]
    show Command.runDescribe tree (projectOf found directory) name (some "json") = _
    rw [Command.runDescribe]
    simp only [hfind]
  rw [describe, run_arguments hpossible, hrun]

theorem describe_of_ok (h : Manifest.find tree directory = .ok found) {name : String}
    {profile : Profile}
    (hfind : Project.find tree (some (projectOf found directory)) name = .ok profile)
    (verbosity : Nat) :
    (describe tree directory name verbosity).status = 0
      ∧ Json.decode Profile.codec (describe tree directory name verbosity).stdout
        = .ok profile := by
  rw [describe_eq h hfind]
  exact ⟨rfl, profile.decode_toJson⟩

theorem chooses_iff (h : Manifest.find tree directory = .ok found) {name : String}
    {chosen : Option Profile} : Command.Chooses tree directory (some name) chosen
      ↔ ∃ profile, chosen = some profile
        ∧ Project.find tree (found.map (·.2)) name = .ok profile := by
  constructor
  · intro hchooses
    cases hchooses with
    | compiledIn hmanifest hname => cases hname
    | profile hmanifest hname hfind =>
      rw [h] at hmanifest
      cases hmanifest
      cases hname
      exact ⟨_, rfl, hfind⟩
  · rintro ⟨profile, rfl, hfind⟩
    exact .profile h rfl hfind

theorem resolve_of_find (h : Manifest.find tree directory = .ok found) {name : String}
    {profile : Profile} {config : RuntimeConfig}
    (hfind : Project.find tree (found.map (·.2)) name = .ok profile)
    (hconfig : RuntimeConfig.ofToggles profile.toggles = .ok config) (verbosity : Nat) :
    (resolve tree directory (some name) verbosity .json).status = 0
      ∧ Json.decode RuntimeConfig.codec (resolve tree directory (some name) verbosity .json).stdout
        = .ok config
      ∧ config.toggles = profile.toggles := by
  have hchooses := (chooses_iff h).2 ⟨profile, rfl, hfind⟩
  obtain ⟨hstatus, hstdout⟩ := resolve_of_ok hchooses hconfig verbosity .json
  have htoggles := RuntimeConfig.toggles_of_ofToggles hconfig
  have hresolved : RuntimeConfig.ofToggles config.toggles = .ok config := by rwa [htoggles]
  have hdecode := RuntimeConfig.decode_dump_of_ofToggles hresolved .json
  rw [← hstdout] at hdecode
  exact ⟨hstatus, hdecode, htoggles⟩

theorem find_of_status_resolve (h : Manifest.find tree directory = .ok found) {name : String}
    {verbosity : Nat} (hstatus : (resolve tree directory (some name) verbosity .json).status = 0) :
    ∃ profile config, Project.find tree (found.map (·.2)) name = .ok profile
      ∧ RuntimeConfig.ofToggles profile.toggles = .ok config := by
  obtain ⟨chosen, config, hchooses, hconfig⟩ := exists_of_status_resolve hstatus
  obtain ⟨profile, rfl, hfind⟩ := (chooses_iff h).1 hchooses
  exact ⟨profile, config, hfind, hconfig⟩

/-- Without a manifest that can be read, no command succeeds. -/
theorem status_of_manifest_error {error : Manifest.LoadError}
    (h : Manifest.find tree directory = .error error) (name : String) (verbosity : Nat) :
    (validate tree directory name verbosity).status = 1
      ∧ (resolve tree directory (some name) verbosity .json).status = 1 := by
  have hpossible : (Command.validateProfile name).IsPossible := trivial
  have hrun : (Command.validateProfile name).run tree directory
      = .failed tree (.manifest error) := by
    rw [Command.run, Command.withManifest, h]
  constructor
  · rw [validate, run_arguments hpossible, hrun]
    rfl
  · rw [resolve_eq, Command.run_resolve_error h]
    rfl

end Invocation

/-! ## Agreement on a name -/

/-- The commands agree on what a name denotes in a directory. -/
structure Agrees (tree : FileTree) (directory : Path) (name : String) (verbosity : Nat) : Prop where
  /-- What passes validation is shown, with the toggles that are described. -/
  shown : (Invocation.validate tree directory name verbosity).status = 0 →
    (Invocation.resolve tree directory (some name) verbosity .json).status = 0
    ∧ (Invocation.describe tree directory name verbosity).status = 0
    ∧ ∃ config profile,
      Json.decode RuntimeConfig.codec
          (Invocation.resolve tree directory (some name) verbosity .json).stdout = .ok config
      ∧ Json.decode Profile.codec (Invocation.describe tree directory name verbosity).stdout
        = .ok profile
      ∧ config.toggles = profile.toggles
  /-- What is shown passes validation, unless the profile has a bad name or a warning that is
  denied. -/
  passes : (Invocation.resolve tree directory (some name) verbosity .json).status = 0 →
    (Invocation.validate tree directory name verbosity).status ≠ 0 →
    ∃ found profile, Manifest.find tree directory = .ok found
      ∧ Project.find tree (some (Invocation.projectOf found directory)) name = .ok profile
      ∧ (ProfileName.fault? profile.name ≠ none
        ∨ Invocation.denies found = true ∧ profile.Warns)

section

variable {tree : FileTree} {directory : Path} {name : String} {verbosity : Nat}

/-- The commands agree where they look a name up alike. -/
theorem agrees_of_same {found : Option (Manifest × Path)}
    (h : Manifest.find tree directory = .ok found)
    (hsame : Project.find tree (some (Invocation.projectOf found directory)) name
      = Project.find tree (found.map (·.2)) name) : Agrees tree directory name verbosity where
  shown := by
    intro hstatus
    cases hfind : Project.find tree (found.map (·.2)) name with
    | error error =>
      rw [Invocation.status_validate_of_error h (hsame.trans hfind)] at hstatus
      cases hstatus
    | ok profile =>
      have hlocal := hsame.trans hfind
      obtain ⟨herrors, -⟩ := (Invocation.status_validate_of_ok h hlocal verbosity).1 hstatus
      obtain ⟨-, config, hconfig⟩ := Profile.hasErrors_issues_iff.1 herrors
      obtain ⟨hshown, hdecode, htoggles⟩ := Invocation.resolve_of_find h hfind hconfig verbosity
      obtain ⟨hdescribed, hdata⟩ := Invocation.describe_of_ok h hlocal verbosity
      exact ⟨hshown, hdescribed, config, profile, hdecode, hdata, htoggles⟩
  passes := by
    intro hshown hfails
    obtain ⟨profile, config, hfind, hconfig⟩ := Invocation.find_of_status_resolve h hshown
    have hlocal := hsame.trans hfind
    refine ⟨found, profile, h, hlocal, ?_⟩
    rw [Ne, Invocation.status_validate_of_ok h hlocal] at hfails
    by_cases hname : ProfileName.fault? profile.name = none
    · -- the toggles resolve as well, so that only a warning is left to object to
      have herrors : Profile.hasErrors profile.issues = false :=
        Profile.hasErrors_issues_iff.2 ⟨hname, config, hconfig⟩
      exact .inr (Profile.warns_of_not_passes herrors hfails)
    · exact .inl hname

/-- What the commands on profiles find in a directory without a manifest agrees with the built-in
profile of that name: where it has no errors, the built-in profile has the same toggles, and where
it has any or cannot be read, there is no built-in profile. A bad name in the file is an error that
may stand beside a built-in profile. -/
inductive AgreesWithBuiltin (tree : FileTree) (directory : Path) (name : String) : Prop where
  | valid {profile builtin : Profile}
      (hfind : Project.find tree (some directory) name = .ok profile)
      (hvalid : Profile.hasErrors profile.issues = false)
      (hbuiltin : Profile.builtin? name = some builtin)
      (hsame : builtin.toggles = profile.toggles) :
      AgreesWithBuiltin tree directory name
  | misnamed {profile : Profile} (hfind : Project.find tree (some directory) name = .ok profile)
      (hname : ProfileName.fault? profile.name ≠ none) : AgreesWithBuiltin tree directory name
  | invalid {profile : Profile} (hfind : Project.find tree (some directory) name = .ok profile)
      (hinvalid : Profile.hasErrors profile.issues = true) (hnone : Profile.builtin? name = none) :
      AgreesWithBuiltin tree directory name
  | unreadable {error : ConfigError}
      (hfind : Project.find tree (some directory) name = .error error)
      (hnone : Profile.builtin? name = none) : AgreesWithBuiltin tree directory name

theorem Project.find_none_eq_ok_iff {profile : Profile} :
    Project.find tree none name = .ok profile ↔ Profile.builtin? name = some profile := by
  show Project.findBuiltin name = .ok profile ↔ _
  unfold Project.findBuiltin
  cases Profile.builtin? name with
  | none => simp
  | some builtin => simp

/-! ### Without a manifest -/

/-- Without a manifest a built-in profile is shown, whatever the directory holds. -/
theorem shown_of_builtin (h : Manifest.find tree directory = .ok none) {builtin : Profile}
    (hname : Profile.builtin? name = some builtin) (verbosity : Nat) :
    ∃ config, (Invocation.resolve tree directory (some name) verbosity .json).status = 0
      ∧ Json.decode RuntimeConfig.codec
        (Invocation.resolve tree directory (some name) verbosity .json).stdout = .ok config
      ∧ config.toggles = builtin.toggles := by
  obtain ⟨config, hconfig⟩ := Profile.resolves_of_builtin hname
  have hfind : Project.find tree none name = .ok builtin := Project.find_none_eq_ok_iff.2 hname
  exact ⟨config, Invocation.resolve_of_find h hfind hconfig verbosity⟩

theorem exists_builtin_of_shown (h : Manifest.find tree directory = .ok none)
    (hshown : (Invocation.resolve tree directory (some name) verbosity .json).status = 0) :
    ∃ builtin, Profile.builtin? name = some builtin := by
  obtain ⟨builtin, config, hfind, -⟩ := Invocation.find_of_status_resolve h hshown
  exact ⟨builtin, Project.find_none_eq_ok_iff.1 hfind⟩

/-- Without a manifest nothing denies warnings. -/
theorem status_validate_iff (h : Manifest.find tree directory = .ok none) {profile : Profile}
    (hfind : Project.find tree (some directory) name = .ok profile) (verbosity : Nat) :
    (Invocation.validate tree directory name verbosity).status = 0
      ↔ Profile.hasErrors profile.issues = false := by
  rw [Invocation.status_validate_of_ok h hfind, Profile.Passes]
  simp [Invocation.denies]

theorem Agrees.agreesWithBuiltin (hagrees : Agrees tree directory name verbosity)
    (h : Manifest.find tree directory = .ok none) : AgreesWithBuiltin tree directory name := by
  -- a built-in profile is shown, so validation may only object to the name in the file
  have hmisnamed : ∀ builtin, Profile.builtin? name = some builtin →
      (Invocation.validate tree directory name verbosity).status ≠ 0 →
      AgreesWithBuiltin tree directory name := by
    intro builtin hname hfails
    obtain ⟨-, hshown, -⟩ := shown_of_builtin h hname verbosity
    obtain ⟨found, profile, hmanifest, hfind, hreason⟩ := hagrees.passes hshown hfails
    rw [h] at hmanifest
    cases hmanifest
    rcases hreason with hbad | ⟨hdenies, -⟩
    · exact .misnamed hfind hbad
    · cases hdenies
  cases hfind : Project.find tree (some directory) name with
  | error error =>
    have hfails : (Invocation.validate tree directory name verbosity).status ≠ 0 := by
      rw [Invocation.status_validate_of_error h hfind]
      decide
    cases hname : Profile.builtin? name with
    | none => exact .unreadable hfind hname
    | some builtin => exact hmisnamed builtin hname hfails
  | ok profile =>
    have hstatus := status_validate_iff h hfind verbosity
    cases hvalid : Profile.hasErrors profile.issues with
    | false =>
      obtain ⟨hshown, -, config, described, hconfig, hdata, hsame⟩ :=
        hagrees.shown (hstatus.2 hvalid)
      obtain ⟨builtin, hname⟩ := exists_builtin_of_shown h hshown
      obtain ⟨other, -, hother, htoggles⟩ := shown_of_builtin h hname verbosity
      -- both outputs are decoded as one value each
      rw [hconfig] at hother
      cases hother
      rw [(Invocation.describe_of_ok h hfind verbosity).2] at hdata
      cases hdata
      exact .valid hfind hvalid hname (htoggles.symm.trans hsame)
    | true =>
      have hfails : (Invocation.validate tree directory name verbosity).status ≠ 0 := by
        rw [Ne, hstatus, hvalid]
        decide
      cases hname : Profile.builtin? name with
      | none => exact .invalid hfind hvalid hname
      | some builtin => exact hmisnamed builtin hname hfails

theorem AgreesWithBuiltin.agrees (hagrees : AgreesWithBuiltin tree directory name)
    (h : Manifest.find tree directory = .ok none) : Agrees tree directory name verbosity := by
  cases hagrees with
  | @valid profile builtin hfind hvalid hname hsame =>
    have hzero := (status_validate_iff h hfind verbosity).2 hvalid
    obtain ⟨config, hshown, hconfig, htoggles⟩ := shown_of_builtin h hname verbosity
    obtain ⟨hdescribed, hdata⟩ := Invocation.describe_of_ok h hfind verbosity
    exact {
      shown := fun _ => ⟨hshown, hdescribed, config, profile, hconfig, hdata, htoggles.trans hsame⟩
      passes := fun _ hfails => absurd hzero hfails }
  | @misnamed profile hfind hname =>
    have herrors : ¬ Profile.hasErrors profile.issues = false :=
      fun hnone => hname (Profile.hasErrors_issues_iff.1 hnone).1
    exact {
      shown := fun hzero => absurd ((status_validate_iff h hfind verbosity).1 hzero) herrors
      passes := fun _ _ => ⟨none, profile, h, hfind, .inl hname⟩ }
  | @invalid profile hfind hinvalid hnone =>
    exact {
      shown := fun hzero => by
        rw [(status_validate_iff h hfind verbosity).1 hzero] at hinvalid
        cases hinvalid
      passes := fun hshown _ => by
        obtain ⟨builtin, hname⟩ := exists_builtin_of_shown h hshown
        rw [hnone] at hname
        cases hname }
  | @unreadable error hfind hnone =>
    exact {
      shown := fun hzero => by
        rw [Invocation.status_validate_of_error h hfind] at hzero
        cases hzero
      passes := fun hshown _ => by
        obtain ⟨builtin, hname⟩ := exists_builtin_of_shown h hshown
        rw [hnone] at hname
        cases hname }

/-- Without a manifest the commands agree exactly if the directory agrees with the built-in
profiles. -/
theorem agrees_iff_of_no_manifest (h : Manifest.find tree directory = .ok none) :
    Agrees tree directory name verbosity ↔ AgreesWithBuiltin tree directory name :=
  ⟨fun hagrees => hagrees.agreesWithBuiltin h, fun hagrees => hagrees.agrees h⟩

/-- Where nothing stands under the name of the profile, only built-in profiles are known. -/
theorem agreesWithBuiltin_of_absent
    (h : tree.contains (Project.filePath directory name) = false) :
    AgreesWithBuiltin tree directory name := by
  have hfind : Project.find tree (some directory) name = Project.findBuiltin name := by
    rw [Project.find_eq, h, Bool.and_false, if_neg (by decide)]
  unfold Project.findBuiltin at hfind
  cases hname : Profile.builtin? name with
  | none =>
    rw [hname] at hfind
    exact .unreadable hfind hname
  | some builtin =>
    rw [hname] at hfind
    cases herrors : Profile.hasErrors builtin.issues with
    | false => exact .valid hfind herrors hname rfl
    | true =>
      refine .misnamed hfind fun hgood => ?_
      rw [Profile.hasErrors_issues_iff.2 ⟨hgood, Profile.resolves_of_builtin hname⟩] at herrors
      cases herrors

end

/-- **Which profile a name denotes.** The commands agree on a name around a manifest, and where no
manifest can be read. Without one they agree exactly if what stands under that name in the directory
itself agrees with the built-in profiles; this is so if nothing stands there. -/
theorem agrees_iff (tree : FileTree) (directory : Path) (name : String) (verbosity : Nat) :
    (Agrees tree directory name verbosity
      ↔ (Manifest.find tree directory = .ok none → AgreesWithBuiltin tree directory name))
    ∧ (tree.contains (Project.filePath directory name) = false →
      Agrees tree directory name verbosity) := by
  have hiff : Agrees tree directory name verbosity
      ↔ (Manifest.find tree directory = .ok none → AgreesWithBuiltin tree directory name) := by
    cases hmanifest : Manifest.find tree directory with
    | error error =>
      obtain ⟨hvalidate, hresolve⟩ := Invocation.status_of_manifest_error hmanifest name verbosity
      refine iff_of_true ?_ fun h => by cases h
      exact {
        shown := fun hzero => by
          rw [hvalidate] at hzero
          cases hzero
        passes := fun hzero => by
          rw [hresolve] at hzero
          cases hzero }
    | ok found =>
      cases found with
      | none =>
        rw [agrees_iff_of_no_manifest hmanifest]
        exact ⟨fun h _ => h, fun h => h rfl⟩
      | some project => exact iff_of_true (agrees_of_same hmanifest rfl) fun h => by cases h
  exact ⟨hiff, fun h => hiff.2 fun _ => agreesWithBuiltin_of_absent h⟩

/-- A tree with a valid profile, but without a manifest. -/
def FileTree.looseProfile : FileTree :=
  ⟨"", [(["profiles"], .directory),
    (["profiles", "mine.profile.toml"], .file (Profile.blank "mine").toToml.toUTF8)],
    (IsTree.nil.concat (by simp) (by simp) (.inl rfl)).concat (by simp) (by simp) (.inr (by simp))⟩

/-- The commands do not agree on a profile that only its directory knows: it passes validation, and
is not shown. -/
theorem not_agrees_loose : ¬ ∀ (tree : FileTree) (directory : Path) (name : String),
    Agrees tree directory name 0 := by
  intro h
  have hmanifest : Manifest.find .looseProfile [] = .ok none := by rfl
  have hload : Project.load .looseProfile ["profiles", "mine.profile.toml"]
      = .ok (Profile.blank "mine") := Project.load_of_file rfl
  have hfind : Project.find .looseProfile (some []) "mine" = .ok (Profile.blank "mine") := by
    rw [Project.find_eq, if_pos (by rfl)]
    exact hload
  have hvalid : Profile.hasErrors (Profile.blank "mine").issues = false := by
    rw [Profile.issues_blank (by decide)]
    rfl
  have hunknown : Profile.builtin? "mine" = none := by decide
  have hagrees := (agrees_iff_of_no_manifest hmanifest).1 (h .looseProfile [] "mine")
  cases hagrees with
  | valid _ _ hbuiltin =>
    rw [hunknown] at hbuiltin
    cases hbuiltin
  | misnamed hother hname =>
    rw [hfind] at hother
    cases hother
    exact hname (by decide)
  | invalid hother hinvalid =>
    rw [hfind] at hother
    cases hother
    rw [hvalid] at hinvalid
    cases hinvalid
  | unreadable hother =>
    rw [hfind] at hother
    cases hother

end RuntimeProfiles
