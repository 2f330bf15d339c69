import RuntimeProfiles.Proofs.Command.Agreement
import RuntimeProfiles.Proofs.Command.Report

/-!
# What is said about the profiles of a project

A report on a project loads every profile from its file, where validation looks its name up. Both
come to the same file, since a name has one file only, so what the report says about a file is what
validation of the name shows:

* **`Project.find_of_mem_discover`** — the one lookup that both come down to;
* **`Command.profileStatus_eq_ok_iff`** and its two siblings — what is said about a file tells what
  is in it;
* **`Invocation.Validates`**, **`Invocation.validates`** — everything that validation can show;
* **`Invocation.validates_valid_iff`** and its siblings — what it shows tells what is in the file,
  too;
* **`Invocation.doctor_agrees`** — the report as a whole.
-/

namespace RuntimeProfiles

open Project

/-! ## What is said about a file -/

namespace Command

variable {tree : FileTree} {path : Path}

/-! The three forms of a status begin differently. -/

theorem exists_cons_issues (count : Nat) :
    ∃ c tail, (toString count ++ " issue(s)").toList = c :: tail ∧ c.isDigit = true := by
  obtain ⟨c, tail, hdigits, hc, -⟩ := Text.exists_cons_toDigits count
  refine ⟨c, tail ++ " issue(s)".toList, ?_, hc⟩
  rw [String.toList_append, Nat.toString_eq_repr, Nat.toList_repr, hdigits, List.cons_append]

theorem issues_ne_ok (count : Nat) : toString count ++ " issue(s)" ≠ "ok" := by
  intro h
  obtain ⟨c, tail, hlist, hc⟩ := exists_cons_issues count
  rw [h] at hlist
  exact Text.ne_of_isDigit hc (by decide) (List.cons.inj hlist).1.symm

theorem issues_ne_unreadable (count : Nat) (text : String) :
    toString count ++ " issue(s)" ≠ "unreadable (" ++ text ++ ")" := by
  intro h
  obtain ⟨c, tail, hlist, hc⟩ := exists_cons_issues count
  rw [h, String.append_assoc, String.toList_append] at hlist
  exact Text.ne_of_isDigit hc (by decide) (List.cons.inj hlist).1.symm

theorem ok_ne_unreadable (text : String) : "ok" ≠ "unreadable (" ++ text ++ ")" := by
  intro h
  have hfirst := congrArg String.toList h
  rw [String.append_assoc, String.toList_append] at hfirst
  exact absurd (List.cons.inj hfirst).1 (by decide)

theorem profileStatus_eq_ok_iff :
    profileStatus tree path = "ok"
      ↔ ∃ profile, load tree path = .ok profile ∧ profile.issues = [] := by
  unfold profileStatus
  cases load tree path with
  | error error => exact ⟨fun h => absurd h.symm (ok_ne_unreadable _), fun ⟨_, h, _⟩ => by cases h⟩
  | ok profile =>
    dsimp only
    split
    · next hissues => exact ⟨fun _ => ⟨profile, rfl, List.isEmpty_iff.1 hissues⟩, fun _ => rfl⟩
    · next hissues =>
      refine ⟨fun h => absurd h (issues_ne_ok _), ?_⟩
      rintro ⟨_, hsame, hnone⟩
      cases hsame
      exact absurd (List.isEmpty_iff.2 hnone) hissues

theorem profileStatus_eq_issues_iff {count : Nat} (hcount : 1 ≤ count) :
    profileStatus tree path = toString count ++ " issue(s)"
      ↔ ∃ profile, load tree path = .ok profile ∧ profile.issues.length = count := by
  unfold profileStatus
  cases load tree path with
  | error error =>
    exact ⟨fun h => absurd h.symm (issues_ne_unreadable _ _), fun ⟨_, h, _⟩ => by cases h⟩
  | ok profile =>
    dsimp only
    split
    · next hissues =>
      refine ⟨fun h => absurd h.symm (issues_ne_ok _), ?_⟩
      rintro ⟨_, hsame, rfl⟩
      cases hsame
      rw [List.isEmpty_iff.1 hissues] at hcount
      cases hcount
    · constructor
      · intro h
        exact ⟨profile, rfl, Text.toString_injective ((String.append_left_inj _).1 h)⟩
      · rintro ⟨_, hsame, rfl⟩
        cases hsame
        rfl

theorem profileStatus_eq_unreadable_iff {text : String} :
    profileStatus tree path = "unreadable (" ++ text ++ ")"
      ↔ ∃ error, load tree path = .error error ∧ error.message = text := by
  unfold profileStatus
  cases load tree path with
  | error error =>
    constructor
    · intro h
      exact ⟨error, rfl, (String.append_right_inj _).1 ((String.append_left_inj _).1 h)⟩
    · rintro ⟨_, hsame, rfl⟩
      cases hsame
      rfl
  | ok profile =>
    refine ⟨fun h => ?_, fun ⟨_, h, _⟩ => by cases h⟩
    dsimp only at h
    split at h
    · exact absurd h (ok_ne_unreadable _)
    · exact absurd h (issues_ne_unreadable _ _)

end Command

/-! ## What validation shows -/

theorem Project.find_of_mem_discover {tree : FileTree} {project path : Path} {name : String}
    (h : (name, path) ∈ discover tree project) :
    find tree (some project) name = load tree path := by
  obtain ⟨hvalid, hpath, hcontains⟩ := mem_discover_iff.1 h
  have hboth : (ProfileName.isValid name && tree.contains (filePath project name)) = true :=
    Bool.and_eq_true_iff.2 ⟨hvalid, hcontains⟩
  rw [find_eq, if_pos hboth, hpath]

/-- A run of validation shows the issues of a profile, a line about each. Unless the profile fails,
a line without an issue comes last. -/
inductive Profile.IsValidatedBy (profile : Profile) (validation : Invocation) : Prop where
  | failed (status : validation.status = 1)
      (stdout : validation.stdout = Report.unlines (profile.issues.map Command.issueLine)) :
      IsValidatedBy profile validation
  | passed (status : validation.status = 0)
      (stdout : validation.stdout = Report.unlines (profile.issues.map Command.issueLine
        ++ ["profile '" ++ profile.name ++ "' is valid with warnings"])) :
      IsValidatedBy profile validation

namespace Invocation

/-- Everything that validation of a name can show, by what the lookup of the name comes to. -/
structure Validates (tree : FileTree) (project : Path) (name : String) (validation : Invocation) :
    Prop where
  unreadable : ∀ error, Project.find tree (some project) name = .error error →
    validation.status = 1 ∧ validation.stdout = ""
    ∧ validation.stderr = "error: " ++ (Failure.config error).report
  valid : ∀ profile, Project.find tree (some project) name = .ok profile → profile.issues = [] →
    validation.status = 0
    ∧ validation.stdout = Report.unlines ["profile '" ++ profile.name ++ "' is valid"]
  issues : ∀ profile, Project.find tree (some project) name = .ok profile → profile.issues ≠ [] →
    profile.IsValidatedBy validation

variable {tree : FileTree} {directory project : Path} {name : String} {validation : Invocation}

theorem validates {manifest : Manifest}
    (h : Manifest.find tree directory = .ok (some (manifest, project))) (name : String)
    (verbosity : Nat) :
    Validates tree project name (validate tree directory name verbosity) := by
  have hrun : validate tree directory name verbosity
      = ofOutcome verbosity (Command.runValidate tree project manifest.denyWarnings name) :=
    validate_eq h name verbosity
  rw [hrun]
  unfold Command.runValidate
  refine ⟨fun error hfind => ?_, fun profile hfind hnone => ?_, fun profile hfind hissues => ?_⟩
  · rw [hfind]
    exact ⟨rfl, rfl, String.empty_append⟩
  · simp only [hfind]
    rw [if_pos (List.isEmpty_iff.2 hnone)]
    exact ⟨rfl, rfl⟩
  · simp only [hfind]
    rw [if_neg fun hempty => hissues (List.isEmpty_iff.1 hempty)]
    -- either way the lines about the issues come first; they fail if there is an error among them
    split
    · exact .failed rfl rfl
    · exact .passed rfl rfl

/-- The text that shows issues begins with a blank, so it is none that shows a valid profile. -/
theorem stdout_ne_valid {profile : Profile} (hissues : profile.issues ≠ []) (others : List String)
    (shown : String) : Report.unlines (profile.issues.map Command.issueLine ++ others)
      ≠ Report.unlines ["profile '" ++ shown ++ "' is valid"] := by
  intro h
  obtain ⟨issue, rest, hcons⟩ := List.exists_cons_of_ne_nil hissues
  rw [hcons, List.map_cons, List.cons_append, Report.unlines_cons, Report.unlines_cons,
    Command.issueLine] at h
  have hfirst := congrArg (fun text => text.toList.head?) h
  simp at hfirst

theorem validates_valid_iff (h : Validates tree project name validation) :
    (validation.status = 0
        ∧ ∃ shown, validation.stdout = Report.unlines ["profile '" ++ shown ++ "' is valid"])
      ↔ ∃ profile, Project.find tree (some project) name = .ok profile ∧ profile.issues = [] := by
  constructor
  · rintro ⟨hstatus, shown, hstdout⟩
    cases hfind : Project.find tree (some project) name with
    | error error =>
      rw [(h.unreadable error hfind).1] at hstatus
      cases hstatus
    | ok profile =>
      refine ⟨profile, rfl, ?_⟩
      by_contra hissues
      cases h.issues profile hfind hissues with
      | failed hfailed =>
        rw [hfailed] at hstatus
        cases hstatus
      | passed _ hpassed =>
        exact stdout_ne_valid hissues _ shown (hpassed.symm.trans hstdout)
  · rintro ⟨profile, hfind, hnone⟩
    obtain ⟨hstatus, hstdout⟩ := h.valid profile hfind hnone
    exact ⟨hstatus, profile.name, hstdout⟩

theorem validates_issues_iff (h : Validates tree project name validation) {count : Nat}
    (hcount : 1 ≤ count) :
    (∃ profile, Project.find tree (some project) name = .ok profile ∧ profile.issues.length = count
        ∧ profile.IsValidatedBy validation)
      ↔ ∃ profile, Project.find tree (some project) name = .ok profile
        ∧ profile.issues.length = count := by
  refine ⟨fun ⟨profile, hfind, hlength, _⟩ => ⟨profile, hfind, hlength⟩, ?_⟩
  rintro ⟨profile, hfind, hlength⟩
  have hissues : profile.issues ≠ [] := by
    rw [← List.length_pos_iff, hlength]
    omega
  exact ⟨profile, hfind, hlength, h.issues profile hfind hissues⟩

theorem validates_unreadable_iff (h : Validates tree project name validation) {text : String} :
    (validation.status = 1 ∧ ∃ error, Project.find tree (some project) name = .error error
        ∧ error.message = text
        ∧ validation.stderr = "error: " ++ (Failure.config error).report)
      ↔ ∃ error, Project.find tree (some project) name = .error error ∧ error.message = text := by
  refine ⟨fun ⟨_, error, hfind, hmessage, _⟩ => ⟨error, hfind, hmessage⟩, ?_⟩
  rintro ⟨error, hfind, hmessage⟩
  obtain ⟨hstatus, -, hstderr⟩ := h.unreadable error hfind
  exact ⟨hstatus, error, hfind, hmessage, hstderr⟩

/-! ### Counting the issues -/

/-- What comes after the lines about issues is not indented, and it is a line if the name in the
file is. -/
theorem verdict_facts {shown ending : String} (hshown : Report.IsLine shown)
    (hending : Report.IsLine ending) : ∀ text ∈ ["profile '" ++ shown ++ ending],
      Report.IsLine text ∧ [' ', ' '].isPrefixOf text.toList = false := by
  intro text htext
  obtain rfl := List.mem_singleton.1 htext
  refine ⟨Report.isLine_append.2 ⟨Report.isLine_append.2 ⟨by decide +kernel, hshown⟩, hending⟩, ?_⟩
  rw [String.append_assoc, String.toList_append]
  rfl

theorem indented_stdout (h : Validates tree project name validation) {profile : Profile}
    (hfind : Project.find tree (some project) name = .ok profile)
    (hname : Report.IsLine profile.name) :
    Report.indented validation.stdout = profile.issues.length := by
  by_cases hissues : profile.issues = []
  · have hverdict := verdict_facts hname (show Report.IsLine "' is valid" by decide +kernel)
    have hcount := Report.indented_unlines hname hverdict
    rw [(h.valid profile hfind hissues).2, ← hcount, hissues]
    rfl
  · cases h.issues profile hfind hissues with
    | failed _ hstdout =>
      have hcount : Report.indented (Report.unlines (profile.issues.map Command.issueLine ++ []))
          = profile.issues.length := Report.indented_unlines hname nofun
      rw [hstdout, ← hcount, List.append_nil]
    | passed _ hstdout =>
      have hverdict := verdict_facts hname
        (show Report.IsLine "' is valid with warnings" by decide +kernel)
      rw [hstdout, Report.indented_unlines hname hverdict]

theorem validates_indented_iff (h : Validates tree project name validation)
    (hname : ∀ profile, Project.find tree (some project) name = .ok profile →
      Report.IsLine profile.name) {count : Nat} (hcount : 1 ≤ count) :
    Report.indented validation.stdout = count
      ↔ ∃ profile, Project.find tree (some project) name = .ok profile
        ∧ profile.issues.length = count := by
  cases hfind : Project.find tree (some project) name with
  | ok profile =>
    rw [indented_stdout h hfind (hname profile hfind)]
    refine ⟨fun hlength => ⟨profile, rfl, hlength⟩, ?_⟩
    rintro ⟨_, hsame, hlength⟩
    cases hsame
    exact hlength
  | error error =>
    -- nothing is shown, so nothing is counted
    have hnone : Report.indented validation.stdout = 0 := by
      rw [(h.unreadable error hfind).2.1]
      rfl
    rw [hnone]
    exact iff_of_false (by omega) fun ⟨_, hother, _⟩ => by cases hother

end Invocation

/-! ## The report -/

namespace Command

/-- The lines about the program and its build. -/
def buildLines : List String :=
  ["=== memcaps doctor ===", "", "memcaps version: 0.1.0", "", "--- Build ---",
    "  Features: (none)", "  Platform: host", "  Read barrier: None", "", "--- Project Status ---"]

/-- The lines about the manifest of a project. -/
def manifestLines (tree : FileTree) (manifest : Manifest) (project : Path) : List String :=
  ["  memcaps.toml: found at " ++ tree.display project]
    ++ manifest.defaultProfile.toList.map ("  Default profile: " ++ ·)

/-- The line about a profile of a project. -/
def profileLine (tree : FileTree) (entry : String × Path) : String :=
  "  " ++ entry.1 ++ ": " ++ profileStatus tree entry.2

theorem runDoctor_eq (tree : FileTree) (directory : Path) :
    runDoctor tree directory
      = .printed tree (Report.unlines buildLines ++ projectStatus tree directory) := rfl

theorem runDoctor_of_manifest {tree : FileTree} {directory project : Path} {manifest : Manifest}
    (h : Manifest.find tree directory = .ok (some (manifest, project))) :
    runDoctor tree directory = .printed tree (Report.unlines (buildLines
      ++ manifestLines tree manifest project
      ++ (Project.discover tree project).map (profileLine tree))) := by
  have hstatus : projectStatus tree directory = Report.unlines (manifestLines tree manifest project
      ++ (Project.discover tree project).map (profileLine tree)) := by
    unfold projectStatus
    rw [h]
    rfl
  rw [runDoctor_eq, hstatus, ← Report.unlines_append, List.append_assoc]

end Command

namespace Invocation

/-- A run of the program that reports on the build and on the project. -/
def doctor (tree : FileTree) (directory : Path) (verbosity : Nat) : Invocation :=
  run tree directory (List.replicate verbosity "--verbose" ++ Command.doctor.arguments)

theorem doctor_eq (tree : FileTree) (directory : Path) (verbosity : Nat) :
    doctor tree directory verbosity
      = ofOutcome verbosity (Command.runDoctor tree directory) := by
  have hpossible : Command.doctor.IsPossible := trivial
  exact run_arguments hpossible tree directory verbosity

/-- What is said about the file of a profile agrees with what a run of validation shows that is
given the name of the profile. -/
structure StatusAgrees (tree : FileTree) (project : Path) (name status : String)
    (validation : Invocation) : Prop where
  ok : status = "ok" ↔ validation.status = 0
    ∧ ∃ shown, validation.stdout = Report.unlines ["profile '" ++ shown ++ "' is valid"]
  issues : ∀ count, 1 ≤ count → (status = toString count ++ " issue(s)"
    ↔ ∃ profile, Project.find tree (some project) name = .ok profile
      ∧ profile.issues.length = count ∧ profile.IsValidatedBy validation)
  /-- The name in the file may break lines; if it does not, the issues can be counted. -/
  indented : (∀ profile, Project.find tree (some project) name = .ok profile →
      Report.IsLine profile.name) →
    ∀ count, 1 ≤ count →
      (status = toString count ++ " issue(s)" ↔ Report.indented validation.stdout = count)
  unreadable : ∀ text, status = "unreadable (" ++ text ++ ")" ↔ validation.status = 1
    ∧ ∃ error, Project.find tree (some project) name = .error error ∧ error.message = text
      ∧ validation.stderr = "error: " ++ (Failure.config error).report

variable {tree : FileTree} {directory project path : Path} {name : String}

theorem statusAgrees {validation : Invocation} (hmem : (name, path) ∈ discover tree project)
    (h : Validates tree project name validation) :
    StatusAgrees tree project name (Command.profileStatus tree path) validation := by
  have hfind := Project.find_of_mem_discover hmem
  refine ⟨?_, fun count hcount => ?_, fun hname count hcount => ?_, fun text => ?_⟩
  · rw [Command.profileStatus_eq_ok_iff, validates_valid_iff h, hfind]
  · rw [Command.profileStatus_eq_issues_iff hcount, validates_issues_iff h hcount, hfind]
  · rw [Command.profileStatus_eq_issues_iff hcount, validates_indented_iff h hname hcount, hfind]
  · rw [Command.profileStatus_eq_unreadable_iff, validates_unreadable_iff h, hfind]

/-- **The report on a project agrees with validation.** The report never fails. Around a manifest it
has a line for every profile of the project, in the order of their names, whatever is in their
files; and what that line says agrees with what validation of the name shows in the same
directory. -/
theorem doctor_agrees (tree : FileTree) (directory : Path) (verbosity : Nat) :
    (doctor tree directory verbosity).status = 0
    ∧ ∀ manifest project, Manifest.find tree directory = .ok (some (manifest, project)) →
      (doctor tree directory verbosity).stdout = Report.unlines (Command.buildLines
        ++ Command.manifestLines tree manifest project
        ++ (Project.discover tree project).map (Command.profileLine tree))
      ∧ ∀ name path, (name, path) ∈ Project.discover tree project → ∀ detail,
        StatusAgrees tree project name (Command.profileStatus tree path)
          (validate tree directory name detail) := by
  constructor
  · rw [doctor_eq, Command.runDoctor_eq]
    rfl
  · intro manifest project hmanifest
    refine ⟨?_, fun name path hmem detail => statusAgrees hmem (validates hmanifest name detail)⟩
    rw [doctor_eq, Command.runDoctor_of_manifest hmanifest]
    rfl

end Invocation

/-- A tree with an empty manifest and two profiles, of which the first is a directory. -/
def FileTree.brokenProfile : FileTree :=
  ⟨"", [([Manifest.fileName], .file ⟨#[]⟩), (["profiles"], .directory),
    (["profiles", "first.profile.toml"], .directory),
    (["profiles", "second.profile.toml"], .file (Profile.blank "second").toToml.toUTF8)],
    (((IsTree.nil.concat (by simp) (by simp) (.inl rfl)).concat (by simp [Manifest.fileName])
      (by simp) (.inl rfl)).concat (by simp) (by simp) (.inr (by simp))).concat (by simp) (by simp)
      (.inr (by simp))⟩

/-- The directory in the place of a profile does not keep the profile behind it from the report. -/
theorem Invocation.doctor_agrees_broken :
    (doctor .brokenProfile [] 0).status = 0
    ∧ StatusAgrees .brokenProfile [] "first" "unreadable (I/O error: Is a directory (os error 21))"
      (validate .brokenProfile [] "first" 0)
    ∧ StatusAgrees .brokenProfile [] "second" "ok" (validate .brokenProfile [] "second" 0) := by
  have hmanifest : Manifest.find .brokenProfile [] = .ok (some (⟨none, false⟩, [])) := by
    decide +kernel
  have hfirst : ("first", ["profiles", "first.profile.toml"])
      ∈ Project.discover .brokenProfile [] :=
    Project.mem_discover_iff.2 ⟨by decide, rfl, rfl⟩
  have hsecond : ("second", ["profiles", "second.profile.toml"])
      ∈ Project.discover .brokenProfile [] := Project.mem_discover_iff.2 ⟨by decide, rfl, rfl⟩
  have hvalid : Command.profileStatus .brokenProfile ["profiles", "second.profile.toml"] = "ok" :=
    Command.profileStatus_eq_ok_iff.2
      ⟨Profile.blank "second", Project.load_of_file rfl, Profile.issues_blank (by decide)⟩
  obtain ⟨hstatus, hreport⟩ := doctor_agrees .brokenProfile [] 0
  obtain ⟨-, hagrees⟩ := hreport ⟨none, false⟩ [] hmanifest
  exact ⟨hstatus, hagrees _ _ hfirst 0, hvalid ▸ hagrees _ _ hsecond 0⟩

end RuntimeProfiles
