import RuntimeProfiles.Proofs.Command.Doctor
import RuntimeProfiles.Proofs.Command.History
import RuntimeProfiles.Proofs.FileTree.SameBut
import RuntimeProfiles.Proofs.Project.Manifest

/-!
# What depends on the file of a profile

A command looks a profile up at the path of its name and reads that file only. So two trees that
differ in the content of the file of one profile cannot be told apart by a command that does not use
this profile (`Command.Uses`), and its runs leave trees behind that differ in nothing else:

* **`Command.run_sameBut`** — a command that does not use the profile;
* **`Command.runDoctor_sameBut`** — the report on a project, which shows the state of every profile;
* **`Invocation.Step.isolated`** — whole runs, from their arguments to what they add;
* **`Invocation.profile_isolated`** — the runs of a session in which none uses the profile.
-/

namespace RuntimeProfiles

open FileTree Project

/-! ## Lookups on two trees -/

section

variable {first second : FileTree} {project : Path} {name other : String}

theorem Project.discover_sameBut {path : Path} (h : FileTree.SameBut path first second)
    (project : Path) : discover first project = discover second project :=
  discover_congr fun _ => h.contains _

theorem Manifest.find_sameBut (h : FileTree.SameBut (filePath project name) first second)
    (start : Path) : find first start = find second start :=
  -- the file is that of a profile, so no manifest differs
  find_congr h.label
    (fun directory => h.others _ (Command.manifestPath_ne_filePath directory project name)) start

theorem Project.find_sameBut (h : FileTree.SameBut (filePath project name) first second)
    (hne : other ≠ name) (place : Option Path) :
    find first place other = find second place other := by
  cases place with
  | none => rfl
  | some place =>
    have hpath : filePath place other ≠ filePath project name :=
      fun hsame => hne (eq_of_filePath_eq hsame).2
    exact find_congr h.label (h.others _ hpath)

end

/-! ## Outcomes on two trees -/

/-- Two outcomes show the same, and leave trees that differ in the content of one file only. -/
structure Outcome.SameBut (path : Path) (first second : Outcome) : Prop where
  stdout : first.stdout = second.stdout
  log : first.log = second.log
  failure : first.failure = second.failure
  after : FileTree.SameBut path first.tree second.tree

namespace Outcome.SameBut

variable {path : Path} {first second : Outcome}

theorem status (h : SameBut path first second) : first.status = second.status := by
  rw [Outcome.status, Outcome.status, h.failure]

theorem stderr (h : SameBut path first second) (verbosity : Nat) :
    first.stderr verbosity = second.stderr verbosity := by
  rw [Outcome.stderr, Outcome.stderr, shownLog, shownLog, failureReport, failureReport, h.log,
    h.failure]

end Outcome.SameBut

namespace Command

variable {path : Path} {first second : FileTree}

theorem sameBut_printed (h : FileTree.SameBut path first second) (stdout : String) :
    Outcome.SameBut path (.printed first stdout) (.printed second stdout) := ⟨rfl, rfl, rfl, h⟩

theorem sameBut_failed (h : FileTree.SameBut path first second) (failure : Failure) :
    Outcome.SameBut path (.failed first failure) (.failed second failure) := ⟨rfl, rfl, rfl, h⟩

/-! ### Commands that write -/

/-- Makes sure of a directory and then writes a file. -/
def creation (tree : FileTree) (directory place : Path) (bytes : ByteArray)
    (making writing : FileFault → Failure) (report : String) : Outcome :=
  match tree.ensureDirectory directory with
  | .error fault => .failed tree (making fault)
  | .ok made =>
    match made.writeFile place bytes with
    | .error fault => .failed made (writing fault)
    | .ok written => .printed written report

theorem sameBut_creation (h : FileTree.SameBut path first second) {directory place : Path}
    (hfresh : first.get? place = none) (hne : place ≠ directory) (bytes : ByteArray)
    (making writing : FileFault → Failure) (report : String) :
    Outcome.SameBut path (creation first directory place bytes making writing report)
      (creation second directory place bytes making writing report) := by
  unfold creation
  rcases (h.ensureDirectory directory).exists with
    ⟨fault, hfirst, hsecond⟩ | ⟨made, made', hfirst, hsecond, hmade⟩
  · rw [hfirst, hsecond]
    exact sameBut_failed h (making fault)
  rw [hfirst, hsecond]
  dsimp only
  -- the new directory is at another place, where nothing stands still
  have hfree : made.get? place = none := by rw [get?_of_ensureDirectory hfirst hne, hfresh]
  rcases (hmade.writeFile hfree bytes).exists with
    ⟨fault, hfirst, hsecond⟩ | ⟨written, written', hfirst, hsecond, hwritten⟩
  · rw [hfirst, hsecond]
    exact sameBut_failed hmade (writing fault)
  · rw [hfirst, hsecond]
    exact sameBut_printed hwritten report

theorem runInit_sameBut (h : FileTree.SameBut path first second) (directory : Path)
    (defaultProfile : String) :
    Outcome.SameBut path (runInit first directory defaultProfile)
      (runInit second directory defaultProfile) := by
  unfold runInit
  rw [← manifestPath]
  dsimp only
  rw [h.contains, h.display]
  split
  · exact sameBut_failed h _
  next hthere =>
  split
  · exact sameBut_failed h _
  · have hfresh : first.get? (manifestPath directory) = none := by
      rw [← contains_eq_false_iff, h.contains]
      exact Bool.not_eq_true _ ▸ hthere
    exact sameBut_creation h hfresh (manifestPath_ne_profilesDirectory directory directory) _
      (.file "creating profiles/ directory") _ _

theorem runNew_sameBut (h : FileTree.SameBut path first second) (project : Path) (name : String) :
    Outcome.SameBut path (runNew first project name) (runNew second project name) := by
  unfold runNew profilePath
  cases ProfileName.fault? name with
  | some fault => exact sameBut_failed h _
  | none =>
    dsimp only
    rw [h.contains, h.display, h.display]
    split
    · exact sameBut_failed h _
    next hthere =>
    have hfresh : first.get? (filePath project name) = none := by
      rw [← contains_eq_false_iff, h.contains]
      exact Bool.not_eq_true _ ▸ hthere
    exact sameBut_creation h hfresh (filePath_ne_profilesDirectory project name) _
      (.file ("creating " ++ second.display (profilesDirectory project))) _ _

/-! ### Commands that read -/

theorem runList_sameBut (h : FileTree.SameBut path first second) (project : Path) :
    Outcome.SameBut path (runList first project) (runList second project) := by
  unfold runList
  rw [discover_sameBut h]
  simp only [h.display]
  exact sameBut_printed h _

theorem runDescribe_sameBut (h : FileTree.SameBut path first second) {project : Path}
    {name : String} (hfind : find first (some project) name = find second (some project) name)
    (format : Option String) :
    Outcome.SameBut path (runDescribe first project name format)
      (runDescribe second project name format) := by
  unfold runDescribe
  rw [hfind]
  split
  · exact sameBut_failed h _
  split
  · exact sameBut_printed h _
  · exact sameBut_printed h _
  · exact sameBut_printed h _
  · exact sameBut_printed h _
  · exact sameBut_failed h _

theorem runValidate_sameBut (h : FileTree.SameBut path first second) {project : Path}
    {name : String} (hfind : find first (some project) name = find second (some project) name)
    (denyWarnings : Bool) :
    Outcome.SameBut path (runValidate first project denyWarnings name)
      (runValidate second project denyWarnings name) := by
  unfold runValidate
  rw [hfind]
  split
  · exact sameBut_failed h _
  dsimp only
  split
  · exact sameBut_printed h _
  split
  · exact ⟨rfl, rfl, rfl, h⟩
  · exact sameBut_printed h _

theorem runResolve_sameBut (h : FileTree.SameBut path first second) {project : Option Path}
    {chosen : Option String}
    (hfind : ∀ name, chosen = some name → find first project name = find second project name)
    (format : Option String) :
    Outcome.SameBut path (runResolve first project chosen format)
      (runResolve second project chosen format) := by
  have hsame : configuration first project chosen = configuration second project chosen := by
    cases chosen with
    | none => rfl
    | some name => rw [configuration, configuration, hfind name rfl]
  unfold runResolve
  rw [hsame]
  split
  · exact ⟨rfl, rfl, rfl, h⟩
  · split <;> exact ⟨rfl, rfl, rfl, h⟩

theorem runLayout_sameBut (h : FileTree.SameBut path first second) (format : Option String) :
    Outcome.SameBut path (runLayout first format) (runLayout second format) := by
  unfold runLayout
  split <;> exact sameBut_printed h _

theorem withManifest_sameBut (h : FileTree.SameBut path first second) {directory : Path}
    (hmanifest : Manifest.find first directory = Manifest.find second directory)
    {run other : Option (Manifest × Path) → Outcome}
    (hrun : ∀ found, Manifest.find first directory = .ok found →
      Outcome.SameBut path (run found) (other found)) :
    Outcome.SameBut path (withManifest first directory run)
      (withManifest second directory other) := by
  unfold withManifest
  rw [← hmanifest]
  cases hfind : Manifest.find first directory with
  | error error => exact sameBut_failed h _
  | ok found => exact hrun found hfind

/-! ## Commands that do not use a profile -/

/-- A command uses the profile of a name: it is given the name, or the name is that of the profile
that is resolved by default. -/
inductive Uses (tree : FileTree) (directory : Path) (name : String) : Command → Prop
  | describe (format : Option String) : Uses tree directory name (.describeProfile name format)
  | validate : Uses tree directory name (.validateProfile name)
  | resolve (format : Option String) : Uses tree directory name (.resolve (some name) false format)
  | default {manifest : Manifest} {project : Path} (format : Option String)
      (hmanifest : Manifest.find tree directory = .ok (some (manifest, project)))
      (hname : manifest.defaultProfile = some name) :
      Uses tree directory name (.resolve none false format)

/-- **A command that does not use a profile does not depend on its file**, unless it reports on all
profiles. -/
theorem run_sameBut {project directory : Path} {name : String} {command : Command}
    (h : FileTree.SameBut (filePath project name) first second)
    (huses : ¬ command.Uses first directory name) (hdoctor : command ≠ .doctor) :
    Outcome.SameBut (filePath project name) (command.run first directory)
      (command.run second directory) := by
  have hmanifest := Manifest.find_sameBut h directory
  cases command with
  | doctor => exact absurd rfl hdoctor
  | init defaultProfile => exact runInit_sameBut h directory defaultProfile
  | listProfiles => exact withManifest_sameBut h hmanifest fun _ _ => runList_sameBut h _
  | newProfile other => exact withManifest_sameBut h hmanifest fun _ _ => runNew_sameBut h _ other
  | layout format => exact runLayout_sameBut h format
  | nullCheck offsets => exact ⟨rfl, rfl, rfl, h⟩
  | describeProfile other format =>
    have hne : other ≠ name := by
      rintro rfl
      exact huses (.describe format)
    exact withManifest_sameBut h hmanifest fun _ _ =>
      runDescribe_sameBut h (find_sameBut h hne _) format
  | validateProfile other =>
    have hne : other ≠ name := by
      rintro rfl
      exact huses .validate
    exact withManifest_sameBut h hmanifest fun _ _ =>
      runValidate_sameBut h (find_sameBut h hne _) _
  | resolve profile build format =>
    refine withManifest_sameBut h hmanifest fun found hfound => ?_
    refine runResolve_sameBut h (fun other hchosen => find_sameBut h ?_ _) format
    -- what is resolved is asked for, or it is the default of the project
    rintro rfl
    cases build with
    | true => cases hchosen
    | false =>
      cases profile with
      | some asked =>
        obtain rfl : asked = other := Option.some.inj hchosen
        exact huses (.resolve format)
      | none =>
        cases found with
        | none => cases hchosen
        | some found => exact huses (.default format hfound hchosen)

/-! ## The report on a project -/

/-- Two texts are the same, or one line of them says different things about a profile. -/
inductive DifferInStatus (name status status' : String) : String → String → Prop
  | same (text : String) : DifferInStatus name status status' text text
  | line (front back : List String) :
    DifferInStatus name status status'
      (Report.unlines (front ++ ("  " ++ name ++ ": " ++ status) :: back))
      (Report.unlines (front ++ ("  " ++ name ++ ": " ++ status') :: back))

theorem profileLine_sameBut (h : FileTree.SameBut path first second) {entry : String × Path}
    (hne : entry.2 ≠ path) : profileLine first entry = profileLine second entry := by
  unfold profileLine profileStatus
  rw [load_congr h.label (h.others _ hne)]

/-- The lines about profiles are the same, or they differ in the line about the profile whose file
differs. -/
theorem profileLines_sameBut {project : Path} {name : String}
    (h : FileTree.SameBut (filePath project name) first second) (place : Path) :
    (discover first place).map (profileLine first)
      = (discover second place).map (profileLine second)
    ∨ ∃ front back, (discover first place).map (profileLine first)
        = front ++ profileLine first (name, filePath project name) :: back
      ∧ (discover second place).map (profileLine second)
        = front ++ profileLine second (name, filePath project name) :: back := by
  rw [discover_sameBut h]
  -- the other profiles of the list have other files
  have hother : ∀ entry ∈ discover second place, entry ≠ (name, filePath project name) →
      entry.2 ≠ filePath project name := by
    rintro ⟨other, path⟩ hmem hne hsame
    obtain ⟨-, rfl, -⟩ := mem_discover_iff.1 hmem
    obtain ⟨rfl, rfl⟩ := eq_of_filePath_eq hsame
    exact hne rfl
  by_cases hlisted : (name, filePath project name) ∈ discover second place
  · obtain ⟨smaller, larger, hsplit⟩ := List.append_of_mem hlisted
    have hstrict := discover_strict second place
    rw [hsplit] at hstrict hother
    obtain ⟨-, hrest, hacross⟩ := List.pairwise_append.1 hstrict
    obtain ⟨hlarge, -⟩ := List.pairwise_cons.1 hrest
    have hsmaller : smaller.map (profileLine first) = smaller.map (profileLine second) := by
      refine List.map_congr_left fun entry hentry => profileLine_sameBut h ?_
      refine hother entry (List.mem_append_left _ hentry) ?_
      rintro rfl
      exact String.lt_irrefl _ (hacross _ hentry _ List.mem_cons_self)
    have hlarger : larger.map (profileLine first) = larger.map (profileLine second) := by
      refine List.map_congr_left fun entry hentry => profileLine_sameBut h ?_
      refine hother entry (List.mem_append_right _ (List.mem_cons_of_mem _ hentry)) ?_
      rintro rfl
      exact String.lt_irrefl _ (hlarge _ hentry)
    refine .inr ⟨smaller.map (profileLine second), larger.map (profileLine second), ?_, ?_⟩
    · rw [hsplit, List.map_append, List.map_cons, hsmaller, hlarger]
    · rw [hsplit, List.map_append, List.map_cons]
  · refine .inl (List.map_congr_left fun entry hentry => profileLine_sameBut h ?_)
    refine hother entry hentry ?_
    rintro rfl
    exact hlisted hentry

theorem runDoctor_sameBut {project : Path} {name : String}
    (h : FileTree.SameBut (filePath project name) first second) (directory : Path) :
    ∃ text text', runDoctor first directory = .printed first text
      ∧ runDoctor second directory = .printed second text'
      ∧ DifferInStatus name (profileStatus first (filePath project name))
        (profileStatus second (filePath project name)) text text' := by
  have hmanifest := Manifest.find_sameBut h directory
  cases hfind : Manifest.find first directory with
  | error error =>
    rw [hfind] at hmanifest
    refine ⟨_, _, runDoctor_eq first directory, runDoctor_eq second directory, ?_⟩
    unfold projectStatus
    rw [hfind, ← hmanifest]
    exact .same _
  | ok found =>
    rw [hfind] at hmanifest
    cases found with
    | none =>
      refine ⟨_, _, runDoctor_eq first directory, runDoctor_eq second directory, ?_⟩
      unfold projectStatus
      rw [hfind, ← hmanifest]
      exact .same _
    | some found =>
      obtain ⟨manifest, place⟩ := found
      refine ⟨_, _, runDoctor_of_manifest hfind, runDoctor_of_manifest hmanifest.symm, ?_⟩
      have hlines : manifestLines first manifest place = manifestLines second manifest place := by
        rw [manifestLines, manifestLines, h.display]
      rw [hlines]
      rcases profileLines_sameBut h place with hsame | ⟨front, back, hfirst, hsecond⟩
      · rw [hsame]
        exact .same _
      · rw [hfirst, hsecond, ← List.append_assoc, ← List.append_assoc]
        exact .line _ back

end Command

/-! ## Runs on two trees -/

namespace Invocation

variable {first second : FileTree} {project path : Path} {name : String}

/-- What a run adds to the tree. -/
def Step.Adds (step : Step) (place : Path) (entry : FileEntry) : Prop :=
  step.before.get? place = none ∧ step.after.get? place = some entry

/-- A call uses the profile of a name. -/
def Call.Uses (call : Call) (tree : FileTree) (name : String) : Prop :=
  ∃ command, call.command? = some command ∧ command.Uses tree call.directory name

/-- Two runs do and show the same, except that reports on a project may say different things about a
profile. Their trees differ in the content of one file only. -/
structure Isolated (path : Path) (name : String) (step step' : Step) : Prop where
  status : step.status = step'.status
  stdout : step.call.command? ≠ some .doctor → step.invocation.stdout = step'.invocation.stdout
  report : Command.DifferInStatus name (Command.profileStatus step.before path)
    (Command.profileStatus step'.before path) step.invocation.stdout step'.invocation.stdout
  stderr : step.invocation.stderr = step'.invocation.stderr
  adds : ∀ place entry, step.Adds place entry ↔ step'.Adds place entry
  after : SameBut path step.after step'.after

theorem adds_iff {step step' : Step} (hbefore : SameBut path step.before step'.before)
    (hafter : SameBut path step.after step'.after) (place : Path) (entry : FileEntry) :
    step.Adds place entry ↔ step'.Adds place entry := by
  -- a place that was free is not that of the file, so it is the same in both trees
  constructor
  · rintro ⟨hnone, hsome⟩
    obtain ⟨hne, hnone'⟩ := hbefore.eq_none hnone
    exact ⟨hnone', hafter.others place hne ▸ hsome⟩
  · rintro ⟨hnone, hsome⟩
    obtain ⟨hne, hnone'⟩ := hbefore.symm.eq_none hnone
    exact ⟨hnone', hafter.others place hne ▸ hsome⟩

/-- A call that asks for no command shows the same on every tree, and leaves it alone. -/
theorem run_of_no_command {call : Call} (h : call.command? = none) :
    ∃ status stdout stderr, ∀ tree,
      run tree call.directory call.arguments = ⟨status, stdout, stderr, tree⟩ := by
  unfold Call.command? at h
  unfold run
  cases hread : Request.read call.arguments with
  | none => exact ⟨_, _, _, fun _ => rfl⟩
  | some request =>
    cases request with
    | version => exact ⟨_, _, _, fun _ => rfl⟩
    | run verbosity command =>
      rw [hread] at h
      cases h

/-- The verbosity is a matter of the call, and not of the tree. -/
theorem run_of_command {call : Call} {command : Command} (h : call.command? = some command) :
    ∃ verbosity, ∀ tree,
      run tree call.directory call.arguments
        = ofOutcome verbosity (command.run tree call.directory) := by
  unfold Call.command? at h
  unfold run
  split at h
  · next verbosity _ hread =>
    cases h
    rw [hread]
    exact ⟨verbosity, fun _ => rfl⟩
  · cases h

theorem isolated_of_same {call : Call} (hbefore : SameBut path first second)
    (hstatus : Step.status ⟨first, call⟩ = Step.status ⟨second, call⟩)
    (hstdout : (Step.invocation ⟨first, call⟩).stdout = (Step.invocation ⟨second, call⟩).stdout)
    (hstderr : (Step.invocation ⟨first, call⟩).stderr = (Step.invocation ⟨second, call⟩).stderr)
    (hafter : SameBut path (Step.after ⟨first, call⟩) (Step.after ⟨second, call⟩)) :
    Isolated path name ⟨first, call⟩ ⟨second, call⟩ where
  status := hstatus
  stdout := fun _ => hstdout
  report := by
    rw [hstdout]
    exact .same _
  stderr := hstderr
  adds := adds_iff hbefore hafter
  after := hafter

theorem isolated_of_no_command {call : Call} (h : SameBut path first second)
    (hcommand : call.command? = none) : Isolated path name ⟨first, call⟩ ⟨second, call⟩ := by
  obtain ⟨status, stdout, stderr, hrun⟩ := run_of_no_command hcommand
  have hinvocation : ∀ tree, Step.invocation ⟨tree, call⟩ = ⟨status, stdout, stderr, tree⟩ := hrun
  refine isolated_of_same h ?_ ?_ ?_ ?_
  · rw [Step.status, Step.status, hinvocation, hinvocation]
  · rw [hinvocation, hinvocation]
  · rw [hinvocation, hinvocation]
  · rw [Step.after, Step.after, hinvocation, hinvocation]
    exact h

theorem isolated_of_sameBut {call : Call} {command : Command} (h : SameBut path first second)
    (hcommand : call.command? = some command)
    (hsame : Outcome.SameBut path (command.run first call.directory)
      (command.run second call.directory)) :
    Isolated path name ⟨first, call⟩ ⟨second, call⟩ := by
  obtain ⟨verbosity, hrun⟩ := run_of_command hcommand
  have hinvocation : ∀ tree, Step.invocation ⟨tree, call⟩
      = ofOutcome verbosity (command.run tree call.directory) := hrun
  refine isolated_of_same h ?_ ?_ ?_ ?_
  · rw [Step.status, Step.status, hinvocation, hinvocation]
    exact hsame.status
  · rw [hinvocation, hinvocation]
    exact hsame.stdout
  · rw [hinvocation, hinvocation]
    exact hsame.stderr verbosity
  · rw [Step.after, Step.after, hinvocation, hinvocation]
    exact hsame.after

/-- Reports are printed and nothing else happens, so there are only the texts to compare. -/
theorem isolated_doctor {call : Call} (h : SameBut (filePath project name) first second)
    (hcommand : call.command? = some .doctor) :
    Isolated (filePath project name) name ⟨first, call⟩ ⟨second, call⟩ := by
  obtain ⟨verbosity, hrun⟩ := run_of_command hcommand
  obtain ⟨text, text', hfirst, hsecond, hdiffer⟩ := Command.runDoctor_sameBut h call.directory
  have hshown : Step.invocation ⟨first, call⟩ = ofOutcome verbosity (.printed first text) := by
    rw [← hfirst]
    exact hrun first
  have hshown' : Step.invocation ⟨second, call⟩ = ofOutcome verbosity (.printed second text') := by
    rw [← hsecond]
    exact hrun second
  have hafter : SameBut (filePath project name) (Step.after ⟨first, call⟩)
      (Step.after ⟨second, call⟩) := by
    rw [Step.after, Step.after, hshown, hshown']
    exact h
  refine ⟨?_, fun hother => absurd hcommand hother, ?_, ?_, adds_iff h hafter, hafter⟩
  · rw [Step.status, Step.status, hshown, hshown']
    rfl
  · rw [hshown, hshown']
    exact hdiffer
  · rw [hshown, hshown']
    rfl

theorem Step.isolated {call : Call} (h : SameBut (filePath project name) first second)
    (huses : ¬ call.Uses first name) :
    Isolated (filePath project name) name ⟨first, call⟩ ⟨second, call⟩ := by
  cases hcommand : call.command? with
  | none => exact isolated_of_no_command h hcommand
  | some command =>
    by_cases hdoctor : command = .doctor
    · subst hdoctor
      exact isolated_doctor h hcommand
    · have hspares : ¬ command.Uses first call.directory name :=
        fun hcommandUses => huses ⟨command, hcommand, hcommandUses⟩
      exact isolated_of_sameBut h hcommand (Command.run_sameBut h hspares hdoctor)

/-- **A profile affects only the commands that use it.** Let two trees differ in nothing but the
bytes of the file of a profile. A call that does not use the profile does and shows the same on
both, but for what a report on its project says about it; and so do all calls of a session in which
none uses it. -/
theorem profile_isolated (h : SameBut (filePath project name) first second) :
    (∀ call : Call, ¬ call.Uses first name →
      Isolated (filePath project name) name ⟨first, call⟩ ⟨second, call⟩)
    ∧ ∀ calls, (∀ step ∈ history first calls, ¬ step.call.Uses step.before name) →
      List.Forall₂ (Isolated (filePath project name) name) (history first calls)
        (history second calls) := by
  refine ⟨fun call huses => Step.isolated h huses, fun calls hspares => ?_⟩
  induction calls generalizing first second with
  | nil => exact .nil
  | cons call calls ih =>
    have hfirst : Isolated (filePath project name) name ⟨first, call⟩ ⟨second, call⟩ :=
      Step.isolated h (hspares ⟨first, call⟩ List.mem_cons_self)
    exact .cons hfirst
      (ih hfirst.after fun step hstep => hspares step (List.mem_cons_of_mem _ hstep))

/-- A tree with the manifest of a project and the file of a profile. -/
def sharedTree (bytes : ByteArray) : FileTree :=
  ⟨"", [([Manifest.fileName], .file ⟨#[]⟩), (["profiles"], .directory),
    (["profiles", "mine.profile.toml"], .file bytes)],
    ((IsTree.nil.concat (by simp) (by simp) (.inl rfl)).concat (by simp [Manifest.fileName])
      (by simp) (.inl rfl)).concat (by simp) (by simp) (.inr (by simp))⟩

/-- A new profile comes out the same beside a profile and beside a file that is no text. -/
theorem profile_isolated_shared :
    SameBut (filePath [] "mine") (sharedTree (Profile.blank "mine").toToml.toUTF8)
      (sharedTree ⟨#[0xff]⟩)
    ∧ Isolated (filePath [] "mine") "mine"
      ⟨sharedTree (Profile.blank "mine").toToml.toUTF8, ⟨[], ["profile", "new", "other"]⟩⟩
      ⟨sharedTree ⟨#[0xff]⟩, ⟨[], ["profile", "new", "other"]⟩⟩ := by
  have hsame : ∀ bytes bytes',
      SameBut (filePath [] "mine") (sharedTree bytes) (sharedTree bytes') := by
    intro bytes bytes'
    refine ⟨rfl, fun other hne => ?_, rfl, rfl⟩
    have hfile : (other == ["profiles", "mine.profile.toml"]) = false := beq_eq_false_iff_ne.2 hne
    simp [get?, sharedTree, List.lookup_cons, hfile]
  have hspares : ¬ Call.Uses ⟨[], ["profile", "new", "other"]⟩
      (sharedTree (Profile.blank "mine").toToml.toUTF8) "mine" := by
    rintro ⟨command, hcommand, huses⟩
    have hnew : Call.command? ⟨[], ["profile", "new", "other"]⟩ = some (.newProfile "other") := by
      decide
    rw [hnew] at hcommand
    cases hcommand
    cases huses
  exact ⟨hsame _ _, (profile_isolated (hsame _ _)).1 _ hspares⟩

end Invocation

end RuntimeProfiles
