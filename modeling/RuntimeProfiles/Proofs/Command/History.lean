import RuntimeProfiles.Proofs.Command.Changes

/-!
# Histories of a file tree

A `history` is what becomes of a tree when the program runs on it again and again, with any
arguments and in any directories. A manifest that appears on the way moves the project of the
directories below it, so the law of a run is stated about the tree that this run starts from:

* **`Step.lawful`** — what a single run keeps, and what it may add;
* **`Step.failsStructurally_of_nameFits`** — the one reason for which a failure can leave a trace is
  the name of a new profile;
* **`history_pairwise`** — a later run finds everything that an earlier one left behind;
* **`history_lawful`** — the law of all runs, and that nothing is set up or created twice.

A run that succeeds in setting up a project or in creating a profile finds its file missing and
leaves it behind (`Step.claims_initialised`, `Step.claims_created`); since nothing is removed, no
second run can do so for the same file.
-/

namespace RuntimeProfiles.Invocation

open FileTree Command

/-! ## Runs -/

/-- How the program is called. -/
structure Call where
  directory : Path
  arguments : List String

/-- A call of the program on a tree. -/
structure Step where
  before : FileTree
  call : Call

/-- The command that a call asks for, if any. -/
def Call.command? (call : Call) : Option Command :=
  match Request.read call.arguments with
  | some (.run _ command) => some command
  | _ => none

namespace Step

def invocation (step : Step) : Invocation :=
  Invocation.run step.before step.call.directory step.call.arguments

def after (step : Step) : FileTree := step.invocation.tree

def status (step : Step) : Nat := step.invocation.status

/-- The project on which a command on profiles works. -/
def project (step : Step) : Path := Project.around step.before step.call.directory

def outcome (step : Step) (command : Command) : Outcome :=
  command.run step.before step.call.directory

/-- Where a command may add something. -/
def places (step : Step) : Command → List Path
  | .init _ =>
    [Project.profilesDirectory step.call.directory, manifestPath step.call.directory]
  | .newProfile name =>
    [Project.profilesDirectory step.project, Project.filePath step.project name]
  | _ => []

/-- If the run fails, then for a reason that lies in the request or in the tree, and not in the
length of a file name. -/
def FailsStructurally (step : Step) : Prop :=
  ∀ command failure, step.call.command? = some command →
    (step.outcome command).failure = some failure → failure.isStructural = true

/-- The directory in which the run has set up a project. -/
def initialised? (step : Step) : Option Path :=
  match step.call.command? with
  | some (.init _) => if step.status = 0 then some step.call.directory else none
  | _ => none

/-- The project in which the run has created a profile, and the name of the profile. -/
def created? (step : Step) : Option (Path × String) :=
  match step.call.command? with
  | some (.newProfile name) => if step.status = 0 then some (step.project, name) else none
  | _ => none

end Step

/-- The runs of calls one after the other, each on the tree that the one before has left. -/
def history (tree : FileTree) : List Call → List Step
  | [] => []
  | call :: calls => ⟨tree, call⟩ :: history (Step.after ⟨tree, call⟩) calls

/-! ## What a single run does -/

namespace Step

variable {step : Step} {command : Command}

theorem after_of_command (h : step.call.command? = some command) :
    step.after = (step.outcome command).tree ∧ step.status = (step.outcome command).status := by
  unfold Call.command? at h
  unfold after status invocation Invocation.run
  split at h
  · next hread =>
    cases h
    rw [hread]
    exact ⟨rfl, rfl⟩
  · cases h

/-- A run without a command leaves the tree alone. -/
theorem after_of_no_command (h : step.call.command? = none) : step.after = step.before := by
  unfold Call.command? at h
  unfold after invocation Invocation.run
  cases hread : Request.read step.call.arguments with
  | none => rfl
  | some request =>
    cases request with
    | version => rfl
    | run verbosity command =>
      rw [hread] at h
      cases h

/-- The law of a run. -/
structure Lawful (step : Step) : Prop where
  /-- Nothing is removed, and no file is changed. -/
  keeps : Extends step.before step.after
  /-- Whatever is new stands where the command may add something. -/
  adds : ∀ path, step.after.contains path = true → step.before.contains path = true
    ∨ ∃ command, step.call.command? = some command ∧ path ∈ step.places command
  /-- A failure leaves no trace. -/
  failed : step.FailsStructurally → step.status ≠ 0 → step.after = step.before
  /-- A change is due to a command that writes and that has succeeded. -/
  changed : step.FailsStructurally → step.after ≠ step.before →
    step.status = 0 ∧ ∃ command, step.call.command? = some command ∧ command.writes = true

theorem Lawful.of_same (h : step.after = step.before) : step.Lawful where
  keeps := h ▸ .refl _
  adds := fun _ hpath => .inl (h ▸ hpath)
  failed := fun _ _ => h
  changed := fun _ hne => absurd h hne

/-- A success that adds only where the command may add something. -/
theorem Lawful.of_grown (hcommand : step.call.command? = some command)
    (hwrites : command.writes = true) (hdone : (step.outcome command).failure = none)
    (hgrown : GrownBy step.before (step.places command) (step.outcome command).tree) :
    step.Lawful := by
  obtain ⟨hafter, hstatus⟩ := after_of_command hcommand
  rw [← hafter] at hgrown
  have hzero : step.status = 0 := hstatus.trans (Outcome.status_eq_zero_iff.2 hdone)
  exact {
    keeps := hgrown.toExtends
    adds := fun path hpath =>
      (hgrown.only path hpath).imp_right fun hmem => ⟨command, hcommand, hmem⟩
    failed := fun _ hstatus => absurd hzero hstatus
    changed := fun _ _ => ⟨hzero, command, hcommand, hwrites⟩ }

theorem lawful (step : Step) : step.Lawful := by
  cases hcommand : step.call.command? with
  | none => exact .of_same (after_of_no_command hcommand)
  | some command =>
    have hafter := (after_of_command hcommand).1
    have heffect : Effect _ _ command (step.outcome command) := run_effect ..
    cases heffect with
    | readOnly silent alone => exact .of_same (hafter.trans alone.same)
    | refusal refusal => exact .of_same (hafter.trans refusal.same)
    | setUp done setsUp => exact .of_grown hcommand rfl done setsUp.creation.grownBy
    | created done creates => exact .of_grown hcommand rfl done creates.creation.grownBy
    | tooLong failed long grown =>
      rw [← hafter] at grown
      -- the premise of the last two laws excludes this case
      have hnot : ¬ step.FailsStructurally := fun hstructural =>
        Bool.false_ne_true (hstructural _ _ hcommand failed)
      exact {
        keeps := grown.toExtends
        adds := fun path hpath => (grown.only path hpath).imp_right fun hmem =>
          ⟨_, hcommand, List.mem_cons.2 (.inl (List.mem_singleton.1 hmem))⟩
        failed := fun hstructural => absurd hstructural hnot
        changed := fun hstructural => absurd hstructural hnot }

/-- Only the name of a new profile can be too long for a file. -/
theorem failsStructurally_of_nameFits
    (h : ∀ name, step.call.command? = some (.newProfile name) →
      NameFits (Project.filePath step.project name)) : step.FailsStructurally := by
  intro command failure hcommand hfailure
  have heffect : Effect _ _ command (step.outcome command) := run_effect ..
  cases heffect with
  | readOnly silent alone => exact alone.structural failure hfailure
  | refusal refusal => exact refusal.structural failure hfailure
  | setUp done =>
    rw [done] at hfailure
    cases hfailure
  | created done =>
    rw [done] at hfailure
    cases hfailure
  | tooLong failed long grown => exact absurd (h _ hcommand) long

theorem failure_eq_none (hcommand : step.call.command? = some command) (hzero : step.status = 0) :
    (step.outcome command).failure = none :=
  Outcome.status_eq_zero_iff.1 ((after_of_command hcommand).2.symm.trans hzero)

/-- A run that has set up a project has written a manifest where nothing stood. -/
theorem claims_initialised {directory : Path} (h : step.initialised? = some directory) :
    step.before.contains (manifestPath directory) = false
    ∧ step.after.contains (manifestPath directory) = true := by
  unfold initialised? at h
  split at h
  · next defaultProfile hcommand =>
    split at h
    · next hzero =>
      cases h
      have hdone := failure_eq_none hcommand hzero
      have hcreation := ((run_effect ..).setsUp hdone).creation
      rw [(after_of_command hcommand).1]
      exact ⟨contains_eq_false_iff.2 hcreation.fresh, contains_iff.2 ⟨_, hcreation.get?_path⟩⟩
    · cases h
  · cases h

/-- A run that has created a profile has written its file where nothing stood. -/
theorem claims_created {project : Path} {name : String}
    (h : step.created? = some (project, name)) :
    step.before.contains (Project.filePath project name) = false
    ∧ step.after.contains (Project.filePath project name) = true := by
  unfold created? at h
  split at h
  · next hcommand =>
    split at h
    · next hzero =>
      cases h
      have hdone := failure_eq_none hcommand hzero
      have hcreation := ((run_effect ..).creates hdone).creation
      rw [(after_of_command hcommand).1]
      exact ⟨contains_eq_false_iff.2 hcreation.fresh, contains_iff.2 ⟨_, hcreation.get?_path⟩⟩
    · cases h
  · cases h

end Step

/-! ## Whole histories -/

/-- Every run starts from a tree that extends the first one. -/
theorem history_extends {tree : FileTree} {calls : List Call} {step : Step}
    (h : step ∈ history tree calls) : Extends tree step.before := by
  induction calls generalizing tree with
  | nil => cases h
  | cons call calls ih =>
    cases h with
    | head => exact .refl tree
    | tail _ hlater => exact (Step.lawful ⟨tree, call⟩).keeps.trans (ih hlater)

/-- A later run starts from a tree that extends what an earlier one has left. -/
theorem history_pairwise (tree : FileTree) (calls : List Call) :
    (history tree calls).Pairwise fun earlier later => Extends earlier.after later.before := by
  induction calls generalizing tree with
  | nil => exact .nil
  | cons call calls ih =>
    exact List.pairwise_cons.2 ⟨fun later hlater => history_extends hlater, ih _⟩

/-- What a run can only do where something is missing, and what is there afterwards, is not done
twice. -/
theorem nodup_of_claims {κ : Type} {claimed? : Step → Option κ} {place : κ → Path}
    (hclaims : ∀ step key, claimed? step = some key →
      step.before.contains (place key) = false ∧ step.after.contains (place key) = true)
    (tree : FileTree) (calls : List Call) : ((history tree calls).filterMap claimed?).Nodup := by
  rw [List.Nodup, List.pairwise_filterMap]
  refine (history_pairwise tree calls).imp fun {earlier later} hextends => ?_
  rintro key hearlier _ hlater rfl
  -- the place was there after the earlier run, and nothing has been removed since
  have hthere := hextends.contains (hclaims earlier key hearlier).2
  rw [(hclaims later key hlater).1] at hthere
  cases hthere

/-- However often the program runs on a tree, in whatever directories and with whatever arguments:
every run obeys the law of a run and keeps what there was at first, no directory is set up twice,
and no profile is created twice in a project. -/
theorem history_lawful (tree : FileTree) (calls : List Call) :
    (∀ step ∈ history tree calls, step.Lawful ∧ Extends tree step.after)
    ∧ ((history tree calls).filterMap Step.initialised?).Nodup
    ∧ ((history tree calls).filterMap Step.created?).Nodup := by
  refine ⟨fun step hstep => ?_, ?_, ?_⟩
  · have hlawful := step.lawful
    exact ⟨hlawful, (history_extends hstep).trans hlawful.keeps⟩
  · exact nodup_of_claims (fun _ _ => Step.claims_initialised) tree calls
  · have hclaims : ∀ (step : Step) (key : Path × String), step.created? = some key →
        step.before.contains (Project.filePath key.1 key.2) = false
        ∧ step.after.contains (Project.filePath key.1 key.2) = true :=
      fun _ _ => Step.claims_created
    exact nodup_of_claims hclaims tree calls

end RuntimeProfiles.Invocation
