import RuntimeProfiles.Proofs.Command.History
import RuntimeProfiles.Proofs.Project.Manifest

/-!
# Where in a project a command is run

Apart from the command that sets up a project, commands look for the nearest manifest and then work
on the directory that holds it. So it makes no difference where below that directory they are run,
as long as no other manifest comes between:

* **`Command.withManifest_congr`** — a command that finds a manifest does not look at the directory
  in which it was started;
* **`Invocation.run_same_below`** — so a run is the same in a directory with a manifest and below
  it;
* **`Invocation.history_same_below`** — and so are all runs of a session, since no run but one that
  sets up a project brings a manifest between them.
-/

namespace RuntimeProfiles

open Command Manifest

variable {tree : FileTree} {project : Path} {below : List String} {arguments : List String}

/-! ## A single run -/

namespace Command

variable {here there : Path}

theorem withManifest_congr (hsame : Manifest.find tree here = Manifest.find tree there)
    (hne : Manifest.find tree there ≠ .ok none) {run other : Option (Manifest × Path) → Outcome}
    (hrun : ∀ found, run (some found) = other (some found)) :
    withManifest tree here run = withManifest tree there other := by
  unfold withManifest
  rw [hsame]
  cases hfind : Manifest.find tree there with
  | error error => rfl
  | ok found =>
    cases found with
    | none => exact absurd hfind hne
    | some found => exact hrun found

/-- Only setting up a project, and a search that comes back without a manifest, look at the
directory itself. -/
theorem run_congr (hsame : Manifest.find tree here = Manifest.find tree there)
    (hne : Manifest.find tree there ≠ .ok none) {command : Command}
    (hinit : ∀ profile, command ≠ .init profile) :
    command.run tree here = command.run tree there := by
  cases command with
  | init profile => exact absurd rfl (hinit profile)
  | listProfiles | describeProfile | validateProfile | newProfile | resolve =>
    exact withManifest_congr hsame hne fun _ => rfl
  | layout | nullCheck => rfl
  | doctor =>
    show runDoctor tree here = runDoctor tree there
    rw [runDoctor, runDoctor, projectStatus, projectStatus, hsame]

end Command

/-- The arguments do not ask for a project to be set up. -/
def Request.KeepsManifests (arguments : List String) : Prop :=
  ∀ verbosity profile, Request.read arguments ≠ some (.run verbosity (.init profile))

namespace Invocation

/-- Directories from which the same manifest is found cannot be told apart by what a run does. -/
theorem run_congr {here there : Path} (hsame : Manifest.find tree here = Manifest.find tree there)
    (hne : Manifest.find tree there ≠ .ok none) (hkeeps : Request.KeepsManifests arguments) :
    run tree here arguments = run tree there arguments := by
  unfold run
  cases hread : Request.read arguments with
  | none => rfl
  | some request =>
    cases request with
    | version => rfl
    | run verbosity command =>
      have hinit : ∀ profile, command ≠ .init profile := by
        rintro profile rfl
        exact hkeeps verbosity profile hread
      have hrun : command.run tree here = command.run tree there :=
        Command.run_congr hsame hne hinit
      show ofOutcome verbosity _ = ofOutcome verbosity _
      rw [hrun]

/-- **It makes no difference where in a project a command is run.** Let a directory hold the file of
a manifest, whatever is in the file, and let no directory on the way down to another one hold a
further one. With arguments that do not ask for a project to be set up, the program shows and does
the same in both. -/
theorem run_same_below (hmanifest : tree.isFile (manifestPath project) = true)
    (hbelow : NoneBelow tree project below) (hkeeps : Request.KeepsManifests arguments) :
    run tree (project ++ below) arguments = run tree project arguments := by
  have hsame : Manifest.find tree (project ++ below) = Manifest.find tree project :=
    find_below hbelow
  exact run_congr hsame (find_ne_none hmanifest) hkeeps

/-- A tree with an empty manifest, and a directory below it that holds a directory named like a
manifest. -/
def nestedTree : FileTree :=
  ⟨"", [(["memcaps.toml"], .file ⟨#[]⟩), (["inner"], .directory),
    (["inner", "memcaps.toml"], .directory)],
    ((FileTree.IsTree.nil.concat (by simp) (by simp) (.inl rfl)).concat (by simp) (by simp)
      (.inl rfl)).concat (by simp) (by simp) (.inr (by simp))⟩

/-- The directory named like a manifest does not stop the climb to the file, so that a profile is
created in the same place. -/
theorem run_same_below_nested :
    nestedTree.isFile (manifestPath []) = true
    ∧ NoneBelow nestedTree [] ["inner"]
    ∧ Request.KeepsManifests ["profile", "new", "mine"]
    ∧ run nestedTree ["inner"] ["profile", "new", "mine"]
      = run nestedTree [] ["profile", "new", "mine"] := by
  have hmanifest : nestedTree.isFile (manifestPath []) = true := rfl
  have hbelow : NoneBelow nestedTree [] ["inner"] := by
    intro inner hne hinner
    have hone : inner = ["inner"] := by
      obtain ⟨name, rest, rfl⟩ := List.exists_cons_of_ne_nil hne
      simpa using hinner
    rw [hone]
    rfl
  have hkeeps : Request.KeepsManifests ["profile", "new", "mine"] := by
    intro verbosity profile hread
    have hnew : Request.read ["profile", "new", "mine"] = some (.run 0 (.newProfile "mine")) := by
      decide
    rw [hnew] at hread
    cases hread
  exact ⟨hmanifest, hbelow, hkeeps, run_same_below hmanifest hbelow hkeeps⟩

/-! ## A session -/

theorem Call.ne_init {call : Call} (h : Request.KeepsManifests call.arguments) (profile : String) :
    call.command? ≠ some (.init profile) := by
  unfold Call.command?
  split
  · next verbosity command hread =>
    intro hcommand
    cases hcommand
    exact h verbosity profile hread
  · exact nofun

theorem Step.isFile_after {step : Step} {path : Path} (h : step.before.isFile path = true) :
    step.after.isFile path = true := by
  obtain ⟨bytes, hbytes⟩ := FileTree.isFile_iff.1 h
  exact FileTree.isFile_iff.2 ⟨bytes, step.lawful.keeps.keeps path _ hbytes⟩

/-- A file that is there after a run, and that the run cannot have added, was there before. -/
theorem Step.isFile_before {step : Step} {path : Path} (h : step.after.isFile path = true)
    (hplaces : ∀ command, step.call.command? = some command → path ∉ step.places command) :
    step.before.isFile path = true := by
  obtain ⟨bytes, hafter⟩ := FileTree.isFile_iff.1 h
  have hlawful := step.lawful
  rcases hlawful.adds path (FileTree.contains_iff.2 ⟨_, hafter⟩) with
    hbefore | ⟨command, hcommand, hmem⟩
  · -- what stood there stands there still, so it is the file
    obtain ⟨entry, hentry⟩ := FileTree.contains_iff.1 hbefore
    have hkept := hlawful.keeps.keeps path entry hentry
    rw [hafter] at hkept
    cases hkept
    exact FileTree.isFile_iff.2 ⟨bytes, hentry⟩
  · exact absurd hmem (hplaces command hcommand)

/-- A run that sets up no project brings no manifest between two directories. -/
theorem Step.noneBelow_after {step : Step} (hkeeps : Request.KeepsManifests step.call.arguments)
    (h : NoneBelow step.before project below) : NoneBelow step.after project below := by
  intro inner hne hinner
  by_contra hfile
  have hbefore : step.before.isFile (manifestPath (project ++ inner)) = true := by
    apply Step.isFile_before (Bool.not_eq_false _ ▸ hfile)
    intro command hcommand hmem
    cases command with
    | init profile => exact Call.ne_init hkeeps profile hcommand
    | newProfile name =>
      -- neither of the two places of a new profile is that of a manifest
      rcases List.mem_cons.1 hmem with heq | hmem
      · exact manifestPath_ne_profilesDirectory _ _ heq
      · exact manifestPath_ne_filePath _ _ _ (List.mem_singleton.1 hmem)
    | listProfiles | describeProfile | validateProfile | resolve | layout | nullCheck | doctor =>
      cases hmem
  rw [h inner hne hinner] at hbefore
  cases hbefore

def callsIn (directory : Path) (lines : List (List String)) : List Call :=
  lines.map fun arguments => ⟨directory, arguments⟩

/-- A session that sets up no project is the same in the directory of a manifest and below it, run
by run. -/
theorem history_same_below {lines : List (List String)}
    (hkeeps : ∀ arguments ∈ lines, Request.KeepsManifests arguments)
    (hmanifest : tree.isFile (manifestPath project) = true)
    (hbelow : NoneBelow tree project below) :
    (history tree (callsIn (project ++ below) lines)).map Step.invocation
      = (history tree (callsIn project lines)).map Step.invocation := by
  induction lines generalizing tree with
  | nil => rfl
  | cons arguments lines ih =>
    have hfirst : Request.KeepsManifests arguments := hkeeps arguments List.mem_cons_self
    have hsame : Step.invocation ⟨tree, ⟨project ++ below, arguments⟩⟩
        = Step.invocation ⟨tree, ⟨project, arguments⟩⟩ :=
      run_congr (find_below hbelow) (find_ne_none hmanifest) hfirst
    have hafter : Step.after ⟨tree, ⟨project ++ below, arguments⟩⟩
        = Step.after ⟨tree, ⟨project, arguments⟩⟩ := congrArg Invocation.tree hsame
    have hlater : NoneBelow (Step.after ⟨tree, ⟨project, arguments⟩⟩) project below :=
      Step.noneBelow_after hfirst hbelow
    have hrest := ih (fun later hmem => hkeeps later (List.mem_cons_of_mem _ hmem))
      (Step.isFile_after hmanifest) hlater
    show Step.invocation _ :: List.map _ _ = Step.invocation _ :: List.map _ _
    rw [hsame, hafter]
    exact congrArg _ hrest

end Invocation

end RuntimeProfiles
