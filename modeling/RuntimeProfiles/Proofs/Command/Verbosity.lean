import Mathlib.Data.List.Forall2
import RuntimeProfiles.Proofs.Command.Arguments
import RuntimeProfiles.Proofs.Command.History

/-!
# What verbosity changes

Requests for more detail count towards a verbosity and nothing else. Of two command lines that make
requests and differ in them, one asks for the same more quietly (`Request.ReadsQuieter`); a run of
it then shows some of the log entries that a run of the other shows, and does the same otherwise.
Nothing is said here of command lines that make no request, whose answer is not that of a command:

* **`Log.Entry.isShownAt_mono`**, **`Log.Entry.isShownAt_of_urgent`** — what the filter lets
  through;
* **`Request.quieter_verbose`** — fewer requests for more detail make a command line quieter;
* **`Invocation.stderr_eq`** — the standard error of a request is the log entries that are shown and
  then the report;
* **`Invocation.verbosity_filters_log`** — what a quieter command line changes;
* **`Invocation.history_quieter`** — a quieter session goes the same way.
-/

namespace RuntimeProfiles

/-! ## The filter -/

namespace Log

theorem Level.rank_shownAt_mono {fewer more : Nat} (h : fewer ≤ more) :
    (shownAt fewer).rank ≤ (shownAt more).rank := by
  have hrank : ∀ count, (shownAt count).rank = min (count + 1) 4
    | 0 | 1 | 2 => rfl
    | count + 3 => by
      show 4 = min (count + 3 + 1) 4
      omega
  rw [hrank, hrank]
  omega

theorem Entry.isShownAt_mono {entry : Entry} {fewer more : Nat} (h : fewer ≤ more)
    (hshown : entry.isShownAt fewer = true) : entry.isShownAt more = true := by
  have hrank : entry.level.rank ≤ (Level.shownAt fewer).rank := of_decide_eq_true hshown
  exact decide_eq_true (Nat.le_trans hrank (Level.rank_shownAt_mono h))

/-- Errors and warnings are shown even if nobody asks for detail. -/
theorem Entry.isShownAt_of_urgent {entry : Entry} (h : entry.level = .error ∨ entry.level = .warn)
    (count : Nat) : entry.isShownAt count = true := by
  have hnone : entry.isShownAt 0 = true := by
    rcases h with h | h <;> rw [isShownAt, h] <;> rfl
  exact isShownAt_mono (Nat.zero_le count) hnone

/-- The entries that are shown at a verbosity. -/
def shownAt (count : Nat) (entries : List Entry) : List Entry := entries.filter (·.isShownAt count)

theorem shownAt_shownAt {fewer more : Nat} (h : fewer ≤ more) (entries : List Entry) :
    shownAt fewer (shownAt more entries) = shownAt fewer entries := by
  unfold shownAt
  rw [List.filter_filter]
  apply List.filter_congr
  intro entry _
  cases hshown : entry.isShownAt fewer with
  | false => rfl
  | true => rw [Entry.isShownAt_mono h hshown]; rfl

/-- The lines about entries. -/
def text (entries : List Entry) : String := Report.unlines (entries.map (·.line))

end Log

/-! ## Quieter command lines -/

/-- A request asks for the same as another one, with at most as much detail. -/
inductive Request.Quieter : Request → Request → Prop
  | version : Quieter .version .version
  | run {fewer more : Nat} (h : fewer ≤ more) (command : Command) :
      Quieter (.run fewer command) (.run more command)

/-- Both command lines make a request, and the first asks for the same as the second one, with at
most as much detail. -/
def Request.ReadsQuieter (less more : List String) : Prop :=
  ∃ quiet loud, read less = some quiet ∧ read more = some loud ∧ quiet.Quieter loud

namespace Request

variable {fewer more : Nat}

theorem Quieter.bind {α : Type} {first second : α → Option Request} (value : Option α)
    (h : ∀ a, Option.Rel Quieter (first a) (second a)) :
    Option.Rel Quieter (value.bind first) (value.bind second) := by
  cases value with
  | none => exact .none
  | some a => exact h a

theorem innermost_mono (h : fewer ≤ more) (inner : Nat) :
    innermost fewer inner ≤ innermost more inner := by
  unfold innermost
  split
  · exact h
  · exact Nat.le_refl inner

/-! A reader of a command looks at the verbosity of the outer levels only to pass it on. -/

theorem quieter_readPlain (h : fewer ≤ more) (options switches arguments : List String)
    (build : Arguments → Option Command) :
    Option.Rel Quieter (readPlain fewer options switches arguments build)
      (readPlain more options switches arguments build) :=
  Quieter.bind _ fun sorted => Quieter.bind (build sorted) fun command =>
    .some (.run (innermost_mono h sorted.verbosity) command)

theorem quieter_readNamed (h : fewer ≤ more) (options arguments : List String)
    (build : String → Arguments → Command) :
    Option.Rel Quieter (readNamed fewer options arguments build)
      (readNamed more options arguments build) :=
  Quieter.bind _ fun sorted => Quieter.bind sorted.words.head? fun name =>
    .some (.run (innermost_mono h sorted.verbosity) (build name sorted))

theorem quieter_readProfile (h : fewer ≤ more) (own : Nat) (arguments : List String) :
    Option.Rel Quieter (readProfile fewer own arguments) (readProfile more own arguments) := by
  induction arguments generalizing own with
  | nil => exact .none
  | cons argument rest ih =>
    have hlevel := innermost_mono h own
    unfold readProfile
    split
    · exact quieter_readPlain hlevel ..
    split
    · exact quieter_readNamed hlevel ..
    split
    · exact quieter_readNamed hlevel ..
    split
    · exact quieter_readNamed hlevel ..
    · exact Quieter.bind _ fun count => ih (own + count)

theorem quieter_readCommand (h : fewer ≤ more) (name : String) (rest : List String) :
    Option.Rel Quieter (readCommand fewer name rest) (readCommand more name rest) := by
  unfold readCommand
  split
  · exact quieter_readPlain h ..
  split
  · exact quieter_readProfile h 0 rest
  split
  · exact quieter_readPlain h ..
  split
  · exact quieter_readPlain h ..
  split
  · exact Quieter.bind _ fun sorted => .some (.run (innermost_mono h sorted.verbosity) _)
  split
  · exact quieter_readPlain h ..
  · exact .none

theorem quieter_readFrom (h : fewer ≤ more) (arguments : List String) :
    Option.Rel Quieter (readFrom fewer arguments) (readFrom more arguments) := by
  -- every request on the way to the command adds to both counts alike
  induction arguments generalizing fewer more with
  | nil => exact .none
  | cons argument rest ih =>
    have hstep : ∀ count, Option.Rel Quieter (readFrom (fewer + count) rest)
        (readFrom (more + count) rest) := fun count => ih (Nat.add_le_add_right h count)
    unfold readFrom
    split
    · exact quieter_readCommand h argument rest
    · exact .none
    · exact .some .version
    · split
      · exact .some .version
      · exact Quieter.bind _ hstep
    · exact Quieter.bind _ hstep

/-- Whether arguments make a request does not depend on how often they ask for more detail, and
those that ask less often make a quieter one. -/
theorem quieter_verbose (h : fewer ≤ more) (arguments : List String) :
    Option.Rel Quieter (read (List.replicate fewer "--verbose" ++ arguments))
      (read (List.replicate more "--verbose" ++ arguments)) := by
  rw [read, read, readFrom_verbose, readFrom_verbose, Nat.zero_add, Nat.zero_add]
  exact quieter_readFrom h arguments

/-- What the report on a request says last: why its command has failed, if it has. -/
def finalReport (tree : FileTree) (directory : Path) : Request → String
  | .version => ""
  | .run _ command => (command.run tree directory).failureReport

end Request

/-! ## Quieter runs -/

namespace Invocation

variable {less more : List String}

/-- The verbosity of arguments. -/
def verbosity (arguments : List String) : Nat :=
  match Request.read arguments with
  | some (.run count _) => count
  | _ => 0

/-- Everything that a run logs, whether it is shown or not. -/
def logged (tree : FileTree) (directory : Path) (arguments : List String) : List Log.Entry :=
  match Request.read arguments with
  | some (.run _ command) => (command.run tree directory).log
  | _ => []

/-- The log entries that a run shows. -/
def shown (tree : FileTree) (directory : Path) (arguments : List String) : List Log.Entry :=
  Log.shownAt (verbosity arguments) (logged tree directory arguments)

theorem stderr_eq {arguments : List String} {request : Request}
    (h : Request.read arguments = some request) (tree : FileTree) (directory : Path) :
    (run tree directory arguments).stderr
      = Log.text (shown tree directory arguments) ++ request.finalReport tree directory := by
  unfold run shown logged verbosity
  rw [h]
  cases request with
  | version => rfl
  | run count command =>
    show (command.run tree directory).stderr count = _
    rw [Outcome.stderr, Outcome.shownLog, Log.text, Log.shownAt, Report.unlines, List.map_map]
    rfl

/-- Two runs carry out requests, and the first does the same as the second one and shows less of the
same log: what it shows is what the filter for its own verbosity lets through of what the other one
shows. -/
structure ShowsLess (tree : FileTree) (directory : Path) (less more : List String) : Prop where
  status : (run tree directory less).status = (run tree directory more).status
  stdout : (run tree directory less).stdout = (run tree directory more).stdout
  after : (run tree directory less).tree = (run tree directory more).tree
  report : ∃ quiet loud, Request.read less = some quiet ∧ Request.read more = some loud
    ∧ quiet.finalReport tree directory = loud.finalReport tree directory
  log : shown tree directory less
    = (shown tree directory more).filter fun entry =>
      entry.level.rank ≤ (Log.Level.shownAt (verbosity less)).rank

theorem showsLess_of_quieter (h : Request.ReadsQuieter less more) (tree : FileTree)
    (directory : Path) : ShowsLess tree directory less more := by
  obtain ⟨quiet, loud, hless, hmore, hquieter⟩ := h
  -- a command has one outcome, and each request shows it at its own verbosity
  have hrun : run tree directory less = ofRequest tree directory quiet := by rw [run, hless]
  have hrun' : run tree directory more = ofRequest tree directory loud := by rw [run, hmore]
  cases hquieter with
  | version =>
    refine ⟨by rw [hrun, hrun'], by rw [hrun, hrun'], by rw [hrun, hrun'],
      ⟨_, _, hless, hmore, rfl⟩, ?_⟩
    rw [shown, shown, logged, logged, hless, hmore]
    rfl
  | run hle command =>
    refine ⟨?_, ?_, ?_, ⟨_, _, hless, hmore, rfl⟩, ?_⟩
    · rw [hrun, hrun']
      rfl
    · rw [hrun, hrun']
      rfl
    · rw [hrun, hrun']
      rfl
    · rw [shown, shown, logged, logged, verbosity, verbosity, hless, hmore]
      exact (Log.shownAt_shownAt hle _).symm

/-- **Verbosity changes nothing but the log that is shown.** The standard error of a request holds
the entries of its log that are shown, errors and warnings always, and then the report of its
failure. Asking for more detail neither makes a request nor takes one away. Of two command lines
that make requests and differ in how often they ask for more detail, the one that asks less often
does the same as the other one, ends with the same report and shows a part of the same log, which is
all that its own verbosity lets through. -/
theorem verbosity_filters_log (tree : FileTree) (directory : Path) :
    (∀ arguments request, Request.read arguments = some request →
      (run tree directory arguments).stderr
        = Log.text (shown tree directory arguments) ++ request.finalReport tree directory
      ∧ ∀ entry ∈ logged tree directory arguments, entry.level = .error ∨ entry.level = .warn →
        entry ∈ shown tree directory arguments)
    ∧ (∀ arguments fewer more, fewer ≤ more →
      (Request.read (List.replicate fewer "--verbose" ++ arguments) = none
        ∧ Request.read (List.replicate more "--verbose" ++ arguments) = none)
      ∨ Request.ReadsQuieter (List.replicate fewer "--verbose" ++ arguments)
        (List.replicate more "--verbose" ++ arguments))
    ∧ ∀ less more, Request.ReadsQuieter less more → ShowsLess tree directory less more := by
  refine ⟨fun arguments request h => ⟨stderr_eq h tree directory, ?_⟩, ?_,
    fun less more h => showsLess_of_quieter h tree directory⟩
  · intro entry hlogged hurgent
    exact List.mem_filter.2 ⟨hlogged, Log.Entry.isShownAt_of_urgent hurgent _⟩
  · intro arguments fewer more hle
    have hquieter := Request.quieter_verbose hle arguments
    revert hquieter
    generalize hless : Request.read (List.replicate fewer "--verbose" ++ arguments) = first
    generalize hmore : Request.read (List.replicate more "--verbose" ++ arguments) = second
    intro hquieter
    cases hquieter with
    | none => exact .inl ⟨rfl, rfl⟩
    | some hquieter => exact .inr ⟨_, _, hless, hmore, hquieter⟩

/-- Two letters behind the name of a command show what a resolution logs, and change nothing
else. -/
theorem verbosity_filters_log_resolve :
    shown (.empty "") [] ["resolve", "--profile", "host-debug"] = []
    ∧ (shown (.empty "") [] ["resolve", "-vv", "--profile", "host-debug"]).length = 2
    ∧ ShowsLess (.empty "") [] ["resolve", "--profile", "host-debug"]
      ["resolve", "-vv", "--profile", "host-debug"] := by
  have hless : Request.read ["resolve", "--profile", "host-debug"]
      = some (.run 0 (.resolve (some "host-debug") false none)) := by decide
  have hmore : Request.read ["resolve", "-vv", "--profile", "host-debug"]
      = some (.run 2 (.resolve (some "host-debug") false none)) := by decide
  have hquieter : Request.ReadsQuieter ["resolve", "--profile", "host-debug"]
      ["resolve", "-vv", "--profile", "host-debug"] :=
    ⟨_, _, hless, hmore, .run (Nat.zero_le 2) _⟩
  refine ⟨?_, ?_, (verbosity_filters_log (.empty "") []).2.2 _ _ hquieter⟩
  · rw [shown, logged, verbosity, hless]
    rfl
  · rw [shown, logged, verbosity, hmore]
    rfl

/-! ## Sessions -/

/-- A call makes the same request as another one in the same directory, with at most as much
detail. -/
structure Call.Quieter (call call' : Call) : Prop where
  directory : call.directory = call'.directory
  request : Request.ReadsQuieter call.arguments call'.arguments

/-- Quieter calls find and leave the same trees, call by call, and show less. -/
theorem history_quieter {calls calls' : List Call} (h : List.Forall₂ Call.Quieter calls calls')
    (tree : FileTree) :
    List.Forall₂ (fun step step' => step.before = step'.before
        ∧ ShowsLess step.before step.call.directory step.call.arguments step'.call.arguments)
      (history tree calls) (history tree calls') := by
  induction h generalizing tree with
  | nil => exact .nil
  | @cons call call' calls calls' hcall _ ih =>
    have hshows : ShowsLess tree call.directory call.arguments call'.arguments :=
      showsLess_of_quieter hcall.request tree call.directory
    -- both calls leave the same tree, so the rest of the session starts from the same one
    have hafter : Step.after ⟨tree, call⟩ = Step.after ⟨tree, call'⟩ := by
      show (run tree call.directory call.arguments).tree
        = (run tree call'.directory call'.arguments).tree
      rw [hshows.after, hcall.directory]
    have hrest := ih (Step.after ⟨tree, call⟩)
    refine .cons ⟨rfl, hshows⟩ ?_
    rw [← hafter]
    exact hrest

end Invocation

end RuntimeProfiles
