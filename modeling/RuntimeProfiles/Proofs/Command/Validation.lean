import RuntimeProfiles.Proofs.Command.Doctor
import RuntimeProfiles.Proofs.Command.Verbosity

/-!
# What validation says about resolution

Validation judges a profile without resolving it in front of the user, and `resolve` does so without
validating it. What the one shows tells what comes of the other, with one exception: `resolve` says
nothing about the override of a profile that it rejects.

* **`Profile.validation_judges_resolution`** — the issues are the faults of name and resolution and
  the two warnings, and without a warning nothing departs from what was asked for;
* **`Log.Entry.line_injective`**, **`Command.issueLine_injective`** — a line tells what it is about,
  so that it can be looked for in a text;
* **`Profile.count_log`** — a resolution warns of the override only if it succeeds;
* **`Invocation.override_warned`** — where validation and `resolve` agree on the override;
* **`Invocation.not_overrideAgrees`** — and where they do not.
-/

namespace RuntimeProfiles

open Project

/-! ## The verdict -/

namespace Command

/-- A profile is called valid exactly if there are no issues, whether or not warnings are denied. -/
theorem runValidate_eq_valid_iff {tree : FileTree} {project : Path} {name : String}
    {profile : Profile} (hfind : Project.find tree (some project) name = .ok profile)
    (denyWarnings : Bool) :
    runValidate tree project denyWarnings name
        = .printed tree (Report.unlines ["profile '" ++ profile.name ++ "' is valid"])
      ↔ profile.issues = [] := by
  unfold runValidate
  simp only [hfind]
  by_cases hissues : profile.issues = []
  · rw [if_pos (List.isEmpty_iff.2 hissues)]
    exact iff_of_true rfl hissues
  · rw [if_neg fun hempty => hissues (List.isEmpty_iff.1 hempty)]
    refine iff_of_false (fun h => ?_) hissues
    -- the text begins with the line about an issue, if it is shown at all
    split at h
    · cases congrArg Outcome.failure h
    · exact Invocation.stdout_ne_valid hissues _ _ (congrArg Outcome.stdout h)

end Command

/-- **Validation and resolution agree.** A profile has errors exactly if its name is rejected or it
does not resolve. Its issues are those objections that apply, each once and in the order of their
places: the fault of the name, the very rejection that resolution ends with, the warning about the
override and the one about mark-compact. It is called valid exactly if none applies. If it resolves,
the absence of a warning promises that the compiler emits read barriers only for a read barrier, or
that there is as much mark-compact support as was asked for. -/
theorem Profile.validation_judges_resolution (profile : Profile) :
    (Profile.hasErrors profile.issues = true
      ↔ (∃ fault, ProfileName.fault? profile.name = some fault)
        ∨ ∃ rejection, profile.resolve.1 = .error rejection)
    ∧ (∃ objections : List Objection, profile.issues = objections.map (·.issue profile.name)
      ∧ (objections.Pairwise fun first second => first.place < second.place)
      ∧ ∀ objection, objection ∈ objections ↔ objection.Applies profile)
    ∧ (profile.issues = [] ↔ ∀ objection : Objection, ¬ objection.Applies profile)
    ∧ (∀ tree project name denyWarnings, Project.find tree (some project) name = .ok profile →
      (Command.runValidate tree project denyWarnings name
          = .printed tree (Report.unlines ["profile '" ++ profile.name ++ "' is valid"])
        ↔ profile.issues = []))
    ∧ ∀ config, profile.resolve.1 = .ok config →
      (Objection.forcedBarrier.issue profile.name ∉ profile.issues →
        config.capabilities.emitCompilerReadBarrier = config.capabilities.useReadBarrier)
      ∧ (Objection.idleMarkCompact.issue profile.name ∉ profile.issues →
        config.capabilities.markCompactSupport = profile.toggles.markCompact) := by
  refine ⟨Profile.hasErrors_iff, ⟨profile.objections, profile.issues_eq,
    profile.pairwise_objections, fun _ => Profile.mem_objections_iff⟩, Profile.issues_eq_nil_iff,
    ?_, ?_⟩
  · intro tree project name denyWarnings hfind
    exact Command.runValidate_eq_valid_iff hfind denyWarnings
  · intro config hconfig
    exact ⟨Profile.emits_of_not_warned hconfig, Profile.compacts_of_not_warned hconfig⟩

/-- There is nothing to object to a built-in profile, so it is called valid and gets what it asks
for. -/
theorem Profile.validation_judges_resolution_host :
    Command.runValidate (.empty "") [] true "host-release"
        = .printed (.empty "") (Report.unlines ["profile 'host-release' is valid"])
    ∧ ∃ config, Profile.hostRelease.resolve.1 = .ok config
      ∧ config.capabilities.emitCompilerReadBarrier = config.capabilities.useReadBarrier
      ∧ config.capabilities.markCompactSupport = Profile.hostRelease.toggles.markCompact := by
  have hissues : Profile.hostRelease.issues = [] := by decide
  have hfind : Project.find (.empty "") (some []) "host-release" = .ok Profile.hostRelease := by rfl
  obtain ⟨-, -, -, hvalid, hpromise⟩ := validation_judges_resolution .hostRelease
  obtain ⟨hemits, hcompacts⟩ := hpromise _ rfl
  refine ⟨(hvalid _ _ _ true hfind).2 hissues, _, rfl, hemits ?_, hcompacts ?_⟩
  · rw [hissues]
    exact List.not_mem_nil
  · rw [hissues]
    exact List.not_mem_nil

/-! ## Lines that can be looked for -/

namespace Log

theorem Entry.line_injective : Function.Injective Entry.line := by
  rintro ⟨level, message⟩ ⟨level', message'⟩ h
  have hchars := congrArg String.toList h
  simp only [Entry.line, String.toList_append] at hchars
  -- no name of a level holds a closing bracket, so the names end at the same place
  cases level <;> cases level' <;> simp_all [Level.name, String.toList_inj]

theorem Entry.isLine_line {entry : Entry} (h : Report.IsLine entry.message) :
    Report.IsLine entry.line := by
  have hlevel : Report.IsLine entry.level.name := by cases entry.level <;> decide +kernel
  simp only [Entry.line, Report.isLine_append]
  exact ⟨⟨⟨by decide +kernel, hlevel⟩, by decide +kernel⟩, h⟩

end Log

theorem Rejection.isLine_rejectedEntry (rejection : Rejection) :
    Report.IsLine (RuntimeConfig.rejectedEntry rejection).line := by
  have htitle : Report.IsLine rejection.category.title := by
    cases rejection.category <;> decide +kernel
  apply Log.Entry.isLine_line
  simp only [RuntimeConfig.rejectedEntry, Report.isLine_append]
  exact ⟨⟨⟨by decide +kernel, htitle⟩, by decide +kernel⟩, rejection.isLine_message⟩

theorem Capabilities.isLine_resolvedEntry (capabilities : Capabilities) :
    Report.IsLine (RuntimeConfig.resolvedEntry capabilities).line := by
  have hplatform : Report.IsLine capabilities.platform.name := by
    cases capabilities.platform <;> decide +kernel
  have htitle : Report.IsLine capabilities.readBarrier.title := by
    cases capabilities.readBarrier <;> decide +kernel
  have hflag : ∀ flag : Bool, Report.IsLine (toString flag) := by decide +kernel
  apply Log.Entry.isLine_line
  simp only [RuntimeConfig.resolvedEntry, Report.isLine_append]
  refine ⟨⟨⟨⟨⟨⟨⟨⟨⟨?_, hplatform⟩, ?_⟩, htitle⟩, ?_⟩, hflag _⟩, ?_⟩, hflag _⟩, ?_⟩, hflag _⟩
  all_goals decide +kernel

/-! ## The override in a log -/

namespace Profile

variable {profile : Profile}

/-- A resolution warns of the override once if it succeeds, and never if it is rejected. -/
theorem count_log (profile : Profile) :
    profile.resolve.2.count RuntimeConfig.forcedBarrierEntry
      = if profile.toggles.forceReadBarrier && profile.resolve.1.isOk then 1 else 0 := by
  have hlog : profile.resolve.2
      = profile.resolvingEntry :: RuntimeConfig.entries profile.resolve.1 := rfl
  have hlevel : ∀ entry : Log.Entry, entry.level ≠ .warn →
      (entry == RuntimeConfig.forcedBarrierEntry) = false := by
    intro entry hne
    exact beq_eq_false_iff_ne.2 fun h => hne (h ▸ rfl)
  have hresolving : profile.resolvingEntry.level ≠ .warn := nofun
  rw [hlog, List.count_cons, hlevel _ hresolving]
  cases hresolve : profile.resolve.1 with
  | error rejection =>
    have hrejected : (RuntimeConfig.rejectedEntry rejection).level ≠ .warn := nofun
    show List.count _ [RuntimeConfig.rejectedEntry rejection] + 0 = _
    rw [List.count_cons, hlevel _ hrejected, Bool.and_comm]
    rfl
  | ok config =>
    have htoggles : config.toggles = profile.toggles := RuntimeConfig.toggles_of_ofToggles hresolve
    have hresolved : (RuntimeConfig.resolvedEntry config.capabilities).level ≠ .warn := nofun
    show List.count _ ((if config.toggles.forceReadBarrier then [RuntimeConfig.forcedBarrierEntry]
      else []) ++ [RuntimeConfig.resolvedEntry config.capabilities]) + 0 = _
    rw [List.count_append, List.count_cons, hlevel _ hresolved, htoggles]
    cases profile.toggles.forceReadBarrier <;> simp [Except.isOk, Except.toBool]

theorem isLine_log (hname : Report.IsLine profile.name) :
    ∀ entry ∈ profile.resolve.2, Report.IsLine entry.line := by
  have hresolving : Report.IsLine profile.resolvingEntry.line := by
    apply Log.Entry.isLine_line
    simp only [resolvingEntry, Report.isLine_append]
    exact ⟨⟨by decide +kernel, hname⟩, by decide +kernel⟩
  intro entry hentry
  rcases List.mem_cons.1 (show entry ∈ profile.resolvingEntry
      :: RuntimeConfig.entries (RuntimeConfig.ofToggles profile.toggles) from hentry)
    with rfl | hentry
  · exact hresolving
  · cases hresolve : RuntimeConfig.ofToggles profile.toggles with
    | error rejection =>
      rw [hresolve, RuntimeConfig.entries, List.mem_singleton] at hentry
      exact hentry ▸ rejection.isLine_rejectedEntry
    | ok config =>
      rw [hresolve, RuntimeConfig.entries, List.mem_append, List.mem_singleton] at hentry
      rcases hentry with hforced | rfl
      · split at hforced
        · rw [List.mem_singleton.1 hforced]
          decide +kernel
        · cases hforced
      · exact config.capabilities.isLine_resolvedEntry

end Profile

namespace Invocation

variable {tree : FileTree} {directory project : Path} {manifest : Manifest} {name : String}
  {profile : Profile}

/-- Arguments that ask for what a profile resolves to. -/
def resolveArguments (name : String) (verbosity : Nat) : List String :=
  List.replicate verbosity "--verbose" ++ (Command.resolve (some name) false none).arguments

theorem read_resolveArguments (name : String) (verbosity : Nat) :
    Request.read (resolveArguments name verbosity)
      = some (.run verbosity (.resolve (some name) false none)) := by
  have hpossible : (Command.resolve (some name) false none).IsPossible := nofun
  exact Command.read_arguments hpossible verbosity

/-- The report of a resolution, which says why it is rejected. -/
def resolutionReport : Except Rejection RuntimeConfig → List String
  | .error rejection =>
    ["error: " ++ ((ConfigError.rejected rejection).message ++ ": " ++ rejection.message)]
  | .ok _ => []

theorem run_resolve_found
    (hmanifest : Manifest.find tree directory = .ok (some (manifest, project)))
    (hfind : Project.find tree (some project) name = .ok profile) :
    ((Command.resolve (some name) false none).run tree directory).log = profile.resolve.2
    ∧ ((Command.resolve (some name) false none).run tree directory).failureReport
      = Report.unlines (resolutionReport profile.resolve.1) := by
  have hconfiguration := Command.configuration_found hfind
  have hresolve : RuntimeConfig.ofToggles profile.toggles = profile.resolve.1 := rfl
  rw [Command.run_resolve hmanifest]
  show (Command.runResolve tree (some project) (some name) none).log = _
    ∧ (Command.runResolve tree (some project) (some name) none).failureReport = _
  rw [Command.runResolve, hconfiguration, hresolve]
  cases profile.resolve.1 with
  | error rejection => exact ⟨rfl, rfl⟩
  | ok config => exact ⟨rfl, rfl⟩

theorem shown_resolve (hmanifest : Manifest.find tree directory = .ok (some (manifest, project)))
    (hfind : Project.find tree (some project) name = .ok profile) (verbosity : Nat) :
    shown tree directory (resolveArguments name verbosity)
      = Log.shownAt verbosity profile.resolve.2 := by
  rw [shown, Invocation.verbosity, logged, read_resolveArguments]
  show Log.shownAt verbosity ((Command.resolve (some name) false none).run tree directory).log = _
  rw [(run_resolve_found hmanifest hfind).1]

/-- The standard error of a resolution is the lines of its log and then those of its report. -/
theorem stderr_resolve (hmanifest : Manifest.find tree directory = .ok (some (manifest, project)))
    (hfind : Project.find tree (some project) name = .ok profile) (verbosity : Nat) :
    (run tree directory (resolveArguments name verbosity)).stderr
      = Report.unlines ((Log.shownAt verbosity profile.resolve.2).map Log.Entry.line
        ++ resolutionReport profile.resolve.1) := by
  rw [stderr_eq (read_resolveArguments name verbosity), shown_resolve hmanifest hfind]
  show Log.text _ ++ ((Command.resolve (some name) false none).run tree directory).failureReport = _
  rw [(run_resolve_found hmanifest hfind).2, Log.text, Report.unlines_append]

/-- The log that a resolution shows warns of the override as often as the whole log does, since
warnings are shown at every verbosity. -/
theorem count_shownAt (profile : Profile) (verbosity : Nat) :
    (Log.shownAt verbosity profile.resolve.2).count RuntimeConfig.forcedBarrierEntry
      = if profile.toggles.forceReadBarrier && profile.resolve.1.isOk then 1 else 0 := by
  have hshown : RuntimeConfig.forcedBarrierEntry.isShownAt verbosity = true :=
    Log.Entry.isShownAt_of_urgent (.inr rfl) verbosity
  rw [Log.shownAt, List.count_filter hshown, profile.count_log]

/-- The line that warns of the override in a log. -/
def overrideLine : String :=
  "[WARN] `force-read-barrier` is transitional; compiler read barriers are emitted without a read barrier collector"

theorem count_overrideLine
    (hmanifest : Manifest.find tree directory = .ok (some (manifest, project)))
    (hfind : Project.find tree (some project) name = .ok profile)
    (hname : Report.IsLine profile.name) (verbosity : Nat) :
    (Report.lines (run tree directory (resolveArguments name verbosity)).stderr).count
        overrideLine.toList
      = if profile.toggles.forceReadBarrier && profile.resolve.1.isOk then 1 else 0 := by
  have hline : RuntimeConfig.forcedBarrierEntry.line = overrideLine := by decide
  have hreport : ∀ text ∈ resolutionReport profile.resolve.1,
      Report.IsLine text ∧ text ≠ overrideLine := by
    intro text htext
    cases hresolve : profile.resolve.1 with
    | ok config =>
      rw [hresolve] at htext
      cases htext
    | error rejection =>
      rw [hresolve] at htext
      rw [List.mem_singleton.1 htext]
      constructor
      · have hmessage := rejection.isLine_message
        show Report.IsLine
          ("error: "
            ++ ("invalid configuration: " ++ rejection.message ++ ": " ++ rejection.message))
        simp only [Report.isLine_append]
        exact ⟨by decide +kernel, ⟨⟨by decide +kernel, hmessage⟩, by decide +kernel⟩, hmessage⟩
      · -- one begins with a word, the other with a bracket
        intro hsame
        have hfirst := congrArg (fun text => text.toList.head?) hsame
        simp [overrideLine] at hfirst
  have hlines : ∀ text ∈ (Log.shownAt verbosity profile.resolve.2).map Log.Entry.line
      ++ resolutionReport profile.resolve.1, Report.IsLine text := by
    intro text htext
    rcases List.mem_append.1 htext with htext | htext
    · obtain ⟨entry, hentry, rfl⟩ := List.mem_map.1 htext
      exact Profile.isLine_log hname entry (List.mem_filter.1 hentry).1
    · exact (hreport text htext).1
  have hnone : (resolutionReport profile.resolve.1).count overrideLine = 0 :=
    List.count_eq_zero.2 fun hmem => (hreport _ hmem).2 rfl
  rw [stderr_resolve hmanifest hfind, Report.count_lines_unlines hlines (by decide),
    List.count_append, hnone, ← hline,
    List.count_map_of_injective _ _ Log.Entry.line_injective, count_shownAt]
  rfl

/-! ## The override in a validation -/

variable {validation : Invocation}

/-- Validation shows exactly the issues of a profile. -/
theorem issueLine_mem_lines_iff (h : Validates tree project name validation)
    (hfind : Project.find tree (some project) name = .ok profile)
    (hname : Report.IsLine profile.name) {issue : Issue} :
    (Command.issueLine issue).toList ∈ Report.lines validation.stdout ↔ issue ∈ profile.issues := by
  have hindent : ∀ text : String, [' ', ' '].isPrefixOf text.toList = false →
      Command.issueLine issue ≠ text := by
    intro text htext hsame
    rw [← hsame, Command.isPrefixOf_issueLine] at htext
    cases htext
  have hshown : ∀ verdict : List String,
      (∀ text ∈ verdict, Report.IsLine text ∧ [' ', ' '].isPrefixOf text.toList = false) →
      ((Command.issueLine issue).toList
          ∈ Report.lines (Report.unlines (profile.issues.map Command.issueLine ++ verdict))
        ↔ issue ∈ profile.issues) := by
    intro verdict hverdict
    have hlines : ∀ text ∈ profile.issues.map Command.issueLine ++ verdict, Report.IsLine text := by
      intro text htext
      rcases List.mem_append.1 htext with htext | htext
      · obtain ⟨other, hother, rfl⟩ := List.mem_map.1 htext
        exact Command.isLine_issueLine (Profile.isLine_message hname other hother)
      · exact (hverdict text htext).1
    have hnot : Command.issueLine issue ∉ verdict :=
      fun hmem => hindent _ (hverdict _ hmem).2 rfl
    rw [Report.mem_lines_unlines hlines (hindent "" rfl), List.mem_append, or_iff_left hnot,
      List.mem_map_of_injective Command.issueLine_injective]
  by_cases hissues : profile.issues = []
  · have hverdict :=
      hshown _ (verdict_facts hname (show Report.IsLine "' is valid" by decide +kernel))
    rw [hissues] at hverdict
    rw [(h.valid profile hfind hissues).2, hissues]
    exact hverdict
  · cases h.issues profile hfind hissues with
    | failed _ hstdout =>
      have hnone := hshown [] nofun
      rw [List.append_nil] at hnone
      rw [hstdout, hnone]
    | passed _ hstdout =>
      rw [hstdout]
      exact hshown _ (verdict_facts hname
        (show Report.IsLine "' is valid with warnings" by decide +kernel))

/-- The line that warns of the override in a validation. -/
def overrideIssueLine : String :=
  "  warning: force-read-barrier is transitional and will be removed; select a read barrier instead"

theorem overrideIssueLine_mem_lines_iff (h : Validates tree project name validation)
    (hfind : Project.find tree (some project) name = .ok profile)
    (hname : Report.IsLine profile.name) :
    overrideIssueLine.toList ∈ Report.lines validation.stdout
      ↔ profile.toggles.forceReadBarrier = true := by
  have hline : Command.issueLine (Objection.forcedBarrier.issue profile.name)
      = overrideIssueLine := by
    show Command.issueLine (Objection.forcedBarrier.issue "") = _
    decide
  rw [← hline, issueLine_mem_lines_iff h hfind hname, Profile.warning_mem_issues_iff (.inl rfl)]
  rfl

/-! ## Whether they agree -/

/-- `resolve` warns of the override once or never, once exactly if validation does. -/
def OverrideAgrees (tree : FileTree) (directory : Path) (name : String) (verbosity detail : Nat) :
    Prop :=
  (Report.lines (run tree directory (resolveArguments name verbosity)).stderr).count
      overrideLine.toList
    = if overrideIssueLine.toList ∈ Report.lines (validate tree directory name detail).stdout then 1
      else 0

theorem overrideAgrees_iff
    (hmanifest : Manifest.find tree directory = .ok (some (manifest, project)))
    (hfind : Project.find tree (some project) name = .ok profile)
    (hname : Report.IsLine profile.name) (verbosity detail : Nat) :
    OverrideAgrees tree directory name verbosity detail
      ↔ (profile.toggles.forceReadBarrier = true → ∃ config, profile.resolve.1 = .ok config) := by
  have hvalidation := validates hmanifest name detail
  rw [OverrideAgrees, count_overrideLine hmanifest hfind hname]
  simp only [overrideIssueLine_mem_lines_iff hvalidation hfind hname]
  cases profile.toggles.forceReadBarrier with
  | false => simp
  | true => cases profile.resolve.1 <;> simp [Except.isOk, Except.toBool]

/-- **Where the override is warned of.** Around a manifest, for a profile that is found: validation
always lists the warning if the override is set, whatever else it lists. What a resolution shows of
its log has the warning once if the override is set and the profile resolves, and never otherwise.
So the two agree exactly if the profile resolves or the override is not set; in terms of lines, this
takes a name that does not break them. -/
theorem override_warned
    (hmanifest : Manifest.find tree directory = .ok (some (manifest, project)))
    (hfind : Project.find tree (some project) name = .ok profile) (verbosity detail : Nat) :
    (Profile.forcedBarrierIssue ∈ profile.issues ↔ profile.toggles.forceReadBarrier = true)
    ∧ (profile.toggles.forceReadBarrier = true →
      profile.IsValidatedBy (validate tree directory name detail))
    ∧ ((shown tree directory (resolveArguments name verbosity)).count
        RuntimeConfig.forcedBarrierEntry
      = if profile.toggles.forceReadBarrier && profile.resolve.1.isOk then 1 else 0)
    ∧ (Report.IsLine profile.name →
      (overrideIssueLine.toList ∈ Report.lines (validate tree directory name detail).stdout
        ↔ profile.toggles.forceReadBarrier = true)
      ∧ (Report.lines (run tree directory (resolveArguments name verbosity)).stderr).count
          overrideLine.toList
        = (if profile.toggles.forceReadBarrier && profile.resolve.1.isOk then 1 else 0)
      ∧ (OverrideAgrees tree directory name verbosity detail
        ↔ (profile.toggles.forceReadBarrier = true →
          ∃ config, profile.resolve.1 = .ok config))) := by
  have hvalidation := validates hmanifest name detail
  have hissue : Profile.forcedBarrierIssue ∈ profile.issues
      ↔ profile.toggles.forceReadBarrier = true := Profile.warning_mem_issues_iff (.inl rfl)
  refine ⟨hissue, fun hforced => ?_, ?_, fun hname => ⟨?_, ?_, ?_⟩⟩
  · exact hvalidation.issues profile hfind (List.ne_nil_of_mem (hissue.2 hforced))
  · rw [shown_resolve hmanifest hfind, count_shownAt]
  · exact overrideIssueLine_mem_lines_iff hvalidation hfind hname
  · exact count_overrideLine hmanifest hfind hname verbosity
  · exact overrideAgrees_iff hmanifest hfind hname verbosity detail

end Invocation

/-- A tree with an empty manifest and two profiles that set the override, of which the second
describes no build. -/
def FileTree.overridingProfiles : FileTree :=
  ⟨"", [([Manifest.fileName], .file ⟨#[]⟩), (["profiles"], .directory),
    (["profiles", "kept.profile.toml"],
      .file "name = \"kept\"\n[toggles]\nforce-read-barrier = true\n".toUTF8),
    (["profiles", "forced.profile.toml"],
      .file
        "name = \"forced\"\n[toggles]\ndevice-target = true\nforce-read-barrier = true\n".toUTF8)],
    (((IsTree.nil.concat (by simp) (by simp) (.inl rfl)).concat (by simp [Manifest.fileName])
      (by simp) (.inl rfl)).concat (by simp) (by simp) (.inr (by simp))).concat (by simp) (by simp)
      (.inr (by simp))⟩

theorem Manifest.find_overridingProfiles :
    Manifest.find .overridingProfiles [] = .ok (some (⟨none, false⟩, [])) := by
  decide +kernel

theorem Project.find_kept : Project.find .overridingProfiles (some []) "kept"
    = .ok ⟨"kept", "", { ToggleSet.host with forceReadBarrier := true }⟩ := by
  rw [find_eq, if_pos (by rfl)]
  decide +kernel

theorem Project.find_forced : Project.find .overridingProfiles (some []) "forced"
    = .ok ⟨"forced", "",
        { ToggleSet.host with deviceTarget := true, forceReadBarrier := true }⟩ := by
  rw [find_eq, if_pos (by rfl)]
  decide +kernel

/-- The warning about the override of a profile that resolves is in the log and in the
validation. -/
theorem Invocation.override_warned_kept :
    (shown .overridingProfiles [] (resolveArguments "kept" 0)).count
        RuntimeConfig.forcedBarrierEntry = 1
    ∧ OverrideAgrees .overridingProfiles [] "kept" 0 0 := by
  obtain ⟨-, -, hlog, hlines⟩ :=
    override_warned Manifest.find_overridingProfiles Project.find_kept 0 0
  obtain ⟨-, -, hagrees⟩ := hlines (by decide)
  exact ⟨hlog, hagrees.2 fun _ => ⟨_, rfl⟩⟩

/-- The two do not agree on the override of a profile that is rejected. -/
theorem Invocation.not_overrideAgrees :
    ¬ ∀ (tree : FileTree) (directory project : Path) (manifest : Manifest) (name : String)
      (profile : Profile), Manifest.find tree directory = .ok (some (manifest, project)) →
      Project.find tree (some project) name = .ok profile →
      ∀ verbosity detail, OverrideAgrees tree directory name verbosity detail := by
  intro h
  have hagrees := h _ _ _ _ _ _ Manifest.find_overridingProfiles Project.find_forced 0 0
  obtain ⟨config, hconfig⟩ :=
    (overrideAgrees_iff Manifest.find_overridingProfiles Project.find_forced (by decide) 0 0).1
      hagrees rfl
  cases hconfig

end RuntimeProfiles
