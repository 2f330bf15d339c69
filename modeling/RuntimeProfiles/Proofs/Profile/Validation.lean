import Mathlib.Data.List.Basic
import RuntimeProfiles.Profile.Validation
import RuntimeProfiles.Proofs.Config.Consistency

/-!
# What validation objects to

An `Objection` is one thing that there can be to say against a profile. Whether it applies is said
in terms of the name check and of resolution, not of validation. A validation walks through four
places, one for each kind of objection, and whatever applies is found at its own place:

* **`Profile.objectionAt_eq_some_iff`** — what is found at a place;
* **`Profile.issues_eq`** — the issues are the objections from all places, put into words;
* **`Profile.mem_objections_iff`**, **`Profile.pairwise_objections`** — these are the objections
  that apply, in their order;
* **`Profile.hasErrors_iff`** — a profile has errors exactly if its name is rejected or it does not
  resolve;
* **`Profile.emits_of_not_warned`**, **`Profile.compacts_of_not_warned`** — a profile without a
  warning resolves to what it asks for.
-/

namespace RuntimeProfiles

/-- Something that there can be to say against a profile. -/
inductive Objection where
  | name (fault : NameFault)
  | toggles (rejection : Rejection)
  /-- The transitional override is set. -/
  | forcedBarrier
  /-- Mark-compact is asked for, but the collector moves nothing. -/
  | idleMarkCompact
deriving DecidableEq

namespace Objection

/-- The issue that a validation makes of an objection to a profile of a given name. -/
def issue (name : String) : Objection → Issue
  | .name fault => ⟨.error, "invalid profile name '" ++ name ++ "': " ++ fault.reason⟩
  | .toggles rejection => ⟨.error, rejection.message⟩
  | .forcedBarrier =>
    ⟨.warning,
      "force-read-barrier is transitional and will be removed; select a read barrier instead"⟩
  | .idleMarkCompact =>
    ⟨.warning, "mark-compact requested without moving-collector; it resolves to unsupported"⟩

/-- The place of an objection in a validation. -/
def place : Objection → Nat
  | .name _ => 0
  | .toggles _ => 1
  | .forcedBarrier => 2
  | .idleMarkCompact => 3

theorem place_lt (objection : Objection) : objection.place < 4 := by
  cases objection <;> simp [place]

/-- There is such an objection to a profile. -/
def Applies (profile : Profile) : Objection → Prop
  | .name fault => ProfileName.fault? profile.name = some fault
  | .toggles rejection => profile.resolve.1 = .error rejection
  | .forcedBarrier => profile.toggles.forceReadBarrier = true
  | .idleMarkCompact =>
    profile.toggles.markCompact = true ∧ profile.toggles.movingCollector = false

/-- An objection is an error if it is one to the name or to the toggles. -/
theorem severity_issue_eq_error_iff {objection : Objection} {name : String} :
    (objection.issue name).severity = .error
      ↔ (∃ fault, objection = .name fault) ∨ ∃ rejection, objection = .toggles rejection := by
  cases objection <;> simp [issue]

end Objection

namespace Profile

variable {profile : Profile}

/-! ## The places of a validation -/

/-- What a validation finds at a place. -/
def objectionAt (profile : Profile) : (place : Nat) → Option Objection
  | 0 => (ProfileName.fault? profile.name).map .name
  | 1 =>
    match profile.resolve.1 with
    | .error rejection => some (.toggles rejection)
    | .ok _ => none
  | 2 => if profile.toggles.forceReadBarrier then some .forcedBarrier else none
  | 3 =>
    if profile.toggles.markCompact && !profile.toggles.movingCollector then some .idleMarkCompact
    else none
  | _ => none

/-- All objections to a profile. -/
def objections (profile : Profile) : List Objection := (List.range 4).filterMap profile.objectionAt

theorem objectionAt_eq_some_iff {place : Nat} {objection : Objection} :
    profile.objectionAt place = some objection
      ↔ objection.place = place ∧ objection.Applies profile := by
  match place with
  | 0 => cases objection <;> simp [objectionAt, Objection.place, Objection.Applies]
  | 1 =>
    unfold objectionAt
    cases objection <;> cases hresolve : profile.resolve.1 <;>
      simp [Objection.place, Objection.Applies, hresolve]
  | 2 => cases objection <;> simp [objectionAt, Objection.place, Objection.Applies]
  | 3 => cases objection <;> simp [objectionAt, Objection.place, Objection.Applies]
  | place + 4 =>
    have hnone : profile.objectionAt (place + 4) = none := rfl
    have hplace := objection.place_lt
    rw [hnone]
    refine iff_of_false nofun fun h => ?_
    omega

theorem mem_objections_iff {objection : Objection} :
    objection ∈ profile.objections ↔ objection.Applies profile := by
  simp only [objections, List.mem_filterMap, List.mem_range, objectionAt_eq_some_iff]
  constructor
  · rintro ⟨place, -, -, happlies⟩
    exact happlies
  · intro happlies
    exact ⟨objection.place, objection.place_lt, rfl, happlies⟩

/-- There is one objection of a kind at most, and the kinds follow each other. -/
theorem pairwise_objections (profile : Profile) :
    profile.objections.Pairwise fun first second => first.place < second.place := by
  apply List.pairwise_filterMap.2
  refine List.pairwise_lt_range.imp fun {first second} hlt objection hfirst other hsecond => ?_
  rw [(objectionAt_eq_some_iff.1 hfirst).1, (objectionAt_eq_some_iff.1 hsecond).1]
  exact hlt

/-! ## The issues -/

theorem nameIssues_eq (profile : Profile) :
    profile.nameIssues = (profile.objectionAt 0).toList.map (·.issue profile.name) := by
  rw [nameIssues, objectionAt]
  cases ProfileName.fault? profile.name <;> rfl

theorem toggleIssues_eq (profile : Profile) :
    profile.toggleIssues = (profile.objectionAt 1).toList.map (·.issue profile.name) := by
  have hresolve : RuntimeConfig.ofToggles profile.toggles = profile.resolve.1 := rfl
  rw [toggleIssues, objectionAt, hresolve]
  cases profile.resolve.1 <;> rfl

theorem issues_eq (profile : Profile) :
    profile.issues = profile.objections.map (·.issue profile.name) := by
  have hforced : (if profile.toggles.forceReadBarrier then [forcedBarrierIssue] else [])
      = (profile.objectionAt 2).toList.map (·.issue profile.name) := by
    rw [objectionAt]
    cases profile.toggles.forceReadBarrier <;> rfl
  have hidle : (if profile.toggles.markCompact && !profile.toggles.movingCollector
        then [markCompactIssue] else [])
      = (profile.objectionAt 3).toList.map (·.issue profile.name) := by
    rw [objectionAt]
    cases profile.toggles.markCompact && !profile.toggles.movingCollector <;> rfl
  have hplaces : profile.objections = (profile.objectionAt 0).toList
      ++ (profile.objectionAt 1).toList ++ (profile.objectionAt 2).toList
      ++ (profile.objectionAt 3).toList := by
    have hrange : List.range 4 = [0, 1, 2, 3] := rfl
    rw [objections, hrange, List.filterMap_eq_flatMap_toList]
    simp
  rw [issues, nameIssues_eq, toggleIssues_eq, hforced, hidle, hplaces, List.map_append,
    List.map_append, List.map_append]

theorem issues_eq_nil_iff :
    profile.issues = [] ↔ ∀ objection : Objection, ¬ objection.Applies profile := by
  rw [issues_eq, List.map_eq_nil_iff, List.eq_nil_iff_forall_not_mem]
  simp only [mem_objections_iff]

/-- A profile has errors exactly if its name is rejected or it does not resolve. -/
theorem hasErrors_iff : hasErrors profile.issues = true
    ↔ (∃ fault, ProfileName.fault? profile.name = some fault)
      ∨ ∃ rejection, profile.resolve.1 = .error rejection := by
  rw [hasErrors, List.any_eq_true, issues_eq]
  constructor
  · rintro ⟨issue, hissue, hseverity⟩
    obtain ⟨objection, hobjection, rfl⟩ := List.mem_map.1 hissue
    have happlies := mem_objections_iff.1 hobjection
    rcases Objection.severity_issue_eq_error_iff.1 (eq_of_beq hseverity) with
      ⟨fault, rfl⟩ | ⟨rejection, rfl⟩
    · exact .inl ⟨fault, happlies⟩
    · exact .inr ⟨rejection, happlies⟩
  · have herror : ∀ objection : Objection, objection.Applies profile →
        (objection.issue profile.name).severity = .error →
        ∃ issue ∈ profile.objections.map (·.issue profile.name),
          (issue.severity == .error) = true := by
      intro objection happlies hseverity
      have hmem := mem_objections_iff.2 happlies
      exact ⟨_, List.mem_map_of_mem hmem, beq_iff_eq.2 hseverity⟩
    rintro (⟨fault, hfault⟩ | ⟨rejection, hrejection⟩)
    · exact herror (.name fault) hfault rfl
    · exact herror (.toggles rejection) hrejection rfl

/-- The errors of a profile are those of its name and those of its toggles. -/
theorem hasErrors_issues_iff : hasErrors profile.issues = false
    ↔ ProfileName.fault? profile.name = none
      ∧ ∃ config, RuntimeConfig.ofToggles profile.toggles = .ok config := by
  rw [← Bool.not_eq_true, hasErrors_iff, not_or]
  apply and_congr
  · cases ProfileName.fault? profile.name <;> simp
  · show ¬ (∃ rejection, RuntimeConfig.ofToggles profile.toggles = .error rejection) ↔ _
    cases RuntimeConfig.ofToggles profile.toggles <;> simp

/-! ## What the absence of a warning promises -/

/-- A warning is shown exactly if it applies: no two objections share a warning. -/
theorem warning_mem_issues_iff {warning : Objection}
    (h : warning = .forcedBarrier ∨ warning = .idleMarkCompact) :
    warning.issue profile.name ∈ profile.issues ↔ warning.Applies profile := by
  rw [issues_eq, List.mem_map]
  constructor
  · rintro ⟨objection, hobjection, hsame⟩
    have heq : objection = warning := by
      rcases h with rfl | rfl <;> cases objection <;> simp [Objection.issue] at hsame ⊢
    exact heq ▸ mem_objections_iff.1 hobjection
  · intro happlies
    exact ⟨warning, mem_objections_iff.2 happlies, rfl⟩

/-- Without the warning about the override, the compiler emits read barriers only for a read
barrier. -/
theorem emits_of_not_warned {config : RuntimeConfig} (hconfig : profile.resolve.1 = .ok config)
    (hnone : Objection.forcedBarrier.issue profile.name ∉ profile.issues) :
    config.capabilities.emitCompilerReadBarrier = config.capabilities.useReadBarrier := by
  rw [warning_mem_issues_iff (.inl rfl)] at hnone
  obtain ⟨platform, -, -, rfl⟩ := RuntimeConfig.ofToggles_eq_ok_iff.1 hconfig
  show (profile.toggles.forceReadBarrier || profile.toggles.readBarrier.isActive)
    = profile.toggles.readBarrier.isActive
  rw [Bool.eq_false_iff.2 hnone, Bool.false_or]

/-- Without the warning about mark-compact, a profile gets the support that it asks for. -/
theorem compacts_of_not_warned {config : RuntimeConfig} (hconfig : profile.resolve.1 = .ok config)
    (hnone : Objection.idleMarkCompact.issue profile.name ∉ profile.issues) :
    config.capabilities.markCompactSupport = profile.toggles.markCompact := by
  rw [warning_mem_issues_iff (.inr rfl), Objection.Applies, not_and, Bool.not_eq_false] at hnone
  obtain ⟨platform, -, -, rfl⟩ := RuntimeConfig.ofToggles_eq_ok_iff.1 hconfig
  show (profile.toggles.markCompact && profile.toggles.movingCollector)
    = profile.toggles.markCompact
  exact Bool.and_eq_left_iff_imp.2 hnone

end Profile

end RuntimeProfiles
