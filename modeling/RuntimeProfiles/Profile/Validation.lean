import RuntimeProfiles.Profile

/-!
# Validation of profiles

`Profile.issues` lists everything there is to say against a profile: at most one error about its
name and one about its toggles, and then warnings about switches that do not do what they promise.
-/

namespace RuntimeProfiles

/-- How bad an issue is. Only errors keep a profile from being used. -/
inductive Severity where
  | error
  | warning
deriving DecidableEq, Repr

def Severity.name : Severity → String
  | .error => "error"
  | .warning => "warning"

/-- Something to say against a profile. -/
structure Issue where
  severity : Severity
  message : String
deriving DecidableEq, Repr

namespace Profile

/-- The error about a name that is none. -/
def nameIssues (profile : Profile) : List Issue :=
  match ProfileName.fault? profile.name with
  | some fault => [⟨.error, (ConfigError.invalidName profile.name fault).message⟩]
  | none => []

/-- The error about toggles that describe no build. -/
def toggleIssues (profile : Profile) : List Issue :=
  match RuntimeConfig.ofToggles profile.toggles with
  | .error rejection => [⟨.error, rejection.message⟩]
  | .ok _ => []

/-- The warning about the transitional override. -/
def forcedBarrierIssue : Issue :=
  ⟨.warning, Toggle.forceReadBarrier.key
    ++ " is transitional and will be removed; select a read barrier instead"⟩

/-- The warning about a request that a collector without moving objects cannot meet. -/
def markCompactIssue : Issue :=
  ⟨.warning, Toggle.markCompact.key ++ " requested without " ++ Toggle.movingCollector.key
    ++ "; it resolves to unsupported"⟩

/-- Everything there is to say against a profile; a profile without issues is valid. -/
def issues (profile : Profile) : List Issue :=
  profile.nameIssues ++ profile.toggleIssues
    ++ (if profile.toggles.forceReadBarrier then [forcedBarrierIssue] else [])
    ++ (if profile.toggles.markCompact && !profile.toggles.movingCollector then [markCompactIssue]
      else [])

/-- Whether there are errors among issues. -/
def hasErrors (issues : List Issue) : Bool := issues.any (·.severity == .error)

end Profile

end RuntimeProfiles
