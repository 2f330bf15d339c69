import RuntimeProfiles.Data.Fault
import RuntimeProfiles.FileTree
import RuntimeProfiles.Profile.Name
import RuntimeProfiles.Toggle.Rejection

/-!
# Errors

Every reason for which a profile or a configuration cannot be had. An error may have a cause of its
own, and reports give both.
-/

namespace RuntimeProfiles

/-- Reports abridge the diagnosis of a TOML text to this mark: where and how the text is at fault
concerns its author and not the report. -/
def tomlDiagnosis : String := "<toml>"

/-- Why a profile or a configuration cannot be had. -/
inductive ConfigError where
  /-- The toggles describe no build. -/
  | rejected (rejection : Rejection)
  /-- The text of a profile is not TOML, or does not hold a profile. -/
  | unreadable (fault : Fault)
  /-- The file of a profile cannot be read. -/
  | file (fault : FileFault)
  /-- There is no file at a path. -/
  | missingFile (path : String)
  | invalidName (name : String) (fault : NameFault)
  /-- No profile has the name. -/
  | unknownProfile (name : String)
  /-- The process has fixed its configuration before. -/
  | alreadyInstalled (active : String)
deriving DecidableEq, Repr

namespace ConfigError

/-- The text of an error. -/
def message : ConfigError → String
  | .rejected rejection => "invalid configuration: " ++ rejection.message
  | .unreadable _ => "TOML parse error: " ++ tomlDiagnosis
  | .file fault => "I/O error: " ++ fault.message
  | .missingFile path => "profile file not found: " ++ path
  | .invalidName name fault => "invalid profile name '" ++ name ++ "': " ++ fault.reason
  | .unknownProfile name => "unknown build profile: '" ++ name ++ "'"
  | .alreadyInstalled active =>
    "runtime configuration already installed (active profile: '" ++ active ++ "')"

/-- The text of an error and then that of its cause. A diagnosis closes a report, so a cause that is
one is not given again. -/
def chain : ConfigError → List String
  | error@(.rejected rejection) => [error.message, rejection.message]
  | error@(.file fault) => [error.message, fault.message]
  | error => [error.message]

end ConfigError

end RuntimeProfiles
