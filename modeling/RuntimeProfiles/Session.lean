import RuntimeProfiles.Build
import RuntimeProfiles.Error

/-!
# The configuration of a process

A process fixes its configuration once: either by installing one, or by asking for the active one,
which then is the compiled-in configuration for good. A `Session` is the state of that choice. The
compiled-in configuration is that of the standard build here (`Build.standard`): no features, and
assertions on.
-/

namespace RuntimeProfiles

/-- A configuration together with where it came from. -/
structure Installed where
  source : String
  config : RuntimeConfig
deriving DecidableEq, Repr

/-- The choice of a process, if it has been made. -/
structure Session where
  installed : Option Installed
deriving DecidableEq, Repr

namespace Session

/-- A process that has just started. -/
def fresh : Session := ⟨none⟩

/-- The source under which the compiled-in configuration is known. -/
def buildSource : String := "<build>"

/-- The compiled-in configuration as a choice. It is that of the standard build. -/
def compiledIn : Installed := ⟨buildSource, Build.standardConfig⟩

/-- Where the active configuration came from, if it is fixed. -/
def source? (session : Session) : Option String := session.installed.map (·.source)

/-- The active configuration, which this fixes if nothing has been installed. -/
def active (session : Session) : RuntimeConfig × Session :=
  let chosen := session.installed.getD compiledIn
  (chosen.config, ⟨some chosen⟩)

/-- The entry about an installed configuration. -/
def installedEntry (installed : Installed) : Log.Entry :=
  ⟨.info, "installed runtime configuration from '" ++ installed.source ++ "' ("
    ++ installed.config.capabilities.platform.name ++ ")"⟩

/-- Fixes the configuration of the process, unless it is fixed already. -/
def install (session : Session) (source : String) (config : RuntimeConfig) :
    Except ConfigError RuntimeConfig × Session × List Log.Entry :=
  match session.installed with
  | some first => (.error (.alreadyInstalled first.source), session, [])
  | none => (.ok config, ⟨some ⟨source, config⟩⟩, [installedEntry ⟨source, config⟩])

end Session

end RuntimeProfiles
