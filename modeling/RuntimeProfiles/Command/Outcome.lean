import RuntimeProfiles.Command.Offset
import RuntimeProfiles.Project.Manifest

/-!
# Outcomes of commands

What a command leaves behind: the text on the standard output, its log, the reason for which it
failed, if it did, and the file tree. What is shown on the standard error follows from the log, the
failure and the verbosity (`Outcome.stderr`).
-/

namespace RuntimeProfiles

/-- Why a command fails. -/
inductive Failure where
  | config (error : ConfigError)
  | manifest (error : Manifest.LoadError)
  /-- There is a manifest already. -/
  | manifestExists (path : String)
  /-- No built-in profile has the name. -/
  | unknownBuiltin (name : String)
  /-- A format that the command does not write; `known` are those that it does. -/
  | unknownFormat (format known : String)
  /-- There is a file of that name already. -/
  | profileExists (path : String)
  /-- The profile has issues that keep it from being valid. -/
  | invalidProfile (name : String) (issues : Nat)
  /-- A file operation failed in the middle of an activity. -/
  | file (activity : String) (fault : FileFault)
  | offset (text : String) (fault : OffsetFault)
deriving DecidableEq, Repr

namespace Manifest.LoadError

/-- What was being done, and why it failed. -/
def chain : Manifest.LoadError → List String
  | .reading path fault => ["reading " ++ path, fault.message]
  | .parsing path _ => ["parsing " ++ path, tomlDiagnosis]

end Manifest.LoadError

namespace Failure

/-- The text of a failure, and then those of its causes. -/
def chain : Failure → List String
  | .config error => error.chain
  | .manifest error => error.chain
  | .manifestExists path => ["'" ++ path ++ "' already exists"]
  | .unknownBuiltin name =>
    ["unknown built-in profile: '" ++ name
      ++ "'. Use 'memcaps profile list' to see available profiles."]
  | .unknownFormat format known =>
    ["unknown format '" ++ format ++ "' (expected " ++ known ++ ")"]
  | .profileExists path => ["profile '" ++ path ++ "' already exists"]
  | .invalidProfile name issues =>
    ["profile '" ++ name ++ "' failed validation (" ++ toString issues ++ " issue(s))"]
  | .file activity fault => [activity, fault.message]
  | .offset text fault => ["invalid offset '" ++ text ++ "'", fault.message]

/-- Whether a report of the failure ends with a diagnosis. -/
def endsWithDiagnosis : Failure → Bool
  | .config (.unreadable _) | .manifest (.parsing _ _) => true
  | _ => false

/-- The rest of a line about a failure. A diagnosis closes a report, and nothing follows it. -/
def report (failure : Failure) : String :=
  ": ".intercalate failure.chain ++ if failure.endsWithDiagnosis then "" else "\n"

end Failure

/-- What a command leaves behind. -/
structure Outcome where
  stdout : String
  log : List Log.Entry
  failure : Option Failure
  tree : FileTree

namespace Outcome

/-- Zero if the command succeeded. -/
def status (outcome : Outcome) : Nat := if outcome.failure.isSome then 1 else 0

/-- The log lines that are shown. -/
def shownLog (outcome : Outcome) (verbosity : Nat) : List String :=
  (outcome.log.filter (·.isShownAt verbosity)).map (·.line ++ "\n")

/-- The report of the failure. -/
def failureReport (outcome : Outcome) : String :=
  match outcome.failure with
  | some failure => "error: " ++ failure.report
  | none => ""

/-- The text on the standard error: the log lines that are shown, and then why the command
failed. -/
def stderr (outcome : Outcome) (verbosity : Nat) : String :=
  String.join (outcome.shownLog verbosity) ++ outcome.failureReport

/-- A command that failed without a trace. -/
def failed (tree : FileTree) (failure : Failure) : Outcome := ⟨"", [], some failure, tree⟩

/-- A command that printed something. -/
def printed (tree : FileTree) (stdout : String) : Outcome := ⟨stdout, [], none, tree⟩

end Outcome

end RuntimeProfiles
