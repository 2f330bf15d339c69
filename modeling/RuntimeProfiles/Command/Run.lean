import RuntimeProfiles.Command
import RuntimeProfiles.Command.Outcome
import RuntimeProfiles.Command.Report
import RuntimeProfiles.Session

/-!
# Running commands

`Command.run` says what a command does in a directory of a file tree. Commands on profiles work on
the project around that directory, or on the directory itself where there is no manifest; `resolve`
knows only built-in profiles there.
-/

namespace RuntimeProfiles

/-- The version of the program. -/
def version : String := "0.1.0"

namespace Command

/-- Makes a directory a project. -/
def runInit (tree : FileTree) (directory : Path) (defaultProfile : String) : Outcome :=
  let path := directory ++ [Manifest.fileName]
  if tree.contains path then .failed tree (.manifestExists (tree.display path))
  else if (Profile.builtin? defaultProfile).isNone then
    .failed tree (.unknownBuiltin defaultProfile)
  else
    match tree.ensureDirectory (Project.profilesDirectory directory) with
    | .error fault => .failed tree (.file "creating profiles/ directory" fault)
    | .ok made =>
      match made.writeFile path (Manifest.template defaultProfile).toUTF8 with
      | .error fault => .failed made (.file ("writing " ++ tree.display path) fault)
      | .ok written =>
        .printed written (Report.unlines
          ["Created " ++ tree.display path, "  default profile: " ++ defaultProfile, "  profiles/"])

/-- Lists the built-in profiles and those of a project. -/
def runList (tree : FileTree) (project : Path) : Outcome :=
  let builtins := Profile.builtins.map fun profile => Report.listed profile.name profile.description
  let discovered := (Project.discover tree project).map fun (name, path) =>
    Report.listed name (tree.display path)
  .printed tree (Report.unlines
    (["Built-in profiles:", ""] ++ builtins
      ++ (if discovered.isEmpty then [] else ["", "Project profiles:", ""] ++ discovered)
      ++ ["", "Use 'memcaps profile describe <name>' for details."]))

/-- Shows the toggles of a profile. -/
def runDescribe (tree : FileTree) (project : Path) (name : String) (format : Option String) :
    Outcome :=
  match Project.find tree (some project) name with
  | .error error => .failed tree (.config error)
  | .ok profile =>
    match format with
    | none | some "human" => .printed tree (Report.unlines (Report.profile profile))
    | some "toml" => .printed tree profile.toToml
    | some "json" => .printed tree (Report.unlines [profile.toJson])
    | some other => .failed tree (.unknownFormat other "human, toml, or json")

/-- The line about an issue. -/
def issueLine (issue : Issue) : String := "  " ++ issue.severity.name ++ ": " ++ issue.message

/-- Says what there is to say against a profile. -/
def runValidate (tree : FileTree) (project : Path) (denyWarnings : Bool) (name : String) :
    Outcome :=
  match Project.find tree (some project) name with
  | .error error => .failed tree (.config error)
  | .ok profile =>
    let issues := profile.issues
    if issues.isEmpty then
      .printed tree (Report.unlines ["profile '" ++ profile.name ++ "' is valid"])
    else if Profile.hasErrors issues || denyWarnings then
      ⟨Report.unlines (issues.map issueLine), [],
        some (.invalidProfile profile.name issues.length), tree⟩
    else
      .printed tree (Report.unlines
        (issues.map issueLine ++ ["profile '" ++ profile.name ++ "' is valid with warnings"]))

/-- Adds a profile to a project. -/
def runNew (tree : FileTree) (project : Path) (name : String) : Outcome :=
  match Project.profilePath project name with
  | .error error => .failed tree (.config error)
  | .ok path =>
    let directory := Project.profilesDirectory project
    if tree.contains path then .failed tree (.profileExists (tree.display path))
    else
      match tree.ensureDirectory directory with
      | .error fault => .failed tree (.file ("creating " ++ tree.display directory) fault)
      | .ok made =>
        match made.writeFile path (Profile.blank name).toToml.toUTF8 with
        | .error fault => .failed made (.file ("writing " ++ tree.display path) fault)
        | .ok written => .printed written (Report.unlines ["Created " ++ tree.display path])

/-- The configuration of a profile, or the compiled-in one if no profile is named, with the source
under which it is shown and the log of its resolution. What is compiled in is the standard build. -/
def configuration (tree : FileTree) (project : Option Path) (profile : Option String) :
    Except ConfigError (String × RuntimeConfig) × List Log.Entry :=
  match profile with
  | none => (.ok (Session.buildSource, Build.standardConfig), [])
  | some name =>
    match Project.find tree project name with
    | .error error => (.error error, [])
    | .ok found =>
      let (result, log) := found.resolve
      ((result.mapError .rejected).map fun config => (name, config), log)

/-- Shows a configuration. -/
def runResolve (tree : FileTree) (project : Option Path) (profile : Option String)
    (format : Option String) : Outcome :=
  match configuration tree project profile with
  | (.error error, log) => ⟨"", log, some (.config error), tree⟩
  | (.ok (source, config), log) =>
    match format with
    | none | some "human" =>
      ⟨Report.unlines (Report.capabilities source config.capabilities), log, none, tree⟩
    | some "json" =>
      ⟨Report.unlines [Json.write (RuntimeConfig.codec.encode config)], log, none, tree⟩
    | some "toml" => ⟨Toml.write (RuntimeConfig.codec.encode config), log, none, tree⟩
    | some other => ⟨"", log, some (.unknownFormat other "human, json, or toml"), tree⟩

/-- Shows the layout; every format but JSON is the one for people. -/
def runLayout (tree : FileTree) (format : Option String) : Outcome :=
  if format = some "json" then
    .printed tree (Report.unlines [Json.write (Layout.codec.encode .native)])
  else .printed tree (Report.unlines (Report.layout .native))

/-- The lines about offsets up to the first text that is none, and that text with its fault. -/
def checkOffsets : List String → List String × Option (String × OffsetFault)
  | [] => ([], none)
  | text :: rest =>
    match Offset.read text with
    | .error fault => ([], some (text, fault))
    | .ok offset =>
      let (lines, failure) := checkOffsets rest
      (Offset.line offset :: lines, failure)

/-- Says which offsets may use an implicit null check. -/
def runNullCheck (tree : FileTree) (offsets : List String) : Outcome :=
  let (lines, failure) := checkOffsets offsets
  ⟨Report.unlines lines, [], failure.map fun (text, fault) => .offset text fault, tree⟩

/-- What is to be said about the profile in a file. -/
def profileStatus (tree : FileTree) (path : Path) : String :=
  match Project.load tree path with
  | .error error => "unreadable (" ++ error.message ++ ")"
  | .ok profile =>
    if profile.issues.isEmpty then "ok" else toString profile.issues.length ++ " issue(s)"

/-- What is to be said about the project around a directory. -/
def projectStatus (tree : FileTree) (directory : Path) : String :=
  match Manifest.find tree directory with
  | .error error => "  memcaps.toml: error: " ++ (Failure.manifest error).report
  | .ok none => Report.unlines ["  memcaps.toml: not found"]
  | .ok (some (manifest, project)) =>
    Report.unlines
      (["  memcaps.toml: found at " ++ tree.display project]
        ++ (manifest.defaultProfile.toList.map ("  Default profile: " ++ ·))
        ++ (Project.discover tree project).map fun (name, path) =>
          "  " ++ name ++ ": " ++ profileStatus tree path)

/-- Shows the compiled-in build, which is the standard one, and the state of the project. -/
def runDoctor (tree : FileTree) (directory : Path) : Outcome :=
  let features := Build.standard.enabledFeatures
  let capabilities := Build.standardConfig.capabilities
  .printed tree (Report.unlines
    ["=== memcaps doctor ===",
      "",
      "memcaps version: " ++ version,
      "",
      "--- Build ---",
      "  Features: " ++ (if features.isEmpty then "(none)" else ", ".intercalate features),
      "  Platform: " ++ capabilities.platform.name,
      "  Read barrier: " ++ capabilities.readBarrier.title,
      "",
      "--- Project Status ---"]
    ++ projectStatus tree directory)

/-- Runs a command that needs the manifest around a directory, if there is one. -/
def withManifest (tree : FileTree) (directory : Path)
    (run : Option (Manifest × Path) → Outcome) : Outcome :=
  match Manifest.find tree directory with
  | .error error => .failed tree (.manifest error)
  | .ok found => run found

/-- Runs a command on the profiles of the project around a directory. -/
def withProject (tree : FileTree) (directory : Path) (run : Path → Outcome) : Outcome :=
  withManifest tree directory fun found => run ((found.map (·.2)).getD directory)

/-- Runs a command in a directory. -/
def run (tree : FileTree) (directory : Path) : Command → Outcome
  | .init defaultProfile => runInit tree directory defaultProfile
  | .listProfiles => withProject tree directory (runList tree)
  | .describeProfile name format =>
    withProject tree directory fun project => runDescribe tree project name format
  | .validateProfile name =>
    withManifest tree directory fun found =>
      runValidate tree ((found.map (·.2)).getD directory)
        ((found.map (·.1.denyWarnings)).getD false) name
  | .newProfile name => withProject tree directory fun project => runNew tree project name
  | .resolve profile build format =>
    withManifest tree directory fun found =>
      let chosen := if build then none else profile.or (found.bind (·.1.defaultProfile))
      runResolve tree (found.map (·.2)) chosen format
  | .layout format => runLayout tree format
  | .nullCheck offsets => runNullCheck tree offsets
  | .doctor => runDoctor tree directory

end Command

end RuntimeProfiles
