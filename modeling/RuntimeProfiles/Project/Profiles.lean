import RuntimeProfiles.Profile

/-!
# The profiles of a project

A project keeps its profiles in the directory `profiles`, each in a file that is named after it.
`Project.discover` lists them in the order of their names, and `Project.find` looks a profile up
there and among the built-in ones.
-/

namespace RuntimeProfiles.Project

/-- The directory that holds the profiles of a project. -/
def profilesDirectory (project : Path) : Path := project ++ ["profiles"]

/-- The path of the file of a profile, whatever its name. -/
def filePath (project : Path) (name : String) : Path :=
  profilesDirectory project ++ [ProfileName.toFileName name]

/-- The path of the file of a profile. -/
def profilePath (project : Path) (name : String) : Except ConfigError Path :=
  match ProfileName.fault? name with
  | some fault => .error (.invalidName name fault)
  | none => .ok (filePath project name)

/-- The names of the profiles of a project, with the paths of their files, in the order of the
names. -/
def discover (tree : FileTree) (project : Path) : List (String × Path) :=
  let directory := profilesDirectory project
  if tree.isDirectory directory then
    let found := (tree.names directory).filterMap fun fileName =>
      (ProfileName.ofFileName? fileName).map fun name => (name, directory ++ [fileName])
    found.mergeSort fun a b => a.1 ≤ b.1
  else []

/-- The profile in a file. -/
def load (tree : FileTree) (path : Path) : Except ConfigError Profile :=
  if tree.contains path then do
    let text ← (tree.readText path).mapError .file
    (Profile.ofToml text).mapError .unreadable
  else .error (.missingFile (tree.display path))

/-- The built-in profile of a given name. -/
def findBuiltin (name : String) : Except ConfigError Profile :=
  match Profile.builtin? name with
  | some profile => .ok profile
  | none => .error (.unknownProfile name)

/-- The profile of a given name: that of the project, if there is one, or else a built-in one. -/
def find (tree : FileTree) (project : Option Path) (name : String) : Except ConfigError Profile :=
  match project with
  | none => findBuiltin name
  | some project =>
    match (discover tree project).find? (·.1 == name) with
    | some (_, path) => load tree path
    | none => findBuiltin name

end RuntimeProfiles.Project
