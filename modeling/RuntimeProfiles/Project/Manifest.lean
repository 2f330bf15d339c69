import RuntimeProfiles.Project.Profiles

/-!
# Manifests

A file `memcaps.toml` makes a directory and everything below it a project. `Manifest.find` climbs
from a directory towards the root and reads the first manifest that it meets; a manifest that cannot
be read is an error, and never a reason to climb on.
-/

namespace RuntimeProfiles

/-- The settings of a project. -/
structure Manifest where
  /-- The profile that is used if none is named. -/
  defaultProfile : Option String
  /-- Whether validation treats warnings as errors. -/
  denyWarnings : Bool
deriving DecidableEq, Repr

namespace Manifest

def fileName : String := "memcaps.toml"

/-- The section about profiles, which holds one switch. -/
def profilesSchema : Schema Bool where
  name := "ProfilesConfig"
  blank := false
  fields := [.withDefault "deny-warnings" .bool id fun _ deny => deny]

def schema : Schema Manifest where
  name := "Manifest"
  blank := ⟨none, false⟩
  fields :=
    [.withDefault "default-profile" (.optional .text) defaultProfile
        fun m name => { m with defaultProfile := name },
      .withDefault "profiles" profilesSchema.codec denyWarnings
        fun m deny => { m with denyWarnings := deny }]

def codec : Codec Manifest := schema.codec

/-- The manifest that a text holds. -/
def ofToml (text : String) : Except Fault Manifest := Toml.decode codec text

/-- The text of a new manifest. -/
def template (defaultProfile : String) : String :=
  "default-profile = \"" ++ defaultProfile ++ "\"\n\n[profiles]\ndeny-warnings = false\n"

/-- Why a manifest cannot be read. -/
inductive LoadError where
  | reading (path : String) (fault : FileFault)
  | parsing (path : String) (fault : Fault)
deriving DecidableEq, Repr

/-- The nearest directory with a manifest on the way from a directory to the root. The directory is
given by its names in reverse order. -/
def nearest? (tree : FileTree) : (reversed : List String) → Option Path
  | [] => if tree.isFile [fileName] then some [] else none
  | name :: above =>
    if tree.isFile ((name :: above).reverse ++ [fileName]) then some (name :: above).reverse
    else nearest? tree above

/-- The manifest in a directory. -/
def load (tree : FileTree) (directory : Path) : Except LoadError Manifest :=
  let path := directory ++ [fileName]
  match tree.readText path with
  | .error fault => .error (.reading (tree.display path) fault)
  | .ok text => (ofToml text).mapError (.parsing (tree.display path))

/-- The nearest manifest, and the directory that holds it. -/
def find (tree : FileTree) (start : Path) : Except LoadError (Option (Manifest × Path)) :=
  match nearest? tree start.reverse with
  | none => .ok none
  | some directory => (load tree directory).map fun manifest => some (manifest, directory)

end Manifest

end RuntimeProfiles
