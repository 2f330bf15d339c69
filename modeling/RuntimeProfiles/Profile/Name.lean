import RuntimeProfiles.Text.Blank

/-!
# Profile names

A profile lives in a file that is named after it, so a name has to stay one file name: it is not
blank, holds no path separator of any system, and no two dots in a row.
-/

namespace RuntimeProfiles

/-- Why a name is no profile name. -/
inductive NameFault where
  | blank
  | separator
  | parentReference
deriving DecidableEq, Repr

/-- The text of a fault. -/
def NameFault.reason : NameFault → String
  | .blank => "name is empty"
  | .separator => "name contains a path separator"
  | .parentReference => "name contains `..`"

namespace ProfileName

/-- Whether two dots stand in a row. -/
def hasParentReference : List Char → Bool
  | '.' :: '.' :: _ => true
  | _ :: rest => hasParentReference rest
  | [] => false

/-- The first reason, if any, for which a name is no profile name. -/
def fault? (name : String) : Option NameFault :=
  if name.toList.all Text.isBlank then some .blank
  else if name.toList.any fun c => c = '/' || c = '\\' then some .separator
  else if hasParentReference name.toList then some .parentReference
  else none

/-- Whether a name is a profile name. -/
def isValid (name : String) : Bool := (fault? name).isNone

/-- What follows the name of a profile in the name of its file. -/
def fileEnding : String := ".profile.toml"

/-- The name of the file of a profile. -/
def toFileName (name : String) : String := name ++ fileEnding

/-- The name of the profile in a file of a given name, if that is the file of a profile. -/
def ofFileName? (fileName : String) : Option String :=
  let chars := fileName.toList
  if fileEnding.toList.isSuffixOf chars then
    let name := String.ofList (chars.take (chars.length - fileEnding.length))
    if isValid name then some name else none
  else none

end ProfileName

end RuntimeProfiles
