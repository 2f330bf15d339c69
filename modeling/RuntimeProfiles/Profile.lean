import RuntimeProfiles.Config.Schema
import RuntimeProfiles.Error
import RuntimeProfiles.Json.Writer
import RuntimeProfiles.Toml.Document
import RuntimeProfiles.Toml.Writer

/-!
# Build profiles

A `Profile` is a toggle set with a name and a description. Profiles are stored as TOML
(`Profile.ofToml`, `Profile.toToml`); five of them are built in.
-/

namespace RuntimeProfiles

/-- A named toggle set. -/
structure Profile where
  name : String
  description : String
  toggles : ToggleSet
deriving DecidableEq, Repr

namespace Profile

/-- Only the name of a profile has to be written down. -/
def schema : Schema Profile where
  name := "BuildProfile"
  blank := ⟨"", "", .host⟩
  fields :=
    [.ofCodec "name" .text name fun p s => { p with name := s },
      .withDefault "description" .text description fun p s => { p with description := s },
      .withDefault "toggles" ToggleSet.codec toggles fun p t => { p with toggles := t }]

def codec : Codec Profile := schema.codec

/-- The profile that a TOML text holds. -/
def ofToml (text : String) : Except Fault Profile := Toml.decode codec text

/-- The TOML text of a profile. -/
def toToml (profile : Profile) : String := Toml.write (codec.encode profile)

/-- The JSON text of a profile. -/
def toJson (profile : Profile) : String := Json.write (codec.encode profile)

/-- The entry with which the resolution of a profile begins. -/
def resolvingEntry (profile : Profile) : Log.Entry :=
  ⟨.debug, "resolving build profile '" ++ profile.name ++ "'"⟩

/-- Resolves the toggles of a profile and logs the outcome. -/
def resolve (profile : Profile) : Except Rejection RuntimeConfig × List Log.Entry :=
  let (result, entries) := RuntimeConfig.resolve profile.toggles
  (result, profile.resolvingEntry :: entries)

/-! ## Built-in profiles -/

def hostDebug : Profile :=
  ⟨"host-debug", "Host debug build", { ToggleSet.host with debugBuild := true }⟩

def hostRelease : Profile := ⟨"host-release", "Host release build", .host⟩

/-- An Android device with the concurrent copying collector. -/
def deviceAndroidCc : Profile :=
  ⟨"device-android-cc", "Android device, Baker read barrier, TLAB, vdex",
    { ToggleSet.android with readBarrier := .baker, tlab := true, vdex := true }⟩

/-- An Android device on which stale references are hunted. -/
def deviceAndroidPoisoned : Profile :=
  ⟨"device-android-poisoned", "Android device debug build, Baker read barrier, heap poisoning",
    { ToggleSet.android with
      readBarrier := .baker, heapPoisoning := true, tlab := true, debugBuild := true }⟩

def deviceLinux : Profile := ⟨"device-linux", "Linux device, no read barrier", .deviceLinux⟩

/-- The built-in profiles in the order in which they are listed. -/
def builtins : List Profile :=
  [hostDebug, hostRelease, deviceAndroidCc, deviceAndroidPoisoned, deviceLinux]

/-- The built-in profile of a given name. -/
def builtin? (name : String) : Option Profile := builtins.find? (·.name == name)

/-- A new profile: the toggles of a host release build under a name, without a description. -/
def blank (name : String) : Profile := ⟨name, "", hostRelease.toggles⟩

end Profile

end RuntimeProfiles
