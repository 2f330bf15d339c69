/-!
# Build toggles

A `ToggleSet` holds one value per independent build switch of the managed runtime. It is the raw
input of resolution: any combination can be written down here, and `Capabilities.resolve` decides
which ones describe a build. Three presets serve as starting points: `ToggleSet.host`,
`ToggleSet.android` and `ToggleSet.deviceLinux`.
-/

namespace RuntimeProfiles

/-- The mechanism, if any, by which a mutator learns that an object has moved. -/
inductive ReadBarrier where
  | none
  /-- The object header carries the forwarding state. -/
  | baker
  /-- Every object holds a forwarding pointer. -/
  | brooks
  /-- A side table keyed by reference. -/
  | tableLookup
deriving DecidableEq, Repr, Inhabited

namespace ReadBarrier

/-- All mechanisms, in the order in which messages list them. -/
def all : List ReadBarrier := [.none, .baker, .brooks, .tableLookup]

/-- Whether any mechanism is in use. -/
def isActive : ReadBarrier → Bool
  | .none => false
  | _ => true

/-- The name used in profile files and dumps. -/
def key : ReadBarrier → String
  | .none => "none"
  | .baker => "baker"
  | .brooks => "brooks"
  | .tableLookup => "table-lookup"

/-- The build feature that selects the mechanism. -/
def featureName : ReadBarrier → String
  | .none => "none"
  | .baker => "read-barrier-baker"
  | .brooks => "read-barrier-brooks"
  | .tableLookup => "read-barrier-table-lookup"

/-- The name used in reports. -/
def title : ReadBarrier → String
  | .none => "None"
  | .baker => "Baker"
  | .brooks => "Brooks"
  | .tableLookup => "TableLookup"

@[simp]
theorem isActive_eq_true_iff {barrier : ReadBarrier} :
    barrier.isActive = true ↔ barrier ≠ .none := by
  cases barrier <;> simp [isActive]

end ReadBarrier

/-- The build switches by name, for diagnostics and for reading single values. -/
inductive Toggle where
  | deviceTarget
  | targetLinux
  | targetAndroid
  | readBarrier
  | heapPoisoning
  | tlab
  | debugBuild
  | vdex
  | staticHostBinaries
  | forceReadBarrier
  | movingCollector
  | markCompact
deriving DecidableEq, Repr, Inhabited

namespace Toggle

/-- All switches, in the order in which a `ToggleSet` declares them. -/
def all : List Toggle :=
  [.deviceTarget, .targetLinux, .targetAndroid, .readBarrier, .heapPoisoning, .tlab, .debugBuild,
    .vdex, .staticHostBinaries, .forceReadBarrier, .movingCollector, .markCompact]

/-- The key of the switch in profile files and dumps. -/
def key : Toggle → String
  | .deviceTarget => "device-target"
  | .targetLinux => "target-linux"
  | .targetAndroid => "target-android"
  | .readBarrier => "read-barrier"
  | .heapPoisoning => "heap-poisoning"
  | .tlab => "tlab"
  | .debugBuild => "debug-build"
  | .vdex => "vdex"
  | .staticHostBinaries => "static-host-binaries"
  | .forceReadBarrier => "force-read-barrier"
  | .movingCollector => "moving-collector"
  | .markCompact => "mark-compact"

end Toggle

/-- One value for every build switch. -/
structure ToggleSet where
  /-- The build is for a device and not for the development host. -/
  deviceTarget : Bool
  /-- The device runs a plain Linux kernel. -/
  targetLinux : Bool
  /-- The device runs Android. -/
  targetAndroid : Bool
  readBarrier : ReadBarrier
  /-- References within the heap are stored negated. -/
  heapPoisoning : Bool
  /-- Thread-local allocation buffers are the default allocator. -/
  tlab : Bool
  debugBuild : Bool
  /-- Vdex files are produced and consumed. -/
  vdex : Bool
  /-- Statically linked companion binaries are built; only a host build honours this. -/
  staticHostBinaries : Bool
  /-- Transitional: the compiler emits read barriers although no mechanism is selected. -/
  forceReadBarrier : Bool
  /-- The collector may relocate objects. -/
  movingCollector : Bool
  /-- Mark-compact support is requested; it takes effect only with a moving collector. -/
  markCompact : Bool
deriving DecidableEq, Repr

namespace ToggleSet

/-- A host build with every optional feature off. -/
def host : ToggleSet where
  deviceTarget := false
  targetLinux := false
  targetAndroid := false
  readBarrier := .none
  heapPoisoning := false
  tlab := false
  debugBuild := false
  vdex := false
  staticHostBinaries := true
  forceReadBarrier := false
  movingCollector := true
  markCompact := false

/-- An Android device build with every optional feature off. -/
def android : ToggleSet :=
  { host with deviceTarget := true, targetAndroid := true, staticHostBinaries := false }

/-- A Linux device build with every optional feature off. -/
def deviceLinux : ToggleSet :=
  { host with deviceTarget := true, targetLinux := true, staticHostBinaries := false }

instance : Inhabited ToggleSet := ⟨host⟩

end ToggleSet

end RuntimeProfiles
