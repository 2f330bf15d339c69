import RuntimeProfiles.Config

/-!
# The compiled-in build

A library build is given a list of features and whether debug assertions are on. `Build.conflicts`
are the messages with which a contradictory list stops the build; `Build.toggles` and `Build.config`
are what a build that goes through contains. `Build.standard` is the build of the command line tool.
-/

namespace RuntimeProfiles

/-- The features of a library build that select toggles. -/
inductive Feature where
  | deviceTarget
  | targetLinux
  | targetAndroid
  | readBarrierBaker
  | readBarrierBrooks
  | readBarrierTableLookup
  | heapPoisoning
  | tlab
  | vdex
  | forceReadBarrier
deriving DecidableEq, Repr

namespace Feature

/-- All features, in the order in which reports list them. -/
def all : List Feature :=
  [.deviceTarget, .targetLinux, .targetAndroid, .readBarrierBaker, .readBarrierBrooks,
    .readBarrierTableLookup, .heapPoisoning, .tlab, .vdex, .forceReadBarrier]

def name : Feature → String
  | .deviceTarget => "device-target"
  | .targetLinux => "target-linux"
  | .targetAndroid => "target-android"
  | .readBarrierBaker => "read-barrier-baker"
  | .readBarrierBrooks => "read-barrier-brooks"
  | .readBarrierTableLookup => "read-barrier-table-lookup"
  | .heapPoisoning => "heap-poisoning"
  | .tlab => "tlab"
  | .vdex => "vdex"
  | .forceReadBarrier => "force-read-barrier"

/-- The feature of a given name. -/
def ofName? (name : String) : Option Feature := all.find? (·.name == name)

end Feature

/-- The request for a library build. The order of the features carries no meaning. -/
structure Build where
  features : List Feature
  debugAssertions : Bool
deriving DecidableEq, Repr

namespace Build

/-- Whether a feature is requested. -/
def has (build : Build) (feature : Feature) : Bool := build.features.contains feature

/-- A rule that stops a build: when it applies, and what it says. -/
structure Guard where
  applies : Build → Bool
  message : String

/-- Stops a build that requests both features. -/
def Guard.exclusive (first second : Feature) : Guard where
  applies build := build.has first && build.has second
  message := "features `" ++ first.name ++ "` and `" ++ second.name ++ "` are mutually exclusive"

/-- Stops a host build that requests a feature of devices. -/
def Guard.deviceOnly (feature : Feature) : Guard where
  applies build := build.has feature && !build.has .deviceTarget
  message := "feature `" ++ feature.name ++ "` enabled for host build (enable `"
    ++ Feature.deviceTarget.name ++ "`)"

/-- Stops a device build without an operating system. -/
def Guard.deviceNeedsPlatform : Guard where
  applies build :=
    build.has .deviceTarget && !(build.has .targetLinux || build.has .targetAndroid)
  message := "either feature `" ++ Feature.targetLinux.name ++ "` or `"
    ++ Feature.targetAndroid.name ++ "` needs to be enabled for `" ++ Feature.deviceTarget.name
    ++ "` builds"

/-- The rules under which a build is stopped. -/
def guards : List Guard :=
  [.deviceNeedsPlatform,
    .exclusive .targetLinux .targetAndroid,
    .deviceOnly .targetLinux,
    .deviceOnly .targetAndroid,
    .exclusive .readBarrierBaker .readBarrierBrooks,
    .exclusive .readBarrierBaker .readBarrierTableLookup,
    .exclusive .readBarrierBrooks .readBarrierTableLookup]

/-- The messages with which a build is stopped; a build without any goes through. -/
def conflicts (build : Build) : List String :=
  (guards.filter (·.applies build)).map (·.message)

/-- The names of the requested features, in the order of `Feature.all` and each once. -/
def enabledFeatures (build : Build) : List String :=
  (Feature.all.filter build.has).map (·.name)

/-- The toggles that a build selects. Companion binaries are static on the host, the collector
always moves, and debug builds are those with assertions. -/
def toggles (build : Build) : Except Rejection ToggleSet := do
  let barrier ← ReadBarrier.ofFlags (build.has .readBarrierBaker) (build.has .readBarrierBrooks)
    (build.has .readBarrierTableLookup)
  return {
    deviceTarget := build.has .deviceTarget
    targetLinux := build.has .targetLinux
    targetAndroid := build.has .targetAndroid
    readBarrier := barrier
    heapPoisoning := build.has .heapPoisoning
    tlab := build.has .tlab
    debugBuild := build.debugAssertions
    vdex := build.has .vdex
    staticHostBinaries := !build.has .deviceTarget
    forceReadBarrier := build.has .forceReadBarrier
    movingCollector := true
    markCompact := false }

/-- The configuration that a build contains. -/
def config (build : Build) : Except Rejection RuntimeConfig := do
  RuntimeConfig.ofToggles (← build.toggles)

/-- The build of the command line tool: no features, assertions on. Sessions and commands that speak
of the compiled-in configuration mean this build. -/
def standard : Build := ⟨[], true⟩

/-- The toggles of the standard build. -/
def standardToggles : ToggleSet := { ToggleSet.host with debugBuild := true }

/-- The configuration of the standard build. -/
def standardConfig : RuntimeConfig :=
  ⟨standardToggles, .ofPlatform standardToggles .host, .native⟩

/-- The standard build goes through and contains `standardConfig`. -/
theorem config_standard : standard.config = .ok standardConfig := rfl

end Build

end RuntimeProfiles
