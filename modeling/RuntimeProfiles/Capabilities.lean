import RuntimeProfiles.Platform

/-!
# Capabilities

The flags that the allocator, the collector and the compiler branch on. Every one of them is a
boolean formula over the toggles (`Capabilities.resolve`), none is set directly. Resolution refuses
toggles that describe no platform, and then a read barrier without a moving collector.
-/

namespace RuntimeProfiles

/-- The resolved flags of one build. -/
structure Capabilities where
  platform : Platform
  isTargetBuild : Bool
  isTargetLinux : Bool
  /-- Statically linked companion binaries are available, which no device build has. -/
  hostStaticBuildEnabled : Bool
  isDebugBuild : Bool
  readBarrier : ReadBarrier
  useBakerReadBarrier : Bool
  useBrooksReadBarrier : Bool
  useTableLookupReadBarrier : Bool
  useBakerOrBrooksReadBarrier : Bool
  useReadBarrier : Bool
  /-- The transitional override, carried through from the toggles. -/
  forceReadBarrier : Bool
  /-- The compiler emits read barriers. -/
  emitCompilerReadBarrier : Bool
  poisonHeapReferences : Bool
  useTlab : Bool
  isVdexEnabled : Bool
  movingCollector : Bool
  /-- Mark-compact collection is available. -/
  markCompactSupport : Bool
  /-- The collector may move classes. -/
  movingClasses : Bool
  traceClock : TraceClock
  embedClassInCode : Bool
  defaultMustRelocate : Bool
  arm32QuickCodeUseSoftFloat : Bool
deriving DecidableEq, Repr

namespace Capabilities

/-- The compiler embeds class pointers in the code where it can. -/
def embedsClassInCode : Bool := true

/-- Boot images stay where they were linked unless a build asks otherwise. -/
def mustRelocateByDefault : Bool := false

/-- Quick code on 32-bit ARM uses the hard-float calling convention. -/
def usesArm32SoftFloat : Bool := false

/-- The flags of a toggle set on a platform that is already known. -/
def ofPlatform (toggles : ToggleSet) (platform : Platform) : Capabilities where
  platform := platform
  isTargetBuild := platform.isTargetBuild
  isTargetLinux := platform.isTargetLinux
  hostStaticBuildEnabled := !platform.isTargetBuild && toggles.staticHostBinaries
  isDebugBuild := toggles.debugBuild
  readBarrier := toggles.readBarrier
  useBakerReadBarrier := toggles.readBarrier == .baker
  useBrooksReadBarrier := toggles.readBarrier == .brooks
  useTableLookupReadBarrier := toggles.readBarrier == .tableLookup
  useBakerOrBrooksReadBarrier := toggles.readBarrier == .baker || toggles.readBarrier == .brooks
  useReadBarrier := toggles.readBarrier.isActive
  forceReadBarrier := toggles.forceReadBarrier
  emitCompilerReadBarrier := toggles.forceReadBarrier || toggles.readBarrier.isActive
  poisonHeapReferences := toggles.heapPoisoning
  useTlab := toggles.tlab
  isVdexEnabled := toggles.vdex
  movingCollector := toggles.movingCollector
  markCompactSupport := toggles.markCompact && toggles.movingCollector
  movingClasses := toggles.movingCollector && !(toggles.markCompact && toggles.movingCollector)
  traceClock := .defaultFor platform
  embedClassInCode := embedsClassInCode
  defaultMustRelocate := mustRelocateByDefault
  arm32QuickCodeUseSoftFloat := usesArm32SoftFloat

/-- Resolves a toggle set. Of two faults, the one in the platform switches is reported. -/
def resolve (toggles : ToggleSet) : Except Rejection Capabilities := do
  let platform ← toggles.platform
  if toggles.readBarrier.isActive && !toggles.movingCollector then
    throw (.readBarrierWithoutMovingCollector toggles.readBarrier)
  return ofPlatform toggles platform

end Capabilities

end RuntimeProfiles
