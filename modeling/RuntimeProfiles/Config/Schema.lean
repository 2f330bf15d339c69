import RuntimeProfiles.Config
import RuntimeProfiles.Data.Schema

/-!
# Configurations as data

The tables of toggles, capabilities, layouts and configurations: their keys in dumps and profile
files, in the order in which they are written. Every toggle may be left out and then has its value
of `ToggleSet.host`; all other fields have to be there.
-/

namespace RuntimeProfiles

/-- Read barriers by their keys. -/
def ReadBarrier.codec : Codec ReadBarrier := .variant key all

/-- Names of single toggles. -/
def Toggle.codec : Codec Toggle := .variant key all

/-- Platforms by their names. -/
def Platform.codec : Codec Platform := .variant name all

/-- Clocks by their keys. -/
def TraceClock.codec : Codec TraceClock := .variant key all

namespace ToggleSet

/-- A toggle that is on or off. -/
def flag (toggle : Toggle) (get : ToggleSet → Bool) (set : ToggleSet → Bool → ToggleSet) :
    Field ToggleSet :=
  .withDefault toggle.key .bool get set

def schema : Schema ToggleSet where
  name := "ToggleSet"
  blank := host
  fields :=
    [flag .deviceTarget deviceTarget fun t b => { t with deviceTarget := b },
      flag .targetLinux targetLinux fun t b => { t with targetLinux := b },
      flag .targetAndroid targetAndroid fun t b => { t with targetAndroid := b },
      .withDefault Toggle.readBarrier.key ReadBarrier.codec readBarrier
        fun t b => { t with readBarrier := b },
      flag .heapPoisoning heapPoisoning fun t b => { t with heapPoisoning := b },
      flag .tlab tlab fun t b => { t with tlab := b },
      flag .debugBuild debugBuild fun t b => { t with debugBuild := b },
      flag .vdex vdex fun t b => { t with vdex := b },
      flag .staticHostBinaries staticHostBinaries fun t b => { t with staticHostBinaries := b },
      flag .forceReadBarrier forceReadBarrier fun t b => { t with forceReadBarrier := b },
      flag .movingCollector movingCollector fun t b => { t with movingCollector := b },
      flag .markCompact markCompact fun t b => { t with markCompact := b }]

def codec : Codec ToggleSet := schema.codec

end ToggleSet

namespace Capabilities

/-- A capability that is there or not. -/
def flag (key : String) (get : Capabilities → Bool) (set : Capabilities → Bool → Capabilities) :
    Field Capabilities :=
  .ofCodec key .bool get set

def schema : Schema Capabilities where
  name := "Capabilities"
  blank := .ofPlatform .host .host
  fields :=
    [.ofCodec "platform" Platform.codec platform fun c x => { c with platform := x },
      flag "is-target-build" isTargetBuild fun c b => { c with isTargetBuild := b },
      flag "is-target-linux" isTargetLinux fun c b => { c with isTargetLinux := b },
      flag "host-static-build-enabled" hostStaticBuildEnabled
        fun c b => { c with hostStaticBuildEnabled := b },
      flag "is-debug-build" isDebugBuild fun c b => { c with isDebugBuild := b },
      .ofCodec "read-barrier" ReadBarrier.codec readBarrier fun c x => { c with readBarrier := x },
      flag "use-baker-read-barrier" useBakerReadBarrier
        fun c b => { c with useBakerReadBarrier := b },
      flag "use-brooks-read-barrier" useBrooksReadBarrier
        fun c b => { c with useBrooksReadBarrier := b },
      flag "use-table-lookup-read-barrier" useTableLookupReadBarrier
        fun c b => { c with useTableLookupReadBarrier := b },
      flag "use-baker-or-brooks-read-barrier" useBakerOrBrooksReadBarrier
        fun c b => { c with useBakerOrBrooksReadBarrier := b },
      flag "use-read-barrier" useReadBarrier fun c b => { c with useReadBarrier := b },
      flag "force-read-barrier" forceReadBarrier fun c b => { c with forceReadBarrier := b },
      flag "emit-compiler-read-barrier" emitCompilerReadBarrier
        fun c b => { c with emitCompilerReadBarrier := b },
      flag "poison-heap-references" poisonHeapReferences
        fun c b => { c with poisonHeapReferences := b },
      flag "use-tlab" useTlab fun c b => { c with useTlab := b },
      flag "is-vdex-enabled" isVdexEnabled fun c b => { c with isVdexEnabled := b },
      flag "moving-collector" movingCollector fun c b => { c with movingCollector := b },
      flag "mark-compact-support" markCompactSupport fun c b => { c with markCompactSupport := b },
      flag "moving-classes" movingClasses fun c b => { c with movingClasses := b },
      .ofCodec "trace-clock-source" TraceClock.codec traceClock
        fun c x => { c with traceClock := x },
      flag "embed-class-in-code" embedClassInCode fun c b => { c with embedClassInCode := b },
      flag "default-must-relocate" defaultMustRelocate
        fun c b => { c with defaultMustRelocate := b },
      flag "arm32-quick-code-use-soft-float" arm32QuickCodeUseSoftFloat
        fun c b => { c with arm32QuickCodeUseSoftFloat := b }]

def codec : Codec Capabilities := schema.codec

end Capabilities

namespace Layout

/-- A constant of the layout. -/
def constant (key : String) (get : Layout → UInt64) (set : Layout → UInt64 → Layout) :
    Field Layout :=
  .ofCodec key .size get set

def schema : Schema Layout where
  name := "Layout"
  blank := native
  fields :=
    [constant "bits-per-byte" bitsPerByte fun l n => { l with bitsPerByte := n },
      constant "bits-per-byte-log2" bitsPerByteLog2 fun l n => { l with bitsPerByteLog2 := n },
      constant "bits-per-intptr" bitsPerPointer fun l n => { l with bitsPerPointer := n },
      constant "stack-alignment" stackAlignment fun l n => { l with stackAlignment := n },
      constant "page-size" pageSize fun l n => { l with pageSize := n },
      constant "object-alignment-shift" objectAlignmentShift
        fun l n => { l with objectAlignmentShift := n },
      constant "object-alignment" objectAlignment fun l n => { l with objectAlignment := n },
      constant "large-object-alignment" largeObjectAlignment
        fun l n => { l with largeObjectAlignment := n },
      constant "heap-reference-size" heapReferenceSize
        fun l n => { l with heapReferenceSize := n }]

def codec : Codec Layout := schema.codec

end Layout

namespace RuntimeConfig

def schema : Schema RuntimeConfig where
  name := "RuntimeConfig"
  blank := ⟨.host, .ofPlatform .host .host, .native⟩
  fields :=
    [.ofCodec "toggles" ToggleSet.codec toggles fun c x => { c with toggles := x },
      .ofCodec "capabilities" Capabilities.codec capabilities
        fun c x => { c with capabilities := x },
      .ofCodec "layout" Layout.codec layout fun c x => { c with layout := x }]

def codec : Codec RuntimeConfig := schema.codec

end RuntimeConfig

end RuntimeProfiles
