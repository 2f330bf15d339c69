import RuntimeProfiles.Profile.Validation

/-!
# Reports

The texts that commands print for people to read: a profile, a configuration and the layout, each as
a list of lines.
-/

namespace RuntimeProfiles.Report

/-- Lines with their ends. -/
def unlines (lines : List String) : String := String.join (lines.map (· ++ "\n"))

/-- A text with spaces after it up to a width in characters. -/
def padded (width : Nat) (text : String) : String :=
  text ++ String.ofList (List.replicate (width - text.length) ' ')

/-- A line about an item, with its value in a column of its own. -/
def item (label value : String) : String := "  " ++ padded 22 (label ++ ":") ++ value

/-- A line about an item that is on or off. -/
def flag (label : String) (value : Bool) : String := item label (toString value)

/-- A line about a toggle. -/
def toggle (t : Toggle) (value : Bool) : String := flag t.key value

/-- The toggles of a profile. -/
def profile (p : Profile) : List String :=
  ["=== Profile: " ++ p.name ++ " ==="]
    ++ (if p.description.isEmpty then [] else [p.description])
    ++ ["",
      "--- Platform ---",
      toggle .deviceTarget p.toggles.deviceTarget,
      toggle .targetLinux p.toggles.targetLinux,
      toggle .targetAndroid p.toggles.targetAndroid,
      "",
      "--- Memory ---",
      item Toggle.readBarrier.key p.toggles.readBarrier.title,
      toggle .heapPoisoning p.toggles.heapPoisoning,
      toggle .tlab p.toggles.tlab,
      toggle .movingCollector p.toggles.movingCollector,
      toggle .markCompact p.toggles.markCompact,
      toggle .forceReadBarrier p.toggles.forceReadBarrier,
      "",
      "--- Build ---",
      toggle .debugBuild p.toggles.debugBuild,
      toggle .vdex p.toggles.vdex,
      toggle .staticHostBinaries p.toggles.staticHostBinaries]

/-- The capabilities of a configuration that comes from a source. -/
def capabilities (source : String) (c : Capabilities) : List String :=
  ["=== Configuration: " ++ source ++ " ===",
    "",
    "--- Platform ---",
    item "Identity" c.platform.name,
    flag "Target build" c.isTargetBuild,
    flag "Target linux" c.isTargetLinux,
    flag "Host static build" c.hostStaticBuildEnabled,
    flag "Debug build" c.isDebugBuild,
    "",
    "--- Read Barrier ---",
    item "Kind" c.readBarrier.title,
    flag "Active" c.useReadBarrier,
    flag "Baker or Brooks" c.useBakerOrBrooksReadBarrier,
    flag "Emit in compiler" c.emitCompilerReadBarrier
      ++ (if c.forceReadBarrier then " (forced)" else ""),
    "",
    "--- Collector ---",
    flag "Moving collector" c.movingCollector,
    flag "Mark-compact" c.markCompactSupport,
    flag "Moving classes" c.movingClasses,
    flag "Heap poisoning" c.poisonHeapReferences,
    flag "TLAB" c.useTlab,
    "",
    "--- Policy ---",
    item "Trace clock" c.traceClock.title,
    flag "Embed class in code" c.embedClassInCode,
    flag "Must relocate" c.defaultMustRelocate,
    flag "Vdex" c.isVdexEnabled,
    flag "ARM32 soft float" c.arm32QuickCodeUseSoftFloat]

/-- A line about a constant of the layout. -/
def constant (label value : String) : String := "  " ++ padded 24 (label ++ ":") ++ value

/-- The constants of a layout. -/
def layout (l : Layout) : List String :=
  ["--- Layout ---",
    constant "Bits per byte"
      (toString l.bitsPerByte ++ " (log2 " ++ toString l.bitsPerByteLog2 ++ ")"),
    constant "Bits per pointer" (toString l.bitsPerPointer),
    constant "Stack alignment" (toString l.stackAlignment ++ " bytes"),
    constant "Page size" (toString l.pageSize ++ " bytes"),
    constant "Object alignment"
      (toString l.objectAlignment ++ " bytes (shift " ++ toString l.objectAlignmentShift ++ ")"),
    constant "Large object alignment" (toString l.largeObjectAlignment ++ " bytes"),
    constant "Heap reference size" (toString l.heapReferenceSize ++ " bytes")]

/-- A line of a list of profiles. -/
def listed (name remark : String) : String := "  " ++ padded 25 name ++ " " ++ remark

end RuntimeProfiles.Report
