import RuntimeProfiles.Proofs.Command.Report

/-!
# Configurations in reports

The report on a configuration is read back. A line about an item is taken apart into its label and
its value (`Report.item?`), and the value is read as what it stands for. A text shows the
capabilities of a configuration (`Report.Shows`) if they are what is read from it, each under its
label, and it is about nothing else:

* **`Report.readsAs_item`** — a line about an item is taken apart again;
* **`Report.items_of_readsAs`** — so the items of a text are those of its lines;
* **`Report.shows_capabilities`** — the report on a configuration shows its capabilities.
-/

namespace RuntimeProfiles.Report

/-! ## Items -/

/-- The item that a line is about: a label behind two blanks and up to a colon, and a value, which
is what follows without the blanks before it. -/
def item? : List Char → Option (String × String)
  | ' ' :: ' ' :: rest =>
    match rest.dropWhile (· ≠ ':') with
    | _ :: value =>
      some (String.ofList (rest.takeWhile (· ≠ ':')), String.ofList (value.dropWhile (· = ' ')))
    | [] => none
  | _ => none

/-- The items that a text is about. -/
def items (text : String) : List (String × String) := (lines text).filterMap item?

/-- The value of an item in a text. -/
def value? (text label : String) : Option String := (items text).lookup label

/-- A text that can be the label of an item. -/
def IsLabel (label : String) : Prop := IsLine label ∧ ':' ∉ label.toList

/-- A text that can be the value of an item. -/
def IsValue (value : String) : Prop := IsLine value ∧ value.toList.head? ≠ some ' '

/-- A line that is about an item, or about none. -/
def ReadsAs (line : String) (entry : Option (String × String)) : Prop :=
  IsLine line ∧ item? line.toList = entry

instance (label : String) : Decidable (IsLabel label) := inferInstanceAs (Decidable (_ ∧ _))

instance (value : String) : Decidable (IsValue value) := inferInstanceAs (Decidable (_ ∧ _))

instance (line : String) (entry : Option (String × String)) : Decidable (ReadsAs line entry) :=
  inferInstanceAs (Decidable (_ ∧ _))

theorem readsAs_item {label value : String} (hlabel : IsLabel label) (hvalue : IsValue value) :
    ReadsAs (item label value) (some (label, value)) := by
  obtain ⟨blanks, hline⟩ : ∃ blanks, (item label value).toList
      = ' ' :: ' ' :: (label.toList ++ ':' :: (List.replicate blanks ' ' ++ value.toList)) := by
    refine ⟨22 - (label ++ ":").length, ?_⟩
    simp [item, padded, String.toList_append]
  have hname : ∀ c ∈ label.toList, decide (c ≠ ':') = true := by
    intro c hc
    exact decide_eq_true fun hcolon => hlabel.2 (hcolon ▸ hc)
  have hblanks : ∀ c ∈ List.replicate blanks ' ', decide (c = ' ') = true := by
    intro c hc
    exact decide_eq_true (List.mem_replicate.1 hc).2
  have hrest : value.toList.dropWhile (· = ' ') = value.toList := by
    have hfirst := hvalue.2
    cases hchars : value.toList with
    | nil => rfl
    | cons c rest =>
      rw [hchars] at hfirst
      exact List.dropWhile_cons_of_neg fun hblank => hfirst (by rw [of_decide_eq_true hblank]; rfl)
  constructor
  · have hbreak : '\n' ∉ List.replicate blanks ' ' :=
      fun hbreak => absurd (List.mem_replicate.1 hbreak).2 (by decide)
    rw [IsLine, hline]
    simp only [List.mem_cons, List.mem_append]
    rintro (h | h | h | h | h | h)
    · exact absurd h (by decide)
    · exact absurd h (by decide)
    · exact hlabel.1 h
    · exact absurd h (by decide)
    · exact hbreak h
    · exact hvalue.1 h
  · rw [hline, item?, List.dropWhile_append_of_pos hname, List.takeWhile_append_of_pos hname]
    simp [List.dropWhile_append_of_pos hblanks, hrest]

section

variable {texts : List String} {entries : List (Option (String × String))}

theorem isLine_of_readsAs (h : List.Forall₂ ReadsAs texts entries) :
    ∀ text ∈ texts, IsLine text := by
  induction h with
  | nil => exact List.forall_mem_nil _
  | cons hline _ ih => exact List.forall_mem_cons.2 ⟨hline.1, ih⟩

/-- The items of a text are those of its lines. -/
theorem items_of_readsAs (h : List.Forall₂ ReadsAs texts entries) :
    items (unlines texts) = entries.filterMap id := by
  have hlines : items (unlines texts) = texts.filterMap fun text => item? text.toList := by
    rw [items, lines_unlines (isLine_of_readsAs h), List.filterMap_append, List.filterMap_map]
    exact List.append_nil _
  rw [hlines]
  clear hlines
  induction h with
  | nil => rfl
  | cons hline _ ih => rw [List.filterMap_cons, List.filterMap_cons, hline.2, ih]; rfl

end

/-! ## What values stand for -/

def flag? : String → Option Bool
  | "true" => some true
  | "false" => some false
  | _ => none

def platform? : String → Option Platform
  | "host" => some .host
  | "device-linux" => some .deviceLinux
  | "device-android" => some .deviceAndroid
  | _ => none

def readBarrier? : String → Option ReadBarrier
  | "None" => some .none
  | "Baker" => some .baker
  | "Brooks" => some .brooks
  | "TableLookup" => some .tableLookup
  | _ => none

def traceClock? : String → Option TraceClock
  | "ThreadCpu" => some .threadCpu
  | "Wall" => some .wall
  | "Dual" => some .dual
  | _ => none

/-- Whether the compiler emits read barriers, and whether the transitional override is set. -/
def emission? : String → Option (Bool × Bool)
  | "true" => some (true, false)
  | "false" => some (false, false)
  | "true (forced)" => some (true, true)
  | "false (forced)" => some (false, true)
  | _ => none

/-- What the report says about the emission of read barriers. -/
def emission (c : Capabilities) : String :=
  toString c.emitCompilerReadBarrier ++ (if c.forceReadBarrier then " (forced)" else "")

/-! Whatever stands for a value can be written on a line of its item, and is read as that value. -/

theorem flag?_toString (value : Bool) :
    IsValue (toString value) ∧ flag? (toString value) = some value := by
  cases value <;> decide +kernel

theorem platform?_name (platform : Platform) :
    IsValue platform.name ∧ platform? platform.name = some platform := by
  cases platform <;> decide +kernel

theorem readBarrier?_title (barrier : ReadBarrier) :
    IsValue barrier.title ∧ readBarrier? barrier.title = some barrier := by
  cases barrier <;> decide +kernel

theorem traceClock?_title (clock : TraceClock) :
    IsValue clock.title ∧ traceClock? clock.title = some clock := by
  cases clock <;> decide +kernel

theorem emission?_emission (c : Capabilities) : IsValue (emission c)
    ∧ emission? (emission c) = some (c.emitCompilerReadBarrier, c.forceReadBarrier) := by
  unfold emission
  cases c.emitCompilerReadBarrier <;> cases c.forceReadBarrier <;> decide +kernel

/-! ## The report on a configuration -/

/-- The capabilities that are on or off in a report, under their labels. -/
def flags : List (String × (Capabilities → Bool)) :=
  [("Target build", (·.isTargetBuild)), ("Target linux", (·.isTargetLinux)),
    ("Host static build", (·.hostStaticBuildEnabled)), ("Debug build", (·.isDebugBuild)),
    ("Active", (·.useReadBarrier)), ("Baker or Brooks", (·.useBakerOrBrooksReadBarrier)),
    ("Moving collector", (·.movingCollector)), ("Mark-compact", (·.markCompactSupport)),
    ("Moving classes", (·.movingClasses)), ("Heap poisoning", (·.poisonHeapReferences)),
    ("TLAB", (·.useTlab)), ("Embed class in code", (·.embedClassInCode)),
    ("Must relocate", (·.defaultMustRelocate)), ("Vdex", (·.isVdexEnabled)),
    ("ARM32 soft float", (·.arm32QuickCodeUseSoftFloat))]

/-- A text shows the capabilities of a configuration that comes from a source. -/
structure Shows (text source : String) (c : Capabilities) : Prop where
  title : (lines text).head? = some ("=== Configuration: " ++ source ++ " ===").toList
  labels : (items text).map Prod.fst
    = ["Identity", "Target build", "Target linux", "Host static build", "Debug build",
      "Kind", "Active", "Baker or Brooks", "Emit in compiler",
      "Moving collector", "Mark-compact", "Moving classes", "Heap poisoning", "TLAB",
      "Trace clock", "Embed class in code", "Must relocate", "Vdex", "ARM32 soft float"]
  platform : (value? text "Identity").bind platform? = some c.platform
  readBarrier : (value? text "Kind").bind readBarrier? = some c.readBarrier
  emission : (value? text "Emit in compiler").bind emission?
    = some (c.emitCompilerReadBarrier, c.forceReadBarrier)
  traceClock : (value? text "Trace clock").bind traceClock? = some c.traceClock
  flags : ∀ shown ∈ flags, (value? text shown.1).bind flag? = some (shown.2 c)

theorem readsAs_emission (c : Capabilities) :
    ReadsAs (flag "Emit in compiler" c.emitCompilerReadBarrier
        ++ (if c.forceReadBarrier then " (forced)" else ""))
      (some ("Emit in compiler", emission c)) := by
  have hline : ReadsAs (item "Emit in compiler" (emission c))
      (some ("Emit in compiler", emission c)) :=
    readsAs_item (by decide +kernel) (emission?_emission c).1
  rwa [item, emission, ← String.append_assoc] at hline

theorem readsAs_flag {label : String} (h : IsLabel label) (value : Bool) :
    ReadsAs (flag label value) (some (label, toString value)) :=
  readsAs_item h (flag?_toString value).1

section

variable {source : String}

theorem readsAs_title (h : IsLine source) :
    ReadsAs ("=== Configuration: " ++ source ++ " ===") none := by
  refine ⟨isLine_append.2 ⟨isLine_append.2 ⟨by decide +kernel, h⟩, by decide +kernel⟩, ?_⟩
  simp [item?]

/-- The lines of the report and the items that they are about. -/
theorem readsAs_capabilities (h : IsLine source) (c : Capabilities) :
    List.Forall₂ ReadsAs (capabilities source c)
      [none, none, none,
        some ("Identity", c.platform.name),
        some ("Target build", toString c.isTargetBuild),
        some ("Target linux", toString c.isTargetLinux),
        some ("Host static build", toString c.hostStaticBuildEnabled),
        some ("Debug build", toString c.isDebugBuild),
        none, none,
        some ("Kind", c.readBarrier.title),
        some ("Active", toString c.useReadBarrier),
        some ("Baker or Brooks", toString c.useBakerOrBrooksReadBarrier),
        some ("Emit in compiler", emission c),
        none, none,
        some ("Moving collector", toString c.movingCollector),
        some ("Mark-compact", toString c.markCompactSupport),
        some ("Moving classes", toString c.movingClasses),
        some ("Heap poisoning", toString c.poisonHeapReferences),
        some ("TLAB", toString c.useTlab),
        none, none,
        some ("Trace clock", c.traceClock.title),
        some ("Embed class in code", toString c.embedClassInCode),
        some ("Must relocate", toString c.defaultMustRelocate),
        some ("Vdex", toString c.isVdexEnabled),
        some ("ARM32 soft float", toString c.arm32QuickCodeUseSoftFloat)] := by
  have hidentity : ReadsAs (item "Identity" c.platform.name) (some ("Identity", c.platform.name)) :=
    readsAs_item (by decide +kernel) (platform?_name c.platform).1
  have hkind : ReadsAs (item "Kind" c.readBarrier.title) (some ("Kind", c.readBarrier.title)) :=
    readsAs_item (by decide +kernel) (readBarrier?_title c.readBarrier).1
  have hclock : ReadsAs (item "Trace clock" c.traceClock.title)
      (some ("Trace clock", c.traceClock.title)) :=
    readsAs_item (by decide +kernel) (traceClock?_title c.traceClock).1
  simp (disch := decide +kernel) only [capabilities, List.forall₂_cons, readsAs_title h, hidentity,
    hkind, hclock, readsAs_emission, readsAs_flag, true_and]
  -- what is left are the blank lines and the headings
  decide +kernel

/-- **The report on a configuration shows its capabilities.** -/
theorem shows_capabilities (h : IsLine source) (c : Capabilities) :
    Shows (unlines (capabilities source c)) source c := by
  have hreads := readsAs_capabilities h c
  have hitems := items_of_readsAs hreads
  constructor
  case title =>
    rw [lines_unlines (isLine_of_readsAs hreads)]
    rfl
  case labels =>
    rw [hitems]
    rfl
  case platform =>
    rw [value?, hitems]
    exact (platform?_name c.platform).2
  case readBarrier =>
    rw [value?, hitems]
    exact (readBarrier?_title c.readBarrier).2
  case emission =>
    rw [value?, hitems]
    exact (emission?_emission c).2
  case traceClock =>
    rw [value?, hitems]
    exact (traceClock?_title c.traceClock).2
  case flags =>
    have hvalues : ∀ shown ∈ flags, value? (unlines (capabilities source c)) shown.1
        = some (toString (shown.2 c)) := by
      unfold value?
      rw [hitems]
      simp only [flags, List.forall_mem_cons]
      exact ⟨rfl, rfl, rfl, rfl, rfl, rfl, rfl, rfl, rfl, rfl, rfl, rfl, rfl, rfl, rfl,
        List.forall_mem_nil _⟩
    intro shown hshown
    rw [hvalues shown hshown]
    exact (flag?_toString _).2

end

end RuntimeProfiles.Report
