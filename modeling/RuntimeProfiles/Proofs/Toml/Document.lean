import RuntimeProfiles.Proofs.Data.Lookup
import RuntimeProfiles.Proofs.Toml.Text
import RuntimeProfiles.Toml.Document
import RuntimeProfiles.Toml.Writer

/-!
# TOML documents come back

The writer puts a record down as lines of scalars and then as sections of such lines. Reading that
text gives the record again:

* **`ComesBack`** — what a scalar has to satisfy, and **`comesBack_bool`**, **`comesBack_text`**:
  that truth values and strings do;
* **`Reads`** — a text splits into statements, however much fuel is left beyond its length; a line,
  a header and an empty line each put one statement or none in front of what follows;
* **`fieldsOf?_statements`** — the statements of a document build its fields;
* **`read?_write`** — the two together.

Keys are bare and distinct, and sections follow the scalars: that is the form of every record the
program writes.
-/

namespace RuntimeProfiles.Toml

/-! ## Scalars -/

/-- The data is a scalar, and at the end of a line its text is read as the data. -/
def ComesBack (data : Data) : Prop :=
  ∃ c tail, scalarText? data = some (c :: tail) ∧ isSpace c = false
    ∧ ∀ fuel rest, readValue (fuel + 1) (c :: tail ++ '\n' :: rest) = some (data, '\n' :: rest)

theorem comesBack_bool (value : Bool) : ComesBack (.bool value) := by
  cases value with
  | true =>
    refine ⟨'t', ['r', 'u', 'e'], by decide, by decide, fun fuel rest => ?_⟩
    simp [readValue, readScalar]
  | false =>
    refine ⟨'f', ['a', 'l', 's', 'e'], by decide, by decide, fun fuel rest => ?_⟩
    simp [readValue, readScalar]

theorem comesBack_text (value : String) : ComesBack (.text value) := by
  obtain ⟨quote, tail, hcons, hquote⟩ := exists_cons_encode value.toList
  refine ⟨quote, tail, by rw [scalarText?, hcons], ?_, fun fuel rest => ?_⟩
  · rcases hquote with rfl | rfl <;> decide
  · have hread : readString (quote :: tail ++ '\n' :: rest)
        = some (value.toList, '\n' :: rest) := by
      rw [← hcons]
      exact readString_encode _ (by simp) (by simp)
    rcases hquote with rfl | rfl <;>
      simp only [List.cons_append] at hread ⊢ <;>
      rw [readValue] <;>
      simp [readScalar, hread]

/-! ## Keys -/

/-- The key can be written without quotes. -/
def IsBareKey (key : String) : Prop := key.toList ≠ [] ∧ ∀ c ∈ key.toList, isBare c = true

instance (key : String) : Decidable (IsBareKey key) :=
  decidable_of_iff (key.toList.isEmpty = false ∧ key.toList.all isBare = true)
    (by simp [IsBareKey])

theorem ne_of_isBare {c d : Char} (h : isBare c = true) (hd : isBare d = false) : c ≠ d := by
  rintro rfl
  exact absurd h (by simp [hd])

theorem isSpace_of_isBare {c : Char} (h : isBare c = true) : isSpace c = false := by
  have hblank : c ≠ ' ' := ne_of_isBare h (by decide)
  have htab : c ≠ '\t' := ne_of_isBare h (by decide)
  simp [isSpace, hblank, htab]

theorem skipSpace_cons {c : Char} (h : isSpace c = false) (rest : List Char) :
    skipSpace (c :: rest) = c :: rest := by
  simp [skipSpace, List.dropWhile, h]

theorem IsBareKey.exists_cons {key : String} (h : IsBareKey key) :
    ∃ c tail, key.toList = c :: tail ∧ isBare c = true := by
  obtain ⟨hne, hall⟩ := h
  cases hkey : key.toList with
  | nil => exact absurd hkey hne
  | cons c tail => exact ⟨c, tail, rfl, hall c (hkey ▸ List.mem_cons_self)⟩

theorem IsBareKey.skipSpace_append {key : String} (h : IsBareKey key) (rest : List Char) :
    skipSpace (key.toList ++ rest) = key.toList ++ rest := by
  obtain ⟨c, tail, hkey, hc⟩ := h.exists_cons
  rw [hkey, List.cons_append, skipSpace_cons (isSpace_of_isBare hc)]

/-- A bare key ends at the first character that cannot stand in it. -/
theorem readKeyPart_append {key : String} (h : IsBareKey key) {c : Char} (hc : isBare c = false)
    (rest : List Char) : readKeyPart (key.toList ++ c :: rest) = some (key, c :: rest) := by
  have htake : (key.toList ++ c :: rest).takeWhile isBare = key.toList := by
    rw [List.takeWhile_append_of_pos h.2, List.takeWhile_cons, hc]
    simp
  have hdrop : (key.toList ++ c :: rest).dropWhile isBare = c :: rest := by
    rw [List.dropWhile_append_of_pos h.2, List.dropWhile_cons, hc]
    simp
  obtain ⟨d, tail, hkey, hd⟩ := h.exists_cons
  have hdouble : d ≠ '"' := ne_of_isBare hd (by decide)
  have hsingle : d ≠ '\'' := ne_of_isBare hd (by decide)
  rw [readKeyPart, htake, hdrop]
  · split
    · next hnil => exact absurd hnil h.1
    · rw [String.ofList_toList]
  · rw [hkey]
    rintro _ heq
    exact hdouble (List.cons.inj heq).1
  · rw [hkey]
    rintro _ heq
    exact hsingle (List.cons.inj heq).1

/-- A bare key with a space or without one between it and the character after it. -/
theorem readKey_append {key : String} (h : IsBareKey key) {c : Char} (hbare : isBare c = false)
    (hspace : isSpace c = false) (hdot : c ≠ '.') (fuel : Nat) {space : List Char}
    (hs : space = [] ∨ space = [' ']) (rest : List Char) :
    readKey (fuel + 1) (key.toList ++ (space ++ c :: rest)) = some (⟨[], key⟩, c :: rest) := by
  have hpart : readKeyPart (skipSpace (key.toList ++ (space ++ c :: rest)))
      = some (key, space ++ c :: rest) := by
    rw [h.skipSpace_append]
    rcases hs with rfl | rfl
    · exact readKeyPart_append h hbare rest
    · exact readKeyPart_append h (by decide) (c :: rest)
  have hskip : skipSpace (space ++ c :: rest) = c :: rest := by
    rcases hs with rfl | rfl
    · exact skipSpace_cons hspace rest
    · exact skipSpace_cons hspace rest
  rw [readKey, hpart]
  simp only [Option.bind_eq_bind, Option.bind_some, hskip]
  split
  · next heq => exact absurd (List.cons.inj heq).1 hdot
  · rfl

/-! ## Statements

A text splits into statements with any fuel beyond its length. Every rule below spends one unit of
fuel on at least one character. -/

/-- The text splits into the statements. -/
def Reads (text : List Char) (statements : List Statement) : Prop :=
  ∀ fuel, text.length < fuel → Statement.readAll fuel text = some statements

theorem Reads.nil : Reads [] [] := by
  intro fuel h
  obtain ⟨fuel, rfl⟩ := Nat.exists_eq_add_one_of_ne_zero (Nat.ne_of_gt h)
  simp [Statement.readAll, skipSpace]

theorem Reads.emptyLine {text : List Char} {statements : List Statement}
    (h : Reads text statements) : Reads ('\n' :: text) statements := by
  intro fuel hlt
  obtain ⟨fuel, rfl⟩ := Nat.exists_eq_add_one_of_ne_zero (Nat.ne_of_gt (Nat.zero_lt_of_lt hlt))
  rw [Statement.readAll, skipSpace_cons (by decide)]
  exact h fuel (by simpa using hlt)

theorem endLine?_newline (rest : List Char) : endLine? ('\n' :: rest) = some rest := by
  simp [endLine?, skipSpace_cons (show isSpace '\n' = false by decide), newLine?]

/-- A line that starts with a bare key is neither empty nor a comment nor a header. -/
theorem readAll_pair {c : Char} (h : isBare c = true) (fuel : Nat) (rest : List Char) :
    Statement.readAll (fuel + 1) (c :: rest) = (do
      let (statement, rest) ← Statement.readPair fuel (c :: rest)
      return statement :: (← Statement.readAll fuel rest)) := by
  have hhash : c ≠ '#' := ne_of_isBare h (by decide)
  have hline : c ≠ '\n' := ne_of_isBare h (by decide)
  have hreturn : c ≠ '\r' := ne_of_isBare h (by decide)
  have hbracket : c ≠ '[' := ne_of_isBare h (by decide)
  rw [Statement.readAll, skipSpace_cons (isSpace_of_isBare h)]
  split
  · next heq => exact absurd heq (by simp)
  · next heq => exact absurd (List.cons.inj heq).1 hhash
  · next heq => exact absurd (List.cons.inj heq).1 hline
  · next heq => exact absurd (List.cons.inj heq).1 hreturn
  · next heq => exact absurd (List.cons.inj heq).1 hbracket
  · next heq => exact absurd (List.cons.inj heq).1 hbracket
  · rfl

/-- The line of a field is one statement. -/
theorem Reads.line {key : String} (hkey : IsBareKey key) {data : Data} (hdata : ComesBack data)
    {text : List Char} {statements : List Statement} (h : Reads text statements) :
    Reads (fieldLine (key, data) ++ text) (.pair ⟨[], key⟩ data :: statements) := by
  obtain ⟨c, tail, hscalar, hspace, hread⟩ := hdata
  have hline : fieldLine (key, data) ++ text
      = key.toList ++ ([' '] ++ '=' :: (' ' :: (c :: tail ++ '\n' :: text))) := by
    simp [fieldLine, hscalar]
  rw [hline]
  intro fuel hlt
  simp only [List.length_append, List.length_cons] at hlt
  -- one unit of fuel for the line and one for its key, which is not dotted
  obtain ⟨fuel, rfl⟩ : ∃ n, fuel = n + 1 + 1 := ⟨fuel - 2, by omega⟩
  have hskip : skipSpace (' ' :: (c :: tail ++ '\n' :: text)) = c :: tail ++ '\n' :: text :=
    skipSpace_cons hspace _
  have hpair : Statement.readPair (fuel + 1)
        (key.toList ++ ([' '] ++ '=' :: (' ' :: (c :: tail ++ '\n' :: text))))
      = some (.pair ⟨[], key⟩ data, text) := by
    rw [Statement.readPair, readKey_append hkey (by decide) (by decide) (by decide) fuel (.inr rfl)]
    simp only [Option.bind_eq_bind, Option.bind_some, skipChar, if_true, hskip, hread,
      endLine?_newline, Option.pure_def]
  obtain ⟨d, rest, hcons, hbare⟩ := hkey.exists_cons
  rw [hcons, List.cons_append] at hpair ⊢
  rw [readAll_pair hbare, hpair]
  simp only [Option.bind_eq_bind, Option.bind_some, Option.pure_def, h (fuel + 1) (by omega)]

/-- The header of a table is one statement. -/
theorem Reads.header {key : String} (hkey : IsBareKey key) {text : List Char}
    {statements : List Statement} (h : Reads text statements) :
    Reads ('[' :: (key.toList ++ ']' :: '\n' :: text)) (.table ⟨[], key⟩ :: statements) := by
  intro fuel hlt
  simp only [List.length_append, List.length_cons] at hlt
  obtain ⟨fuel, rfl⟩ : ∃ n, fuel = n + 1 + 1 := ⟨fuel - 2, by omega⟩
  have hheader : Statement.readHeader (fuel + 1) false (key.toList ++ ']' :: '\n' :: text)
      = some (.table ⟨[], key⟩, text) := by
    have hread : readKey (fuel + 1) (key.toList ++ ([] ++ ']' :: '\n' :: text))
        = some (⟨[], key⟩, ']' :: '\n' :: text) :=
      readKey_append hkey (by decide) (by decide) (by decide) fuel (.inl rfl) _
    rw [List.nil_append] at hread
    rw [Statement.readHeader, hread]
    simp only [Option.bind_eq_bind, Option.bind_some, skipChar, if_true, Bool.false_eq_true,
      if_false, endLine?_newline, Option.pure_def]
  obtain ⟨d, rest, hcons, hbare⟩ := hkey.exists_cons
  have hbracket : d ≠ '[' := ne_of_isBare hbare (by decide)
  rw [hcons, List.cons_append] at hheader ⊢
  rw [Statement.readAll, skipSpace_cons (by decide)]
  split
  · next heq => exact absurd heq (by simp)
  · next heq => exact absurd (List.cons.inj heq).1 (by decide)
  · next heq => exact absurd (List.cons.inj heq).1 (by decide)
  · next heq => exact absurd (List.cons.inj heq).1 (by decide)
  · next heq => exact absurd (List.cons.inj (List.cons.inj heq).2).1 hbracket
  · next heq =>
    rw [← (List.cons.inj heq).2, hheader]
    simp only [Option.bind_eq_bind, Option.bind_some, Option.pure_def, h (fuel + 1) (by omega)]
  · next hother => exact absurd rfl (hother _)

/-! ## Documents -/

/-- Fields that hold scalars under keys that are bare and distinct. -/
structure IsFlat (fields : List (String × Data)) : Prop where
  keys : ∀ field ∈ fields, IsBareKey field.1
  scalars : ∀ field ∈ fields, ComesBack field.2
  nodup : (fields.map (·.1)).Nodup

/-- The statements of the lines of fields. -/
def pairs (fields : List (String × Data)) : List Statement :=
  fields.map fun field => .pair ⟨[], field.1⟩ field.2

theorem Reads.lines {fields : List (String × Data)} (hkeys : ∀ field ∈ fields, IsBareKey field.1)
    (hscalars : ∀ field ∈ fields, ComesBack field.2) {text : List Char}
    {statements : List Statement} (h : Reads text statements) :
    Reads (fields.flatMap fieldLine ++ text) (pairs fields ++ statements) := by
  induction fields with
  | nil => exact h
  | cons field fields ih =>
    rw [List.flatMap_cons, List.append_assoc]
    exact .line (hkeys field List.mem_cons_self) (hscalars field List.mem_cons_self)
      (ih (fun f hf => hkeys f (List.mem_cons_of_mem _ hf))
        fun f hf => hscalars f (List.mem_cons_of_mem _ hf))

/-- A table with a name and the fields under its header. -/
abbrev Section := String × List (String × Data)

namespace Section

/-- The field that a section is in its record. -/
def field (part : Section) : String × Data := (part.1, .ofFields part.2)

def text (part : Section) : List Char :=
  '[' :: part.1.toList ++ ']' :: '\n' :: part.2.flatMap fieldLine

def statements (part : Section) : List Statement := .table ⟨[], part.1⟩ :: pairs part.2

end Section

/-- Scalars and then sections, under keys that are bare and, in each table, distinct. -/
structure IsDocument (scalars : List (String × Data)) (sections : List Section) : Prop where
  flat : IsFlat scalars
  keys : ∀ part ∈ sections, IsBareKey part.1
  flatSections : ∀ part ∈ sections, IsFlat part.2
  nodup : (scalars.map (·.1) ++ sections.map (·.1)).Nodup

/-- A block of text splits into statements of its own in front of any other text. -/
def ReadsBlock (block : List Char × List Statement) : Prop :=
  ∀ text statements, Reads text statements → Reads (block.1 ++ text) (block.2 ++ statements)

/-- Blocks with empty lines between them split into their statements. -/
theorem Reads.intercalate {blocks : List (List Char × List Statement)}
    (h : ∀ block ∈ blocks, ReadsBlock block) :
    Reads (['\n'].intercalate (blocks.map (·.1))) (blocks.flatMap (·.2)) := by
  induction blocks with
  | nil => exact .nil
  | cons block blocks ih =>
    have ih := ih fun b hb => h b (List.mem_cons_of_mem _ hb)
    have hblock := h block List.mem_cons_self
    cases blocks with
    | nil => simpa using hblock [] [] .nil
    | cons next blocks =>
      rw [List.map_cons, List.map_cons, List.intercalate_cons_cons, List.flatMap_cons,
        List.append_assoc]
      exact hblock _ _ ih.emptyLine

theorem readsBlock_scalars {scalars : List (String × Data)} (h : IsFlat scalars) :
    ReadsBlock (scalars.flatMap fieldLine, pairs scalars) :=
  fun _ _ hr => .lines h.keys h.scalars hr

theorem readsBlock_section {part : Section} (hkey : IsBareKey part.1) (h : IsFlat part.2) :
    ReadsBlock (part.text, part.statements) := by
  intro text statements hr
  have hlines := Reads.header hkey (.lines h.keys h.scalars hr)
  simpa [Section.text, Section.statements] using hlines

/-- The lines of scalars are not empty unless there are none. -/
theorem flatMap_fieldLine_eq_nil {scalars : List (String × Data)} (h : IsFlat scalars) :
    scalars.flatMap fieldLine = [] ↔ scalars = [] := by
  constructor
  · intro hnil
    cases scalars with
    | nil => rfl
    | cons field scalars =>
      obtain ⟨c, tail, hscalar, -, -⟩ := h.scalars field List.mem_cons_self
      simp [fieldLine, hscalar] at hnil
  · rintro rfl
    rfl

theorem flatMap_fieldLine_sections (sections : List Section) :
    (sections.map Section.field).flatMap fieldLine = [] := by
  induction sections with
  | nil => rfl
  | cons part sections ih => simpa [Section.field, Data.ofFields, fieldLine, scalarText?] using ih

theorem filterMap_section?_scalars {scalars : List (String × Data)} (h : IsFlat scalars) :
    scalars.filterMap section? = [] := by
  rw [List.filterMap_eq_nil_iff]
  intro field hfield
  obtain ⟨c, tail, hscalar, -, -⟩ := h.scalars field hfield
  unfold section?
  split
  · next heq => simp [heq, scalarText?] at hscalar
  · rfl

theorem filterMap_section?_sections (sections : List Section) :
    (sections.map Section.field).filterMap section? = sections.map Section.text := by
  induction sections with
  | nil => rfl
  | cons part sections ih =>
    rw [List.map_cons, List.map_cons, List.filterMap_cons_some, ih]
    rfl

/-- The text of a document splits into the statements of its scalars and of its sections. -/
theorem reads_render {scalars : List (String × Data)} {sections : List Section}
    (h : IsDocument scalars sections) :
    Reads (render (scalars ++ sections.map Section.field))
      (pairs scalars ++ sections.flatMap Section.statements) := by
  have hparts : ∀ block ∈ sections.map (fun part => (part.text, part.statements)),
      ReadsBlock block := by
    intro block hblock
    obtain ⟨part, hpart, rfl⟩ := List.mem_map.1 hblock
    exact readsBlock_section (h.keys part hpart) (h.flatSections part hpart)
  have hrender : render (scalars ++ sections.map Section.field) = ['\n'].intercalate
      (if scalars.isEmpty then sections.map Section.text
        else scalars.flatMap fieldLine :: sections.map Section.text) := by
    simp only [render, List.flatMap_append, flatMap_fieldLine_sections, List.append_nil,
      List.filterMap_append, filterMap_section?_scalars h.flat, filterMap_section?_sections,
      List.nil_append, List.isEmpty_iff, flatMap_fieldLine_eq_nil h.flat]
  rw [hrender]
  -- without scalars there is no first block, and so no empty line before the first header
  cases hscalars : scalars with
  | nil =>
    have hread := Reads.intercalate hparts
    simpa [pairs, List.map_map, Function.comp_def, List.flatMap_map] using hread
  | cons field rest =>
    rw [← hscalars]
    have hread := Reads.intercalate
      (List.forall_mem_cons.2 ⟨readsBlock_scalars h.flat, hparts⟩)
    simpa [hscalars, List.map_map, Function.comp_def, List.flatMap_map] using hread

/-! ## Building the tables

Every line puts its value at the end of the table that is open, which is the root before the first
header and the last table of the root after one. -/

/-- The entry of a field that holds a value. -/
def valueEntry (field : String × Data) : String × Entry := (field.1, .value field.2)

/-- A change of the last table of the root. -/
theorem changeAt_last {root inner : Entries} {key : String} (h : key ∉ root.map (·.1))
    (change : Entries → Option Entries) :
    Entries.changeAt [key] change (root ++ [(key, .table .header inner)])
      = (change inner).map fun inner => root ++ [(key, .table .header inner)] := by
  have hlookup : (root ++ [(key, Entry.table .header inner)]).lookup key
      = some (.table .header inner) := by
    rw [List.lookup_append, lookup_eq_none_iff_notMem.2 h]
    simp
  have hreplace : ∀ inner', Entries.replace (root ++ [(key, .table .header inner)]) key
      (.table .header inner') = root ++ [(key, .table .header inner')] := by
    intro inner'
    have hroot : root.map (fun entry => if entry.1 == key then (entry.1, Entry.table .header inner')
        else entry) = root := by
      refine (List.map_congr_left fun entry hentry => ?_).trans (List.map_id root)
      rw [if_neg]
      · rfl
      · rw [beq_iff_eq]
        rintro rfl
        exact h (List.mem_map_of_mem hentry)
    simp only [Entries.replace, List.map_append, List.map_cons, List.map_nil, beq_self_eq_true,
      if_true, hroot]
  rw [Entries.changeAt, hlookup]
  simp only [Entries.changeAt, Option.bind_eq_bind, Option.pure_def, hreplace]
  cases change inner <;> rfl

theorem put_of_notMem {entries : Entries} {key : String} (h : key ∉ entries.map (·.1))
    (data : Data) : Entries.put [] key data entries = some (entries ++ [(key, .value data)]) := by
  simp [Entries.put, lookup_eq_none_iff_notMem.2 h]

/-- Lines put their values at the end of the table that `current` leads to. `embed` is the root for
each content of that table. -/
theorem foldlM_step_pairs (current : List String) (embed : Entries → Entries)
    (hembed : ∀ change inner,
      Entries.changeAt current change (embed inner) = (change inner).map embed)
    (inner : Entries) {fields : List (String × Data)}
    (h : (inner.map (·.1) ++ fields.map (·.1)).Nodup) :
    (pairs fields).foldlM Builder.step ⟨embed inner, current⟩
      = some ⟨embed (inner ++ fields.map valueEntry), current⟩ := by
  -- the table grows with every line, so the induction is over any content that it may have
  induction fields generalizing inner with
  | nil => simp [pairs]
  | cons field fields ih =>
    have hfresh : field.1 ∉ inner.map (·.1) := by
      intro hmem
      exact (List.nodup_append.1 h).2.2 _ hmem _ List.mem_cons_self rfl
    have hstep : Builder.step ⟨embed inner, current⟩ (.pair ⟨[], field.1⟩ field.2)
        = some ⟨embed (inner ++ [valueEntry field]), current⟩ := by
      rw [Builder.step, hembed, put_of_notMem hfresh]
      rfl
    have hrest : (((inner ++ [valueEntry field]).map (·.1)) ++ fields.map (·.1)).Nodup := by
      simpa [valueEntry] using h
    rw [pairs, List.map_cons, List.foldlM_cons, hstep, ← pairs, Option.bind_eq_bind,
      Option.bind_some, ih _ hrest]
    simp

/-- The entry that a section becomes. -/
def Section.entry (part : Section) : String × Entry :=
  (part.1, .table .header (part.2.map valueEntry))

theorem foldlM_step_section {part : Section} (h : IsFlat part.2) {root : Entries}
    (hfresh : part.1 ∉ root.map (·.1)) (current : List String) :
    part.statements.foldlM Builder.step ⟨root, current⟩
      = some ⟨root ++ [part.entry], [part.1]⟩ := by
  have hopen : Builder.step ⟨root, current⟩ (.table ⟨[], part.1⟩)
      = some ⟨root ++ [(part.1, .table .header [])], [part.1]⟩ := by
    simp [Builder.step, Entries.openTable, Entries.changeAt, lookup_eq_none_iff_notMem.2 hfresh]
  have hlines := foldlM_step_pairs [part.1]
    (fun inner => root ++ [(part.1, .table .header inner)])
    (fun change _ => changeAt_last hfresh change) [] (by simpa using h.nodup)
  rw [Section.statements, List.foldlM_cons, hopen, Option.bind_eq_bind, Option.bind_some, hlines]
  simp [Section.entry]

theorem foldlM_step_sections {sections : List Section} (hflat : ∀ part ∈ sections, IsFlat part.2)
    (root : Entries) (h : (root.map (·.1) ++ sections.map (·.1)).Nodup) (current : List String) :
    ∃ last, (sections.flatMap Section.statements).foldlM Builder.step ⟨root, current⟩
      = some ⟨root ++ sections.map Section.entry, last⟩ := by
  induction sections generalizing root current with
  | nil => exact ⟨current, by simp⟩
  | cons part sections ih =>
    have hfresh : part.1 ∉ root.map (·.1) := by
      intro hmem
      exact (List.nodup_append.1 h).2.2 _ hmem _ List.mem_cons_self rfl
    have hrest : ((root ++ [part.entry]).map (·.1) ++ sections.map (·.1)).Nodup := by
      simpa [Section.entry] using h
    obtain ⟨last, hlast⟩ := ih (fun p hp => hflat p (List.mem_cons_of_mem _ hp)) _ hrest [part.1]
    refine ⟨last, ?_⟩
    rw [List.flatMap_cons, List.foldlM_append,
      foldlM_step_section (hflat part List.mem_cons_self) hfresh, Option.bind_eq_bind,
      Option.bind_some, hlast]
    simp

theorem toFields_values (fields : List (String × Data)) (entries : Entries) :
    Entries.toFields (fields.map valueEntry ++ entries) = fields ++ Entries.toFields entries := by
  induction fields with
  | nil => rfl
  | cons field fields ih =>
    simp only [List.map_cons, List.cons_append, valueEntry, Entries.toFields, Entry.toData] at ih ⊢
    rw [ih]

theorem toFields_sections (sections : List Section) :
    Entries.toFields (sections.map Section.entry) = sections.map Section.field := by
  induction sections with
  | nil => rfl
  | cons part sections ih =>
    have hinner := toFields_values part.2 []
    simp only [List.append_nil, Entries.toFields] at hinner
    simp only [List.map_cons, Section.entry, Entries.toFields, Entry.toData, hinner] at ih ⊢
    rw [ih]
    rfl

/-- The statements of a document build its fields. -/
theorem fieldsOf?_statements {scalars : List (String × Data)} {sections : List Section}
    (h : IsDocument scalars sections) :
    fieldsOf? (pairs scalars ++ sections.flatMap Section.statements)
      = some (scalars ++ sections.map Section.field) := by
  have hscalars := foldlM_step_pairs [] id (fun _ _ => by simp [Entries.changeAt]) []
    (by simpa using h.flat.nodup)
  obtain ⟨last, hsections⟩ := foldlM_step_sections h.flatSections (scalars.map valueEntry)
    (by simpa [valueEntry, Function.comp_def] using h.nodup) []
  simp only [id, List.nil_append] at hscalars
  rw [fieldsOf?, List.foldlM_append, Builder.start, hscalars, Option.bind_eq_bind,
    Option.bind_eq_bind, Option.bind_some, hsections, Option.bind_some, toFields_values,
    toFields_sections]
  rfl

/-! ## Reading what was written -/

/-- A key cannot start with a byte order mark. -/
theorem readKey_mark (fuel : Nat) (rest : List Char) : readKey fuel ('\uFEFF' :: rest) = none := by
  cases fuel with
  | zero => rfl
  | succ fuel =>
    have hbare : isBare '\uFEFF' = false := by decide
    rw [readKey, skipSpace_cons (by decide), readKeyPart] <;> simp [hbare]

/-- A text that splits into statements does not start with a byte order mark. -/
theorem Reads.skipMark {text : List Char} {statements : List Statement}
    (h : Reads text statements) : skipMark text = text := by
  unfold Toml.skipMark
  split
  · next rest =>
    -- with a mark in front, the first line would be one without a key
    have hread := h _ (Nat.lt_succ_self _)
    rw [Statement.readAll, skipSpace_cons (by decide)] at hread
    simp [Statement.readPair, readKey_mark] at hread
  · rfl

/-- **Documents come back.** A record of scalars and sections is read from its text with the same
fields in the same order. -/
theorem read?_write {scalars : List (String × Data)} {sections : List Section}
    (h : IsDocument scalars sections) :
    read? (write (.ofFields (scalars ++ sections.map Section.field)))
      = some (scalars ++ sections.map Section.field) := by
  have hreads := reads_render h
  rw [Data.ofFields, write, read?, String.toList_ofList, hreads.skipMark]
  simp only [Option.bind_eq_bind]
  rw [hreads _ (by omega), Option.bind_some, fieldsOf?_statements h]

end RuntimeProfiles.Toml
