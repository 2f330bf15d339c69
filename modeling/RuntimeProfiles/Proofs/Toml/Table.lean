import RuntimeProfiles.Proofs.Data.Lookup
import RuntimeProfiles.Toml.Document

/-!
# Tables that have been read

A document that is read is a table all the way down: no table in it has two fields under one key,
and nothing in it is broken. The steps that build the tables keep it so, and the values that are put
into them have been built in the same way:

* **`Entries.IsSound.put`**, **`Entries.IsSound.changeAt`** — a step keeps tables sound;
* **`Entry.IsSound.toData`** — finished tables are sound as data;
* **`isValue_of_readers`** — so values are, by induction on the fuel of their readers;
* **`isTable_of_read?`** — and so are documents.
-/

namespace RuntimeProfiles.Toml

/-- Data as a document holds it: every list and every table is complete, and a table has no two
fields under one key. -/
inductive IsValue : Data → Prop where
  | bool (value : Bool) : IsValue (.bool value)
  | integer (value : Int) : IsValue (.integer value)
  | float (value : Float) : IsValue (.float value)
  | text (value : String) : IsValue (.text value)
  | moment : IsValue .moment
  | list {items : List Data} {ending : Ending} (hending : ending.isSound = true)
      (hitems : ∀ item ∈ items, IsValue item) : IsValue (.list items ending)
  | record {fields : List (String × Data)} (hkeys : (fields.map (·.1)).Nodup)
      (hvalues : ∀ field ∈ fields, IsValue field.2) : IsValue (.record fields .closed)

/-- A finished table: distinct keys with values. -/
structure IsTable (fields : List (String × Data)) : Prop where
  keys : (fields.map (·.1)).Nodup
  values : ∀ field ∈ fields, IsValue field.2

theorem IsTable.isValue {fields : List (String × Data)} (h : IsTable fields) :
    IsValue (.record fields .closed) := .record h.keys h.values

theorem IsValue.isTable {fields : List (String × Data)} {ending : Ending}
    (h : IsValue (.record fields ending)) : IsTable fields ∧ ending = .closed := by
  cases h with
  | record hkeys hvalues => exact ⟨⟨hkeys, hvalues⟩, rfl⟩

theorem IsValue.isWhole {data : Data} (h : IsValue data) : data.isWhole = true := by
  cases h with
  | @list items ending hending hitems =>
    cases ending with
    | broken => cases hending
    | _ => rfl
  | _ => rfl

theorem IsTable.isWhole {fields : List (String × Data)} (h : IsTable fields) :
    ∀ field ∈ fields, field.2.isWhole = true :=
  fun field hfield => (h.values field hfield).isWhole

theorem isTable_cons {key : String} {value : Data} {table : List (String × Data)} :
    IsTable ((key, value) :: table) ↔ key ∉ table.map (·.1) ∧ IsValue value ∧ IsTable table := by
  constructor
  · intro ⟨hkeys, hvalues⟩
    obtain ⟨hfresh, hkeys⟩ := List.nodup_cons.1 hkeys
    obtain ⟨hvalue, hvalues⟩ := List.forall_mem_cons.1 hvalues
    exact ⟨hfresh, hvalue, hkeys, hvalues⟩
  · intro ⟨hfresh, hvalue, htable⟩
    exact ⟨List.nodup_cons.2 ⟨hfresh, htable.keys⟩, List.forall_mem_cons.2 ⟨hvalue, htable.values⟩⟩

theorem isTable_perm {table table' : List (String × Data)} (h : table.Perm table') :
    IsTable table ↔ IsTable table' := by
  constructor
  · intro ⟨hkeys, hvalues⟩
    exact ⟨(h.map _).nodup_iff.1 hkeys, fun field hfield => hvalues field (h.mem_iff.2 hfield)⟩
  · intro ⟨hkeys, hvalues⟩
    exact ⟨(h.map _).nodup_iff.2 hkeys, fun field hfield => hvalues field (h.mem_iff.1 hfield)⟩

/-! ## Tables under construction -/

/-- An entry that becomes data of a document. -/
inductive Entry.IsSound : Entry → Prop where
  | value {data : Data} (h : IsValue data) : IsSound (.value data)
  | table {origin : Origin} {entries : Entries} (hkeys : (entries.map (·.1)).Nodup)
      (hentries : ∀ entry ∈ entries, IsSound entry.2) : IsSound (.table origin entries)
  | tables {elements : List Entries} (hkeys : ∀ entries ∈ elements, (entries.map (·.1)).Nodup)
      (hentries : ∀ entries ∈ elements, ∀ entry ∈ entries, IsSound entry.2) :
      IsSound (.tables elements)

namespace Entries

/-- The entries of a table that becomes one of a document. -/
structure IsSound (entries : Entries) : Prop where
  keys : (entries.map (·.1)).Nodup
  entries : ∀ entry ∈ entries, entry.2.IsSound

/-- A step that keeps tables sound, if it has a result. -/
def Keeps (change : Entries → Option Entries) : Prop :=
  ∀ entries after : Entries, entries.IsSound → change entries = some after → after.IsSound

end Entries

theorem Entries.isSound_nil : Entries.IsSound [] where
  keys := List.nodup_nil
  entries := nofun

theorem Entries.IsSound.table {entries : Entries} (h : entries.IsSound) (origin : Origin) :
    (Entry.table origin entries).IsSound := .table h.keys h.entries

theorem Entry.isSound_tables_iff {elements : List Entries} :
    (Entry.tables elements).IsSound ↔ ∀ entries ∈ elements, Entries.IsSound entries := by
  constructor
  · intro h entries hmem
    cases h with
    | tables hkeys hentries => exact ⟨hkeys entries hmem, hentries entries hmem⟩
  · intro h
    exact .tables (fun entries hmem => (h entries hmem).keys) fun entries hmem =>
      (h entries hmem).entries

theorem Entry.isSound_table_iff {origin : Origin} {entries : Entries} :
    (Entry.table origin entries).IsSound ↔ Entries.IsSound entries := by
  constructor
  · intro h
    cases h with
    | table hkeys hentries => exact ⟨hkeys, hentries⟩
  · intro h
    exact h.table origin

namespace Entries

variable {entries after : Entries} {key name : String} {entry : Entry}

namespace IsSound

theorem of_lookup (h : entries.IsSound) (hlookup : entries.lookup key = some entry) :
    entry.IsSound := h.entries _ (mem_of_lookup hlookup)

/-- A table may get an entry under a new key. -/
theorem append (h : entries.IsSound) (hlookup : entries.lookup key = none)
    (hentry : entry.IsSound) : Entries.IsSound (entries ++ [(key, entry)]) where
  keys := by
    have hfresh := lookup_eq_none_iff_notMem.1 hlookup
    rw [List.map_append, List.nodup_append]
    refine ⟨h.keys, by simp, fun first hfirst second hsecond hsame => ?_⟩
    obtain rfl := List.mem_singleton.1 hsecond
    exact hfresh (hsame ▸ hfirst)
  entries := by
    intro found hfound
    rcases List.mem_append.1 hfound with hold | hnew
    · exact h.entries found hold
    · exact List.mem_singleton.1 hnew ▸ hentry

/-- A table may get another entry in the place of one that it has. -/
theorem replace (h : entries.IsSound) (hentry : entry.IsSound) :
    Entries.IsSound (entries.replace key entry) where
  keys := by
    have hsame : (entries.replace key entry).map (·.1) = entries.map (·.1) := by
      rw [Entries.replace, List.map_map]
      apply List.map_congr_left
      intro found _
      show (if found.1 == key then (found.1, entry) else (found.1, found.2)).1 = found.1
      split <;> rfl
    rw [hsame]
    exact h.keys
  entries := by
    intro found hfound
    obtain ⟨old, hold, rfl⟩ := List.mem_map.1 hfound
    show (if old.1 == key then (old.1, entry) else (old.1, old.2)).2.IsSound
    split
    · exact hentry
    · exact h.entries old hold

end IsSound

/-! ## The steps -/

variable {change : Entries → Option Entries} {elements changed : List Entries}

theorem changeLast_isSound (hchange : Keeps change) (h : (Entry.tables elements).IsSound)
    (hchanged : changeLast change elements = some changed) : (Entry.tables changed).IsSound := by
  rw [Entry.isSound_tables_iff] at h ⊢
  unfold changeLast at hchanged
  split at hchanged
  · next last hlast =>
    obtain ⟨after, hafter, rfl⟩ := Option.map_eq_some_iff.1 hchanged
    intro entries hmem
    rcases List.mem_append.1 hmem with hold | hnew
    · exact h entries ((List.dropLast_sublist elements).subset hold)
    · obtain rfl := List.mem_singleton.1 hnew
      exact hchange last entries (h last (List.mem_of_getLast? hlast)) hafter
  · cases hchanged

namespace IsSound

variable {origin : Origin} {inner : Entries}

/-! A step that goes through a key makes a table there, or changes what stands there. -/

theorem makeTable (h : entries.IsSound) (hlookup : entries.lookup key = none)
    (hchange : Keeps change)
    (hafter : (do
      let inner ← change []
      return entries ++ [(key, .table origin inner)]) = some after) : after.IsSound := by
  obtain ⟨made, hmade, hsame⟩ := Option.bind_eq_some_iff.1 hafter
  cases hsame
  exact h.append hlookup ((hchange [] made isSound_nil hmade).table origin)

theorem changeTable (h : entries.IsSound)
    (hlookup : entries.lookup key = some (.table origin inner))
    (hchange : Keeps change)
    (hafter : (do
      let inner ← change inner
      return entries.replace key (.table origin inner)) = some after) : after.IsSound := by
  obtain ⟨changed, hchanged, hsame⟩ := Option.bind_eq_some_iff.1 hafter
  cases hsame
  have hinner := Entry.isSound_table_iff.1 (h.of_lookup hlookup)
  exact h.replace ((hchange inner changed hinner hchanged).table origin)

theorem changeTables (h : entries.IsSound) (hlookup : entries.lookup key = some (.tables elements))
    (hchange : Keeps change)
    (hafter : (do
      let elements ← changeLast change elements
      return entries.replace key (.tables elements)) = some after) : after.IsSound := by
  obtain ⟨changed, hchanged, hsame⟩ := Option.bind_eq_some_iff.1 hafter
  cases hsame
  exact h.replace (changeLast_isSound hchange (h.of_lookup hlookup) hchanged)

end IsSound

/-- A change of a table deep inside keeps everything around it sound. -/
theorem keeps_changeAt (hchange : Keeps change) (path : List String) :
    Keeps (changeAt path change) := by
  induction path with
  | nil => exact hchange
  | cons key path ih =>
    intro entries after h hafter
    unfold changeAt at hafter
    split at hafter
    · next hlookup => exact h.makeTable hlookup ih hafter
    · next hlookup => exact h.changeTable hlookup ih hafter
    · next hlookup => exact h.changeTables hlookup ih hafter
    · cases hafter

theorem keeps_put {data : Data} (hdata : IsValue data) (path : List String) (name : String) :
    Keeps (put path name data) := by
  induction path with
  | nil =>
    intro entries after h hafter
    unfold put at hafter
    split at hafter
    · cases hafter
    · next hfresh =>
      cases hafter
      exact h.append (Option.not_isSome_iff_eq_none.1 hfresh) (.value hdata)
  | cons key path ih =>
    intro entries after h hafter
    unfold put at hafter
    split at hafter
    · next hlookup => exact h.makeTable hlookup ih hafter
    · next hlookup => exact h.changeTable hlookup ih hafter
    · next hlookup =>
      split at hafter
      · cases hafter
      · exact h.changeTable hlookup ih hafter
    · next hlookup =>
      split at hafter
      · cases hafter
      · exact h.changeTables hlookup ih hafter
    · cases hafter
    · cases hafter

theorem keeps_openTable (path : List String) (name : String) : Keeps (openTable path name) := by
  apply keeps_changeAt
  intro entries after h hafter
  dsimp only at hafter
  split at hafter
  · next hlookup =>
    cases hafter
    exact h.append hlookup (isSound_nil.table .header)
  · next inner hlookup =>
    cases hafter
    have hinner := Entry.isSound_table_iff.1 (h.of_lookup hlookup)
    exact h.replace (hinner.table .header)
  · cases hafter

theorem keeps_openElement (path : List String) (name : String) : Keeps (openElement path name) := by
  apply keeps_changeAt
  intro entries after h hafter
  dsimp only at hafter
  split at hafter
  · next hlookup =>
    cases hafter
    refine h.append hlookup (Entry.isSound_tables_iff.2 fun entries hmem => ?_)
    exact List.mem_singleton.1 hmem ▸ isSound_nil
  · next elements hlookup =>
    cases hafter
    have helements := Entry.isSound_tables_iff.1 (h.of_lookup hlookup)
    refine h.replace (Entry.isSound_tables_iff.2 fun entries hmem => ?_)
    rcases List.mem_append.1 hmem with hold | hnew
    · exact helements entries hold
    · exact List.mem_singleton.1 hnew ▸ isSound_nil
  · cases hafter

/-! ## Finished tables -/

theorem toFields_eq (entries : Entries) :
    toFields entries = entries.map fun entry => (entry.1, entry.2.toData) := by
  induction entries with
  | nil => rfl
  | cons entry entries ih => rw [toFields, ih, List.map_cons]

theorem toItems_eq (elements : List Entries) :
    toItems elements = elements.map fun entries => .record (toFields entries) .closed := by
  induction elements with
  | nil => rfl
  | cons entries elements ih => rw [toItems, ih, List.map_cons]

theorem isTable_toFields (hkeys : (entries.map (·.1)).Nodup)
    (hentries : ∀ entry ∈ entries, IsValue entry.2.toData) : IsTable (toFields entries) where
  keys := by
    rwa [toFields_eq, List.map_map]
  values := by
    intro field hfield
    rw [toFields_eq] at hfield
    obtain ⟨entry, hentry, rfl⟩ := List.mem_map.1 hfield
    exact hentries entry hentry

end Entries

theorem Entry.IsSound.toData {entry : Entry} (h : entry.IsSound) : IsValue entry.toData := by
  induction h with
  | value h => exact h
  | table hkeys _ ih => exact (Entries.isTable_toFields hkeys ih).isValue
  | tables hkeys _ ih =>
    refine .list rfl fun item hitem => ?_
    rw [Entries.toItems_eq] at hitem
    obtain ⟨entries, hentries, rfl⟩ := List.mem_map.1 hitem
    exact (Entries.isTable_toFields (hkeys entries hentries) (ih entries hentries)).isValue

theorem Entries.IsSound.isTable {entries : Entries} (h : entries.IsSound) :
    IsTable (Entries.toFields entries) :=
  isTable_toFields h.keys fun entry hentry => (h.entries entry hentry).toData

/-! ## Values -/

theorem isValue_of_integer? {n : Int} {data : Data} (h : integer? n = some data) :
    IsValue data := by
  unfold integer? at h
  split at h
  · cases h
    exact .integer n
  · cases h

theorem isValue_of_float? {negative : Bool} {digits : List Char} {exponent : Int} {data : Data}
    (h : float? negative digits exponent = some data) : IsValue data := by
  unfold float? at h
  dsimp only at h
  split at h
  · cases h
    exact .float _
  · split at h
    · cases h
    · cases h
      exact .float _

theorem isValue_of_readDecimal {negative : Bool} {text rest : List Char} {data : Data}
    (h : readDecimal negative text = some (data, rest)) : IsValue data := by
  -- a point or an exponent makes it a float, whatever digits there are
  have hfloat : ∀ {digits : List Char} {exponent : Int} {tail : List Char},
      (do
        let data ← float? negative digits exponent
        return (data, tail)) = some (data, rest) → IsValue data := by
    intro digits exponent tail h
    obtain ⟨found, hfound, hsame⟩ := Option.bind_eq_some_iff.1 h
    cases hsame
    exact isValue_of_float? hfound
  obtain ⟨⟨whole, tail⟩, -, h⟩ := Option.bind_eq_some_iff.1 h
  dsimp only at h
  split at h
  · obtain ⟨⟨fraction, tail⟩, -, h⟩ := Option.bind_eq_some_iff.1 h
    dsimp only at h
    split at h
    · obtain ⟨exponent, -, h⟩ := Option.bind_eq_some_iff.1 h
      exact hfloat h
    · obtain ⟨exponent, -, h⟩ := Option.bind_eq_some_iff.1 h
      exact hfloat h
    · exact hfloat h
  · obtain ⟨exponent, -, h⟩ := Option.bind_eq_some_iff.1 h
    exact hfloat h
  · obtain ⟨exponent, -, h⟩ := Option.bind_eq_some_iff.1 h
    exact hfloat h
  · obtain ⟨found, hfound, hsame⟩ := Option.bind_eq_some_iff.1 h
    cases hsame
    exact isValue_of_integer? hfound

theorem isValue_of_readBased {base : Nat} {isDigit : Char → Bool} {text rest : List Char}
    {data : Data} (h : readBased base isDigit text = some (data, rest)) : IsValue data := by
  obtain ⟨⟨digits, tail⟩, -, h⟩ := Option.bind_eq_some_iff.1 h
  obtain ⟨found, hfound, h⟩ := Option.bind_eq_some_iff.1 h
  cases h
  exact isValue_of_integer? hfound

theorem isValue_of_readSigned {negative : Bool} {text rest : List Char} {data : Data}
    (h : readSigned negative text = some (data, rest)) : IsValue data := by
  unfold readSigned at h
  split at h
  · cases h
    exact .float _
  · cases h
    exact .float _
  · exact isValue_of_readDecimal h

theorem isValue_of_readNumber {text rest : List Char} {data : Data}
    (h : readNumber text = some (data, rest)) : IsValue data := by
  unfold readNumber at h
  split at h
  · exact isValue_of_readBased h
  · exact isValue_of_readBased h
  · exact isValue_of_readBased h
  · exact isValue_of_readSigned h
  · exact isValue_of_readSigned h
  · exact isValue_of_readSigned h

theorem isValue_of_readScalar {text rest : List Char} {data : Data}
    (h : readScalar text = some (data, rest)) : IsValue data := by
  unfold readScalar at h
  split at h
  · obtain ⟨⟨chars, tail⟩, -, hsame⟩ := Option.map_eq_some_iff.1 h
    cases hsame
    exact .text _
  · obtain ⟨⟨chars, tail⟩, -, hsame⟩ := Option.map_eq_some_iff.1 h
    cases hsame
    exact .text _
  · cases h
    exact .bool true
  · cases h
    exact .bool false
  · split at h
    · cases h
      exact .moment
    · cases h
    · exact isValue_of_readNumber h

/-- Each pair puts one sound value, so the table stays sound from step to step. -/
theorem Entries.isSound_puts {pairs : List (Key × Data)} (hpairs : ∀ pair ∈ pairs, IsValue pair.2)
    {entries after : Entries} (h : entries.IsSound)
    (hafter : pairs.foldlM (fun entries (key, data) => Entries.put key.path key.name data entries)
      entries = some after) : after.IsSound := by
  -- the invariant is that the table is sound before each pair
  induction pairs generalizing entries with
  | nil =>
    cases hafter
    exact h
  | cons pair pairs ih =>
    obtain ⟨hfirst, hothers⟩ := List.forall_mem_cons.1 hpairs
    obtain ⟨next, hnext, hafter⟩ := Option.bind_eq_some_iff.1 hafter
    exact ih hothers (keeps_put hfirst pair.1.path pair.1.name entries next h hnext) hafter

theorem isValue_of_inlineTable {pairs : List (Key × Data)} {data : Data}
    (hpairs : ∀ pair ∈ pairs, IsValue pair.2) (h : inlineTable pairs = some data) :
    IsValue data := by
  obtain ⟨root, hroot, hsame⟩ := Option.bind_eq_some_iff.1 h
  cases hsame
  exact (Entries.isSound_puts hpairs Entries.isSound_nil hroot).isTable.isValue

/-- The readers of values call each other with less fuel, so the induction is over all three. -/
theorem isValue_of_readers (fuel : Nat) :
    (∀ text data rest, readValue fuel text = some (data, rest) → IsValue data)
    ∧ (∀ text items rest, readItems fuel text = some (items, rest) → ∀ item ∈ items, IsValue item)
    ∧ ∀ text pairs rest, readPairs fuel text = some (pairs, rest) →
      ∀ pair ∈ pairs, IsValue pair.2 := by
  induction fuel with
  | zero => exact ⟨nofun, nofun, nofun⟩
  | succ fuel ih =>
    obtain ⟨hvalue, hitems, hpairs⟩ := ih
    refine ⟨fun text data rest h => ?_, fun text items rest h => ?_, fun text pairs rest h => ?_⟩
    · unfold readValue at h
      split at h
      · obtain ⟨⟨items, tail⟩, hread, hsame⟩ := Option.bind_eq_some_iff.1 h
        cases hsame
        exact .list rfl (hitems _ _ _ hread)
      · split at h
        · cases h
          exact .record List.nodup_nil nofun
        · obtain ⟨⟨pairs, tail⟩, hread, h⟩ := Option.bind_eq_some_iff.1 h
          obtain ⟨table, htable, hsame⟩ := Option.bind_eq_some_iff.1 h
          cases hsame
          exact isValue_of_inlineTable (hpairs _ _ _ hread) htable
      · exact isValue_of_readScalar h
    · unfold readItems at h
      split at h
      · cases h
        exact nofun
      · obtain ⟨⟨item, tail⟩, hitem, h⟩ := Option.bind_eq_some_iff.1 h
        have hfirst := hvalue _ _ _ hitem
        dsimp only at h
        split at h
        · cases h
          exact List.forall_mem_singleton.2 hfirst
        · obtain ⟨⟨others, tail⟩, hothers, hsame⟩ := Option.bind_eq_some_iff.1 h
          cases hsame
          exact List.forall_mem_cons.2 ⟨hfirst, hitems _ _ _ hothers⟩
        · cases h
    · unfold readPairs at h
      obtain ⟨⟨key, tail⟩, -, h⟩ := Option.bind_eq_some_iff.1 h
      obtain ⟨tail, -, h⟩ := Option.bind_eq_some_iff.1 h
      obtain ⟨⟨data, tail⟩, hdata, h⟩ := Option.bind_eq_some_iff.1 h
      have hfirst := hvalue _ _ _ hdata
      dsimp only at h
      split at h
      · cases h
        exact List.forall_mem_singleton.2 hfirst
      · obtain ⟨⟨others, tail⟩, hothers, hsame⟩ := Option.bind_eq_some_iff.1 h
        cases hsame
        exact List.forall_mem_cons.2 ⟨hfirst, hpairs _ _ _ hothers⟩
      · cases h

/-! ## Documents -/

/-- A statement puts a sound value, if it puts any. -/
def Statement.IsSound : Statement → Prop
  | .pair _ data => IsValue data
  | .table _ | .element _ => True

theorem Statement.isSound_of_readHeader {fuel : Nat} {isElement : Bool} {text rest : List Char}
    {statement : Statement} (h : readHeader fuel isElement text = some (statement, rest)) :
    statement.IsSound := by
  obtain ⟨⟨key, tail⟩, -, h⟩ := Option.bind_eq_some_iff.1 h
  obtain ⟨tail, -, h⟩ := Option.bind_eq_some_iff.1 h
  cases isElement with
  | true =>
    obtain ⟨tail, -, h⟩ := Option.bind_eq_some_iff.1 h
    obtain ⟨tail, -, hsame⟩ := Option.bind_eq_some_iff.1 h
    cases hsame
    trivial
  | false =>
    obtain ⟨tail, -, hsame⟩ := Option.bind_eq_some_iff.1 h
    cases hsame
    trivial

theorem Statement.isSound_of_readPair {fuel : Nat} {text rest : List Char} {statement : Statement}
    (h : readPair fuel text = some (statement, rest)) : statement.IsSound := by
  obtain ⟨⟨key, tail⟩, -, h⟩ := Option.bind_eq_some_iff.1 h
  obtain ⟨tail, -, h⟩ := Option.bind_eq_some_iff.1 h
  obtain ⟨⟨data, tail⟩, hdata, h⟩ := Option.bind_eq_some_iff.1 h
  obtain ⟨tail, -, hsame⟩ := Option.bind_eq_some_iff.1 h
  cases hsame
  exact (isValue_of_readers fuel).1 _ _ _ hdata

theorem Statement.isSound_of_readAll {fuel : Nat} {text : List Char} {statements : List Statement}
    (h : readAll fuel text = some statements) : ∀ statement ∈ statements, statement.IsSound := by
  induction fuel generalizing text statements with
  | zero => cases h
  | succ fuel ih =>
    unfold readAll at h
    split at h
    · cases h
      exact nofun
    · obtain ⟨tail, -, h⟩ := Option.bind_eq_some_iff.1 h
      exact ih h
    · exact ih h
    · obtain ⟨tail, -, h⟩ := Option.bind_eq_some_iff.1 h
      exact ih h
    all_goals
      obtain ⟨⟨statement, tail⟩, hfirst, h⟩ := Option.bind_eq_some_iff.1 h
      obtain ⟨others, hothers, hsame⟩ := Option.bind_eq_some_iff.1 h
      cases hsame
      refine List.forall_mem_cons.2 ⟨?_, ih hothers⟩
    · exact isSound_of_readHeader hfirst
    · exact isSound_of_readHeader hfirst
    · exact isSound_of_readPair hfirst

theorem Builder.isSound_step {builder after : Builder} {statement : Statement}
    (hstatement : statement.IsSound) (h : builder.root.IsSound)
    (hafter : builder.step statement = some after) : after.root.IsSound := by
  cases statement with
  | pair key data =>
    obtain ⟨root, hroot, hsame⟩ := Option.bind_eq_some_iff.1 hafter
    cases hsame
    have hput := Entries.keeps_put hstatement key.path key.name
    exact Entries.keeps_changeAt hput builder.current builder.root root h hroot
  | table key =>
    obtain ⟨root, hroot, hsame⟩ := Option.bind_eq_some_iff.1 hafter
    cases hsame
    exact Entries.keeps_openTable key.path key.name builder.root root h hroot
  | element key =>
    obtain ⟨root, hroot, hsame⟩ := Option.bind_eq_some_iff.1 hafter
    cases hsame
    exact Entries.keeps_openElement key.path key.name builder.root root h hroot

theorem Builder.isSound_run {statements : List Statement}
    (hstatements : ∀ statement ∈ statements, statement.IsSound) {builder after : Builder}
    (h : builder.root.IsSound) (hafter : statements.foldlM Builder.step builder = some after) :
    after.root.IsSound := by
  induction statements generalizing builder with
  | nil =>
    cases hafter
    exact h
  | cons statement statements ih =>
    obtain ⟨hfirst, hothers⟩ := List.forall_mem_cons.1 hstatements
    obtain ⟨next, hnext, hafter⟩ := Option.bind_eq_some_iff.1 hafter
    exact ih hothers (isSound_step hfirst h hnext) hafter

/-- **A document is a table.** Whatever text is read, the fields that it holds have distinct keys,
and so have those of every table in it; nothing in it is broken. -/
theorem isTable_of_read? {text : String} {fields : List (String × Data)}
    (h : read? text = some fields) : IsTable fields := by
  obtain ⟨statements, hstatements, h⟩ := Option.bind_eq_some_iff.1 h
  obtain ⟨builder, hbuilder, hsame⟩ := Option.bind_eq_some_iff.1 h
  cases hsame
  have hsound := Statement.isSound_of_readAll hstatements
  exact (Builder.isSound_run hsound Entries.isSound_nil hbuilder).isTable

end RuntimeProfiles.Toml
