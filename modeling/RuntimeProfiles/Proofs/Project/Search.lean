import RuntimeProfiles.Proofs.Project.Manifest

/-!
# The search for a manifest

The search is a loop: a round looks at one directory, and either ends the search or passes it on to
the parent. Rounds do not change what the search comes to, and every round shortens the path, so the
search ends. It ends at the nearest manifest, whether that can be read or not.

* **`find_of_round`**, **`length_of_round`** — what a round does, and what gets shorter;
* **`climb_eq`** — so the rounds come to an end, and to what `find` says;
* **`nearest?_eq_some_iff`**, **`nearest?_eq_none_iff`** — the directory that the search stops at;
* **`load_eq_iff`** — what the manifest in it is read as, with a case for everything a file can
  hold;
* **`find_nearest`** — what the search comes to.
-/

namespace RuntimeProfiles.Manifest

open Command (manifestPath)
open FileTree

variable {tree : FileTree} {start directory : Path}

abbrev SearchResult : Type := Except LoadError (Option (Manifest × Path))

/-! ## The rounds of the search -/

inductive Round where
  | ends (outcome : SearchResult)
  | above (directory : Path)

/-- One round: the manifest in a directory, if there is one, ends the search, and so does the
root. -/
def round (tree : FileTree) (directory : Path) : Round :=
  if tree.isFile (manifestPath directory) then
    .ends ((load tree directory).map fun manifest => some (manifest, directory))
  else if directory = [] then .ends (.ok none)
  else .above directory.dropLast

/-- The search in at most so many rounds. -/
def climb (tree : FileTree) : (rounds : Nat) → Path → Option SearchResult
  | 0, _ => none
  | rounds + 1, directory =>
    match round tree directory with
    | .ends outcome => some outcome
    | .above directory => climb tree rounds directory

/-- A round does not change what the search comes to. -/
theorem find_of_round (tree : FileTree) (directory : Path) : find tree directory
    = match round tree directory with
      | .ends outcome => outcome
      | .above directory => find tree directory := by
  unfold round
  by_cases hfile : tree.isFile (manifestPath directory) = true
  · rw [if_pos hfile, find, nearest?_of_isFile hfile]
  · rw [if_neg hfile]
    cases directory using List.reverseRecOn with
    | nil => rw [if_pos rfl, find, List.reverse_nil, nearest?_nil, if_neg hfile]
    | append_singleton above name =>
      rw [if_neg (by simp), List.dropLast_concat]
      show find tree (above ++ [name]) = find tree above
      rw [find, nearest?_concat, if_neg hfile, find]

theorem length_of_round {above : Path} (h : round tree directory = .above above) :
    above.length < directory.length := by
  unfold round at h
  split at h
  · cases h
  · split at h
    · cases h
    · next hne =>
      cases h
      rw [List.length_dropLast]
      exact Nat.sub_lt (List.length_pos_iff.2 hne) Nat.one_pos

/-- The search ends, after one round for each name of the path and one for the root. -/
theorem climb_eq {rounds : Nat} (h : start.length < rounds) :
    climb tree rounds start = some (find tree start) := by
  induction rounds generalizing start with
  | zero => exact absurd h (Nat.not_lt_zero _)
  | succ rounds ih =>
    -- the round that is over has left the outcome as it was and the path shorter
    rw [climb, find_of_round tree start]
    cases hround : round tree start with
    | ends outcome => rfl
    | above above =>
      have hshorter := length_of_round hround
      exact ih (by omega)

/-! ## The nearest manifest -/

/-- A directory holds the file of a manifest, and no directory between it and the start does. -/
structure IsNearest (tree : FileTree) (start directory : Path) : Prop where
  above : directory <+: start
  isFile : tree.isFile (manifestPath directory) = true
  nearest : ∀ other, other <+: start → tree.isFile (manifestPath other) = true → other <+: directory

/-- A directory with the file of a manifest is its own nearest one. -/
theorem isNearest_self_iff (h : tree.isFile (manifestPath start) = true) :
    IsNearest tree start directory ↔ directory = start := by
  constructor
  · intro hnearest
    have hbelow := hnearest.nearest start List.prefix_rfl h
    exact hnearest.above.eq_of_length_le hbelow.length_le
  · rintro rfl
    exact ⟨List.prefix_rfl, h, fun other hother _ => hother⟩

/-- Without such a file, the nearest directory is that of the parent. -/
theorem isNearest_concat_iff {above : Path} {name : String}
    (h : tree.isFile (manifestPath (above ++ [name])) = false) :
    IsNearest tree (above ++ [name]) directory ↔ IsNearest tree above directory := by
  -- what holds the file is not the start, so it is on the way exactly if it was on the way before
  have hway : ∀ {other : Path}, tree.isFile (manifestPath other) = true →
      (other <+: above ++ [name] ↔ other <+: above) := by
    intro other hother
    rw [List.prefix_concat_iff, or_iff_right]
    rintro rfl
    rw [h] at hother
    cases hother
  constructor
  · intro hnearest
    exact ⟨(hway hnearest.isFile).1 hnearest.above, hnearest.isFile,
      fun other hother hfile => hnearest.nearest other ((hway hfile).2 hother) hfile⟩
  · intro hnearest
    exact ⟨(hway hnearest.isFile).2 hnearest.above, hnearest.isFile,
      fun other hother hfile => hnearest.nearest other ((hway hfile).1 hother) hfile⟩

theorem nearest?_eq_some_iff :
    nearest? tree start.reverse = some directory ↔ IsNearest tree start directory := by
  induction start using List.reverseRecOn with
  | nil =>
    by_cases hfile : tree.isFile (manifestPath []) = true
    · rw [nearest?_of_isFile hfile, isNearest_self_iff hfile, Option.some_inj, eq_comm]
    · rw [List.reverse_nil, nearest?_nil, if_neg hfile]
      refine iff_of_false nofun fun hnearest => ?_
      -- nothing is above the root
      rw [List.prefix_nil.1 hnearest.above] at hnearest
      exact hfile hnearest.isFile
  | append_singleton above name ih =>
    by_cases hfile : tree.isFile (manifestPath (above ++ [name])) = true
    · rw [nearest?_of_isFile hfile, isNearest_self_iff hfile, Option.some_inj, eq_comm]
    · rw [nearest?_concat, if_neg hfile, ih, isNearest_concat_iff (Bool.eq_false_iff.2 hfile)]

theorem nearest?_eq_none_iff : nearest? tree start.reverse = none
    ↔ ∀ other, other <+: start → tree.isFile (manifestPath other) = false := by
  induction start using List.reverseRecOn with
  | nil =>
    simp only [List.reverse_nil, nearest?_nil, List.prefix_nil, forall_eq]
    cases tree.isFile (manifestPath []) <;> simp
  | append_singleton above name ih =>
    -- the directories on the way are the start and those on the way from its parent
    simp only [List.prefix_concat_iff, or_imp, forall_and, forall_eq, ← ih]
    rw [nearest?_concat]
    cases tree.isFile (manifestPath (above ++ [name])) <;> simp

theorem IsNearest.unique {other : Path} (h : IsNearest tree start directory)
    (hother : IsNearest tree start other) : other = directory := by
  have hfound := nearest?_eq_some_iff.2 hother
  rw [nearest?_eq_some_iff.2 h] at hfound
  exact (Option.some_inj.1 hfound).symm

theorem IsNearest.not_none (h : IsNearest tree start directory) :
    ¬ ∀ other, other <+: start → tree.isFile (manifestPath other) = false := by
  intro hnone
  have hfile := h.isFile
  rw [hnone directory h.above] at hfile
  cases hfile

/-! ## The manifest that is read -/

/-- What it comes to that the file of a manifest is read. -/
inductive Loads (tree : FileTree) (directory : Path) : Except LoadError Manifest → Prop where
  | notText (raw : ByteArray) (hget : tree.get? (manifestPath directory) = some (.file raw))
      (hraw : String.fromUTF8? raw = none) :
      Loads tree directory (.error (.reading (tree.display (manifestPath directory)) .notText))
  | unreadable (text : String) (fault : Fault)
      (hget : tree.get? (manifestPath directory) = some (.file text.toUTF8))
      (hfault : ofToml text = .error fault) :
      Loads tree directory (.error (.parsing (tree.display (manifestPath directory)) fault))
  | manifest (text : String) (manifest : Manifest)
      (hget : tree.get? (manifestPath directory) = some (.file text.toUTF8))
      (hmanifest : ofToml text = .ok manifest) : Loads tree directory (.ok manifest)

theorem load_of_readText_error {fault : FileFault}
    (h : tree.readText (manifestPath directory) = .error fault) :
    load tree directory = .error (.reading (tree.display (manifestPath directory)) fault) := by
  unfold load
  dsimp only
  rw [← manifestPath, h]

theorem load_of_readText_ok {text : String}
    (h : tree.readText (manifestPath directory) = .ok text) : load tree directory
      = (ofToml text).mapError (.parsing (tree.display (manifestPath directory))) := by
  unfold load
  dsimp only
  rw [← manifestPath, h]

/-- A file is read as the cases say, and as nothing else. -/
theorem load_eq_iff {outcome : Except LoadError Manifest}
    (h : tree.isFile (manifestPath directory) = true) :
    load tree directory = outcome ↔ Loads tree directory outcome := by
  constructor
  · rintro rfl
    obtain ⟨bytes, hbytes⟩ := isFile_iff.1 h
    cases hread : tree.readText (manifestPath directory) with
    | error fault =>
      rw [load_of_readText_error hread]
      rcases readText_eq_error_iff.1 hread with
        ⟨hnone, -⟩ | ⟨hdirectory, -⟩ | ⟨raw, hget, hraw, rfl⟩
      -- a file is there, so it was neither missing nor a directory
      · rw [hbytes] at hnone
        cases hnone
      · rw [hbytes] at hdirectory
        cases hdirectory
      · exact .notText raw hget hraw
    | ok text =>
      rw [load_of_readText_ok hread]
      cases hparse : ofToml text with
      | error fault => exact .unreadable text fault (readText_eq_ok_iff.1 hread) hparse
      | ok manifest => exact .manifest text manifest (readText_eq_ok_iff.1 hread) hparse
  · intro hloads
    cases hloads with
    | notText raw hget hraw =>
      exact load_of_readText_error (readText_eq_error_iff.2 (.inr (.inr ⟨raw, hget, hraw, rfl⟩)))
    | unreadable text fault hget hfault =>
      rw [load_of_readText_ok (readText_eq_ok_iff.2 hget), hfault]
      rfl
    | manifest text manifest hget hmanifest =>
      rw [load_of_readText_ok (readText_eq_ok_iff.2 hget), hmanifest]
      rfl

/-! ## What the search comes to -/

/-- The search ends at the nearest manifest, if there is one, with what its file is read as. -/
structure FindsNearest (tree : FileTree) (start : Path) (outcome : SearchResult) : Prop where
  none_iff : outcome = .ok none
    ↔ ∀ directory, directory <+: start → tree.isFile (manifestPath directory) = false
  some_iff : ∀ manifest directory, outcome = .ok (some (manifest, directory))
    ↔ IsNearest tree start directory ∧ Loads tree directory (.ok manifest)
  error_iff : ∀ error, outcome = .error error
    ↔ ∃ directory, IsNearest tree start directory ∧ Loads tree directory (.error error)

/-- With the nearest manifest known, all depends on its file. -/
theorem findsNearest_load (h : IsNearest tree start directory) : FindsNearest tree start
    ((load tree directory).map fun manifest => some (manifest, directory)) where
  none_iff := by
    refine iff_of_false ?_ h.not_none
    cases load tree directory <;> exact nofun
  some_iff := by
    intro manifest other
    have hmap : (load tree directory).map (fun manifest => some (manifest, directory))
        = .ok (some (manifest, other))
          ↔ directory = other ∧ load tree directory = .ok manifest := by
      cases load tree directory <;> simp [Except.map, and_comm]
    rw [hmap, load_eq_iff h.isFile]
    constructor
    · rintro ⟨rfl, hloads⟩
      exact ⟨h, hloads⟩
    · rintro ⟨hother, hloads⟩
      obtain rfl := h.unique hother
      exact ⟨rfl, hloads⟩
  error_iff := by
    intro error
    have hmap : (load tree directory).map (fun manifest => some (manifest, directory))
        = .error error
        ↔ load tree directory = .error error := by
      cases load tree directory <;> simp [Except.map]
    rw [hmap, load_eq_iff h.isFile]
    constructor
    · exact fun hloads => ⟨directory, h, hloads⟩
    · rintro ⟨other, hother, hloads⟩
      obtain rfl := h.unique hother
      exact hloads

theorem findsNearest_none
    (h : ∀ directory, directory <+: start → tree.isFile (manifestPath directory) = false) :
    FindsNearest tree start (.ok none) where
  none_iff := iff_of_true rfl h
  some_iff := fun _ _ => iff_of_false nofun fun hnearest => hnearest.1.not_none h
  error_iff := fun _ => iff_of_false nofun fun ⟨_, hnearest⟩ => hnearest.1.not_none h

/-- **The search ends at the nearest manifest.** It takes a round for each name of the path and one
for the root at most. Directories named like a manifest are passed, and a manifest that cannot be
read is an error and no reason to go on. -/
theorem find_nearest (tree : FileTree) (start : Path) :
    (∀ rounds, start.length < rounds → climb tree rounds start = some (find tree start))
    ∧ FindsNearest tree start (find tree start) := by
  refine ⟨fun _ => climb_eq, ?_⟩
  unfold find
  cases hnearest : nearest? tree start.reverse with
  | none => exact findsNearest_none (nearest?_eq_none_iff.1 hnearest)
  | some directory => exact findsNearest_load (nearest?_eq_some_iff.1 hnearest)

/-- A tree with a manifest at the root, a directory named like one below it, and below that a
manifest that is no text. -/
def layeredTree : FileTree :=
  ⟨"", [([fileName], .file ⟨#[]⟩), (["a"], .directory), (["a", fileName], .directory),
    (["a", "b"], .directory), (["a", "b", fileName], .file ⟨#[0xFF]⟩)],
    ((((IsTree.nil.concat (by simp) (by simp) (.inl rfl)).concat (by decide) (by simp)
      (.inl rfl)).concat (by decide) (by simp) (.inr (by simp))).concat (by decide) (by simp)
      (.inr (by simp))).concat (by decide) (by simp) (.inr (by simp))⟩

theorem find_nearest_layered :
    find layeredTree ["a"] = .ok (some (⟨none, false⟩, []))
    ∧ find layeredTree ["a", "b"] = .error (.reading "/a/b/memcaps.toml" .notText) := by
  have hroot : IsNearest layeredTree ["a"] [] := nearest?_eq_some_iff.1 (by decide)
  have hempty : Loads layeredTree [] (.ok ⟨none, false⟩) :=
    .manifest "" _ (by decide) (by decide +kernel)
  have hinner : IsNearest layeredTree ["a", "b"] ["a", "b"] := nearest?_eq_some_iff.1 (by decide)
  have hbroken : Loads layeredTree ["a", "b"] (.error (.reading "/a/b/memcaps.toml" .notText)) :=
    .notText _ rfl (by decide)
  exact ⟨((find_nearest layeredTree ["a"]).2.some_iff _ _).2 ⟨hroot, hempty⟩,
    ((find_nearest layeredTree ["a", "b"]).2.error_iff _).2 ⟨_, hinner, hbroken⟩⟩

end RuntimeProfiles.Manifest
