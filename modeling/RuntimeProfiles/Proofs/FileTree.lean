import RuntimeProfiles.FileTree
import RuntimeProfiles.Proofs.Data.Lookup
import RuntimeProfiles.Proofs.Text.Bytes

/-!
# What operations do to a file tree

Commands change a tree by making a directory and by writing a file where nothing stands. Both come
down to `FileTree.add`, so this module says once what an addition is and derives the rest from it.
Reading comes first:

* **`readText_eq_ok_iff`**, **`readText_eq_error_iff`** — the text that is read, and why there is
  none;
* **`IsAddition`** — the tree after an addition, seen through `get?`;
* **`add_eq_ok`**, **`exists_add_eq_ok`** — `add` makes an addition, and when it succeeds;
* **`Extends`** — nothing has been removed and no file has been changed;
* **`GrownBy`** — the tree has been extended by nothing but entries at given paths;
* **`writeFile_eq_ok`**, **`writeFile_eq_error`** — a new file is an addition, and the one reason
  for which it cannot be written;
* **`IsCreation`** — a directory has been made sure of, and then a new file has been written.
-/

namespace RuntimeProfiles.FileTree

variable {tree made after : FileTree} {path other : Path} {entry : FileEntry}

/-! ## Looking up -/

@[simp]
theorem get?_nil (tree : FileTree) : tree.get? [] = some .directory := rfl

theorem get?_of_ne_nil (h : path ≠ []) : tree.get? path = tree.entries.lookup path := by
  rw [get?, if_neg h]

@[simp]
theorem isDirectory_iff : tree.isDirectory path = true ↔ tree.get? path = some .directory := by
  simp [isDirectory]

theorem isFile_iff : tree.isFile path = true ↔ ∃ bytes, tree.get? path = some (.file bytes) := by
  unfold isFile
  constructor
  · intro h
    split at h
    · next bytes hget => exact ⟨bytes, hget⟩
    · cases h
  · rintro ⟨bytes, hget⟩
    rw [hget]

theorem contains_iff : tree.contains path = true ↔ ∃ entry, tree.get? path = some entry := by
  simp [contains, Option.isSome_iff_exists]

theorem contains_eq_false_iff : tree.contains path = false ↔ tree.get? path = none := by
  simp [contains]

theorem get?_eq_some_iff_mem (h : path ≠ []) :
    tree.get? path = some entry ↔ (path, entry) ∈ tree.entries := by
  rw [get?_of_ne_nil h, lookup_eq_some_iff_mem tree.isTree.nodup]

theorem get?_eq_none_iff : tree.get? path = none ↔ path ≠ [] ∧ path ∉ tree.entries.map (·.1) := by
  by_cases h : path = []
  · simp [h]
  · rw [get?_of_ne_nil h, lookup_eq_none_iff_notMem, and_iff_right h]

theorem isDirectory_iff_root_or_mem :
    tree.isDirectory path = true ↔ path = [] ∨ (path, FileEntry.directory) ∈ tree.entries := by
  rw [isDirectory_iff]
  by_cases h : path = []
  · simp [h]
  · simp [h, get?_eq_some_iff_mem h]

/-- Whatever stands somewhere stands in a directory. -/
theorem isDirectory_dropLast (h : tree.get? path = some entry) :
    tree.isDirectory path.dropLast = true := by
  by_cases hpath : path = []
  · simp [hpath]
  · rw [isDirectory_iff_root_or_mem]
    exact tree.isTree.parents _ ((get?_eq_some_iff_mem hpath).1 h)

/-! ## Reading -/

theorem readText_eq_ok_iff {text : String} :
    tree.readText path = .ok text ↔ tree.get? path = some (.file text.toUTF8) := by
  unfold readText
  split
  · next hget => simp [hget]
  · next hget => simp [hget]
  · next bytes hget =>
    rw [hget, Option.some_inj, FileEntry.file.injEq, ← Text.fromUTF8?_eq_some_iff]
    cases String.fromUTF8? bytes <;> simp

/-- The three reasons for which no text is read. -/
theorem readText_eq_error_iff {fault : FileFault} : tree.readText path = .error fault
    ↔ (tree.get? path = none ∧ fault = .notFound)
      ∨ (tree.get? path = some .directory ∧ fault = .isDirectory)
      ∨ ∃ bytes, tree.get? path = some (.file bytes) ∧ String.fromUTF8? bytes = none
        ∧ fault = .notText := by
  unfold readText
  split
  · next hget => simp [hget, eq_comm]
  · next hget => simp [hget, eq_comm]
  · next bytes hget => cases hread : String.fromUTF8? bytes <;> simp [hget, hread, eq_comm]

/-! ## Additions -/

/-- `after` is the tree with one more entry, in a directory that it had. -/
structure IsAddition (tree : FileTree) (path : Path) (entry : FileEntry) (after : FileTree) :
    Prop where
  label : after.label = tree.label
  fresh : tree.get? path = none
  parent : tree.isDirectory path.dropLast = true
  get? : ∀ other, after.get? other = if other = path then some entry else tree.get? other

/-- The name of a path is not too long for a file system. -/
def NameFits (path : Path) : Prop := (path.getLast?.getD "").utf8ByteSize ≤ maxNameLength

instance (path : Path) : Decidable (NameFits path) := by
  unfold NameFits
  infer_instance

theorem get?_append (hfresh : tree.get? path = none)
    (isTree : IsTree (tree.entries ++ [(path, entry)])) :
    (FileTree.mk tree.label (tree.entries ++ [(path, entry)]) isTree).get? other
      = if other = path then some entry else tree.get? other := by
  obtain ⟨hpath, hnew⟩ := get?_eq_none_iff.1 hfresh
  by_cases hroot : other = []
  · subst hroot
    rw [if_neg fun h => hpath h.symm, get?_nil, get?_nil]
  · rw [get?_of_ne_nil hroot, get?_of_ne_nil hroot, List.lookup_append]
    by_cases heq : other = path
    · subst heq
      rw [get?_of_ne_nil hroot] at hfresh
      simp [hfresh]
    · rw [List.lookup_cons, beq_eq_false_iff_ne.2 heq, List.lookup_nil, Option.or_none, if_neg heq]

/-- A successful `add` makes an addition under a name that fits. -/
theorem add_eq_ok (h : tree.add path entry = .ok after) :
    IsAddition tree path entry after ∧ NameFits path := by
  unfold add at h
  split at h
  · cases h
  split at h
  · cases h
  split at h
  · next hfresh hfits hparent =>
    obtain ⟨hnew, hpath⟩ := not_or.1 hfresh
    have hnone : tree.get? path = none := get?_eq_none_iff.2 ⟨hpath, hnew⟩
    cases h
    exact ⟨⟨rfl, hnone, isDirectory_iff_root_or_mem.2 hparent, fun _ => get?_append hnone _⟩,
      Nat.not_lt.1 hfits⟩
  · split at h <;> cases h

/-- Where nothing stands in a directory, anything can be added under a name that fits. -/
theorem exists_add_eq_ok (hfresh : tree.get? path = none) (hfits : NameFits path)
    (hparent : tree.isDirectory path.dropLast = true) (entry : FileEntry) :
    ∃ after, tree.add path entry = .ok after := by
  obtain ⟨hpath, hnew⟩ := get?_eq_none_iff.1 hfresh
  unfold add
  rw [dif_neg (not_or.2 ⟨hnew, hpath⟩), if_neg (Nat.not_lt.2 hfits),
    dif_pos (isDirectory_iff_root_or_mem.1 hparent)]
  exact ⟨_, rfl⟩

/-- The only other reason for which such an addition fails is the length of the name. -/
theorem add_eq_error (hfresh : tree.get? path = none)
    (hparent : tree.isDirectory path.dropLast = true) {fault : FileFault}
    (h : tree.add path entry = .error fault) : fault = .nameTooLong ∧ ¬ NameFits path := by
  by_cases hfits : NameFits path
  · -- the addition succeeds, against the hypothesis
    obtain ⟨after, hok⟩ := exists_add_eq_ok hfresh hfits hparent entry
    rw [hok] at h
    cases h
  · obtain ⟨hpath, hnew⟩ := get?_eq_none_iff.1 hfresh
    unfold add at h
    rw [dif_neg (not_or.2 ⟨hnew, hpath⟩), if_pos (Nat.not_le.1 hfits)] at h
    cases h
    exact ⟨rfl, hfits⟩

/-! ## Trees that have grown -/

/-- Nothing has been removed, and no file has been changed. -/
structure Extends (before after : FileTree) : Prop where
  label : after.label = before.label
  keeps : ∀ path entry, before.get? path = some entry → after.get? path = some entry

namespace Extends

theorem refl (tree : FileTree) : Extends tree tree := ⟨rfl, fun _ _ h => h⟩

theorem trans {first second third : FileTree} (h₁ : Extends first second)
    (h₂ : Extends second third) : Extends first third :=
  ⟨h₂.label.trans h₁.label, fun path entry h => h₂.keeps path entry (h₁.keeps path entry h)⟩

theorem contains {before after : FileTree} (h : Extends before after)
    (hpath : before.contains path = true) : after.contains path = true := by
  obtain ⟨entry, hentry⟩ := contains_iff.1 hpath
  exact contains_iff.2 ⟨entry, h.keeps path entry hentry⟩

end Extends

theorem IsAddition.extends (h : IsAddition tree path entry after) : Extends tree after := by
  refine ⟨h.label, fun other found hfound => ?_⟩
  rw [h.get?, if_neg, hfound]
  rintro rfl
  rw [h.fresh] at hfound
  cases hfound

/-- The tree has been extended, and only at the given paths. -/
structure GrownBy (before : FileTree) (paths : List Path) (after : FileTree) : Prop
    extends Extends before after where
  only : ∀ path, after.contains path = true → before.contains path = true ∨ path ∈ paths

theorem GrownBy.refl (tree : FileTree) (paths : List Path) : GrownBy tree paths tree :=
  ⟨.refl tree, fun _ h => .inl h⟩

theorem IsAddition.grownBy (h : IsAddition tree path entry after) : GrownBy tree [path] after := by
  refine ⟨h.extends, fun other hother => ?_⟩
  obtain ⟨found, hfound⟩ := contains_iff.1 hother
  rw [h.get?] at hfound
  split at hfound
  · next heq => exact .inr (by simp [heq])
  · exact .inl (contains_iff.2 ⟨found, hfound⟩)

theorem GrownBy.trans {before middle after : FileTree} {first second : List Path}
    (h₁ : GrownBy before first middle) (h₂ : GrownBy middle second after) :
    GrownBy before (first ++ second) after := by
  refine ⟨h₁.toExtends.trans h₂.toExtends, fun path hpath => ?_⟩
  rcases h₂.only path hpath with hmiddle | hmem
  · exact (h₁.only path hmiddle).imp_right (List.mem_append_left _)
  · exact .inr (List.mem_append_right _ hmem)

/-! ## Directories and files -/

/-- A directory that was made sure of was there or has been added. -/
theorem ensureDirectory_eq_ok (h : tree.ensureDirectory path = .ok after) :
    (tree.isDirectory path = true ∧ after = tree) ∨ IsAddition tree path .directory after := by
  unfold ensureDirectory at h
  split at h
  · next hdir =>
    cases h
    exact .inl ⟨hdir, rfl⟩
  · exact .inr (add_eq_ok h).1

theorem isDirectory_of_ensureDirectory (h : tree.ensureDirectory path = .ok after) :
    after.isDirectory path = true := by
  rcases ensureDirectory_eq_ok h with ⟨hdir, rfl⟩ | hadd
  · exact hdir
  · rw [isDirectory_iff, hadd.get?, if_pos rfl]

theorem grownBy_of_ensureDirectory (h : tree.ensureDirectory path = .ok after) :
    GrownBy tree [path] after := by
  rcases ensureDirectory_eq_ok h with ⟨-, rfl⟩ | hadd
  · exact .refl _ _
  · exact hadd.grownBy

/-- A directory can be made sure of exactly if it is there, or if nothing stands at its path and it
has a parent. -/
theorem exists_ensureDirectory_iff (hfits : NameFits path) :
    (∃ made, tree.ensureDirectory path = .ok made)
      ↔ tree.isDirectory path = true
        ∨ tree.get? path = none ∧ tree.isDirectory path.dropLast = true := by
  constructor
  · rintro ⟨made, hmade⟩
    rcases ensureDirectory_eq_ok hmade with ⟨hdir, -⟩ | hadd
    · exact .inl hdir
    · exact .inr ⟨hadd.fresh, hadd.parent⟩
  · rintro (hdir | ⟨hfresh, hparent⟩)
    · exact ⟨tree, if_pos hdir⟩
    · obtain ⟨made, hmade⟩ := exists_add_eq_ok hfresh hfits hparent .directory
      have hnot : ¬ tree.isDirectory path = true := by
        rw [isDirectory_iff, hfresh]
        exact fun h => by cases h
      exact ⟨made, (if_neg hnot).trans hmade⟩

/-- The length of its name is no reason for which a directory of a short name cannot be made. -/
theorem ensureDirectory_eq_error (hfits : NameFits path) {fault : FileFault}
    (h : tree.ensureDirectory path = .error fault) : fault ≠ .nameTooLong := by
  unfold ensureDirectory at h
  split at h
  · cases h
  unfold add at h
  split at h
  · cases h
    decide
  split at h
  · next hlong => exact absurd hfits (Nat.not_le.2 hlong)
  split at h
  · cases h
  split at h <;> cases h <;> decide

/-- Any other path is as it was when a directory has been made. -/
theorem get?_of_ensureDirectory (h : tree.ensureDirectory path = .ok after) (hne : other ≠ path) :
    after.get? other = tree.get? other := by
  rcases ensureDirectory_eq_ok h with ⟨-, rfl⟩ | hadd
  · rfl
  · rw [hadd.get?, if_neg hne]

theorem writeFile_of_fresh (h : tree.get? path = none) (bytes : ByteArray) :
    tree.writeFile path bytes = tree.add path (.file bytes) := by
  rw [writeFile, h]

/-- A file that is written where nothing stood has been added. -/
theorem writeFile_eq_ok (hfresh : tree.get? path = none) {bytes : ByteArray}
    (h : tree.writeFile path bytes = .ok after) :
    IsAddition tree path (.file bytes) after ∧ NameFits path := by
  rw [writeFile_of_fresh hfresh] at h
  exact add_eq_ok h

/-- A file can be written where nothing stands in a directory, unless its name is too long. -/
theorem writeFile_eq_error (hfresh : tree.get? path = none)
    (hparent : tree.isDirectory path.dropLast = true) {bytes : ByteArray} {fault : FileFault}
    (h : tree.writeFile path bytes = .error fault) : fault = .nameTooLong ∧ ¬ NameFits path := by
  rw [writeFile_of_fresh hfresh] at h
  exact add_eq_error hfresh hparent h

/-! ## A directory and a new file -/

/-- A directory has been made sure of, and then a file has been written where nothing stood. -/
structure IsCreation (tree : FileTree) (directory path : Path) (bytes : ByteArray)
    (after : FileTree) : Prop where
  fresh : tree.get? path = none
  fits : NameFits path
  steps : ∃ made, tree.ensureDirectory directory = .ok made
    ∧ IsAddition made path (.file bytes) after

namespace IsCreation

variable {directory : Path} {bytes : ByteArray}

theorem get?_path (h : IsCreation tree directory path bytes after) :
    after.get? path = some (.file bytes) := by
  obtain ⟨made, -, hadd⟩ := h.steps
  rw [hadd.get?, if_pos rfl]

/-- Whatever stands neither at the directory nor at the file is as it was. -/
theorem get?_other (h : IsCreation tree directory path bytes after) (hdirectory : other ≠ directory)
    (hpath : other ≠ path) : after.get? other = tree.get? other := by
  obtain ⟨made, hmade, hadd⟩ := h.steps
  rw [hadd.get?, if_neg hpath, get?_of_ensureDirectory hmade hdirectory]

theorem grownBy (h : IsCreation tree directory path bytes after) :
    GrownBy tree [directory, path] after := by
  obtain ⟨made, hmade, hadd⟩ := h.steps
  exact (grownBy_of_ensureDirectory hmade).trans hadd.grownBy

end IsCreation

/-- What comes of making sure of a directory and writing a new file at another path: the file is
there, or its name is too long and at most the directory is there. -/
theorem writeFile_cases {directory : Path} {bytes : ByteArray} (hfresh : tree.get? path = none)
    (hne : path ≠ directory) (hmade : tree.ensureDirectory directory = .ok made)
    (hparent : made.isDirectory path.dropLast = true) :
    (∃ after, made.writeFile path bytes = .ok after ∧ IsCreation tree directory path bytes after)
    ∨ (made.writeFile path bytes = .error .nameTooLong ∧ ¬ NameFits path
      ∧ GrownBy tree [directory] made) := by
  have hfree : made.get? path = none := by rw [get?_of_ensureDirectory hmade hne, hfresh]
  cases hwrite : made.writeFile path bytes with
  | ok after =>
    obtain ⟨hadd, hfits⟩ := writeFile_eq_ok hfree hwrite
    exact .inl ⟨after, rfl, hfresh, hfits, made, hmade, hadd⟩
  | error fault =>
    obtain ⟨rfl, hlong⟩ := writeFile_eq_error hfree hparent hwrite
    exact .inr ⟨rfl, hlong, grownBy_of_ensureDirectory hmade⟩

end RuntimeProfiles.FileTree
