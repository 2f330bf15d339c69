import RuntimeProfiles.Proofs.FileTree

/-!
# Trees that differ in the content of one file

Most of what can be asked about a tree does not depend on what is in a given file, and an addition
does not touch it. So two trees that differ in nothing else (`SameBut`) answer alike, and the same
operation takes them to trees that still differ in nothing else:

* **`SameBut.contains`**, **`SameBut.isDirectory`** — the questions;
* **`add_eq_error_iff`** — why an addition fails, which is a matter of such questions;
* **`SameBut.add`** — so it either fails on both trees or succeeds on both;
* **`SameBut.ensureDirectory`**, **`SameBut.writeFile`** — the operations that come down to it.
-/

namespace RuntimeProfiles.FileTree

/-- A regular file stands at a path of both trees, and apart from its bytes the trees are the
same. -/
structure SameBut (path : Path) (first second : FileTree) : Prop where
  label : first.label = second.label
  others : ∀ other, other ≠ path → first.get? other = second.get? other
  file : first.isFile path = true
  file' : second.isFile path = true

/-- Results of an operation are the same fault, or they are trees that differ in one file only. -/
inductive SameResult (path : Path) :
    Except FileFault FileTree → Except FileFault FileTree → Prop
  | error (fault : FileFault) : SameResult path (.error fault) (.error fault)
  | ok {first second : FileTree} (h : SameBut path first second) :
    SameResult path (.ok first) (.ok second)

theorem SameResult.exists {path : Path} {first second : Except FileFault FileTree}
    (h : SameResult path first second) :
    (∃ fault, first = .error fault ∧ second = .error fault)
    ∨ ∃ made made', first = .ok made ∧ second = .ok made' ∧ SameBut path made made' := by
  cases h with
  | error fault => exact .inl ⟨fault, rfl, rfl⟩
  | ok h => exact .inr ⟨_, _, rfl, rfl, h⟩

/-! ## Why an addition fails -/

section

variable {tree : FileTree} {path : Path} {entry : FileEntry} {fault : FileFault}

/-- Why nothing can be added at a path, if there is a reason. It lies in what stands at the path and
at its parent, and not in what would be added. -/
def addFault? (tree : FileTree) (path : Path) : Option FileFault :=
  if tree.contains path then some .alreadyExists
  else if maxNameLength < (path.getLast?.getD "").utf8ByteSize then some .nameTooLong
  else if tree.isDirectory path.dropLast then none
  else if tree.contains path.dropLast then some .notDirectory
  else some .notFound

theorem mem_or_eq_nil_iff :
    (path ∈ tree.entries.map (·.1) ∨ path = []) ↔ tree.contains path = true := by
  rw [← Bool.not_eq_false, contains_eq_false_iff, get?_eq_none_iff]
  by_cases hroot : path = [] <;> simp [hroot]

theorem add_eq_error_iff :
    tree.add path entry = .error fault ↔ tree.addFault? path = some fault := by
  unfold add addFault?
  by_cases hthere : tree.contains path = true
  · rw [dif_pos (mem_or_eq_nil_iff.2 hthere), if_pos hthere, Except.error.injEq, Option.some.injEq]
  rw [dif_neg fun hmem => hthere (mem_or_eq_nil_iff.1 hmem), if_neg hthere]
  by_cases hlong : maxNameLength < (path.getLast?.getD "").utf8ByteSize
  · rw [if_pos hlong, if_pos hlong, Except.error.injEq, Option.some.injEq]
  rw [if_neg hlong, if_neg hlong]
  by_cases hparent : tree.isDirectory path.dropLast = true
  · rw [dif_pos (isDirectory_iff_root_or_mem.1 hparent), if_pos hparent]
    exact iff_of_false nofun nofun
  rw [dif_neg fun hmem => hparent (isDirectory_iff_root_or_mem.2 hmem), if_neg hparent]
  -- the root is a directory, so here the parent is an entry if anything
  have hentry : path.dropLast ∈ tree.entries.map (·.1) ↔ tree.contains path.dropLast = true := by
    have hroot : path.dropLast ≠ [] := fun h => hparent (by rw [h]; rfl)
    rw [← mem_or_eq_nil_iff, or_iff_left hroot]
  by_cases hblocked : tree.contains path.dropLast = true
  · rw [if_pos (hentry.2 hblocked), if_pos hblocked, Except.error.injEq, Option.some.injEq]
  · rw [if_neg fun hmem => hblocked (hentry.1 hmem), if_neg hblocked, Except.error.injEq,
      Option.some.injEq]

end

namespace SameBut

variable {path other : Path} {first second : FileTree} {entry : FileEntry}

theorem symm (h : SameBut path first second) : SameBut path second first :=
  ⟨h.label.symm, fun other hne => (h.others other hne).symm, h.file', h.file⟩

/-! ## Questions about trees -/

theorem display (h : SameBut path first second) (other : Path) :
    first.display other = second.display other := by
  unfold FileTree.display
  rw [h.label]

/-- Whatever is asked about an entry has the same answer if it does not tell one file from
another. -/
theorem of_get? (h : SameBut path first second) (question : Option FileEntry → Bool)
    (hfiles : ∀ bytes bytes', question (some (.file bytes)) = question (some (.file bytes')))
    (other : Path) : question (first.get? other) = question (second.get? other) := by
  by_cases heq : other = path
  · obtain ⟨bytes, hbytes⟩ := isFile_iff.1 h.file
    obtain ⟨bytes', hbytes'⟩ := isFile_iff.1 h.file'
    rw [heq, hbytes, hbytes']
    exact hfiles bytes bytes'
  · rw [h.others other heq]

theorem contains (h : SameBut path first second) (other : Path) :
    first.contains other = second.contains other :=
  h.of_get? Option.isSome (fun _ _ => rfl) other

theorem isDirectory (h : SameBut path first second) (other : Path) :
    first.isDirectory other = second.isDirectory other :=
  h.of_get? (fun entry => decide (entry = some .directory)) (fun _ _ => by simp) other

/-- Where nothing stands in one tree, nothing stands in the other, and that is not at the file. -/
theorem eq_none (h : SameBut path first second) (hnone : first.get? other = none) :
    other ≠ path ∧ second.get? other = none := by
  have hne : other ≠ path := by
    rintro rfl
    obtain ⟨bytes, hbytes⟩ := isFile_iff.1 h.file
    rw [hnone] at hbytes
    cases hbytes
  exact ⟨hne, h.others other hne ▸ hnone⟩

/-! ## Operations -/

theorem of_isAddition {after after' : FileTree} (h : SameBut path first second)
    (hfirst : IsAddition first other entry after) (hsecond : IsAddition second other entry after') :
    SameBut path after after' := by
  -- the entry is new, so it is not put where the file is
  have hne : path ≠ other := (h.eq_none hfirst.fresh).1.symm
  refine ⟨?_, ?_, ?_, ?_⟩
  · rw [hfirst.label, hsecond.label, h.label]
  · intro place hplace
    rw [hfirst.get?, hsecond.get?, h.others place hplace]
  · rw [isFile, hfirst.get?, if_neg hne]
    exact h.file
  · rw [isFile, hsecond.get?, if_neg hne]
    exact h.file'

theorem addFault? (h : SameBut path first second) (other : Path) :
    first.addFault? other = second.addFault? other := by
  unfold FileTree.addFault?
  rw [h.contains, h.contains, h.isDirectory]

theorem add (h : SameBut path first second) (other : Path) (entry : FileEntry) :
    SameResult path (first.add other entry) (second.add other entry) := by
  cases hfirst : first.add other entry with
  | error fault =>
    -- the reason is one that the other tree has, too
    have hfault : second.addFault? other = some fault :=
      h.addFault? other ▸ add_eq_error_iff.1 hfirst
    rw [add_eq_error_iff.2 hfault]
    exact .error fault
  | ok after =>
    obtain ⟨haddition, hfits⟩ := add_eq_ok hfirst
    obtain ⟨-, hfresh⟩ := h.eq_none haddition.fresh
    have hparent : second.isDirectory other.dropLast = true := h.isDirectory _ ▸ haddition.parent
    obtain ⟨after', hsecond⟩ := exists_add_eq_ok hfresh hfits hparent entry
    rw [hsecond]
    exact .ok (h.of_isAddition haddition (add_eq_ok hsecond).1)

theorem ensureDirectory (h : SameBut path first second) (other : Path) :
    SameResult path (first.ensureDirectory other) (second.ensureDirectory other) := by
  unfold FileTree.ensureDirectory
  rw [h.isDirectory]
  split
  · exact .ok h
  · exact h.add other .directory

theorem writeFile (h : SameBut path first second) (hfresh : first.get? other = none)
    (bytes : ByteArray) :
    SameResult path (first.writeFile other bytes) (second.writeFile other bytes) := by
  rw [writeFile_of_fresh hfresh, writeFile_of_fresh (h.eq_none hfresh).2]
  exact h.add other (.file bytes)

end SameBut

end RuntimeProfiles.FileTree
