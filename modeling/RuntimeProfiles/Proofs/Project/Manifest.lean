import Mathlib.Data.List.Induction
import RuntimeProfiles.Proofs.Command.Changes

/-!
# The nearest manifest

The search for a manifest climbs from a directory to the root and stops at the first manifest that
it meets. It asks of every directory on the way whether a regular file stands at one path, and in
the end reads one file:

* **`nearest?_concat`** — one step of the climb;
* **`nearest?_below`** — the climb passes through directories without a manifest, so it ends where
  the climb from the last one of them ends;
* **`find_congr`** — nothing but the files of manifests has a say in the outcome.
-/

namespace RuntimeProfiles

/-! ## The file of a manifest -/

theorem Manifest.fileName_ne_toFileName (name : String) :
    fileName ≠ ProfileName.toFileName name := by
  intro h
  have hlength := congrArg (fun text => text.toList.length) h
  rw [ProfileName.toFileName, String.toList_append, List.length_append] at hlength
  -- the ending alone is longer than the name of a manifest
  have hmanifest : fileName.toList.length = 12 := by decide
  have hending : ProfileName.fileEnding.toList.length = 13 := by decide
  omega

/-- The file of a manifest is the file of no profile. -/
theorem Command.manifestPath_ne_filePath (directory project : Path) (name : String) :
    manifestPath directory ≠ Project.filePath project name := by
  intro h
  have hname : [Manifest.fileName] = [ProfileName.toFileName name] := (List.append_inj' h rfl).2
  exact Manifest.fileName_ne_toFileName name (List.cons.inj hname).1

namespace Manifest

open Command (manifestPath)

variable {tree after : FileTree}

/-! ## The climb -/

theorem nearest?_nil (tree : FileTree) :
    nearest? tree [] = if tree.isFile (manifestPath []) then some [] else none := rfl

theorem nearest?_concat (tree : FileTree) (directory : Path) (name : String) :
    nearest? tree (directory ++ [name]).reverse
      = if tree.isFile (manifestPath (directory ++ [name])) then some (directory ++ [name])
        else nearest? tree directory.reverse := by
  have hreverse : (directory ++ [name]).reverse = name :: directory.reverse := by simp
  have hback : (name :: directory.reverse).reverse = directory ++ [name] := by simp
  rw [hreverse, nearest?, hback, manifestPath]

theorem nearest?_of_isFile {project : Path} (h : tree.isFile (manifestPath project) = true) :
    nearest? tree project.reverse = some project := by
  cases project using List.reverseRecOn with
  | nil => rw [List.reverse_nil, nearest?_nil, if_pos h]
  | append_singleton above name => rw [nearest?_concat, if_pos h]

/-- No directory on the way up from below a directory to it holds the file of a manifest. The upper
end of the way does not count; a directory named like a manifest is none. -/
def NoneBelow (tree : FileTree) (project : Path) (below : List String) : Prop :=
  ∀ inner, inner ≠ [] → inner <+: below → tree.isFile (manifestPath (project ++ inner)) = false

theorem NoneBelow.init {project : Path} {below : List String} {name : String}
    (h : NoneBelow tree project (below ++ [name])) : NoneBelow tree project below :=
  fun inner hne hinner => h inner hne (List.IsPrefix.trans hinner (List.prefix_append below [name]))

theorem nearest?_below {project : Path} {below : List String} (h : NoneBelow tree project below) :
    nearest? tree (project ++ below).reverse = nearest? tree project.reverse := by
  -- the climb starts at the far end of `below`, so its last name comes off first
  induction below using List.reverseRecOn with
  | nil => rw [List.append_nil]
  | append_singleton below name ih =>
    have hnone : tree.isFile (manifestPath (project ++ (below ++ [name]))) = false :=
      h (below ++ [name]) (by simp) List.prefix_rfl
    rw [← List.append_assoc] at hnone ⊢
    rw [nearest?_concat, hnone, if_neg Bool.false_ne_true]
    exact ih h.init

theorem find_below {project : Path} {below : List String} (h : NoneBelow tree project below) :
    find tree (project ++ below) = find tree project := by
  rw [find, find, nearest?_below h]

/-- Next to a manifest, the search does not come back without one. -/
theorem find_ne_none {project : Path} (h : tree.isFile (manifestPath project) = true) :
    find tree project ≠ .ok none := by
  intro hfind
  have hnearest := find_eq_ok hfind
  rw [nearest?_of_isFile h] at hnearest
  cases hnearest

/-! ## What the search looks at -/

theorem nearest?_congr (h : ∀ directory,
    after.get? (manifestPath directory) = tree.get? (manifestPath directory))
    (reversed : List String) : nearest? after reversed = nearest? tree reversed := by
  have hfile : ∀ directory, after.isFile (directory ++ [fileName])
      = tree.isFile (directory ++ [fileName]) := by
    intro directory
    unfold FileTree.isFile
    rw [← manifestPath, h directory]
  induction reversed with
  | nil =>
    unfold nearest?
    rw [← List.nil_append [fileName], hfile]
  | cons name above ih =>
    unfold nearest?
    rw [hfile, ih]

/-- Two trees with the same manifests give the same outcome, errors included. -/
theorem find_congr (hlabel : after.label = tree.label) (h : ∀ directory,
    after.get? (manifestPath directory) = tree.get? (manifestPath directory)) (start : Path) :
    find after start = find tree start := by
  have hread : ∀ project, after.readText (project ++ [fileName])
      = tree.readText (project ++ [fileName]) := by
    intro project
    unfold FileTree.readText
    rw [← manifestPath, h project]
  have hdisplay : ∀ path, after.display path = tree.display path := by
    intro path
    unfold FileTree.display
    rw [hlabel]
  unfold find
  rw [nearest?_congr h]
  simp only [load, hread, hdisplay]

end Manifest

end RuntimeProfiles
