import RuntimeProfiles.Proofs.FileTree.Display
import RuntimeProfiles.Proofs.Profile.Name
import RuntimeProfiles.Proofs.Project.Profiles

/-!
# Where the file of a profile is

The name of a profile comes from outside and becomes a part of a path. An accepted name stays one
file name in one directory, also when the path is written down and taken apart again: it brings no
separator along, and the ending keeps it from being a name of dots.

* **`isFileName_toFileName`** — the file of an accepted name has an ordinary file name;
* **`components_filePath`** — so its path leads to the directory of the profiles and to one file in
  it;
* **`profilePath_confined`** — which names are accepted, where their files are, and why others are
  not.
-/

namespace RuntimeProfiles.Project

open ProfileName PathText

variable {project path : Path} {name : String}

/-! ## The name of the file -/

theorem isFileName_toFileName (h : '/' ∉ name.toList) : IsFileName (toFileName name) := by
  have hchars : (toFileName name).toList = name.toList ++ fileEnding.toList := String.toList_append
  have hending : fileEnding.toList.length = 13 := by decide
  -- the ending alone is longer than a name of dots
  have hlong : ∀ text : String, text.toList.length ≤ 2 → toFileName name ≠ text := by
    rintro text htext rfl
    rw [hchars, List.length_append] at htext
    omega
  refine ⟨hlong "" (by decide), hlong "." (by decide), hlong ".." (by decide), ?_⟩
  rw [hchars, List.mem_append, not_or]
  exact ⟨h, by decide⟩

/-- The path of a file leads to the directory of the profiles, and from there takes one step. -/
theorem components_filePath (tree : FileTree) (project : Path) (h : '/' ∉ name.toList) :
    components (tree.display (filePath project name))
      = components (tree.display project) ++ [.name "profiles", .name (toFileName name)] := by
  have hprofiles : IsFileName "profiles" := ⟨by decide, by decide, by decide, by decide⟩
  rw [filePath, components_display_concat tree _ (isFileName_toFileName h), profilesDirectory,
    components_display_concat tree project hprofiles, List.append_assoc]
  rfl

theorem notMem_slash_of_fault? (h : fault? name = none) : '/' ∉ name.toList :=
  fun hslash => fault?_eq_none_iff.1 h .separator (.inl hslash)

/-! ## The path of the file -/

/-- A path is that of the file of a name, in the directory of the profiles of a project. -/
structure IsConfined (project : Path) (name : String) (path : Path) : Prop where
  parent : path.dropLast = profilesDirectory project
  last : path.getLast? = some (name ++ ".profile.toml")
  ordinary : IsFileName (name ++ ".profile.toml")
  /-- Whatever the text of the directory of the project says, the text of the path goes on from
  there by two names. -/
  steps : ∀ tree : FileTree, components (tree.display path)
    = components (tree.display project) ++ [.name "profiles", .name (name ++ ".profile.toml")]
  /-- The name is read back from the file, where it is checked again. -/
  back : ofFileName? (name ++ ".profile.toml") = some name ∧ fault? name = none
  /-- No other name leads there, not even by another text. -/
  distinct : ∀ (tree : FileTree) (other : String) (otherPath : Path),
    profilePath project other = .ok otherPath →
    components (tree.display otherPath) = components (tree.display path) → other = name

theorem isConfined_filePath (project : Path) (h : fault? name = none) :
    IsConfined project name (filePath project name) where
  parent := List.dropLast_concat
  last := List.getLast?_concat
  ordinary := isFileName_toFileName (notMem_slash_of_fault? h)
  steps := fun tree => components_filePath tree project (notMem_slash_of_fault? h)
  back := ⟨ofFileName?_eq_some_iff.2 ⟨rfl, isValid_iff.2 h⟩, h⟩
  distinct := by
    intro tree other otherPath hother hsame
    obtain ⟨hvalid, rfl⟩ := profilePath_eq_ok_iff.1 hother
    rw [components_filePath tree project (notMem_slash_of_fault? hvalid),
      components_filePath tree project (notMem_slash_of_fault? h)] at hsame
    have hlast := List.append_cancel_left hsame
    simp only [List.cons.injEq, Component.name.injEq, and_true, true_and] at hlast
    exact toFileName_injective hlast

/-- **An accepted name stays a single file in the directory of the profiles.** A path is given
exactly to the names that are not blank and hold neither separators nor two dots in a row; it is
that of a file in this directory, from which the name is read back. Any other name is refused for
its first fault. -/
theorem profilePath_confined (project : Path) (name : String) :
    ((∃ path, profilePath project name = .ok path)
      ↔ (∃ c ∈ name.toList, Text.isBlank c = false) ∧ '/' ∉ name.toList ∧ '\\' ∉ name.toList
        ∧ ¬ ['.', '.'] <:+: name.toList)
    ∧ (∀ path, profilePath project name = .ok path → IsConfined project name path)
    ∧ ∀ error, profilePath project name = .error error
      ↔ ∃ fault : NameFault, fault.IsFirst name ∧ error = .invalidName name fault := by
  refine ⟨?_, fun path hpath => ?_, fun error => ?_⟩
  · rw [← fault?_eq_none_iff_chars]
    simp only [profilePath_eq_ok_iff, exists_and_left, exists_eq, and_true]
  · obtain ⟨hvalid, rfl⟩ := profilePath_eq_ok_iff.1 hpath
    exact isConfined_filePath project hvalid
  · simp only [profilePath_eq_error_iff, fault?_eq_some_iff]

/-- A single dot is accepted: the dots of its file name are not by themselves. -/
theorem profilePath_confined_dot :
    profilePath ["project"] "." = .ok ["project", "profiles", "..profile.toml"]
    ∧ IsConfined ["project"] "." ["project", "profiles", "..profile.toml"] := by
  have hpath : profilePath ["project"] "." = .ok ["project", "profiles", "..profile.toml"] :=
    profilePath_eq_ok_iff.2 ⟨by decide, rfl⟩
  exact ⟨hpath, (profilePath_confined ["project"] ".").2.1 _ hpath⟩

end RuntimeProfiles.Project
