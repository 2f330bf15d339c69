import RuntimeProfiles.Project.Profiles
import RuntimeProfiles.Proofs.FileTree

/-!
# Discovery of profiles

The files of a directory come in no particular order, and the list of profiles is sorted by name.
Its order is strict, since a name has one file only, so the list is determined by its members:

* **`ProfileName.ofFileName?_eq_some_iff`** — the file of a profile and its name determine each
  other;
* **`mem_discover_iff`** — the profiles of a project are the valid names with something at their
  path;
* **`discover_strict`** — they are listed in strictly ascending order;
* **`discover_insert`** — one more file puts its name at its place and moves nothing else;
* **`discover_congr`** — what is in the files has no say in the list;
* **`find_eq`** — a profile is looked up at the path of its name, and only there.
-/

namespace RuntimeProfiles

namespace ProfileName

theorem isValid_iff {name : String} : isValid name = true ↔ fault? name = none := by
  simp [isValid]

theorem toFileName_injective {first second : String} (h : toFileName first = toFileName second) :
    first = second :=
  (String.append_left_inj fileEnding).1 h

/-- A file is the file of a profile exactly if it is named after a valid name. -/
theorem ofFileName?_eq_some_iff {fileName name : String} :
    ofFileName? fileName = some name ↔ fileName = toFileName name ∧ isValid name = true := by
  unfold ofFileName?
  dsimp only
  constructor
  · intro h
    split at h
    · next hsuffix =>
      obtain ⟨front, hfront⟩ := List.isSuffixOf_iff_suffix.1 hsuffix
      split at h
      · next hvalid =>
        cases h
        refine ⟨?_, hvalid⟩
        apply String.toList_inj.1
        rw [toFileName, String.toList_append, String.toList_ofList, ← hfront,
          ← String.length_toList, List.length_append, Nat.add_sub_cancel, List.take_left']
        rfl
      · cases h
    · cases h
  · rintro ⟨rfl, hvalid⟩
    have hlist : (toFileName name).toList = name.toList ++ fileEnding.toList :=
      String.toList_append
    have hsuffix : fileEnding.toList.isSuffixOf (toFileName name).toList = true := by
      rw [List.isSuffixOf_iff_suffix, hlist]
      exact List.suffix_append ..
    have htake : String.ofList ((toFileName name).toList.take
        ((toFileName name).toList.length - fileEnding.length)) = name := by
      rw [hlist, ← String.length_toList, List.length_append, Nat.add_sub_cancel, List.take_left',
        String.ofList_toList]
      rfl
    rw [if_pos hsuffix, htake, if_pos hvalid]

end ProfileName

/-! ## The names in a directory -/

namespace FileTree

variable {tree : FileTree} {directory path : Path} {fileName : String}

theorem eq_append_iff_dropLast {path directory : Path} {fileName : String} :
    path = directory ++ [fileName] ↔ path.dropLast = directory ∧ path.getLast? = some fileName := by
  constructor
  · rintro rfl
    simp
  · rintro ⟨rfl, hlast⟩
    obtain ⟨front, rfl⟩ := List.getLast?_eq_some_iff.1 hlast
    rw [List.dropLast_concat]

theorem mem_names_iff :
    fileName ∈ tree.names directory ↔ tree.contains (directory ++ [fileName]) = true := by
  have hne : directory ++ [fileName] ≠ [] := by simp
  simp only [names, List.mem_filterMap, contains_iff, get?_eq_some_iff_mem hne]
  constructor
  · rintro ⟨⟨path, entry⟩, hmem, hname⟩
    dsimp only at hname
    split at hname
    · next hparent =>
      rw [← eq_append_iff_dropLast.2 ⟨hparent, hname⟩]
      exact ⟨entry, hmem⟩
    · cases hname
  · rintro ⟨entry, hmem⟩
    exact ⟨_, hmem, by simp⟩

/-- A directory holds a name at most once. -/
theorem nodup_names (tree : FileTree) (directory : Path) : (tree.names directory).Nodup := by
  have hdistinct : tree.entries.Pairwise fun first second => first.1 ≠ second.1 :=
    List.pairwise_map.1 tree.isTree.nodup
  rw [names, List.Nodup, List.pairwise_filterMap]
  refine hdistinct.imp ?_
  rintro ⟨first, _⟩ ⟨second, _⟩ hne name hfirst _ hsecond rfl
  dsimp only at hfirst hsecond
  split at hfirst
  · next hparent =>
    split at hsecond
    · next hparent' =>
      exact hne ((eq_append_iff_dropLast.2 ⟨hparent, hfirst⟩).trans
        (eq_append_iff_dropLast.2 ⟨hparent', hsecond⟩).symm)
    · cases hsecond
  · cases hfirst

end FileTree

namespace Project

open FileTree ProfileName

variable {tree after : FileTree} {project path : Path} {name other : String}

/-! ## The profiles of a project -/

theorem filePath_injective (h : filePath project name = filePath project other) : name = other := by
  have hname := List.append_cancel_left h
  exact toFileName_injective (List.cons.inj hname).1

/-- The path of a file tells the project and the name of its profile. -/
theorem eq_of_filePath_eq {project' : Path} (h : filePath project name = filePath project' other) :
    project = project' ∧ name = other := by
  have hproject : project = project' :=
    (List.append_inj' (List.append_inj' h rfl).1 rfl).1
  exact ⟨hproject, filePath_injective (hproject ▸ h)⟩

/-- A path is given to the names that are accepted, and it is that of their file. -/
theorem profilePath_eq_ok_iff :
    profilePath project name = .ok path ↔ fault? name = none ∧ path = filePath project name := by
  unfold profilePath
  cases fault? name with
  | none => simp [eq_comm]
  | some fault => simp

theorem profilePath_eq_error_iff {error : ConfigError} : profilePath project name = .error error
    ↔ ∃ fault, fault? name = some fault ∧ error = .invalidName name fault := by
  unfold profilePath
  cases fault? name with
  | none => simp
  | some fault => simp [eq_comm]

/-- The profiles in the order in which the directory holds their files. -/
def found (tree : FileTree) (project : Path) : List (String × Path) :=
  (tree.names (profilesDirectory project)).filterMap fun fileName =>
    (ofFileName? fileName).map fun name => (name, profilesDirectory project ++ [fileName])

theorem mem_found_iff : (name, path) ∈ found tree project
    ↔ isValid name = true ∧ path = filePath project name
      ∧ tree.contains (filePath project name) = true := by
  simp only [found, List.mem_filterMap, mem_names_iff, Option.map_eq_some_iff, Prod.mk.injEq,
    ofFileName?_eq_some_iff]
  constructor
  · rintro ⟨fileName, hcontains, _, ⟨rfl, hvalid⟩, rfl, rfl⟩
    exact ⟨hvalid, rfl, hcontains⟩
  · rintro ⟨hvalid, rfl, hcontains⟩
    exact ⟨toFileName name, hcontains, name, ⟨rfl, hvalid⟩, rfl, rfl⟩

theorem found_distinct (tree : FileTree) (project : Path) :
    (found tree project).Pairwise fun first second => first.1 ≠ second.1 := by
  rw [found, List.pairwise_filterMap]
  refine (nodup_names tree _).imp ?_
  intro first second hne a hfirst b hsecond heq
  obtain ⟨name, hname, rfl⟩ := Option.map_eq_some_iff.1 hfirst
  obtain ⟨name', hname', rfl⟩ := Option.map_eq_some_iff.1 hsecond
  cases heq
  exact hne ((ofFileName?_eq_some_iff.1 hname).1.trans (ofFileName?_eq_some_iff.1 hname').1.symm)

/-- Whatever stands at the path of a profile stands in the directory of the profiles. -/
theorem isDirectory_profilesDirectory (h : tree.contains (filePath project name) = true) :
    tree.isDirectory (profilesDirectory project) = true := by
  obtain ⟨entry, hentry⟩ := contains_iff.1 h
  have hparent := isDirectory_dropLast hentry
  rwa [filePath, List.dropLast_concat] at hparent

/-- Without its directory a project has no profiles. -/
theorem discover_eq (tree : FileTree) (project : Path) :
    discover tree project = (found tree project).mergeSort fun a b => a.1 ≤ b.1 := by
  unfold discover
  dsimp only
  split
  · rfl
  · next hmissing =>
    have hnone : found tree project = [] := by
      rw [List.eq_nil_iff_forall_not_mem]
      rintro ⟨name, path⟩ hmem
      exact hmissing (isDirectory_profilesDirectory (mem_found_iff.1 hmem).2.2)
    rw [hnone, List.mergeSort_nil]

theorem mem_discover_iff : (name, path) ∈ discover tree project
    ↔ isValid name = true ∧ path = filePath project name
      ∧ tree.contains (filePath project name) = true := by
  rw [discover_eq, List.mem_mergeSort, mem_found_iff]

/-- A profile comes before another. -/
def Before (first second : String × Path) : Prop := first.1 < second.1

/-- Sorting alone leaves room for equal names; where the names are distinct, the order is strict. -/
theorem strict_mergeSort {profiles : List (String × Path)}
    (h : profiles.Pairwise fun first second => first.1 ≠ second.1) :
    (profiles.mergeSort fun a b => a.1 ≤ b.1).Pairwise Before := by
  have hsorted : (profiles.mergeSort fun a b => a.1 ≤ b.1).Pairwise fun a b => a.1 ≤ b.1 := by
    have htrans : ∀ a b c : String × Path,
        decide (a.1 ≤ b.1) = true → decide (b.1 ≤ c.1) = true → decide (a.1 ≤ c.1) = true := by
      intro a b c hab hbc
      simp only [decide_eq_true_eq] at *
      exact String.le_trans hab hbc
    have htotal : ∀ a b : String × Path, (decide (a.1 ≤ b.1) || decide (b.1 ≤ a.1)) = true := by
      intro a b
      simpa using String.le_total a.1 b.1
    simpa using List.pairwise_mergeSort htrans htotal profiles
  have hdistinct : (profiles.mergeSort fun a b => a.1 ≤ b.1).Pairwise fun a b => a.1 ≠ b.1 :=
    h.perm (List.mergeSort_perm ..).symm fun h => h.symm
  refine hsorted.imp₂ (fun a b hle hne => ?_) hdistinct
  exact String.not_le.1 fun hge => hne (String.le_antisymm hle hge)

/-- Profiles are listed in strictly ascending order. -/
theorem discover_strict (tree : FileTree) (project : Path) :
    (discover tree project).Pairwise Before := by
  rw [discover_eq]
  exact strict_mergeSort (found_distinct tree project)

/-- Two lists in strictly ascending order with the same members are the same. -/
theorem eq_of_strict {first second : List (String × Path)} (hfirst : first.Pairwise Before)
    (hsecond : second.Pairwise Before) (h : ∀ a, a ∈ first ↔ a ∈ second) : first = second := by
  have hnodup : ∀ {list : List (String × Path)}, list.Pairwise Before → list.Nodup := by
    intro list hlist
    refine hlist.imp ?_
    rintro a _ hlt rfl
    exact String.lt_irrefl _ hlt
  have hperm := (List.perm_ext_iff_of_nodup (hnodup hfirst) (hnodup hsecond)).2 h
  refine hperm.eq_of_pairwise (fun a b _ _ hab hba => ?_) hfirst hsecond
  exact absurd hba (String.lt_asymm hab)

/-- One more profile is put where its name belongs, and the others stay in place. -/
theorem discover_insert (hvalid : isValid name = true)
    (hfresh : tree.contains (filePath project name) = false)
    (hnew : after.contains (filePath project name) = true)
    (hothers : ∀ other, other ≠ name →
      after.contains (filePath project other) = tree.contains (filePath project other)) :
    ∃ smaller larger, discover tree project = smaller ++ larger
      ∧ discover after project = smaller ++ (name, filePath project name) :: larger
      ∧ (∀ profile ∈ smaller, profile.1 < name) ∧ ∀ profile ∈ larger, name < profile.1 := by
  have hmem : (name, filePath project name) ∈ discover after project :=
    mem_discover_iff.2 ⟨hvalid, rfl, hnew⟩
  obtain ⟨smaller, larger, hsplit⟩ := List.append_of_mem hmem
  have hstrict := discover_strict after project
  rw [hsplit] at hstrict
  obtain ⟨hsmaller, hrest, hacross⟩ := List.pairwise_append.1 hstrict
  obtain ⟨hlarger, hlarge⟩ := List.pairwise_cons.1 hrest
  have hsmall : ∀ profile ∈ smaller, profile.1 < name := fun profile hprofile =>
    hacross profile hprofile _ List.mem_cons_self
  refine ⟨smaller, larger, ?_, hsplit, hsmall, hlarger⟩
  have hkept : (smaller ++ larger).Pairwise Before :=
    List.pairwise_append.2 ⟨hsmaller, hlarge, fun a ha b hb =>
      hacross a ha b (List.mem_cons_of_mem _ hb)⟩
  refine eq_of_strict (discover_strict tree project) hkept ?_
  rintro ⟨other, path⟩
  -- without the new profile, the list holds what the longer list holds under other names
  have hiff : (other, path) ∈ smaller ++ larger
      ↔ (other, path) ∈ discover after project ∧ other ≠ name := by
    rw [hsplit, List.mem_append, List.mem_append, List.mem_cons]
    constructor
    · rintro (hin | hin)
      · exact ⟨.inl hin, String.ne_of_lt (hsmall _ hin)⟩
      · exact ⟨.inr (.inr hin), (String.ne_of_lt (hlarger _ hin)).symm⟩
    · rintro ⟨hin | heq | hin, hne⟩
      · exact .inl hin
      · exact absurd (Prod.mk.inj heq).1 hne
      · exact .inr hin
  rw [hiff, mem_discover_iff, mem_discover_iff]
  constructor
  · rintro ⟨hvalid', hpath, hcontains⟩
    have hne : other ≠ name := by
      rintro rfl
      rw [hfresh] at hcontains
      cases hcontains
    exact ⟨⟨hvalid', hpath, (hothers other hne).trans hcontains⟩, hne⟩
  · rintro ⟨⟨hvalid', hpath, hcontains⟩, hne⟩
    exact ⟨hvalid', hpath, (hothers other hne).symm.trans hcontains⟩

/-- The list of profiles looks at nothing but whether their files are there. -/
theorem discover_congr (h : ∀ name,
    after.contains (filePath project name) = tree.contains (filePath project name)) :
    discover after project = discover tree project := by
  refine eq_of_strict (discover_strict after project) (discover_strict tree project) ?_
  rintro ⟨name, path⟩
  rw [mem_discover_iff, mem_discover_iff, h name]

/-! ## Looking a profile up -/

/-- A profile is looked up at the path of its name. What stands there belongs to the project, and a
built-in profile of that name is out of sight. -/
theorem find_eq (tree : FileTree) (project : Path) (name : String) :
    find tree (some project) name
      = if isValid name && tree.contains (filePath project name)
        then load tree (filePath project name) else findBuiltin name := by
  unfold find
  dsimp only
  split
  · next other path hfind =>
    have hname : other = name := by simpa using List.find?_some hfind
    obtain ⟨hvalid, hpath, hcontains⟩ := mem_discover_iff.1 (List.mem_of_find?_eq_some hfind)
    rw [← hname, hvalid, hcontains, hpath]
    rfl
  · next hnone =>
    rw [if_neg]
    intro hboth
    obtain ⟨hvalid, hcontains⟩ := Bool.and_eq_true_iff.1 hboth
    have hmem : (name, filePath project name) ∈ discover tree project :=
      mem_discover_iff.2 ⟨hvalid, rfl, hcontains⟩
    simpa using List.find?_eq_none.1 hnone _ hmem

/-- Loading looks at nothing but the path. -/
theorem load_congr (hlabel : after.label = tree.label) (hpath : after.get? path = tree.get? path) :
    load after path = load tree path := by
  have hcontains : after.contains path = tree.contains path := by rw [contains, contains, hpath]
  have htext : after.readText path = tree.readText path := by rw [readText, readText, hpath]
  have hdisplay : after.display path = tree.display path := by
    unfold display
    rw [hlabel]
  rw [load, load, hcontains, htext, hdisplay]

/-- The lookup of a name looks at nothing but its path. -/
theorem find_congr (hlabel : after.label = tree.label)
    (hpath : after.get? (filePath project name) = tree.get? (filePath project name)) :
    find after (some project) name = find tree (some project) name := by
  have hcontains : after.contains (filePath project name)
      = tree.contains (filePath project name) := by
    rw [contains, contains, hpath]
  rw [find_eq, find_eq, hcontains, load_congr hlabel hpath]

end Project

end RuntimeProfiles
