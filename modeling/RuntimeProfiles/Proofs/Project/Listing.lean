import RuntimeProfiles.Proofs.Project.Profiles
import RuntimeProfiles.Proofs.Text.Bytes

/-!
# Listings of the directory of the profiles

A file system lists a directory in an order of its own, and by names that are bytes and need not be
text. The profiles found by going through such a listing do not depend on the order, and names that
are no text are passed over: no profile is named by them.

* **`IsListing`** — what a listing of a directory holds;
* **`mem_scan_iff`** — the profiles found in a listing are the valid names whose files it lists;
* **`scan_eq_discover`** — so every listing gives the list of the profiles of the project;
* **`discover_lists`** — that list is determined by the tree, and sorted by the bytes of the names.
-/

namespace RuntimeProfiles

/-! ## Listings -/

namespace FileTree

variable {tree : FileTree} {directory : Path} {listing : List ByteArray}

/-- A listing of a directory: it gives no name twice, and the texts in it are the names of what the
tree holds there. -/
structure IsListing (tree : FileTree) (directory : Path) (listing : List ByteArray) : Prop where
  nodup : listing.Nodup
  mem_iff : ∀ name : String,
    name.toUTF8 ∈ listing ↔ tree.contains (directory ++ [name]) = true

theorem mem_of_filterMap {name : String} :
    name ∈ listing.filterMap String.fromUTF8? ↔ name.toUTF8 ∈ listing := by
  simp only [List.mem_filterMap, Text.fromUTF8?_eq_some_iff]
  constructor
  · rintro ⟨raw, hmem, rfl⟩
    exact hmem
  · exact fun hmem => ⟨_, hmem, rfl⟩

/-- The names of the tree may be listed in any order, and between names that are no text. -/
theorem isListing_of_perm (hnodup : listing.Nodup)
    (hperm : (listing.filterMap String.fromUTF8?).Perm (tree.names directory)) :
    tree.IsListing directory listing where
  nodup := hnodup
  mem_iff := fun name => by rw [← mem_of_filterMap, hperm.mem_iff, mem_names_iff]

/-- The order in which the tree holds them is one of the orders. -/
theorem isListing_names (tree : FileTree) (directory : Path) :
    tree.IsListing directory ((tree.names directory).map String.toUTF8) := by
  have hback : ((tree.names directory).map String.toUTF8).filterMap String.fromUTF8?
      = tree.names directory := by
    have hid : String.fromUTF8? ∘ String.toUTF8 = some := funext Text.fromUTF8?_toUTF8
    rw [List.filterMap_map, hid, List.filterMap_some]
  have hdistinct : ((tree.names directory).map String.toUTF8).Nodup :=
    List.pairwise_map.2 ((nodup_names tree directory).imp fun hne heq =>
      hne (String.toByteArray_inj.1 heq))
  exact isListing_of_perm hdistinct (by rw [hback])

end FileTree

namespace Project

open FileTree ProfileName

variable {tree : FileTree} {project directory path : Path} {listing : List ByteArray}
  {name : String}

/-! ## Going through a listing -/

/-- The profile that a name in a listing stands for, if the name is text and the file is that of a
profile. -/
def listed? (directory : Path) (raw : ByteArray) : Option (String × Path) :=
  (String.fromUTF8? raw).bind fun fileName =>
    (ofFileName? fileName).map fun name => (name, directory ++ [fileName])

/-- The profiles found in a listing of their directory, in the order of their names. -/
def scan (directory : Path) (listing : List ByteArray) : List (String × Path) :=
  (listing.filterMap (listed? directory)).mergeSort fun a b => a.1 ≤ b.1

theorem listed?_eq_some_iff {raw : ByteArray} : listed? directory raw = some (name, path)
    ↔ isValid name = true ∧ raw = (toFileName name).toUTF8
      ∧ path = directory ++ [toFileName name] := by
  simp only [listed?, Option.bind_eq_some_iff, Text.fromUTF8?_eq_some_iff, Option.map_eq_some_iff,
    ofFileName?_eq_some_iff, Prod.mk.injEq]
  constructor
  · rintro ⟨_, rfl, _, ⟨rfl, hvalid⟩, rfl, rfl⟩
    exact ⟨hvalid, rfl, rfl⟩
  · rintro ⟨hvalid, rfl, rfl⟩
    exact ⟨_, rfl, name, ⟨rfl, hvalid⟩, rfl, rfl⟩

theorem mem_scan_iff : (name, path) ∈ scan directory listing
    ↔ isValid name = true ∧ (toFileName name).toUTF8 ∈ listing
      ∧ path = directory ++ [toFileName name] := by
  rw [scan, List.mem_mergeSort, List.mem_filterMap]
  simp only [listed?_eq_some_iff]
  constructor
  · rintro ⟨raw, hmem, hvalid, rfl, hpath⟩
    exact ⟨hvalid, hmem, hpath⟩
  · rintro ⟨hvalid, hmem, hpath⟩
    exact ⟨_, hmem, hvalid, rfl, hpath⟩

/-- A listing without repetition names no profile twice. -/
theorem scan_strict (directory : Path) (hnodup : listing.Nodup) :
    (scan directory listing).Pairwise Before := by
  apply strict_mergeSort
  rw [List.pairwise_filterMap]
  refine hnodup.imp ?_
  -- two entries with one name would be the same bytes, those of its file name
  rintro first second hne ⟨name, _⟩ hfirst ⟨other, _⟩ hsecond rfl
  exact hne ((listed?_eq_some_iff.1 hfirst).2.1.trans (listed?_eq_some_iff.1 hsecond).2.1.symm)

/-- The order of a listing has no say in what is found, and neither have names that are no text. -/
theorem scan_eq_discover (h : tree.IsListing (profilesDirectory project) listing) :
    scan (profilesDirectory project) listing = discover tree project := by
  refine eq_of_strict (scan_strict _ h.nodup) (discover_strict tree project) ?_
  rintro ⟨name, path⟩
  rw [mem_scan_iff, mem_discover_iff, h.mem_iff]
  exact and_congr_right fun _ => and_comm

/-! ## The list of the profiles -/

/-- The list of the profiles of a project is what any listing of their directory gives; it is sorted
by the bytes of the names, and holds exactly the valid names that have a file in the directory, with
the paths of these files. -/
structure ListsProfiles (tree : FileTree) (project : Path) (profiles : List (String × Path)) :
    Prop where
  exists_listing : ∃ listing, tree.IsListing (profilesDirectory project) listing
  listed : ∀ listing, tree.IsListing (profilesDirectory project) listing →
    scan (profilesDirectory project) listing = profiles
  ascending : profiles.Pairwise fun first second => Text.bytes first.1 < Text.bytes second.1
  mem_iff : ∀ name path, (name, path) ∈ profiles
    ↔ tree.isDirectory (profilesDirectory project) = true
      ∧ tree.contains (profilesDirectory project ++ [name ++ ".profile.toml"]) = true
      ∧ fault? name = none ∧ profilePath project name = .ok path
  empty : tree.isDirectory (profilesDirectory project) = false → profiles = []

/-- **The list of the profiles is determined by the tree**, and not by how the tree is listed. -/
theorem discover_lists (tree : FileTree) (project : Path) :
    ListsProfiles tree project (discover tree project) where
  exists_listing := ⟨_, isListing_names tree (profilesDirectory project)⟩
  listed := fun _ => scan_eq_discover
  ascending := (discover_strict tree project).imp Text.lt_iff_bytes_lt.1
  mem_iff := by
    intro name path
    rw [mem_discover_iff, profilePath_eq_ok_iff, isValid_iff]
    constructor
    · rintro ⟨hvalid, hpath, hcontains⟩
      exact ⟨isDirectory_profilesDirectory hcontains, hcontains, hvalid, hvalid, hpath⟩
    · rintro ⟨-, hcontains, hvalid, -, hpath⟩
      exact ⟨hvalid, hpath, hcontains⟩
  empty := by
    intro h
    unfold discover
    dsimp only
    rw [h, if_neg Bool.false_ne_true]

/-- A tree whose profiles come in no order, among files of other names. -/
def shuffledTree : FileTree :=
  ⟨"", [(["profiles"], .directory), (["profiles", "b.profile.toml"], .file ⟨#[]⟩),
    (["profiles", ".profile.toml"], .file ⟨#[]⟩), (["profiles", "a.profile.toml"], .directory),
    (["profiles", "notes.toml"], .file ⟨#[]⟩)],
    ((((IsTree.nil.concat (by simp) (by simp) (.inl rfl)).concat (by simp) (by simp)
      (.inr (by simp))).concat (by simp) (by simp) (.inr (by simp))).concat (by simp) (by simp)
      (.inr (by simp))).concat (by simp) (by simp) (.inr (by simp))⟩

/-- A listing of its profiles in another order, with a name that is no text in between. -/
def shuffledListing : List ByteArray :=
  ["notes.toml".toUTF8, "a.profile.toml".toUTF8, ⟨#[0xFF]⟩, ".profile.toml".toUTF8,
    "b.profile.toml".toUTF8]

theorem discover_lists_shuffled :
    shuffledTree.IsListing ["profiles"] shuffledListing
    ∧ scan ["profiles"] shuffledListing = discover shuffledTree []
    ∧ discover shuffledTree []
      = [("a", ["profiles", "a.profile.toml"]), ("b", ["profiles", "b.profile.toml"])] := by
  have hlisting : shuffledTree.IsListing ["profiles"] shuffledListing := by
    refine isListing_of_perm (by decide) ?_
    have htexts : shuffledListing.filterMap String.fromUTF8?
        = ["notes.toml", "a.profile.toml", ".profile.toml", "b.profile.toml"] := by decide
    rw [htexts]
    decide
  have hfound : found shuffledTree []
      = [("b", ["profiles", "b.profile.toml"]), ("a", ["profiles", "a.profile.toml"])] := by decide
  refine ⟨hlisting, (discover_lists shuffledTree []).listed _ hlisting, ?_⟩
  rw [discover_eq, hfound]
  simp [List.mergeSort]

end Project

end RuntimeProfiles
