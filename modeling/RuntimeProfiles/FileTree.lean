/-!
# File trees

A `FileTree` is the part of a file system that the program sees: regular files and directories, and
nothing that links or changes by itself. Names are texts. A path is the list of names from the root;
the root is a directory and has the empty path. The entries form a tree by construction: paths are
distinct, and the parent of every entry is a directory.

Operations fail only for reasons that lie in the tree, or because a name is too long for a file
system; `FileFault` lists them.
-/

namespace RuntimeProfiles

/-- The names on the way from the root to a file or directory. -/
abbrev Path := List String

/-- What stands at a path. -/
inductive FileEntry where
  | file (bytes : ByteArray)
  | directory

instance : DecidableEq FileEntry
  | .file first, .file second =>
    match ByteArray.instDecidableEq first second with
    | isTrue h => isTrue (congrArg FileEntry.file h)
    | isFalse h => isFalse fun heq => h (FileEntry.file.inj heq)
  | .directory, .directory => isTrue rfl
  | .file _, .directory => isFalse nofun
  | .directory, .file _ => isFalse nofun

/-- Why an operation on a file tree fails. -/
inductive FileFault where
  | notFound
  | alreadyExists
  | notDirectory
  | isDirectory
  | nameTooLong
  /-- The bytes of a file are no text. -/
  | notText
deriving DecidableEq, Repr

/-- The text of a fault as operating systems word it. -/
def FileFault.message : FileFault → String
  | .notFound => "No such file or directory (os error 2)"
  | .alreadyExists => "File exists (os error 17)"
  | .notDirectory => "Not a directory (os error 20)"
  | .isDirectory => "Is a directory (os error 21)"
  | .nameTooLong => "File name too long (os error 36)"
  | .notText => "stream did not contain valid UTF-8"

/-- The greatest length of a name in bytes. -/
def maxNameLength : Nat := 255

namespace FileTree

/-- The parent of a path is a directory of the list, or the root. -/
def HasParent (entries : List (Path × FileEntry)) (path : Path) : Prop :=
  path.dropLast = [] ∨ (path.dropLast, .directory) ∈ entries

/-- Entries that form a tree below the root. -/
structure IsTree (entries : List (Path × FileEntry)) : Prop where
  nodup : (entries.map (·.1)).Nodup
  nonempty : ∀ entry ∈ entries, entry.1 ≠ []
  parents : ∀ entry ∈ entries, HasParent entries entry.1

theorem IsTree.nil : IsTree [] where
  nodup := List.nodup_nil
  nonempty := by simp
  parents := by simp

/-- A new entry below a directory keeps the tree. -/
theorem IsTree.concat {entries : List (Path × FileEntry)} {path : Path} {entry : FileEntry}
    (tree : IsTree entries) (fresh : path ∉ entries.map (·.1)) (nonempty : path ≠ [])
    (parent : HasParent entries path) : IsTree (entries ++ [(path, entry)]) where
  nodup := by
    rw [List.map_append, List.nodup_append]
    refine ⟨tree.nodup, by simp, ?_⟩
    intro a ha b hb
    simp only [List.map_cons, List.map_nil, List.mem_singleton] at hb
    rintro rfl
    exact fresh (hb ▸ ha)
  nonempty := by
    intro other h
    rcases List.mem_append.1 h with h | h
    · exact tree.nonempty other h
    · simp only [List.mem_singleton] at h
      subst h
      exact nonempty
  parents := by
    have grow : ∀ other, HasParent entries other → HasParent (entries ++ [(path, entry)]) other :=
      fun _ h => h.imp_right fun h => List.mem_append_left _ h
    intro other h
    rcases List.mem_append.1 h with h | h
    · exact grow _ (tree.parents other h)
    · simp only [List.mem_singleton] at h
      subst h
      exact grow _ parent

/-- A tree without everything from a path on is a tree. -/
theorem IsTree.without {entries : List (Path × FileEntry)} (tree : IsTree entries) (path : Path) :
    IsTree (entries.filter fun entry => !path.isPrefixOf entry.1) where
  nodup := (List.filter_sublist.map _).nodup tree.nodup
  nonempty := fun entry h => tree.nonempty entry (List.mem_filter.1 h).1
  parents := by
    intro entry h
    obtain ⟨member, kept⟩ := List.mem_filter.1 h
    refine (tree.parents entry member).imp_right fun parent => List.mem_filter.2 ⟨parent, ?_⟩
    have apart : ¬ path <+: entry.1 := by
      simpa [← List.isPrefixOf_iff_prefix] using kept
    have : ¬ path <+: entry.1.dropLast := fun below => apart (below.trans (List.dropLast_prefix _))
    simpa [← List.isPrefixOf_iff_prefix] using this

end FileTree

/-- Regular files and directories below a root. -/
structure FileTree where
  /-- How the root is written in front of paths. -/
  label : String
  entries : List (Path × FileEntry)
  isTree : FileTree.IsTree entries

namespace FileTree

/-- A tree that holds nothing but its root. -/
def empty (label : String) : FileTree := ⟨label, [], .nil⟩

/-- A path as messages show it. -/
def display (tree : FileTree) (path : Path) : String :=
  match tree.label, path with
  | "", [] => "/"
  | label, path => label ++ String.join (path.map ("/" ++ ·))

/-- What stands at a path. -/
def get? (tree : FileTree) (path : Path) : Option FileEntry :=
  if path = [] then some .directory else tree.entries.lookup path

/-- Whether anything stands at a path. -/
def contains (tree : FileTree) (path : Path) : Bool := (tree.get? path).isSome

def isDirectory (tree : FileTree) (path : Path) : Bool := tree.get? path = some .directory

def isFile (tree : FileTree) (path : Path) : Bool :=
  match tree.get? path with
  | some (.file _) => true
  | _ => false

/-- The names in a directory, in no particular order. -/
def names (tree : FileTree) (directory : Path) : List String :=
  tree.entries.filterMap fun (path, _) =>
    if path.dropLast = directory then path.getLast? else none

/-- The text of a file. -/
def readText (tree : FileTree) (path : Path) : Except FileFault String :=
  match tree.get? path with
  | none => .error .notFound
  | some .directory => .error .isDirectory
  | some (.file bytes) =>
    match String.fromUTF8? bytes with
    | some text => .ok text
    | none => .error .notText

/-- Adds an entry at a path where nothing stands. -/
def add (tree : FileTree) (path : Path) (entry : FileEntry) : Except FileFault FileTree :=
  if fresh : path ∈ tree.entries.map (·.1) ∨ path = [] then .error .alreadyExists
  else if maxNameLength < (path.getLast?.getD "").utf8ByteSize then .error .nameTooLong
  else if parent : path.dropLast = [] ∨ (path.dropLast, .directory) ∈ tree.entries then
    .ok ⟨tree.label, tree.entries ++ [(path, entry)],
      tree.isTree.concat (fun h => fresh (.inl h)) (fun h => fresh (.inr h)) parent⟩
  else if path.dropLast ∈ tree.entries.map (·.1) then .error .notDirectory
  else .error .notFound

/-- Removes what stands at a path and below it. -/
def remove (tree : FileTree) (path : Path) : FileTree :=
  ⟨tree.label, tree.entries.filter fun entry => !path.isPrefixOf entry.1, tree.isTree.without path⟩

/-- Makes sure that a directory stands at a path, in a directory that is there. -/
def ensureDirectory (tree : FileTree) (path : Path) : Except FileFault FileTree :=
  if tree.isDirectory path then .ok tree else tree.add path .directory

/-- Writes a file, in the place of one that may be there. -/
def writeFile (tree : FileTree) (path : Path) (bytes : ByteArray) : Except FileFault FileTree :=
  match tree.get? path with
  | some .directory => .error .isDirectory
  | some (.file _) => (tree.remove path).add path (.file bytes)
  | none => tree.add path (.file bytes)

/-- Makes sure that a directory stands at a path, and at every path on the way; `above` is the way
that has been made. -/
def makeDirectories (tree : FileTree) (above : Path) : List String → Except FileFault FileTree
  | [] => .ok tree
  | name :: names => do
    let tree ← tree.ensureDirectory (above ++ [name])
    makeDirectories tree (above ++ [name]) names

end FileTree

end RuntimeProfiles
