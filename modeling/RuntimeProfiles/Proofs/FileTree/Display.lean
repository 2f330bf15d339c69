import RuntimeProfiles.FileTree

/-!
# Paths as text

A file system is handed a path as text and takes it apart again at the separators. What it finds
there need not be the names that the text was put together from: a name may hold a separator, and
two names of dots lead elsewhere.

* **`components`** — the steps that a text says, one after another;
* **`components_append`** — what is written behind a separator adds its own steps to those before;
* **`components_display_concat`** — an ordinary file name below a path adds the one step to that
  name.
-/

namespace RuntimeProfiles

namespace PathText

/-- A step of a path. -/
inductive Component where
  | root
  /-- The directory from which the path starts. -/
  | here
  /-- The directory above. -/
  | up
  | name (name : String)
deriving DecidableEq

/-- The step between two separators; nothing at all and a single dot are none. -/
def component? (piece : List Char) : Option Component :=
  if piece = [] ∨ piece = ['.'] then none
  else if piece = ['.', '.'] then some .up
  else some (.name (String.ofList piece))

/-- The first step: a text that begins with a separator starts at the root, and a single dot at the
front says where it starts. -/
def first? (piece : List Char) (rest : List (List Char)) : Option Component :=
  if piece = [] ∧ rest ≠ [] then some .root
  else if piece = ['.'] then some .here
  else component? piece

/-- The steps of a path as text. -/
def components (text : String) : List Component :=
  match text.toList.splitOn '/' with
  | [] => []
  | piece :: rest => (first? piece rest).toList ++ rest.filterMap component?

/-- The steps of what is written behind a separator. -/
def following (text : String) : List Component := (text.toList.splitOn '/').filterMap component?

theorem components_append {text : String} (h : text ≠ "") (more : String) :
    components (text ++ "/" ++ more) = components text ++ following more := by
  have hsplit : (text ++ "/" ++ more).toList.splitOn '/'
      = text.toList.splitOn '/' ++ more.toList.splitOn '/' := by
    rw [String.toList_append, String.toList_append, List.append_assoc]
    exact List.splitOn_append_cons_self ..
  have hmore : more.toList.splitOn '/' ≠ [] := List.splitOn_ne_nil _ _
  have hback : ['/'].intercalate (text.toList.splitOn '/') = text.toList :=
    List.intercalate_splitOn ..
  unfold components
  rw [hsplit]
  cases hpieces : text.toList.splitOn '/' with
  | nil => exact absurd hpieces (List.splitOn_ne_nil _ _)
  | cons piece rest =>
    -- a text that is not empty says with its own separators whether it starts at the root
    have hfirst : first? piece (rest ++ more.toList.splitOn '/') = first? piece rest := by
      by_cases hpiece : piece = []
      · have hrest : rest ≠ [] := by
          rintro rfl
          rw [hpieces, hpiece] at hback
          exact h (String.toList_eq_nil_iff.1 hback.symm)
        simp [first?, hpiece, hrest, hmore]
      · simp [first?, hpiece]
    rw [List.cons_append]
    dsimp only
    rw [hfirst, List.filterMap_append, List.append_assoc]
    rfl

theorem components_slash (more : String) :
    components ("/" ++ more) = .root :: following more := by
  have hsplit : ("/" ++ more).toList.splitOn '/' = [] :: more.toList.splitOn '/' := by
    rw [String.toList_append]
    exact List.splitOn_append_cons_self [] _
  have hmore : more.toList.splitOn '/' ≠ [] := List.splitOn_ne_nil _ _
  unfold components
  rw [hsplit]
  simp [first?, hmore, following]

/-- A name that stays one step wherever it is written. -/
def IsFileName (name : String) : Prop :=
  name ≠ "" ∧ name ≠ "." ∧ name ≠ ".." ∧ '/' ∉ name.toList

theorem following_of_isFileName {name : String} (h : IsFileName name) :
    following name = [.name name] := by
  obtain ⟨hempty, hdot, hdots, hslash⟩ := h
  have hne : ∀ {text : String}, name ≠ text → name.toList ≠ text.toList :=
    fun hne heq => hne (String.toList_inj.1 heq)
  have hnothing : ¬ (name.toList = [] ∨ name.toList = ['.']) := not_or.2 ⟨hne hempty, hne hdot⟩
  have hnotup : ¬ name.toList = ['.', '.'] := hne hdots
  have hcomponent : component? name.toList = some (.name name) := by
    rw [component?, if_neg hnothing, if_neg hnotup, String.ofList_toList]
  rw [following, List.splitOn_eq_singleton hslash, List.filterMap_cons, hcomponent,
    List.filterMap_nil]

/-! ## Displayed paths -/

variable {tree : FileTree} {path : Path}

/-- A path is displayed as its label and its names, each behind a separator; only the root itself,
where it has no label, is displayed as the separator. -/
theorem display_cases (tree : FileTree) (path : Path) :
    (tree.label = "" ∧ path = [] ∧ tree.display path = "/")
    ∨ (tree.display path = tree.label ++ String.join (path.map ("/" ++ ·))
      ∧ tree.display path ≠ "") := by
  by_cases hroot : tree.label = "" ∧ path = []
  · obtain ⟨hlabel, rfl⟩ := hroot
    refine .inl ⟨hlabel, rfl, ?_⟩
    unfold FileTree.display
    rw [hlabel]
    rfl
  · have hdisplay : tree.display path = tree.label ++ String.join (path.map ("/" ++ ·)) := by
      unfold FileTree.display
      split
      · next hlabel => exact absurd ⟨hlabel, rfl⟩ hroot
      · rfl
    refine .inr ⟨hdisplay, fun hempty => ?_⟩
    rw [hdisplay, String.append_eq_empty_iff] at hempty
    cases path with
    | nil => exact hroot ⟨hempty.1, rfl⟩
    | cons name rest =>
      have hjoin := hempty.2
      rw [List.map_cons, String.join_cons, String.append_assoc, String.append_eq_empty_iff] at hjoin
      exact absurd hjoin.1 (by decide)

theorem display_concat (tree : FileTree) (path : Path) (name : String) :
    tree.display (path ++ [name])
      = tree.label ++ String.join (path.map ("/" ++ ·)) ++ "/" ++ name := by
  rcases display_cases tree (path ++ [name]) with ⟨-, hnil, -⟩ | ⟨hdisplay, -⟩
  · exact absurd hnil (by simp)
  · rw [hdisplay, List.map_append, String.join_append, List.map_singleton, String.join_cons,
      String.join_nil]
    simp only [String.append_assoc, String.append_empty]

/-- An ordinary file name below a path adds one step to the path, however that is written. -/
theorem components_display_concat (tree : FileTree) (path : Path) {name : String}
    (h : IsFileName name) : components (tree.display (path ++ [name]))
      = components (tree.display path) ++ [.name name] := by
  rw [display_concat, ← following_of_isFileName h]
  rcases display_cases tree path with ⟨hlabel, rfl, hdisplay⟩ | ⟨hdisplay, hne⟩
  · -- the separator behind the root is the root
    have hroot : components "/" = [.root] := components_slash ""
    rw [hdisplay, hroot, hlabel]
    exact components_slash name
  · rw [← hdisplay]
    exact components_append hne name

end PathText

end RuntimeProfiles
