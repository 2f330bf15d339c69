import RuntimeProfiles.Proofs.Profile.Name
import RuntimeProfiles.Proofs.Project.Profiles

/-!
# Looking a profile up by its path

The lookup of a name goes through the list of the profiles, where it could as well build the one
path that the name has and look there. Both come to the same, whatever else is in the directory.
What stands at the path decides, also when it is no profile; a built-in profile is found only where
nothing stands.

* **`load_eq_iff`** — what loading comes to, with a case for everything that can stand at a path;
* **`find_eq_findDirectly`** — the lookup through the list is the lookup by the path;
* **`find_eq_iff`** — what it comes to, with a case for the project and one for the built-in
  profiles;
* **`fault?_builtin`** — no built-in profile has a name that is refused;
* **`find_direct`** — all of it together, with what the lookup never says.
-/

namespace RuntimeProfiles

/-! ## Built-in profiles -/

namespace Profile

variable {name : String} {profile : Profile}

theorem builtins_distinct : builtins.Pairwise fun first second => first.name ≠ second.name := by
  decide

theorem builtin?_eq_some_iff :
    builtin? name = some profile ↔ profile ∈ builtins ∧ profile.name = name := by
  constructor
  · intro h
    exact ⟨List.mem_of_find?_eq_some h, by simpa using List.find?_some h⟩
  · rintro ⟨hmem, rfl⟩
    -- the scan passes over everything in front of the profile, since that has other names
    obtain ⟨front, rest, hsplit⟩ := List.append_of_mem hmem
    have hdistinct := builtins_distinct
    rw [hsplit, List.pairwise_append] at hdistinct
    rw [builtin?, hsplit, List.find?_append, List.find?_cons_of_pos (by simp),
      List.find?_eq_none.2, Option.none_or]
    intro other hother
    simpa using hdistinct.2.2 other hother profile List.mem_cons_self

theorem builtin?_eq_none_iff :
    builtin? name = none ↔ ∀ profile ∈ builtins, profile.name ≠ name := by
  simp [builtin?]

/-- Built-in profiles have names that a profile of a project could have. -/
theorem fault?_builtin (h : profile ∈ builtins) : ProfileName.fault? profile.name = none := by
  have hall : ∀ profile ∈ builtins, ProfileName.fault? profile.name = none := by decide
  exact hall profile h

end Profile

namespace Project

open FileTree ProfileName

variable {tree : FileTree} {project path : Path} {name : String}
  {outcome : Except ConfigError Profile}

/-! ## Loading what stands at a path -/

/-- What it comes to that a path is loaded as a profile. -/
inductive Loads (tree : FileTree) (path : Path) : Except ConfigError Profile → Prop where
  | missing (hget : tree.get? path = none) :
      Loads tree path (.error (.missingFile (tree.display path)))
  | directory (hget : tree.get? path = some .directory) :
      Loads tree path (.error (.file .isDirectory))
  | notText (raw : ByteArray) (hget : tree.get? path = some (.file raw))
      (hraw : String.fromUTF8? raw = none) : Loads tree path (.error (.file .notText))
  | unreadable (text : String) (fault : Fault) (hget : tree.get? path = some (.file text.toUTF8))
      (hfault : Profile.ofToml text = .error fault) : Loads tree path (.error (.unreadable fault))
  | profile (text : String) (profile : Profile) (hget : tree.get? path = some (.file text.toUTF8))
      (hprofile : Profile.ofToml text = .ok profile) : Loads tree path (.ok profile)

theorem load_of_readText_error {fault : FileFault} (hcontains : tree.contains path = true)
    (h : tree.readText path = .error fault) : load tree path = .error (.file fault) := by
  rw [load, if_pos hcontains, h]
  rfl

theorem load_of_readText_ok {text : String} (h : tree.readText path = .ok text) :
    load tree path = (Profile.ofToml text).mapError .unreadable := by
  have hcontains : tree.contains path = true := contains_iff.2 ⟨_, readText_eq_ok_iff.1 h⟩
  rw [load, if_pos hcontains, h]
  rfl

theorem loads (tree : FileTree) (path : Path) : Loads tree path (load tree path) := by
  by_cases hcontains : tree.contains path = true
  · cases hread : tree.readText path with
    | error fault =>
      rw [load_of_readText_error hcontains hread]
      rcases readText_eq_error_iff.1 hread with
        ⟨hnone, -⟩ | ⟨hdirectory, rfl⟩ | ⟨raw, hget, hraw, rfl⟩
      · rw [contains_eq_false_iff.2 hnone] at hcontains
        cases hcontains
      · exact .directory hdirectory
      · exact .notText raw hget hraw
    | ok text =>
      rw [load_of_readText_ok hread]
      cases hparse : Profile.ofToml text with
      | error fault => exact .unreadable text fault (readText_eq_ok_iff.1 hread) hparse
      | ok profile => exact .profile text profile (readText_eq_ok_iff.1 hread) hparse
  · rw [load, if_neg hcontains]
    exact .missing (contains_eq_false_iff.1 (Bool.eq_false_iff.2 hcontains))

/-- Loading is what the cases say, and nothing else. -/
theorem load_eq_iff : load tree path = outcome ↔ Loads tree path outcome := by
  constructor
  · rintro rfl
    exact loads tree path
  · intro h
    cases h with
    | missing hget =>
      rw [load, contains_eq_false_iff.2 hget]
      rfl
    | directory hget =>
      exact load_of_readText_error (contains_iff.2 ⟨_, hget⟩)
        (readText_eq_error_iff.2 (.inr (.inl ⟨hget, rfl⟩)))
    | notText raw hget hraw =>
      exact load_of_readText_error (contains_iff.2 ⟨_, hget⟩)
        (readText_eq_error_iff.2 (.inr (.inr ⟨raw, hget, hraw, rfl⟩)))
    | unreadable text fault hget hfault =>
      rw [load_of_readText_ok (readText_eq_ok_iff.2 hget), hfault]
      rfl
    | profile text profile hget hprofile =>
      rw [load_of_readText_ok (readText_eq_ok_iff.2 hget), hprofile]
      rfl

/-! ## The lookup by the path -/

/-- The lookup of a name that looks at its path first, and does not list the directory. -/
def findDirectly (tree : FileTree) (project : Path) (name : String) : Except ConfigError Profile :=
  match profilePath project name with
  | .error _ => findBuiltin name
  | .ok path => if tree.contains path then load tree path else findBuiltin name

theorem find_eq_findDirectly (tree : FileTree) (project : Path) (name : String) :
    find tree (some project) name = findDirectly tree project name := by
  rw [find_eq, findDirectly, profilePath, isValid]
  cases fault? name with
  | some fault => rfl
  | none => rfl

/-- What it comes to that a name is looked up in a project: whatever stands at its path is loaded.
Where nothing does, the built-in profiles have their turn. -/
inductive Finds (tree : FileTree) (project : Path) (name : String) :
    Except ConfigError Profile → Prop where
  | own (path : Path) (outcome : Except ConfigError Profile)
      (hpath : profilePath project name = .ok path) (hcontains : tree.contains path = true)
      (hloads : Loads tree path outcome) : Finds tree project name outcome
  | builtin (profile : Profile)
      (hnone : ∀ path, profilePath project name = .ok path → tree.contains path = false)
      (hmem : profile ∈ Profile.builtins) (hname : profile.name = name) :
      Finds tree project name (.ok profile)
  | unknown (hnone : ∀ path, profilePath project name = .ok path → tree.contains path = false)
      (hbuiltin : ∀ profile ∈ Profile.builtins, profile.name ≠ name) :
      Finds tree project name (.error (.unknownProfile name))

theorem finds_findBuiltin
    (hnone : ∀ path, profilePath project name = .ok path → tree.contains path = false) :
    Finds tree project name (findBuiltin name) := by
  unfold findBuiltin
  cases hbuiltin : Profile.builtin? name with
  | some profile =>
    obtain ⟨hmem, hname⟩ := Profile.builtin?_eq_some_iff.1 hbuiltin
    exact .builtin profile hnone hmem hname
  | none => exact .unknown hnone (Profile.builtin?_eq_none_iff.1 hbuiltin)

theorem findDirectly_of_contains (hpath : profilePath project name = .ok path)
    (hcontains : tree.contains path = true) : findDirectly tree project name = load tree path := by
  rw [findDirectly, hpath]
  exact if_pos hcontains

theorem findDirectly_of_absent
    (hnone : ∀ path, profilePath project name = .ok path → tree.contains path = false) :
    findDirectly tree project name = findBuiltin name := by
  rw [findDirectly]
  cases hpath : profilePath project name with
  | error error => rfl
  | ok path => exact if_neg (Bool.eq_false_iff.1 (hnone path hpath))

/-- The lookup of a name is what the cases say, and nothing else. -/
theorem find_eq_iff :
    find tree (some project) name = outcome ↔ Finds tree project name outcome := by
  rw [find_eq_findDirectly]
  constructor
  · rintro rfl
    by_cases hown : ∃ path, profilePath project name = .ok path ∧ tree.contains path = true
    · obtain ⟨path, hpath, hcontains⟩ := hown
      rw [findDirectly_of_contains hpath hcontains]
      exact .own path _ hpath hcontains (loads tree path)
    · have hnone : ∀ path, profilePath project name = .ok path → tree.contains path = false :=
        fun path hpath => Bool.eq_false_iff.2 fun hcontains => hown ⟨path, hpath, hcontains⟩
      rw [findDirectly_of_absent hnone]
      exact finds_findBuiltin hnone
  · intro h
    cases h with
    | own path outcome hpath hcontains hloads =>
      rw [findDirectly_of_contains hpath hcontains, load_eq_iff.2 hloads]
    | builtin profile hnone hmem hname =>
      rw [findDirectly_of_absent hnone, findBuiltin, Profile.builtin?_eq_some_iff.2 ⟨hmem, hname⟩]
    | unknown hnone hbuiltin =>
      rw [findDirectly_of_absent hnone, findBuiltin, Profile.builtin?_eq_none_iff.2 hbuiltin]

namespace Finds

/-- What is looked for is never missing: its file has been seen. -/
theorem ne_missingFile (h : Finds tree project name outcome) (shown : String) :
    outcome ≠ .error (.missingFile shown) := by
  rintro rfl
  cases h with
  | own path outcome hpath hcontains hloads =>
    cases hloads with
    | missing hget =>
      rw [contains_eq_false_iff.2 hget] at hcontains
      cases hcontains

theorem ne_invalidName (h : Finds tree project name outcome) (other : String) (fault : NameFault) :
    outcome ≠ .error (.invalidName other fault) := by
  rintro rfl
  cases h with
  | own path outcome hpath hcontains hloads => cases hloads

/-- A refused name is not looked for in the project, and no built-in profile has it. -/
theorem eq_unknownProfile (h : Finds tree project name outcome) {fault : NameFault}
    (hfault : fault? name = some fault) : outcome = .error (.unknownProfile name) := by
  cases h with
  | own path outcome hpath hcontains hloads =>
    rw [(profilePath_eq_ok_iff.1 hpath).1] at hfault
    cases hfault
  | builtin profile hnone hmem hname =>
    rw [← hname, Profile.fault?_builtin hmem] at hfault
    cases hfault
  | unknown hnone hbuiltin => rfl

end Finds

/-- **A name is looked up at its path.** Going through the list of the profiles is building the one
path and looking there; an accepted name never comes back as missing, and a refused one only as
unknown. -/
theorem find_direct (tree : FileTree) (project : Path) (name : String) :
    find tree (some project) name = findDirectly tree project name
    ∧ (∀ outcome, find tree (some project) name = outcome ↔ Finds tree project name outcome)
    ∧ (∀ shown, find tree (some project) name ≠ .error (.missingFile shown))
    ∧ (∀ other fault, find tree (some project) name ≠ .error (.invalidName other fault))
    ∧ ∀ error, profilePath project name = .error error →
      find tree (some project) name = .error (.unknownProfile name) := by
  have hfinds : Finds tree project name (find tree (some project) name) := find_eq_iff.1 rfl
  refine ⟨find_eq_findDirectly tree project name, fun _ => find_eq_iff, hfinds.ne_missingFile,
    hfinds.ne_invalidName, fun error herror => ?_⟩
  obtain ⟨fault, hfault, -⟩ := profilePath_eq_error_iff.1 herror
  exact hfinds.eq_unknownProfile hfault

/-- A project in which a directory has the name of the file of a built-in profile. -/
def shadowingTree : FileTree :=
  ⟨"", [(["profiles"], .directory), (["profiles", "host-debug.profile.toml"], .directory)],
    (IsTree.nil.concat (by simp) (by simp) (.inl rfl)).concat (by simp) (by simp) (.inr (by simp))⟩

theorem find_direct_shadowed :
    find shadowingTree none "host-debug" = .ok Profile.hostDebug
    ∧ find shadowingTree (some []) "host-debug" = .error (.file .isDirectory) := by
  have hpath : profilePath [] "host-debug" = .ok ["profiles", "host-debug.profile.toml"] :=
    profilePath_eq_ok_iff.2 ⟨by decide, rfl⟩
  have hfinds : Finds shadowingTree [] "host-debug" (.error (.file .isDirectory)) :=
    .own _ _ hpath (by decide) (.directory (by decide))
  exact ⟨rfl, ((find_direct shadowingTree [] "host-debug").2.1 _).2 hfinds⟩

end Project

end RuntimeProfiles
