import RuntimeProfiles.Profile.Name

/-!
# Faults of names

A name is checked for one fault after another, and the first one is reported. The faults themselves
do not depend on that order:

* **`hasParentReference_iff`** — the scan for two dots finds them wherever they stand;
* **`fault?_eq_some_iff`** — the fault that is reported is the first one that the name has;
* **`fault?_eq_none_iff`** — a name is accepted exactly if it has none of them.
-/

namespace RuntimeProfiles

namespace NameFault

/-- A name has a fault. -/
def Applies (name : String) : NameFault → Prop
  | .blank => ∀ c ∈ name.toList, Text.isBlank c = true
  | .separator => '/' ∈ name.toList ∨ '\\' ∈ name.toList
  | .parentReference => ['.', '.'] <:+: name.toList

/-- The place of a fault in the order of the checks. -/
def place : NameFault → Nat
  | .blank => 0
  | .separator => 1
  | .parentReference => 2

/-- A name has a fault, and none that is checked for earlier. -/
def IsFirst (name : String) (fault : NameFault) : Prop :=
  fault.Applies name ∧ ∀ earlier : NameFault, earlier.place < fault.place → ¬ earlier.Applies name

theorem place_injective {first second : NameFault} (h : first.place = second.place) :
    first = second := by
  cases first <;> cases second <;> first | rfl | cases h

theorem IsFirst.unique {name : String} {first second : NameFault} (hfirst : first.IsFirst name)
    (hsecond : second.IsFirst name) : first = second := by
  rcases Nat.lt_trichotomy first.place second.place with hlt | heq | hgt
  · exact absurd hfirst.1 (hsecond.2 first hlt)
  · exact place_injective heq
  · exact absurd hsecond.1 (hfirst.2 second hgt)

end NameFault

namespace ProfileName

open NameFault

variable {name : String}

/-- Two dots in a row are found wherever they stand. -/
theorem hasParentReference_iff {chars : List Char} :
    hasParentReference chars = true ↔ ['.', '.'] <:+: chars := by
  fun_induction hasParentReference chars with
  | case1 rest => exact iff_of_true rfl ⟨[], rest, rfl⟩
  | case2 c rest hnot ih =>
    rw [ih, List.infix_cons_iff]
    refine ⟨.inr, fun h => h.resolve_left ?_⟩
    rintro ⟨tail, htail⟩
    exact hnot tail (List.cons.inj htail).1.symm (List.cons.inj htail).2.symm
  | case3 => simp

theorem all_isBlank_iff : name.toList.all Text.isBlank = true ↔ NameFault.blank.Applies name :=
  List.all_eq_true

theorem any_separator_iff :
    (name.toList.any fun c => c = '/' || c = '\\') = true ↔ NameFault.separator.Applies name := by
  simp only [List.any_eq_true, Bool.or_eq_true, decide_eq_true_eq, Applies]
  constructor
  · rintro ⟨c, hc, rfl | rfl⟩
    · exact .inl hc
    · exact .inr hc
  · rintro (h | h)
    · exact ⟨_, h, .inl rfl⟩
    · exact ⟨_, h, .inr rfl⟩

/-- Either a fault is reported, and it is the first one, or there is none. -/
theorem fault?_cases (name : String) :
    (∃ fault : NameFault, fault? name = some fault ∧ fault.IsFirst name)
    ∨ (fault? name = none ∧ ∀ fault : NameFault, ¬ fault.Applies name) := by
  unfold fault?
  by_cases hblank : name.toList.all Text.isBlank = true
  · rw [if_pos hblank]
    exact .inl ⟨.blank, rfl, all_isBlank_iff.1 hblank,
      fun _ hplace => absurd hplace (Nat.not_lt_zero _)⟩
  rw [if_neg hblank]
  rw [all_isBlank_iff] at hblank
  by_cases hseparator : (name.toList.any fun c => c = '/' || c = '\\') = true
  · rw [if_pos hseparator]
    refine .inl ⟨.separator, rfl, any_separator_iff.1 hseparator, fun earlier hplace => ?_⟩
    cases earlier with
    | blank => exact hblank
    | separator | parentReference => exact absurd hplace (by decide)
  rw [if_neg hseparator]
  rw [any_separator_iff] at hseparator
  by_cases hdots : hasParentReference name.toList = true
  · rw [if_pos hdots]
    refine .inl ⟨.parentReference, rfl, hasParentReference_iff.1 hdots, fun earlier hplace => ?_⟩
    cases earlier with
    | blank => exact hblank
    | separator => exact hseparator
    | parentReference => exact absurd hplace (by decide)
  rw [if_neg hdots]
  rw [hasParentReference_iff] at hdots
  refine .inr ⟨rfl, fun fault => ?_⟩
  cases fault with
  | blank => exact hblank
  | separator => exact hseparator
  | parentReference => exact hdots

/-- A name is accepted exactly if it has no fault. -/
theorem fault?_eq_none_iff : fault? name = none ↔ ∀ fault : NameFault, ¬ fault.Applies name := by
  rcases fault?_cases name with ⟨fault, hfault, hfirst⟩ | ⟨hnone, hall⟩
  · refine iff_of_false ?_ fun hall => hall fault hfirst.1
    rw [hfault]
    exact nofun
  · exact iff_of_true hnone hall

/-- A name is accepted exactly if it is not blank and has neither separators nor two dots in a
row. -/
theorem fault?_eq_none_iff_chars : fault? name = none
    ↔ (∃ c ∈ name.toList, Text.isBlank c = false) ∧ '/' ∉ name.toList ∧ '\\' ∉ name.toList
      ∧ ¬ ['.', '.'] <:+: name.toList := by
  rw [fault?_eq_none_iff]
  constructor
  · intro h
    have hblank : ¬ ∀ c ∈ name.toList, Text.isBlank c = true := h .blank
    obtain ⟨hslash, hbackslash⟩ := not_or.1 (h .separator)
    refine ⟨?_, hslash, hbackslash, h .parentReference⟩
    simpa using hblank
  · rintro ⟨⟨c, hmem, hc⟩, hslash, hbackslash, hdots⟩ fault happlies
    cases fault with
    | blank =>
      have hblank : Text.isBlank c = true := happlies c hmem
      rw [hc] at hblank
      cases hblank
    | separator => exact happlies.elim hslash hbackslash
    | parentReference => exact hdots happlies

/-- The fault that is reported is the first one of the name. -/
theorem fault?_eq_some_iff {fault : NameFault} :
    fault? name = some fault ↔ fault.IsFirst name := by
  rcases fault?_cases name with ⟨reported, hreported, hfirst⟩ | ⟨hnone, hall⟩
  · rw [hreported, Option.some_inj]
    exact ⟨fun heq => heq ▸ hfirst, hfirst.unique⟩
  · refine iff_of_false ?_ fun hfirst => hall fault hfirst.1
    rw [hnone]
    exact nofun

end ProfileName

end RuntimeProfiles
