import Mathlib.Data.List.Nodup

/-!
# Looking up keys

A list of pairs serves as a table: `List.lookup` finds the first value under a key. If no key occurs
twice, it finds the value of every pair, and the order of the pairs does not matter.
-/

namespace RuntimeProfiles

variable {κ ν : Type} [BEq κ] [LawfulBEq κ] {entries others : List (κ × ν)} {key other : κ}
  {value : ν}

theorem lookup_eq_none_iff_notMem : entries.lookup key = none ↔ key ∉ entries.map (·.1) := by
  rw [List.lookup_eq_none_iff]
  constructor
  · intro h hmem
    obtain ⟨found, hfound, rfl⟩ := List.mem_map.1 hmem
    exact bne_iff_ne.1 (h found hfound) rfl
  · intro h found hfound
    rw [bne_iff_ne]
    rintro rfl
    exact h (List.mem_map_of_mem hfound)

theorem exists_lookup_iff_mem :
    (∃ value, entries.lookup key = some value) ↔ key ∈ entries.map (·.1) := by
  rw [← Option.isSome_iff_exists, ← Option.ne_none_iff_isSome, ne_eq, lookup_eq_none_iff_notMem,
    not_not]

theorem mem_of_lookup (h : entries.lookup key = some value) : (key, value) ∈ entries := by
  obtain ⟨front, back, rfl, -⟩ := List.lookup_eq_some_iff.1 h
  exact List.mem_append_right front List.mem_cons_self

theorem lookup_cons_of_ne (h : other ≠ key) :
    ((key, value) :: entries).lookup other = entries.lookup other := by
  rw [List.lookup_cons, beq_eq_false_iff_ne.2 h]

theorem lookup_eq_some_iff_mem (h : (entries.map (·.1)).Nodup) :
    entries.lookup key = some value ↔ (key, value) ∈ entries := by
  induction entries with
  | nil => simp
  | cons first entries ih =>
    obtain ⟨k, v⟩ := first
    obtain ⟨hfresh, hnodup⟩ := List.nodup_cons.1 h
    rw [List.lookup_cons]
    by_cases heq : key = k
    · subst heq
      have hnot : (key, value) ∉ entries := fun hmem =>
        hfresh (List.mem_map.2 ⟨_, hmem, rfl⟩)
      simp [hnot, eq_comm]
    · rw [beq_eq_false_iff_ne.2 heq]
      simp [heq, ih hnodup]

theorem lookup_perm (h : entries.Perm others) (hkeys : (entries.map (·.1)).Nodup) :
    entries.lookup key = others.lookup key := by
  have hkeys' : (others.map (·.1)).Nodup := (h.map _).nodup_iff.1 hkeys
  apply Option.ext
  intro value
  rw [lookup_eq_some_iff_mem hkeys, lookup_eq_some_iff_mem hkeys', h.mem_iff]

end RuntimeProfiles
