import Mathlib.Data.List.Forall2
import Mathlib.Data.Nat.Digits.Defs
import RuntimeProfiles.Proofs.Text.Digits

/-!
# Numbers in a base

The digits of a base are the first of sixteen, each in lower or upper case (`IsDigit`). Digits write
a number, the most significant one first (`Writes`). What the readers of single digits accept is
exactly this, and what is printed in base sixteen writes the number:

* **`readsDigits_sixteen`**, **`readsDigits_ten`** — single digits;
* **`Writes.concat`** — one more digit behind others;
* **`isLowerHex_hexDigits`** — printed digits, in lower case and without a zero in front.
-/

namespace RuntimeProfiles.Text

/-- The digits in the order of their values. -/
def lowerDigits : List Char :=
  ['0', '1', '2', '3', '4', '5', '6', '7', '8', '9', 'a', 'b', 'c', 'd', 'e', 'f']

/-- The digits in the order of their values, in upper case. -/
def upperDigits : List Char :=
  ['0', '1', '2', '3', '4', '5', '6', '7', '8', '9', 'A', 'B', 'C', 'D', 'E', 'F']

/-- A character is the digit of a value in a base. -/
def IsDigit (base : Nat) (c : Char) (value : Nat) : Prop :=
  value < base ∧ (lowerDigits[value]? = some c ∨ upperDigits[value]? = some c)

/-- A reader of single characters accepts the digits of a base, each with its value. -/
def ReadsDigits (base : Nat) (value? : Char → Option Nat) : Prop :=
  ∀ c value, value? c = some value ↔ IsDigit base c value

/-- Digits of a base write a number, the most significant one first. -/
def Writes (base : Nat) (digits : List Char) (n : Nat) : Prop :=
  digits ≠ [] ∧ ∃ values, List.Forall₂ (IsDigit base) digits values
    ∧ Nat.ofDigits base values.reverse = n

/-! ## Single digits -/

variable {base value n : Nat} {c : Char} {digits : List Char}

theorem IsDigit.mem (h : IsDigit base c value) : c ∈ lowerDigits ++ upperDigits := by
  rcases h.2 with hlower | hupper
  · exact List.mem_append_left _ (List.mem_of_getElem? hlower)
  · exact List.mem_append_right _ (List.mem_of_getElem? hupper)

theorem isDigit_mono {smaller : Nat} (hsmaller : smaller ≤ base) :
    IsDigit smaller c value ↔ IsDigit base c value ∧ value < smaller := by
  constructor
  · rintro ⟨hvalue, hlisted⟩
    exact ⟨⟨Nat.lt_of_lt_of_le hvalue hsmaller, hlisted⟩, hvalue⟩
  · rintro ⟨⟨-, hlisted⟩, hvalue⟩
    exact ⟨hvalue, hlisted⟩

theorem toNat_lt_of_hexValue? (h : hexValue? c = some value) : c.toNat < 128 := by
  have hbound : ∀ last : Char, last.toNat < 128 → c ≤ last → c.toNat < 128 := fun last hlast hle =>
    Nat.lt_of_le_of_lt (UInt32.le_iff_toNat_le.1 hle) hlast
  unfold hexValue? at h
  split at h
  · next hrange => exact hbound '9' (by decide) hrange.2
  split at h
  · next hrange => exact hbound 'f' (by decide) hrange.2
  split at h
  · next hrange => exact hbound 'F' (by decide) hrange.2
  · cases h

/-- What is read as a value stands at the place of this value. -/
theorem isDigit_of_hexValue? : ∀ code < 128, ∀ value ∈ hexValue? (Char.ofNat code),
    value < 16 ∧ (lowerDigits[value]? = some (Char.ofNat code)
      ∨ upperDigits[value]? = some (Char.ofNat code)) := by
  decide

/-- What stands at the place of a value is read as this value. -/
theorem hexValue?_of_listed : ∀ value < 16, lowerDigits[value]?.bind hexValue? = some value
    ∧ upperDigits[value]?.bind hexValue? = some value := by
  decide

theorem readsDigits_sixteen : ReadsDigits 16 hexValue? := by
  intro c value
  constructor
  · intro h
    have hlisted := isDigit_of_hexValue? c.toNat (toNat_lt_of_hexValue? h) value
    rw [Char.ofNat_toNat] at hlisted
    exact hlisted h
  · rintro ⟨hvalue, hlisted⟩
    obtain ⟨hlower, hupper⟩ := hexValue?_of_listed value hvalue
    rcases hlisted with hlisted | hlisted
    · rwa [hlisted, Option.bind_some] at hlower
    · rwa [hlisted, Option.bind_some] at hupper

theorem readsDigits_ten : ReadsDigits 10 digitValue? := by
  intro c value
  rw [isDigit_mono (by decide : 10 ≤ 16), ← readsDigits_sixteen c value, digitValue?, hexValue?]
  by_cases hdigit : '0' ≤ c ∧ c ≤ '9'
  · have hle : c.toNat ≤ 57 := UInt32.le_iff_toNat_le.1 hdigit.2
    have hzero : '0'.toNat = 48 := rfl
    simp only [if_pos hdigit, Option.some.injEq]
    omega
  · rw [if_neg hdigit, if_neg hdigit]
    constructor
    · intro h
      cases h
    · -- a letter has a value of ten or more
      rintro ⟨h, hsmall⟩
      split at h
      · have := Option.some.inj h
        omega
      split at h
      · have := Option.some.inj h
        omega
      · cases h

/-! ## Numbers -/

theorem Writes.exists_isDigit (h : Writes base digits n) (hc : c ∈ digits) :
    ∃ value, IsDigit base c value := by
  obtain ⟨-, values, hvalues, -⟩ := h
  induction hvalues with
  | nil => cases hc
  | @cons first value digits values hfirst _ ih =>
    rcases List.mem_cons.1 hc with rfl | hc
    · exact ⟨value, hfirst⟩
    · exact ih hc

theorem Writes.concat (hbase : IsDigit base c value) (h : Writes base digits n) :
    Writes base (digits ++ [c]) (n * base + value) := by
  obtain ⟨-, values, hvalues, rfl⟩ := h
  refine ⟨by simp, values ++ [value], ?_, ?_⟩
  · exact List.rel_append hvalues (.cons hbase .nil)
  · rw [List.reverse_append, List.reverse_singleton, List.singleton_append, Nat.ofDigits_cons,
      Nat.mul_comm base, Nat.add_comm]

/-- Digits write a number in base sixteen as it is printed: in lower case, and with a zero in front
only if the number is zero. -/
structure IsLowerHex (digits : List Char) (n : Nat) : Prop where
  writes : Writes 16 digits n
  lower : ∀ c ∈ digits, c ∈ lowerDigits
  canonical : digits.head? = some '0' → digits = ['0']

theorem digitChar_lower : ∀ value < 16, lowerDigits[value]? = some (Nat.digitChar value) := by
  decide

theorem isDigit_digitChar (h : value < 16) : IsDigit 16 (Nat.digitChar value) value :=
  ⟨h, .inl (digitChar_lower value h)⟩

theorem writes_hexDigits (n : Nat) :
    Writes 16 (hexDigits n) n ∧ ∀ c ∈ hexDigits n, c ∈ lowerDigits := by
  have hmem : ∀ value < 16, Nat.digitChar value ∈ lowerDigits := fun value hvalue =>
    List.mem_of_getElem? (digitChar_lower value hvalue)
  unfold hexDigits
  -- on the number: its last digit stands behind those of the number without it
  induction n using Nat.strongRecOn with
  | ind n ih =>
    by_cases hn : n < 16
    · rw [Nat.toDigits_of_lt_base hn]
      refine ⟨⟨by simp, [n], .cons (isDigit_digitChar hn) .nil, by simp⟩, ?_⟩
      simpa using hmem n hn
    · obtain ⟨hwrites, hlower⟩ := ih (n / 16) (by omega)
      have hlast : n % 16 < 16 := Nat.mod_lt n (by decide)
      rw [Nat.toDigits_of_base_le (by decide) (Nat.le_of_not_lt hn)]
      constructor
      · have hnumber := hwrites.concat (isDigit_digitChar hlast)
        rwa [Nat.div_add_mod'] at hnumber
      · intro c hc
        rcases List.mem_append.1 hc with hc | hc
        · exact hlower c hc
        · rw [List.mem_singleton.1 hc]
          exact hmem _ hlast

theorem isLowerHex_hexDigits (n : Nat) : IsLowerHex (hexDigits n) n where
  writes := (writes_hexDigits n).1
  lower := (writes_hexDigits n).2
  canonical := by
    intro hhead
    by_cases hn : n = 0
    · subst hn
      exact Nat.toDigits_zero 16
    · obtain ⟨tail, hdigits⟩ := List.head?_eq_some_iff.1 hhead
      exact absurd hdigits (toDigits_ne_zero_cons (by decide) hn tail)

end RuntimeProfiles.Text
