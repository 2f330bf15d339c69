import RuntimeProfiles.Text.Hex

/-!
# Decimal digits

Numbers are written with the digits of `Nat.toDigits`, and each format reads digits with a function
of its own. What these functions have in common is stated here:

* **`ofDigits?_of_isDigit`** — decimal digits are read as the number of the library, `ofDigitChars`;
* **`ofDigits?_eq_none`** — a character that is no digit spoils a number;
* **`toDigits_ne_zero_cons`** — only zero is written with a zero in front.
-/

namespace RuntimeProfiles.Text

theorem toNat_bounds_of_isDigit {c : Char} (h : c.isDigit = true) :
    48 ≤ c.toNat ∧ c.toNat ≤ 57 := by
  simpa [Char.isDigit, UInt32.le_iff_toNat_le] using h

theorem ne_of_isDigit {c d : Char} (h : c.isDigit = true) (hd : d.isDigit = false) : c ≠ d := by
  rintro rfl
  rw [h] at hd
  cases hd

theorem hexValue?_of_isDigit {c : Char} (h : c.isDigit = true) :
    hexValue? c = some (c.toNat - 48) := by
  obtain ⟨hlow, hhigh⟩ := toNat_bounds_of_isDigit h
  have hdigit : '0' ≤ c ∧ c ≤ '9' := by
    constructor <;> rw [Char.le_def, UInt32.le_iff_toNat_le]
    · exact hlow
    · exact hhigh
  rw [hexValue?, if_pos hdigit]
  rfl

/-- Decimal digits are read as the number that they write. -/
theorem ofDigits?_of_isDigit {digits : List Char} (h : ∀ c ∈ digits, c.isDigit = true) :
    ofDigits? 10 hexValue? digits = some (Nat.ofDigitChars 10 digits 0) := by
  suffices hfrom : ∀ total, digits.foldlM (fun total c => (hexValue? c).map (total * 10 + ·)) total
      = some (Nat.ofDigitChars 10 digits total) from hfrom 0
  induction digits with
  | nil => intro total; rfl
  | cons c digits ih =>
    intro total
    have hvalue : (hexValue? c).map (total * 10 + ·)
        = some (10 * total + (c.toNat - '0'.toNat)) := by
      rw [hexValue?_of_isDigit (h c List.mem_cons_self), Option.map_some, Nat.mul_comm]
      rfl
    rw [List.foldlM_cons, hvalue, Nat.ofDigitChars_cons, Option.bind_eq_bind, Option.bind_some,
      ih fun d hd => h d (List.mem_cons_of_mem _ hd)]

/-- A character without a value spoils a number. -/
theorem ofDigits?_eq_none {base : Nat} {value? : Char → Option Nat} {digits : List Char} {c : Char}
    (hmem : c ∈ digits) (hc : value? c = none) : ofDigits? base value? digits = none := by
  suffices hfrom : ∀ total,
      digits.foldlM (fun total c => (value? c).map (total * base + ·)) total = none from hfrom 0
  induction digits with
  | nil => cases hmem
  | cons d digits ih =>
    intro total
    rw [List.foldlM_cons]
    rcases List.mem_cons.1 hmem with rfl | hmem
    · rw [hc]
      rfl
    · cases value? d with
      | none => rfl
      | some n => exact ih hmem _

theorem isDigit_of_mem_toDigits {n : Nat} {c : Char} (h : c ∈ Nat.toDigits 10 n) :
    c.isDigit = true :=
  Nat.isDigit_of_mem_toDigits (by decide) (by decide) h

/-- Only zero is written with a zero in front. -/
theorem toDigits_ne_zero_cons {base n : Nat} (hbase : 1 < base) (h : n ≠ 0) (tail : List Char) :
    Nat.toDigits base n ≠ '0' :: tail := by
  induction n using Nat.strongRecOn generalizing tail with
  | ind n ih =>
    intro heq
    by_cases hn : n < base
    · rw [Nat.toDigits_of_lt_base hn] at heq
      exact h (Nat.digitChar_eq_zero.1 (List.cons.inj heq).1)
    · -- the first digit of a longer number is that of the number without its last digit
      have hle := Nat.le_of_not_lt hn
      rw [Nat.toDigits_of_base_le hbase hle] at heq
      cases hfront : Nat.toDigits base (n / base) with
      | nil => exact Nat.toDigits_ne_nil hfront
      | cons c front =>
        rw [hfront, List.cons_append] at heq
        have hc : c = '0' := (List.cons.inj heq).1
        have hpositive : 0 < n / base := Nat.div_pos hle (Nat.zero_lt_of_lt hbase)
        have hless : n / base < n := Nat.div_lt_self (Nat.pos_of_ne_zero h) hbase
        exact ih (n / base) hless (Nat.ne_of_gt hpositive) front (hc ▸ hfront)

/-- The digits of a number are a first one, which is a zero only for zero, and others. -/
theorem exists_cons_toDigits (n : Nat) :
    ∃ c tail, Nat.toDigits 10 n = c :: tail ∧ c.isDigit = true ∧ (∀ d ∈ tail, d.isDigit = true)
      ∧ (c = '0' → tail = []) := by
  cases hdigits : Nat.toDigits 10 n with
  | nil => exact absurd hdigits Nat.toDigits_ne_nil
  | cons c tail =>
    have hall : ∀ d ∈ c :: tail, d.isDigit = true := fun d hd =>
      isDigit_of_mem_toDigits (hdigits ▸ hd)
    refine ⟨c, tail, rfl, hall c List.mem_cons_self, fun d hd => hall d (List.mem_cons_of_mem _ hd),
      ?_⟩
    rintro rfl
    by_cases hn : n = 0
    · subst hn
      rw [Nat.toDigits_zero] at hdigits
      exact (List.cons.inj hdigits).2.symm
    · exact absurd hdigits (toDigits_ne_zero_cons (by decide) hn tail)

/-- Different numbers are written differently. -/
theorem toString_injective {m n : Nat} (h : toString m = toString n) : m = n := by
  have hdigits : Nat.toDigits 10 m = Nat.toDigits 10 n := by
    rw [← Nat.toList_repr, ← Nat.toList_repr, ← Nat.toString_eq_repr, h, Nat.toString_eq_repr]
  rw [← @Nat.ofDigitChars_ten_toDigits m, hdigits, Nat.ofDigitChars_ten_toDigits]

/-- The text of a number that is not negative. -/
theorem toList_toString_natCast (n : Nat) : (toString (n : Int)).toList = Nat.toDigits 10 n := by
  rw [Int.toString_eq_repr, Int.repr_eq_if, if_pos (Int.natCast_nonneg n), Int.toNat_natCast,
    Nat.toList_repr]

end RuntimeProfiles.Text
