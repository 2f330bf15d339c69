import Mathlib.Algebra.Order.Floor.Div
import RuntimeProfiles.Layout

/-!
# Rounding sizes up

The mask of an alignment is one less than the alignment. A size is rounded up by adding the mask and
clearing its bits in the sum. Much of what this is good for does not need the mask to be an unbroken
run of ones, so it holds for every positive alignment (`Layout.Rounds`):

* **`toNat_clear_add`** — a word is what a mask clears in it and what is left;
* **`Layout.alignObjectSize_eq_some_iff`**, **`Layout.rounds_of_eq_some`** — when there is an
  answer, and what is true of it.

For a power of two the bits of the mask are a remainder, and then the answer is the least multiple
of the alignment that holds the size:

* **`Layout.isLeast_leastHolding`**, **`Layout.alignObjectSize_of_power`** — the least multiple,
  which is the answer exactly if it fits in a word;
* **`Layout.alignObjectSize_rounds`** — all of it.
-/

namespace RuntimeProfiles

/-! ## Masks -/

/-- What a mask clears in a word and what it keeps are the word. -/
theorem toNat_clear_add (word mask : UInt64) :
    (word &&& ~~~mask).toNat + (word &&& mask).toNat = word.toNat := by
  have hdisjoint : (word &&& ~~~mask).toBitVec &&& (word &&& mask).toBitVec = 0#64 := by
    ext i
    cases hmask : mask.toBitVec[i] <;> simp [hmask]
  have hwhole : (word &&& ~~~mask).toBitVec ||| (word &&& mask).toBitVec = word.toBitVec := by
    ext i
    cases hmask : mask.toBitVec[i] <;> simp [hmask]
  calc (word &&& ~~~mask).toNat + (word &&& mask).toNat
      = ((word &&& ~~~mask).toBitVec + (word &&& mask).toBitVec).toNat :=
        (BitVec.toNat_add_of_and_eq_zero hdisjoint).symm
    _ = word.toBitVec.toNat := by rw [BitVec.add_eq_or_of_and_eq_zero _ _ hdisjoint, hwhole]

/-- A mask without a bit in common with a word can be added to it and cleared again. -/
theorem clear_add_of_disjoint {word mask : UInt64} (h : word &&& mask = 0) :
    word.toNat + mask.toNat < UInt64.size ∧ (word + mask) &&& ~~~mask = word := by
  have hdisjoint : word.toBitVec &&& mask.toBitVec = 0#64 := congrArg UInt64.toBitVec h
  have hsum : (word + mask).toNat = word.toNat + mask.toNat :=
    BitVec.toNat_add_of_and_eq_zero hdisjoint
  constructor
  · rw [← hsum]
    exact (word + mask).toNat_lt
  · apply UInt64.toBitVec_inj.1
    have hor : (word + mask).toBitVec = word.toBitVec ||| mask.toBitVec :=
      BitVec.add_eq_or_of_and_eq_zero _ _ hdisjoint
    rw [UInt64.toBitVec_and, hor, UInt64.toBitVec_not]
    ext i hi
    have hbit : (word.toBitVec[i] && mask.toBitVec[i]) = false := by
      rw [← BitVec.getElem_and, hdisjoint, BitVec.getElem_zero]
    cases hmask : mask.toBitVec[i] <;> simp_all

namespace Layout

variable {layout : Layout} {size rounded : UInt64}

/-! ## Every positive alignment -/

/-- The bits below the alignment. -/
def mask (layout : Layout) : UInt64 := layout.objectAlignment - 1

theorem toNat_mask (h : 0 < layout.objectAlignment) :
    layout.mask.toNat = layout.objectAlignment.toNat - 1 := by
  have hone : (1 : UInt64) ≤ layout.objectAlignment := by
    rw [UInt64.le_iff_toNat_le]
    exact UInt64.lt_iff_toNat_lt.1 h
  exact UInt64.toNat_sub_of_le _ _ hone

theorem alignObjectSize_eq_some_iff : layout.alignObjectSize size = some rounded
    ↔ size.toNat + layout.mask.toNat < UInt64.size
      ∧ rounded = (size + layout.mask) &&& ~~~layout.mask := by
  show (if size.toNat + layout.mask.toNat < UInt64.size
    then some ((size + layout.mask) &&& ~~~layout.mask) else none) = some rounded ↔ _
  split
  · next hfits => simp [hfits, eq_comm]
  · next hover => simp [hover]

theorem alignObjectSize_eq_none_iff :
    layout.alignObjectSize size = none ↔ UInt64.size ≤ size.toNat + layout.mask.toNat := by
  rw [← not_iff_not, ← Ne, Option.ne_none_iff_exists', Nat.not_le]
  constructor
  · rintro ⟨rounded, h⟩
    exact (alignObjectSize_eq_some_iff.1 h).1
  · intro hfits
    exact ⟨_, alignObjectSize_eq_some_iff.2 ⟨hfits, rfl⟩⟩

theorem toNat_add_mask (h : size.toNat + layout.mask.toNat < UInt64.size) :
    (size + layout.mask).toNat = size.toNat + layout.mask.toNat := by
  rw [UInt64.toNat_add]
  exact Nat.mod_eq_of_lt h

/-- What holds of a size and the one that it is rounded up to, whatever the alignment. -/
structure Rounds (layout : Layout) (size rounded : UInt64) : Prop where
  le : size ≤ rounded
  toNat_le : rounded.toNat ≤ size.toNat + (layout.objectAlignment.toNat - 1)
  disjoint : rounded &&& (layout.objectAlignment - 1) = 0
  fixed : layout.alignObjectSize rounded = some rounded

theorem rounds_of_eq_some (hpositive : 0 < layout.objectAlignment)
    (h : layout.alignObjectSize size = some rounded) : layout.Rounds size rounded := by
  obtain ⟨hfits, rfl⟩ := alignObjectSize_eq_some_iff.1 h
  -- the sum loses at most the mask that has been added to the size
  have hsum := toNat_clear_add (size + layout.mask) layout.mask
  have hkept : ((size + layout.mask) &&& layout.mask).toNat ≤ layout.mask.toNat := by
    rw [UInt64.toNat_and]
    exact Nat.and_le_right
  rw [toNat_add_mask hfits] at hsum
  have hdisjoint : ((size + layout.mask) &&& ~~~layout.mask) &&& layout.mask = 0 := by
    rw [UInt64.and_assoc, UInt64.and_comm (~~~layout.mask), UInt64.and_not_self, UInt64.and_zero]
  obtain ⟨hagain, hsame⟩ := clear_add_of_disjoint hdisjoint
  refine ⟨?_, ?_, hdisjoint, alignObjectSize_eq_some_iff.2 ⟨hagain, hsame.symm⟩⟩
  · rw [UInt64.le_iff_toNat_le]
    omega
  · rw [← toNat_mask hpositive]
    omega

/-! ## Powers of two -/

/-- The multiples of the alignment that hold a size. -/
def holding (layout : Layout) (size : UInt64) : Set Nat :=
  {n | layout.objectAlignment.toNat ∣ n ∧ size.toNat ≤ n}

/-- The least multiple of the alignment that holds a size, whether or not it fits in a word. -/
def leastHolding (layout : Layout) (size : UInt64) : Nat :=
  layout.objectAlignment.toNat * (size.toNat ⌈/⌉ layout.objectAlignment.toNat)

theorem isLeast_leastHolding (hpositive : 0 < layout.objectAlignment) (size : UInt64) :
    IsLeast (layout.holding size) (layout.leastHolding size) := by
  have halignment : 0 < layout.objectAlignment.toNat := UInt64.lt_iff_toNat_lt.1 hpositive
  refine ⟨⟨Nat.dvd_mul_right _ _, ?_⟩, ?_⟩
  · exact (ceilDiv_le_iff_le_mul halignment).1 le_rfl
  · rintro _ ⟨⟨count, rfl⟩, hholds⟩
    exact Nat.mul_le_mul_left _ ((ceilDiv_le_iff_le_mul halignment).2 hholds)

theorem leastHolding_eq (hpositive : 0 < layout.objectAlignment) (size : UInt64) :
    layout.leastHolding size
      = (size.toNat + layout.mask.toNat)
        - (size.toNat + layout.mask.toNat) % layout.objectAlignment.toNat := by
  have halignment : 0 < layout.objectAlignment.toNat := UInt64.lt_iff_toNat_lt.1 hpositive
  have hsum : size.toNat + layout.objectAlignment.toNat - 1 = size.toNat + layout.mask.toNat := by
    rw [toNat_mask hpositive]
    omega
  rw [leastHolding, Nat.ceilDiv_eq_add_pred_div, hsum]
  exact Nat.mul_div_self_eq_mod_sub_self

/-- The bits below a power of two are the remainder of a division by it. -/
theorem toNat_and_mask (hpositive : 0 < layout.objectAlignment)
    (hpower : layout.objectAlignment.toNat.isPowerOfTwo) (word : UInt64) :
    (word &&& layout.mask).toNat = word.toNat % layout.objectAlignment.toNat := by
  obtain ⟨shift, hshift⟩ := hpower
  rw [UInt64.toNat_and, toNat_mask hpositive, hshift, Nat.and_two_pow_sub_one_eq_mod]

/-- The words end at a multiple of every power of two among them, so that the sum leaves them
exactly if the least multiple does. -/
theorem leastHolding_lt_iff (hpositive : 0 < layout.objectAlignment)
    (hpower : layout.objectAlignment.toNat.isPowerOfTwo) :
    layout.leastHolding size < UInt64.size
      ↔ size.toNat + layout.mask.toNat < UInt64.size := by
  have halignment : 0 < layout.objectAlignment.toNat := UInt64.lt_iff_toNat_lt.1 hpositive
  have hdivides : layout.objectAlignment.toNat ∣ UInt64.size := by
    obtain ⟨shift, hshift⟩ := hpower
    have hlt : 2 ^ shift < 2 ^ 64 := hshift ▸ layout.objectAlignment.toNat_lt
    rw [hshift]
    exact Nat.pow_dvd_pow 2 (Nat.le_of_lt ((Nat.pow_lt_pow_iff_right (by decide)).1 hlt))
  obtain ⟨count, hcount⟩ := hdivides
  rw [leastHolding, Nat.ceilDiv_eq_add_pred_div, hcount, Nat.mul_lt_mul_left halignment,
    Nat.div_lt_iff_lt_mul halignment, toNat_mask hpositive, Nat.mul_comm count]
  omega

theorem alignObjectSize_of_power (hpositive : 0 < layout.objectAlignment)
    (hpower : layout.objectAlignment.toNat.isPowerOfTwo) (size : UInt64) :
    layout.alignObjectSize size
      = if layout.leastHolding size < UInt64.size then some (.ofNat (layout.leastHolding size))
        else none := by
  by_cases hfits : size.toNat + layout.mask.toNat < UInt64.size
  · rw [if_pos ((leastHolding_lt_iff hpositive hpower).2 hfits), alignObjectSize_eq_some_iff]
    refine ⟨hfits, ?_⟩
    have hclear := toNat_clear_add (size + layout.mask) layout.mask
    rw [toNat_and_mask hpositive hpower, toNat_add_mask hfits] at hclear
    have hleast : layout.leastHolding size = ((size + layout.mask) &&& ~~~layout.mask).toNat := by
      rw [leastHolding_eq hpositive]
      omega
    rw [hleast, UInt64.ofNat_toNat]
  · rw [if_neg (mt (leastHolding_lt_iff hpositive hpower).1 hfits), alignObjectSize_eq_none_iff]
    exact Nat.le_of_not_lt hfits

/-- One answer is at most another. The absence of an answer counts as the greatest. -/
inductive AtMost : Option UInt64 → Option UInt64 → Prop where
  | some {x y : UInt64} (h : x ≤ y) : AtMost (some x) (some y)
  | none (answer : Option UInt64) : AtMost answer none

theorem alignObjectSize_mono (hpositive : 0 < layout.objectAlignment)
    (hpower : layout.objectAlignment.toNat.isPowerOfTwo) {small large : UInt64}
    (h : small ≤ large) : AtMost (layout.alignObjectSize small) (layout.alignObjectSize large) := by
  have hholds : layout.leastHolding large ∈ layout.holding small := by
    obtain ⟨hdivides, hle⟩ := (isLeast_leastHolding hpositive large).1
    exact ⟨hdivides, Nat.le_trans (UInt64.le_iff_toNat_le.1 h) hle⟩
  have hle : layout.leastHolding small ≤ layout.leastHolding large :=
    (isLeast_leastHolding hpositive small).2 hholds
  rw [alignObjectSize_of_power hpositive hpower, alignObjectSize_of_power hpositive hpower]
  by_cases hlarge : layout.leastHolding large < UInt64.size
  · have hsmall := Nat.lt_of_le_of_lt hle hlarge
    rw [if_pos hsmall, if_pos hlarge]
    apply AtMost.some
    rw [UInt64.le_iff_toNat_le, UInt64.toNat_ofNat_of_lt' hsmall, UInt64.toNat_ofNat_of_lt' hlarge]
    exact hle
  · rw [if_neg hlarge]
    exact .none _

/-- **Sizes are rounded up.** Under every positive alignment there is no answer exactly if adding
the mask leaves the words, and an answer is at least the size, less than one alignment above it,
without a bit of the mask, and rounded to itself. Under a power of two the answer is the least
multiple that holds the size, there is none exactly if this multiple does not fit in a word, and a
larger size never has a smaller answer. -/
theorem alignObjectSize_rounds (layout : Layout) (hpositive : 0 < layout.objectAlignment) :
    (∀ size, layout.alignObjectSize size = none
      ↔ UInt64.size ≤ size.toNat + (layout.objectAlignment.toNat - 1))
    ∧ (∀ size rounded, layout.alignObjectSize size = some rounded → layout.Rounds size rounded)
    ∧ (layout.objectAlignment.toNat.isPowerOfTwo →
      (∀ size, ∃ least, IsLeast (layout.holding size) least
        ∧ layout.alignObjectSize size = if least < UInt64.size then some (.ofNat least) else none)
      ∧ ∀ small large, small ≤ large →
        AtMost (layout.alignObjectSize small) (layout.alignObjectSize large)) := by
  refine ⟨?_, ?_, ?_⟩
  · intro size
    rw [alignObjectSize_eq_none_iff, toNat_mask hpositive]
  · exact fun size rounded h => rounds_of_eq_some hpositive h
  · intro hpower
    refine ⟨fun size => ⟨layout.leastHolding size, isLeast_leastHolding hpositive size, ?_⟩, ?_⟩
    · exact alignObjectSize_of_power hpositive hpower size
    · exact fun small large h => alignObjectSize_mono hpositive hpower h

/-- A layout with the given object alignment. -/
def aligned (alignment : UInt64) : Layout := { native with objectAlignment := alignment }

/-- The mask of six has a gap, so that six is rounded up to ten, which is no multiple of it. The
greatest power of two rounds a size up to the middle of the words, or gives no answer. -/
theorem alignObjectSize_rounds_extreme :
    (aligned 6).alignObjectSize 6 = some 10 ∧ (aligned 6).Rounds 6 10
    ∧ 0 < (aligned 0x8000000000000000).objectAlignment
    ∧ (aligned 0x8000000000000000).objectAlignment.toNat.isPowerOfTwo
    ∧ (aligned 0x8000000000000000).Rounds 1 0x8000000000000000
    ∧ (1 : UInt64) ≤ 0x8000000000000001
    ∧ AtMost ((aligned 0x8000000000000000).alignObjectSize 1)
      ((aligned 0x8000000000000000).alignObjectSize 0x8000000000000001) := by
  have hsix : 0 < (aligned 6).objectAlignment := by decide
  have hhalf : 0 < (aligned 0x8000000000000000).objectAlignment := by decide
  have hpower : (aligned 0x8000000000000000).objectAlignment.toNat.isPowerOfTwo := ⟨63, by decide⟩
  have hten : (aligned 6).alignObjectSize 6 = some 10 := by decide
  refine ⟨hten, ?_, hhalf, hpower, ?_, by decide, ?_⟩
  · exact (alignObjectSize_rounds (aligned 6) hsix).2.1 6 10 hten
  · exact (alignObjectSize_rounds _ hhalf).2.1 1 _ (by decide)
  · exact ((alignObjectSize_rounds _ hhalf).2.2 hpower).2 1 0x8000000000000001 (by decide)

end Layout

end RuntimeProfiles
