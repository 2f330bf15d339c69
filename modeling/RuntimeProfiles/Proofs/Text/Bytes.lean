import Mathlib.Algebra.Group.Nat.Defs

/-!
# The bytes of a text

A text is written as bytes in UTF-8, and some bytes are no text. Texts are compared character by
character, where file systems know only their bytes; UTF-8 is made so that this makes no difference,
since the first byte of a character tells how many follow, and longer forms have greater first
bytes.

* **`fromUTF8?_eq_some_iff`** — bytes are read as the text that is written so, if there is one;
* **`exists_form`** — a character is encoded by a marked first byte and trailing ones of six bits
  each;
* **`utf8EncodeChar_append_lt`** — a lesser character is encoded by lesser bytes, whatever follows;
* **`lt_iff_bytes_lt`** — texts are ordered like their bytes.
-/

namespace RuntimeProfiles.Text

/-! ## Reading and writing -/

theorem fromUTF8?_toUTF8 (text : String) : String.fromUTF8? text.toUTF8 = some text := by
  unfold String.fromUTF8?
  rw [String.toUTF8_eq_toByteArray, dif_pos text.isValidUTF8]
  rfl

theorem fromUTF8?_eq_some_iff {raw : ByteArray} {text : String} :
    String.fromUTF8? raw = some text ↔ raw = text.toUTF8 := by
  constructor
  · intro h
    unfold String.fromUTF8? at h
    split at h
    · cases h
      rfl
    · cases h
  · rintro rfl
    exact fromUTF8?_toUTF8 text

/-- The bytes of a text in UTF-8. -/
def bytes (text : String) : List UInt8 := text.toUTF8.data.toList

theorem bytes_eq_flatMap (text : String) :
    bytes text = text.toList.flatMap String.utf8EncodeChar := by
  rw [bytes, String.toUTF8_eq_toByteArray, ← String.utf8Encode_toList, List.utf8Encode,
    List.data_toByteArray]

/-! ## The form of an encoded character -/

/-- The last bytes of an encoded character: six bits each, the highest first. -/
def trailing (value : Nat) : (count : Nat) → List UInt8
  | 0 => []
  | count + 1 => UInt8.ofNat (value / 64 ^ count % 64 + 0x80) :: trailing value count

/-- How a character is encoded: with so many trailing bytes, and so much added to the bits of the
first byte. -/
inductive Form (value : Nat) : (count mark : Nat) → Prop
  | one (hhigh : value < 0x80) : Form value 0 0
  | two (hlow : 0x80 ≤ value) (hhigh : value < 0x800) : Form value 1 0xC0
  | three (hlow : 0x800 ≤ value) (hhigh : value < 0x10000) : Form value 2 0xE0
  | four (hlow : 0x10000 ≤ value) (hhigh : value < 0x110000) : Form value 3 0xF0

theorem toNat_lt (c : Char) : c.toNat < 0x110000 := by
  have hvalid := c.valid
  simp only [UInt32.isValidChar, Nat.isValidChar] at hvalid
  have hvalue : c.toNat = c.val.toNat := rfl
  omega

theorem exists_form (c : Char) : ∃ count mark, Form c.toNat count mark
    ∧ String.utf8EncodeChar c
      = UInt8.ofNat (c.toNat / 64 ^ count + mark) :: trailing c.toNat count := by
  have hbound := toNat_lt c
  have hvalue : c.val.toNat = c.toNat := rfl
  unfold String.utf8EncodeChar
  dsimp only
  rw [hvalue]
  split
  · exact ⟨0, 0, .one (by omega), by simp [trailing]⟩
  split
  · refine ⟨1, 0xC0, .two (by omega) (by omega), ?_⟩
    rw [Nat.mod_eq_of_lt (by omega)]
    simp [trailing]
  split
  · refine ⟨2, 0xE0, .three (by omega) (by omega), ?_⟩
    rw [Nat.mod_eq_of_lt (a := c.toNat / 4096) (by omega)]
    simp [trailing]
  · refine ⟨3, 0xF0, .four (by omega) (by omega), ?_⟩
    rw [Nat.mod_eq_of_lt (a := c.toNat / 262144) (by omega)]
    simp [trailing]

/-! ## The order of bytes -/

theorem ofNat_lt_ofNat {m n : Nat} (h : m < n) (hn : n < 256) : UInt8.ofNat m < UInt8.ofNat n := by
  rw [UInt8.lt_iff_toNat_lt, UInt8.toNat_ofNat', UInt8.toNat_ofNat']
  omega

theorem cons_lt_cons {first second : UInt8} (h : first < second) (s t : List UInt8) :
    first :: s < second :: t :=
  List.cons_lt_cons_iff.2 (.inl h)

/-- Trailing bytes are ordered like the numbers that they write. -/
theorem trailing_append_lt {u v count : Nat} (h : u % 64 ^ count < v % 64 ^ count)
    (s t : List UInt8) : trailing u count ++ s < trailing v count ++ t := by
  induction count with
  | zero => simp [Nat.mod_one] at h
  | succ count ih =>
    have hpos : 0 < 64 ^ count := Nat.pow_pos (by decide)
    have hu : u % 64 ^ count < 64 ^ count := Nat.mod_lt u hpos
    have hv : v % 64 ^ count < 64 ^ count := Nat.mod_lt v hpos
    simp only [Nat.mod_pow_succ] at h
    rw [trailing, trailing, List.cons_append, List.cons_append]
    rcases Nat.lt_trichotomy (u / 64 ^ count % 64) (v / 64 ^ count % 64) with hlt | heq | hgt
    · exact cons_lt_cons (ofNat_lt_ofNat (by omega) (by omega)) _ _
    · rw [heq] at h ⊢
      exact List.cons_lt_cons_iff.2 (.inr ⟨rfl, ih (by omega)⟩)
    · -- a greater digit outweighs all the digits after it, against the hypothesis
      have hstep := Nat.mul_le_mul_left (64 ^ count) (Nat.succ_le_of_lt hgt)
      rw [Nat.mul_succ] at hstep
      omega

/-- Characters of one form are ordered by their first byte, and then by the trailing ones. -/
theorem form_append_lt {u v count mark : Nat} (h : u < v) (hfirst : v / 64 ^ count + mark < 256)
    (s t : List UInt8) :
    UInt8.ofNat (u / 64 ^ count + mark) :: trailing u count ++ s
      < UInt8.ofNat (v / 64 ^ count + mark) :: trailing v count ++ t := by
  have hle : u / 64 ^ count ≤ v / 64 ^ count := Nat.div_le_div_right (Nat.le_of_lt h)
  rw [List.cons_append, List.cons_append]
  rcases Nat.lt_or_eq_of_le hle with hlt | heq
  · exact cons_lt_cons (ofNat_lt_ofNat (by omega) hfirst) _ _
  · have hu := Nat.div_add_mod u (64 ^ count)
    have hv := Nat.div_add_mod v (64 ^ count)
    rw [heq] at hu ⊢
    exact List.cons_lt_cons_iff.2 (.inr ⟨rfl, trailing_append_lt (by omega) s t⟩)

/-! ## The order of characters and texts -/

/-- A lesser character is encoded by lesser bytes, whatever follows. -/
theorem utf8EncodeChar_append_lt {c d : Char} (h : c < d) (s t : List UInt8) :
    String.utf8EncodeChar c ++ s < String.utf8EncodeChar d ++ t := by
  have hvalue : c.toNat < d.toNat := h
  obtain ⟨_, _, hc, hcbytes⟩ := exists_form c
  obtain ⟨_, _, hd, hdbytes⟩ := exists_form d
  rw [hcbytes, hdbytes]
  cases hc <;> cases hd
  case one.one | two.two | three.three | four.four => exact form_append_lt hvalue (by omega) s t
  -- the first bytes of different forms are apart; a greater character has no shorter form
  all_goals exact cons_lt_cons (ofNat_lt_ofNat (by omega) (by omega)) _ _

theorem flatMap_lt {cs ds : List Char} (h : cs < ds) :
    cs.flatMap String.utf8EncodeChar < ds.flatMap String.utf8EncodeChar := by
  induction h with
  | @nil d ds =>
    obtain ⟨_, _, -, hd⟩ := exists_form d
    rw [List.flatMap_nil, List.flatMap_cons, hd]
    exact List.nil_lt_cons _ _
  | rel hcd =>
    rw [List.flatMap_cons, List.flatMap_cons]
    exact utf8EncodeChar_append_lt hcd _ _
  | cons _ ih =>
    rw [List.flatMap_cons, List.flatMap_cons]
    exact List.append_left_lt ih

/-- Texts are ordered like their bytes. -/
theorem lt_iff_bytes_lt {first second : String} : first < second ↔ bytes first < bytes second := by
  rw [bytes_eq_flatMap, bytes_eq_flatMap]
  refine ⟨flatMap_lt, fun h => String.not_le.1 fun hle => ?_⟩
  by_cases heq : second = first
  · rw [heq] at h
    exact List.lt_irrefl _ h
  · have hlt : second < first := String.not_le.1 fun hge => heq (String.le_antisymm hle hge)
    exact List.lt_asymm h (flatMap_lt hlt)

end RuntimeProfiles.Text
