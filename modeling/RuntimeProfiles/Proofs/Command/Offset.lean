import RuntimeProfiles.Proofs.Command.Report
import RuntimeProfiles.Proofs.Data.Schema
import RuntimeProfiles.Proofs.Text.Numeral

/-!
# Offsets

`Offset.Denotes` is the notation of offsets: a sign or none, in hexadecimal after its mark, and then
digits. A text is read exactly if it denotes a number that fits in a word:

* **`Offset.appendDigits_eq`** — the reader stops as soon as a number has grown too large, and then
  all further digits would only have made it larger;
* **`Offset.read_of_denotes`**, **`Offset.denotes_of_read`** — both directions.

A command says one line about each offset, up to the first text that is none:

* **`Offset.reports_line`**, **`Offset.printed_line`**, **`Offset.read_hex`** — what is in a line,
  and that the number in it is read as the offset;
* **`Command.checkOffsets_areRead`** — the lines about the longest part of the texts that can be
  read;
* **`Command.nullCheck_reports`** — all of it.
-/

namespace RuntimeProfiles

open Text

namespace Offset

/-! ## The notation -/

/-- One plus sign, or none. -/
def IsSign (sign : List Char) : Prop := sign = [] ∨ sign = ['+']

/-- The notation of a number: in decimal, or in hexadecimal after a mark. -/
inductive Denotes : List Char → Nat → Prop where
  | decimal {sign digits : List Char} {n : Nat} (hsign : IsSign sign)
      (hdigits : Writes 10 digits n) :
      Denotes (sign ++ digits) n
  | hex {mark : Char} {sign digits : List Char} {n : Nat} (hmark : mark = 'x' ∨ mark = 'X')
      (hsign : IsSign sign) (hdigits : Writes 16 digits n) :
      Denotes ('0' :: mark :: (sign ++ digits)) n

/-! ## Digits -/

section

variable {base : Nat} {value? : Char → Option Nat} {digits : List Char} {values : List Nat}

/-- A number with digits behind it. -/
def grown (base total : Nat) (values : List Nat) : Nat :=
  values.foldl (fun total digit => total * base + digit) total

theorem grown_zero (base : Nat) (values : List Nat) :
    grown base 0 values = Nat.ofDigits base values.reverse := by
  rw [grown, Nat.ofDigits_eq_foldr, List.foldr_reverse]
  congr 1
  funext total digit
  rw [Nat.mul_comm, Nat.add_comm, Nat.cast_id]

/-- Digits behind a number do not make it smaller. -/
theorem le_grown (hbase : 0 < base) (total : Nat) (values : List Nat) :
    total ≤ grown base total values := by
  induction values generalizing total with
  | nil => exact Nat.le_refl _
  | cons digit values ih =>
    calc total ≤ total * base := Nat.le_mul_of_pos_right _ hbase
      _ ≤ total * base + digit := Nat.le_add_right _ _
      _ ≤ grown base (total * base + digit) values := ih _

/-- Digits are refused exactly if the number that they write is too large, although the reader looks
at one after the other. -/
theorem appendDigits_eq (hbase : 0 < base) (hvalue : ReadsDigits base value?)
    (h : List.Forall₂ (IsDigit base) digits values) {total : Nat} (htotal : total < UInt64.size) :
    appendDigits base value? total digits
      = if grown base total values < UInt64.size then .ok (grown base total values)
        else .error .tooLarge := by
  induction h generalizing total with
  | nil => exact (if_pos htotal).symm
  | @cons c digit digits values hdigit _ ih =>
    rw [appendDigits, (hvalue c digit).2 hdigit]
    show (if total * base + digit < UInt64.size then _ else _) = _
    by_cases hnext : total * base + digit < UInt64.size
    · rw [if_pos hnext]
      exact ih hnext
    · -- the number has left the words already, and it does not come back
      have hle : total * base + digit ≤ grown base total (digit :: values) :=
        le_grown hbase _ values
      rw [if_neg hnext, if_neg (by omega)]

theorem digits_of_appendDigits (hvalue : ReadsDigits base value?) {total n : Nat}
    (h : appendDigits base value? total digits = .ok n) :
    ∃ values, List.Forall₂ (IsDigit base) digits values := by
  induction digits generalizing total with
  | nil => exact ⟨[], .nil⟩
  | cons c digits ih =>
    rw [appendDigits] at h
    cases hc : value? c with
    | none =>
      rw [hc] at h
      cases h
    | some digit =>
      simp only [hc] at h
      split at h
      · obtain ⟨values, hvalues⟩ := ih h
        exact ⟨digit :: values, .cons ((hvalue c digit).1 hc) hvalues⟩
      · cases h

/-! ## Signs -/

theorem not_isDigit_plus {n : Nat} : ¬ IsDigit base '+' n := by
  intro h
  exact absurd h.mem (by decide)

theorem unsigned_sign {sign : List Char} {n : Nat} (hsign : IsSign sign)
    (h : Writes base digits n) :
    unsigned (sign ++ digits) = .ok digits := by
  obtain ⟨hne, values, hvalues, -⟩ := h
  cases hvalues with
  | nil => exact absurd rfl hne
  | @cons c digit digits values hdigit _ =>
    have hplus : c ≠ '+' := by
      rintro rfl
      exact not_isDigit_plus hdigit
    rcases hsign with rfl | rfl
    · unfold unsigned
      split
      · next heq => cases heq
      · next heq => exact absurd (List.cons.inj heq).1 hplus
      · next heq => exact absurd (List.cons.inj heq).1 hplus
      · rfl
    · rfl

theorem sign_of_unsigned {text : List Char} (h : unsigned text = .ok digits) :
    ∃ sign, IsSign sign ∧ text = sign ++ digits ∧ digits ≠ [] := by
  unfold unsigned at h
  split at h
  · cases h
  · cases h
  · next after hne =>
    cases h
    exact ⟨['+'], .inr rfl, rfl, by rintro rfl; exact hne rfl⟩
  · next hempty _ _ =>
    cases h
    exact ⟨[], .inl rfl, rfl, hempty⟩

/-! ## Numbers -/

theorem readDigits_of_writes {sign : List Char} {n : Nat} (hbase : 0 < base)
    (hvalue : ReadsDigits base value?) (hsign : IsSign sign) (h : Writes base digits n) :
    readDigits base value? (sign ++ digits)
      = if n < UInt64.size then .ok (.ofNat n) else .error .tooLarge := by
  have hunsigned := unsigned_sign hsign h
  obtain ⟨-, values, hvalues, rfl⟩ := h
  have hstart : 0 < UInt64.size := by decide
  have hdigits := appendDigits_eq hbase hvalue hvalues hstart
  rw [grown_zero] at hdigits
  rw [readDigits, hunsigned]
  simp only [ok_bind, hdigits]
  split <;> rfl

theorem writes_of_readDigits {text : List Char} {offset : UInt64} (hbase : 0 < base)
    (hvalue : ReadsDigits base value?) (h : readDigits base value? text = .ok offset) :
    ∃ sign digits, IsSign sign ∧ text = sign ++ digits ∧ Writes base digits offset.toNat := by
  cases hunsigned : unsigned text with
  | error fault =>
    rw [readDigits, hunsigned] at h
    cases h
  | ok digits =>
    obtain ⟨sign, hsign, rfl, hne⟩ := sign_of_unsigned hunsigned
    cases hdigits : appendDigits base value? 0 digits with
    | error fault =>
      rw [readDigits, hunsigned, ok_bind, hdigits] at h
      cases h
    | ok total =>
      obtain ⟨values, hvalues⟩ := digits_of_appendDigits hvalue hdigits
      have hwrites : Writes base digits (Nat.ofDigits base values.reverse) :=
        ⟨hne, values, hvalues, rfl⟩
      -- what has been read is the number that the digits write, which fits in a word
      rw [readDigits_of_writes hbase hvalue hsign hwrites] at h
      split at h
      · next hfits =>
        cases h
        rw [UInt64.toNat_ofNat_of_lt' hfits]
        exact ⟨sign, digits, hsign, rfl, hwrites⟩
      · cases h

end

/-! ## Texts -/

variable {text : String} {offset : UInt64} {n : Nat}

/-- The mark of a hexadecimal number is no decimal digit. -/
theorem mark_notMem {sign digits : List Char} {mark : Char} (hmark : mark = 'x' ∨ mark = 'X')
    (hsign : IsSign sign) (h : Writes 10 digits n) : mark ∉ sign ++ digits := by
  intro hmem
  rcases List.mem_append.1 hmem with hmem | hmem
  · rcases hsign with rfl | rfl
    · cases hmem
    · rcases hmark with rfl | rfl <;> exact absurd hmem (by decide)
  · obtain ⟨digit, hdigit⟩ := h.exists_isDigit hmem
    have hlisted := hdigit.mem
    rcases hmark with rfl | rfl <;> exact absurd hlisted (by decide)

/-- A text that denotes a number is read as this number, if it fits in a word, and otherwise as one
that is too large. -/
theorem read_of_denotes (h : Denotes text.toList n) :
    read text = if n < UInt64.size then .ok (.ofNat n) else .error .tooLarge := by
  generalize htext : text.toList = chars at h
  cases h with
  | @decimal sign digits _ hsign hdigits =>
    unfold read
    rw [htext]
    split
    · next heq =>
      exact absurd (heq ▸ by simp) (mark_notMem (.inl rfl) hsign hdigits)
    · next heq =>
      exact absurd (heq ▸ by simp) (mark_notMem (.inr rfl) hsign hdigits)
    · exact readDigits_of_writes (by decide) readsDigits_ten hsign hdigits
  | @hex mark sign digits _ hmark hsign hdigits =>
    unfold read
    rw [htext]
    rcases hmark with rfl | rfl
    · exact readDigits_of_writes (by decide) readsDigits_sixteen hsign hdigits
    · exact readDigits_of_writes (by decide) readsDigits_sixteen hsign hdigits

theorem denotes_of_read (h : read text = .ok offset) : Denotes text.toList offset.toNat := by
  unfold read at h
  split at h
  · next htext =>
    obtain ⟨sign, digits, hsign, rfl, hdigits⟩ :=
      writes_of_readDigits (by decide) readsDigits_sixteen h
    rw [htext]
    exact .hex (.inl rfl) hsign hdigits
  · next htext =>
    obtain ⟨sign, digits, hsign, rfl, hdigits⟩ :=
      writes_of_readDigits (by decide) readsDigits_sixteen h
    rw [htext]
    exact .hex (.inr rfl) hsign hdigits
  · obtain ⟨sign, digits, hsign, htext, hdigits⟩ :=
      writes_of_readDigits (by decide) readsDigits_ten h
    rw [htext]
    exact .decimal hsign hdigits

theorem read_eq_ok_iff : read text = .ok offset ↔ Denotes text.toList offset.toNat := by
  constructor
  · exact denotes_of_read
  · intro h
    rw [read_of_denotes h, if_pos offset.toNat_lt, UInt64.ofNat_toNat]

/-! ## Lines about offsets -/

/-- A line shows an offset in base sixteen and says whether it is in the first page. -/
def Reports (offset : UInt64) (line : String) : Prop :=
  ∃ digits, IsLowerHex digits offset.toNat
    ∧ line = "  0x" ++ String.ofList digits ++ ": "
      ++ if offset.toNat < 4096 then "implicit" else "explicit"

/-- The number in a line about an offset. -/
def printed (line : String) : String := String.ofList ((line.toList.drop 2).takeWhile (· ≠ ':'))

theorem reports_line (offset : UInt64) : Reports offset (line offset) := by
  refine ⟨hexDigits offset.toNat, isLowerHex_hexDigits _, ?_⟩
  have hverdict : Layout.native.canDoImplicitNullCheckOn offset = decide (offset.toNat < 4096) := by
    rw [Layout.canDoImplicitNullCheckOn, decide_eq_decide, UInt64.lt_iff_toNat_lt]
    rfl
  have hhex : "  " ++ hex offset = "  0x" ++ String.ofList (hexDigits offset.toNat) := by
    rw [hex, ← String.append_assoc]
    rfl
  rw [line, hhex, hverdict]
  simp only [decide_eq_true_eq]

theorem read_hex (offset : UInt64) : read (hex offset) = .ok offset := by
  have htext : (hex offset).toList = '0' :: 'x' :: ([] ++ hexDigits offset.toNat) := by
    simp [hex]
  rw [read_eq_ok_iff, htext]
  exact .hex (.inl rfl) (.inl rfl) (writes_hexDigits _).1

theorem mem_hex {c : Char} (h : c ∈ (hex offset).toList) : c ∈ 'x' :: lowerDigits := by
  have htext : (hex offset).toList = ['0', 'x'] ++ hexDigits offset.toNat := by simp [hex]
  rw [htext] at h
  rcases List.mem_append.1 h with hmark | hdigit
  · have hmarks : ['0', 'x'] ⊆ 'x' :: lowerDigits := by decide
    exact hmarks hmark
  · exact List.mem_cons_of_mem _ ((writes_hexDigits offset.toNat).2 c hdigit)

theorem printed_line (offset : UInt64) : printed (line offset) = hex offset := by
  have hcolon : ∀ c ∈ (hex offset).toList, decide (c ≠ ':') = true := by
    intro c hc
    rw [decide_eq_true_eq]
    rintro rfl
    exact absurd (mem_hex hc) (by decide)
  have htext : (line offset).toList.drop 2 = (hex offset).toList ++ ':' :: ' '
      :: (if Layout.native.canDoImplicitNullCheckOn offset then "implicit"
        else "explicit").toList := by
    simp [line]
  rw [printed, htext, List.takeWhile_append_of_pos hcolon, List.takeWhile_cons_of_neg (by decide),
    List.append_nil, String.ofList_toList]

theorem isLine_line (offset : UInt64) : Report.IsLine (line offset) := by
  have hhex : Report.IsLine (hex offset) := fun hend => absurd (mem_hex hend) (by decide)
  unfold line
  simp only [Report.isLine_append]
  refine ⟨⟨⟨by decide, hhex⟩, by decide⟩, ?_⟩
  split <;> decide

/-- The offsets are those at the beginning of some texts, up to the first text that cannot be
read. -/
def AreRead (texts : List String) (offsets : List UInt64) : Prop :=
  ∃ parsed rest, texts = parsed ++ rest
    ∧ List.Forall₂ (fun text offset => read text = .ok offset) parsed offsets
    ∧ ∀ text ∈ rest.head?, ∀ offset, read text ≠ .ok offset

end Offset

namespace Command

open Offset

theorem checkOffsets_areRead (texts : List String) :
    ∃ offsets, AreRead texts offsets ∧ (checkOffsets texts).1 = offsets.map line := by
  induction texts with
  | nil => exact ⟨[], ⟨[], [], rfl, .nil, by simp⟩, rfl⟩
  | cons text texts ih =>
    rw [checkOffsets]
    cases hread : read text with
    | error fault =>
      refine ⟨[], ⟨[], text :: texts, rfl, .nil, ?_⟩, rfl⟩
      intro first hfirst offset hok
      cases hfirst
      rw [hread] at hok
      cases hok
    | ok offset =>
      obtain ⟨offsets, ⟨parsed, rest, rfl, hparsed, hrest⟩, hlines⟩ := ih
      refine ⟨offset :: offsets, ⟨text :: parsed, rest, rfl, .cons hread hparsed, hrest⟩, ?_⟩
      rw [List.map_cons, ← hlines]

theorem checkOffsets_eq_none_iff (texts : List String) :
    (checkOffsets texts).2 = none ↔ ∀ text ∈ texts, ∃ offset, read text = .ok offset := by
  induction texts with
  | nil => simp [checkOffsets]
  | cons text texts ih =>
    rw [checkOffsets, List.forall_mem_cons]
    cases hread : read text with
    | error fault => simp
    | ok offset => simpa using ih

/-- The numbers in lines are read as the offsets that the lines are about. -/
theorem checkOffsets_printed (offsets : List UInt64) :
    checkOffsets ((offsets.map line).map printed) = (offsets.map line, none) := by
  induction offsets with
  | nil => rfl
  | cons offset offsets ih =>
    rw [List.map_cons, List.map_cons, checkOffsets, printed_line, read_hex]
    simp only [ih]

theorem nullCheck_eq (tree : FileTree) (directory : Path) (texts : List String) :
    ((Command.nullCheck texts).run tree directory).stdout = Report.unlines (checkOffsets texts).1
    ∧ (((Command.nullCheck texts).run tree directory).status = 0
      ↔ (checkOffsets texts).2 = none) := by
  refine ⟨rfl, ?_⟩
  show (if (Option.map _ (checkOffsets texts).2).isSome then 1 else 0) = 0 ↔ _
  cases (checkOffsets texts).2 <;> simp

/-- **Offsets are checked one by one.** A text is read as an offset exactly if it denotes it, and a
number beyond the words is refused as such. A command shows one line for each offset at the
beginning of its texts, up to the first text that cannot be read, and succeeds exactly if there is
no such text. The numbers in its lines may be given to it in turn and give the same lines. -/
theorem nullCheck_reports :
    (∀ text offset, Offset.read text = .ok offset ↔ Denotes text.toList offset.toNat)
    ∧ (∀ text n, Denotes text.toList n → UInt64.size ≤ n → Offset.read text = .error .tooLarge)
    ∧ ∀ tree directory texts, ∃ offsets lines, AreRead texts offsets
      ∧ List.Forall₂ Reports offsets lines
      ∧ ((nullCheck texts).run tree directory).stdout = Report.unlines lines
      ∧ Report.lines (Report.unlines lines) = lines.map String.toList ++ [[]]
      ∧ (((nullCheck texts).run tree directory).status = 0
        ↔ ∀ text ∈ texts, ∃ offset, Offset.read text = .ok offset)
      ∧ ((nullCheck (lines.map printed)).run tree directory).stdout = Report.unlines lines
      ∧ ((nullCheck (lines.map printed)).run tree directory).status = 0 := by
  refine ⟨fun text offset => read_eq_ok_iff, ?_, ?_⟩
  · intro text n hdenotes hlarge
    rw [read_of_denotes hdenotes, if_neg (Nat.not_lt.2 hlarge)]
  · intro tree directory texts
    obtain ⟨offsets, hread, hlines⟩ := checkOffsets_areRead texts
    obtain ⟨hstdout, hstatus⟩ := nullCheck_eq tree directory texts
    obtain ⟨hagain, hsucceeds⟩ := nullCheck_eq tree directory ((offsets.map line).map printed)
    rw [checkOffsets_printed] at hagain hsucceeds
    rw [hlines] at hstdout
    rw [checkOffsets_eq_none_iff] at hstatus
    refine ⟨offsets, offsets.map line, hread, ?_, hstdout, ?_, hstatus, hagain, hsucceeds.2 rfl⟩
    · exact List.forall₂_map_right_iff.2 (List.forall₂_same.2 fun offset _ => reports_line offset)
    · refine Report.lines_unlines fun text htext => ?_
      obtain ⟨offset, -, rfl⟩ := List.mem_map.1 htext
      exact isLine_line offset

/-- The least number beyond the words, with a sign behind the mark. -/
theorem nullCheck_reports_large :
    Denotes "0X+10000000000000000".toList UInt64.size
      ∧ Offset.read "0X+10000000000000000" = .error .tooLarge := by
  have htext : "0X+10000000000000000".toList
      = '0' :: 'X' :: (['+'] ++ hexDigits UInt64.size) := by decide +kernel
  have hdenotes : Denotes "0X+10000000000000000".toList UInt64.size := by
    rw [htext]
    exact .hex (.inr rfl) (.inr rfl) (writes_hexDigits _).1
  exact ⟨hdenotes, nullCheck_reports.2.1 _ _ hdenotes (Nat.le_refl _)⟩

end Command

end RuntimeProfiles
