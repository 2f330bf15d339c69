import Mathlib.Data.List.TakeWhile
import RuntimeProfiles.Json.Reader
import RuntimeProfiles.Json.Writer
import RuntimeProfiles.Proofs.Data.Schema
import RuntimeProfiles.Proofs.Json.Text
import RuntimeProfiles.Proofs.Text.Digits

/-!
# JSON documents come back

The writer puts a record down with a field a line. Reading that text gives the record again:

* **`ComesBack`** — the text of a value is read as the value, at any level of indentation, whatever
  follows it and however much fuel is left beyond the length of the text;
* **`comesBack_bool`**, **`comesBack_text`**, **`comesBack_integer`** — scalars come back, and
  integers as far as 64 bits go;
* **`comesBack_ofFields`** — a record comes back if the values of its fields do;
* **`read_write`** — so a whole text is read as the value that was written, and nothing follows it
  but space (`IsBlank`).

Only numbers end at what follows them; `EndsNumber` is what that has to satisfy.
-/

namespace RuntimeProfiles.Json

open Text

/-! ## Numbers -/

/-- A number does not go on with the text. -/
def EndsNumber (text : List Char) : Prop :=
  ∀ c tail, text = c :: tail → c.isDigit = false ∧ c ≠ '.' ∧ c ≠ 'e' ∧ c ≠ 'E'

theorem endsNumber_cons {c : Char} (h : c.isDigit = false ∧ c ≠ '.' ∧ c ≠ 'e' ∧ c ≠ 'E')
    (rest : List Char) : EndsNumber (c :: rest) := by
  intro d tail heq
  rwa [← (List.cons.inj heq).1]

namespace Literal

theorem takeWhile_digits {digits rest : List Char} (hdigits : ∀ c ∈ digits, c.isDigit = true)
    (hends : EndsNumber rest) : (digits ++ rest).takeWhile Char.isDigit = digits
      ∧ (digits ++ rest).dropWhile Char.isDigit = rest := by
  rw [List.takeWhile_append_of_pos hdigits, List.dropWhile_append_of_pos hdigits]
  cases rest with
  | nil => simp
  | cons c rest =>
    have hc : c.isDigit = false := (hends c rest rfl).1
    simp [hc]

theorem scanWhole_toDigits (n : Nat) {rest : List Char} (hends : EndsNumber rest) :
    scanWhole (Nat.toDigits 10 n ++ rest) = some (Nat.toDigits 10 n, rest) := by
  obtain ⟨c, tail, hdigits, hc, htail, hzero⟩ := exists_cons_toDigits n
  rw [hdigits]
  by_cases h : c = '0'
  · subst h
    -- a zero stands alone, so that it is followed by the end of the number
    rw [hzero rfl, List.singleton_append]
    cases rest with
    | nil => rfl
    | cons d rest =>
      have hd : d.isDigit = false := (hends d rest rfl).1
      simp [scanWhole, hd]
  · have hall : ∀ d ∈ c :: tail, d.isDigit = true := List.forall_mem_cons.2 ⟨hc, htail⟩
    obtain ⟨htake, hdrop⟩ := takeWhile_digits hall hends
    rw [scanWhole, digits1, htake, hdrop]
    rintro after heq
    exact h (List.cons.inj heq).1

theorem scanFraction_of_endsNumber {rest : List Char} (hends : EndsNumber rest) :
    scanFraction rest = some (none, rest) := by
  rw [scanFraction]
  rintro after rfl
  exact (hends '.' after rfl).2.1 rfl

theorem scanExponent_of_endsNumber {rest : List Char} (hends : EndsNumber rest) :
    scanExponent rest = some (none, rest) := by
  cases rest with
  | nil => rfl
  | cons c rest =>
    obtain ⟨-, -, hsmall, hlarge⟩ := hends c rest rfl
    rw [scanExponent, if_neg (not_or.2 ⟨hsmall, hlarge⟩)]

/-- The digits of a number are scanned as its whole part, without anything else. -/
theorem scan_toDigits (n : Nat) {rest : List Char} (hends : EndsNumber rest) :
    scan (Nat.toDigits 10 n ++ rest) = some (⟨false, Nat.toDigits 10 n, none, none⟩, rest) := by
  have hwhole := scanWhole_toDigits n hends
  obtain ⟨c, tail, hdigits, hc, -, -⟩ := exists_cons_toDigits n
  have hminus : c ≠ '-' := ne_of_isDigit hc (by decide)
  rw [hdigits, List.cons_append] at hwhole ⊢
  unfold scan
  split
  next sign text heq =>
  have hpair : (sign, text) = (false, c :: (tail ++ rest)) := by
    rw [← heq]
    split
    · next after hcons => exact absurd (List.cons.inj hcons).1 hminus
    · rfl
  obtain ⟨rfl, rfl⟩ := Prod.mk.inj hpair
  simp only [hwhole, scanFraction_of_endsNumber hends, scanExponent_of_endsNumber hends,
    Option.bind_eq_bind, Option.bind_some, Option.pure_def]

theorem le_ofDigitChars (digits : List Char) (n : Nat) : n ≤ Nat.ofDigitChars 10 digits n := by
  induction digits generalizing n with
  | nil => exact Nat.le_of_eq Nat.ofDigitChars_nil.symm
  | cons c digits ih =>
    rw [Nat.ofDigitChars_cons]
    have hnext := ih (10 * n + (c.toNat - '0'.toNat))
    omega

/-- Every digit of a number that fits in 64 bits goes into it. -/
theorem absorb_of_lt {digits : List Char} {n : Nat}
    (h : Nat.ofDigitChars 10 digits n < UInt64.size) :
    absorb n digits = (Nat.ofDigitChars 10 digits n, digits.length) := by
  induction digits generalizing n with
  | nil => rw [absorb, Nat.ofDigitChars_nil, List.length_nil]
  | cons c digits ih =>
    have hnext : n * 10 + (c.toNat - 48) = 10 * n + (c.toNat - '0'.toNat) := by
      rw [Nat.mul_comm]
      rfl
    rw [Nat.ofDigitChars_cons] at h
    have hlt := Nat.lt_of_le_of_lt (le_ofDigitChars digits _) h
    rw [absorb, hnext]
    simp only [hlt, if_true, ih h, Nat.ofDigitChars_cons, List.length_cons]

theorem value_toDigits {n : Nat} (h : n < UInt64.size) :
    value ⟨false, Nat.toDigits 10 n, none, none⟩ = .integer n := by
  have habsorb : absorb 0 (Nat.toDigits 10 n) = (n, (Nat.toDigits 10 n).length) := by
    rw [absorb_of_lt (by rwa [Nat.ofDigitChars_ten_toDigits]), Nat.ofDigitChars_ten_toDigits]
  simp [value, habsorb]

end Literal

/-! ## Scalars -/

/-- At any level of indentation and with any fuel beyond its length, the text of the data is read as
the data. -/
def ComesBack (data : Data) : Prop :=
  ∀ level fuel rest, EndsNumber rest → (render level data ++ rest).length < fuel →
    value fuel (render level data ++ rest) = (data, some rest)

theorem skipSpace_cons {c : Char} (h : isSpace c = false) (rest : List Char) :
    skipSpace (c :: rest) = c :: rest := by
  simp [skipSpace, List.dropWhile, h]

theorem value_quote (fuel : Nat) (rest : List Char) :
    value (fuel + 1) ('"' :: rest) = stringValue rest := by
  have hspace : isSpace '"' = false := by decide
  rw [value]
  simp only [skipSpace_cons hspace, if_true]

/-- What opens neither a string nor a list nor a record is a word or a number. -/
theorem value_plain {c : Char} (hspace : isSpace c = false) (hquote : c ≠ '"') (hlist : c ≠ '[')
    (hrecord : c ≠ '{') (fuel : Nat) (rest : List Char) :
    value (fuel + 1) (c :: rest)
      = if c = 't' then word "true" (.bool true) (c :: rest)
        else if c = 'f' then word "false" (.bool false) (c :: rest)
        else if c = 'n' then word "null" .null (c :: rest)
        else numberValue (c :: rest) := by
  rw [value]
  simp only [skipSpace_cons hspace, hquote, hlist, hrecord, if_false]

theorem comesBack_bool (truth : Bool) : ComesBack (.bool truth) := by
  intro level fuel rest _ hfuel
  obtain ⟨fuel, rfl⟩ := Nat.exists_eq_add_one.2 (Nat.zero_lt_of_lt hfuel)
  cases truth with
  | true =>
    have htext : render level (.bool true) = ['t', 'r', 'u', 'e'] := by simp [render]; decide
    have hlength : "true".length = 4 := by decide
    rw [htext, List.cons_append, value_plain (by decide) (by decide) (by decide) (by decide),
      if_pos rfl]
    simp [word, hlength]
  | false =>
    have htext : render level (.bool false) = ['f', 'a', 'l', 's', 'e'] := by simp [render]; decide
    have hlength : "false".length = 5 := by decide
    rw [htext, List.cons_append, value_plain (by decide) (by decide) (by decide) (by decide),
      if_neg (by decide), if_pos rfl]
    simp [word, hlength]

theorem stringValue_encode (text rest : List Char) :
    stringValue (text.flatMap encodeChar ++ '"' :: rest)
      = (.text (String.ofList text), some rest) := by
  obtain ⟨pieces, -, hscan, hjoin⟩ := scan_encode text rest
  rw [stringValue, hscan]
  dsimp only
  rw [hjoin]

theorem comesBack_text (text : String) : ComesBack (.text text) := by
  intro level fuel rest _ hfuel
  obtain ⟨fuel, rfl⟩ := Nat.exists_eq_add_one.2 (Nat.zero_lt_of_lt hfuel)
  obtain ⟨-, hencode, -⟩ := scan_encode text.toList rest
  rw [render, hencode, value_quote, stringValue_encode, String.ofList_toList]

theorem comesBack_integer {n : Nat} (h : n < UInt64.size) : ComesBack (.integer n) := by
  intro level fuel rest hends hfuel
  obtain ⟨fuel, rfl⟩ := Nat.exists_eq_add_one.2 (Nat.zero_lt_of_lt hfuel)
  have hnumber : numberValue (Nat.toDigits 10 n ++ rest) = (.integer n, some rest) := by
    rw [numberValue, Literal.scan_toDigits n hends]
    dsimp only
    rw [Literal.value_toDigits h]
  obtain ⟨c, tail, hdigits, hc, -, -⟩ := exists_cons_toDigits n
  have hother : ∀ d : Char, d.isDigit = false → c ≠ d := fun d hd => ne_of_isDigit hc hd
  have hspace : isSpace c = false := by
    simp [isSpace, hother ' ' (by decide), hother '\n' (by decide), hother '\t' (by decide),
      hother '\r' (by decide)]
  have htext : render level (.integer n) = Nat.toDigits 10 n := by
    rw [render, toList_toString_natCast]
  rw [hdigits, List.cons_append] at hnumber
  rw [htext, hdigits, List.cons_append, value_plain hspace (hother '"' (by decide))
    (hother '[' (by decide)) (hother '{' (by decide)), if_neg (hother 't' (by decide)),
    if_neg (hother 'f' (by decide)), if_neg (hother 'n' (by decide)), hnumber]

/-! ## Records -/

theorem skipSpace_newLine (level : Nat) (text : List Char) :
    skipSpace (newLine level ++ text) = skipSpace text := by
  have hspace : ∀ c ∈ newLine level, isSpace c = true := by
    intro c hc
    rcases List.mem_cons.1 hc with rfl | hblank
    · rfl
    · rw [List.eq_of_mem_replicate hblank]
      rfl
  rw [skipSpace, List.dropWhile_append_of_pos hspace, skipSpace]

theorem skipSpace_blank (text : List Char) : skipSpace (' ' :: text) = skipSpace text := by
  rw [skipSpace, List.dropWhile_cons_of_pos (by decide), skipSpace]

theorem value_blank (fuel : Nat) (text : List Char) :
    value fuel (' ' :: text) = value fuel text := by
  cases fuel with
  | zero => rfl
  | succ fuel => rw [value, value, skipSpace_blank]

theorem fields_newLine (fuel level : Nat) (text : List Char) :
    fields fuel (newLine level ++ text) = fields fuel text := by
  cases fuel with
  | zero => rfl
  | succ fuel => rw [fields, fields, skipSpace_newLine]

theorem endsNumber_newLine (level : Nat) (text : List Char) : EndsNumber (newLine level ++ text) :=
  endsNumber_cons (by decide) _

/-- One field of a record as it is written. -/
def renderField (level : Nat) (field : String × Data) : List Char :=
  encode field.1.toList ++ ':' :: ' ' :: render level field.2

theorem renderFields_cons (level : Nat) (field : String × Data) (others : List (String × Data)) :
    renderFields level (field :: others)
      = ',' :: (newLine level ++ (renderField level field ++ renderFields level others)) := by
  simp [renderFields, renderField]

theorem render_record_cons (level : Nat) (field : String × Data) (others : List (String × Data)) :
    render level (.ofFields (field :: others))
      = '{' :: (newLine (level + 1) ++ (renderField (level + 1) field
        ++ (renderFields (level + 1) others ++ (newLine level ++ ['}'])))) := by
  simp [Data.ofFields, render, renderField]

theorem exists_scan_renderField (level : Nat) (field : String × Data) (after : List Char) :
    ∃ text pieces, renderField level field ++ after = '"' :: text
      ∧ scan text = some (pieces, ':' :: ' ' :: (render level field.2 ++ after))
      ∧ (∀ others ending, addField pieces field.2 others ending = (field :: others, ending))
      ∧ (render level field.2 ++ after).length + 2 ≤ (renderField level field ++ after).length := by
  obtain ⟨pieces, hkey, hscan, hjoin⟩ :=
    scan_encode field.1.toList (':' :: ' ' :: (render level field.2 ++ after))
  have htext : renderField level field ++ after
      = encode field.1.toList ++ ':' :: ' ' :: (render level field.2 ++ after) := by
    simp [renderField]
  refine ⟨_, pieces, htext.trans hkey, hscan, fun others ending => ?_, ?_⟩
  · rw [addField, hjoin]
    simp only [String.ofList_toList]
  · simp only [htext, List.length_append, List.length_cons]
    omega

/-- A field is read up to the end of its value. There the record ends, or it goes on. -/
theorem fields_renderField {field : String × Data} (hvalue : ComesBack field.2) {fuel level : Nat}
    {after rest : List Char} (hends : EndsNumber after)
    (hfuel : (renderField level field ++ after).length < fuel + 1) :
    (skipSpace after = '}' :: rest →
      fields (fuel + 1) (renderField level field ++ after) = (([field], .closed), some rest))
    ∧ ∀ others ending last, skipSpace after = ',' :: rest →
      fields fuel rest = ((others, ending), last) →
      fields (fuel + 1) (renderField level field ++ after) = ((field :: others, ending), last) := by
  obtain ⟨text, pieces, htext, hscan, hadd, hlength⟩ := exists_scan_renderField level field after
  -- the key and its colon are longer than the one step of fuel that they take
  have hshorter : (render level field.2 ++ after).length < fuel := by omega
  have hread := hvalue level fuel after hends hshorter
  have hquote : isSpace '"' = false := by decide
  have hcolon : isSpace ':' = false := by decide
  constructor
  · intro hafter
    rw [htext, fields]
    simp only [skipSpace_cons hquote, hscan, skipSpace_cons hcolon, value_blank, hread, hafter,
      hadd]
  · intro others ending last hafter hrest
    rw [htext, fields]
    simp only [skipSpace_cons hquote, hscan, skipSpace_cons hcolon, value_blank, hread, hafter,
      hrest, hadd]

/-- Fields are read up to the bracket that closes their record. -/
theorem fields_render {first : String × Data} {others : List (String × Data)}
    (hfirst : ComesBack first.2) (hothers : ∀ field ∈ others, ComesBack field.2)
    {fuel level outer : Nat} {rest : List Char}
    (hfuel : (renderField level first
      ++ (renderFields level others ++ (newLine outer ++ '}' :: rest))).length < fuel) :
    fields fuel (renderField level first
        ++ (renderFields level others ++ (newLine outer ++ '}' :: rest)))
      = ((first :: others, .closed), some rest) := by
  -- on the fields after the first: each takes one step of fuel and leaves a shorter text
  induction others generalizing first fuel with
  | nil =>
    obtain ⟨fuel, rfl⟩ := Nat.exists_eq_add_one.2 (Nat.zero_lt_of_lt hfuel)
    rw [renderFields, List.nil_append] at hfuel ⊢
    have hafter : skipSpace (newLine outer ++ '}' :: rest) = '}' :: rest := by
      rw [skipSpace_newLine, skipSpace_cons (by decide)]
    exact (fields_renderField hfirst (endsNumber_newLine _ _) hfuel).1 hafter
  | cons second others ih =>
    obtain ⟨fuel, rfl⟩ := Nat.exists_eq_add_one.2 (Nat.zero_lt_of_lt hfuel)
    obtain ⟨hsecond, hothers⟩ := List.forall_mem_cons.1 hothers
    rw [renderFields_cons, List.cons_append, List.append_assoc, List.append_assoc] at hfuel ⊢
    have hshorter : (renderField level second
        ++ (renderFields level others ++ (newLine outer ++ '}' :: rest))).length < fuel := by
      simp only [List.length_append, List.length_cons] at hfuel ⊢
      omega
    have hmore := ih hsecond hothers hshorter
    rw [← fields_newLine _ level] at hmore
    exact (fields_renderField hfirst (endsNumber_cons (by decide) _) hfuel).2 _ _ _
      (skipSpace_cons (by decide) _) hmore

/-- A record comes back if the values of its fields do. -/
theorem comesBack_ofFields {fields : List (String × Data)}
    (h : ∀ field ∈ fields, ComesBack field.2) :
    ComesBack (.ofFields fields) := by
  intro level fuel rest _ hfuel
  obtain ⟨fuel, rfl⟩ := Nat.exists_eq_add_one.2 (Nat.zero_lt_of_lt hfuel)
  cases fields with
  | nil =>
    have htext : render level (.ofFields []) = ['{', '}'] := by simp [Data.ofFields, render]
    rw [htext]
    rfl
  | cons first others =>
    obtain ⟨hfirst, hothers⟩ := List.forall_mem_cons.1 h
    simp only [render_record_cons, List.cons_append, List.append_assoc, List.nil_append] at hfuel ⊢
    have hshorter : (renderField (level + 1) first
        ++ (renderFields (level + 1) others ++ (newLine level ++ '}' :: rest))).length < fuel := by
      simp only [List.length_append, List.length_cons] at hfuel ⊢
      omega
    have hfields := fields_render hfirst hothers hshorter
    obtain ⟨text, -, htext, -, -, -⟩ := exists_scan_renderField (level + 1) first
      (renderFields (level + 1) others ++ (newLine level ++ '}' :: rest))
    have hspace : isSpace '{' = false := by decide
    have hquote : isSpace '"' = false := by decide
    rw [htext] at hfields ⊢
    rw [value]
    simp only [skipSpace_cons hspace, skipSpace_newLine, skipSpace_cons hquote]
    rw [if_neg (by decide), if_neg (by decide), if_pos trivial]
    -- a key follows the bracket, so that the record does not end at once
    split
    · next heq => exact absurd (List.cons.inj heq).1 (by decide)
    · simp only [hfields, Data.ofFields]

/-! ## Texts -/

/-- Space, or nothing. -/
def IsBlank (after : String) : Prop := ∀ c ∈ after.toList, isSpace c = true

theorem isBlank_endOfLine : IsBlank "\n" := by
  intro c hc
  have hend : c = '\n' := by simpa using hc
  rw [hend]
  rfl

theorem IsBlank.endsNumber {after : String} (h : IsBlank after) : EndsNumber after.toList := by
  intro c tail htext
  have hspace : isSpace c = true := h c (htext ▸ List.mem_cons_self)
  simp only [isSpace, Bool.or_eq_true, decide_eq_true_eq] at hspace
  rcases hspace with ((rfl | rfl) | rfl) | rfl <;> decide

/-- **JSON texts come back.** What is written for data, with any space after it, is read as the
data. -/
theorem read_write {data : Data} (h : ComesBack data) {after : String} (hafter : IsBlank after) :
    read (write data ++ after) = ⟨data, true⟩ := by
  have htext : (write data ++ after).toList = render 0 data ++ after.toList := by
    rw [String.toList_append, write, String.toList_ofList]
  have hvalue := h 0 (2 * (render 0 data ++ after.toList).length + 2) after.toList
    hafter.endsNumber (by omega)
  have hend : skipSpace after.toList = [] := List.dropWhile_eq_nil_iff.2 hafter
  rw [read, htext, hvalue]
  simp only [hend, List.isEmpty_nil]

theorem decode_write {codec : Codec α} (hlawful : codec.Lawful) {value : α}
    (h : ComesBack (codec.encode value)) {after : String} (hafter : IsBlank after) :
    decode codec (write (codec.encode value) ++ after) = .ok value := by
  rw [decode, read_write h hafter]
  simp only [hlawful .jsonText value, ok_bind, if_true]
  rfl

end RuntimeProfiles.Json
