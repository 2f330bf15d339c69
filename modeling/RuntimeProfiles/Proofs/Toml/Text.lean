import RuntimeProfiles.Toml.Text

/-!
# TOML strings come back

`encode` picks one of four forms for a string, and `readString` undoes whichever it picked:

* **`readBasic_basicChars`** and **`readLiteral_append`** — the forms on one line;
* **`readTripledBasic_tripledBasicChars`** and **`readTripledLiteral_append`** — the forms between
  tripled quotes, where quotes at the very end of the string run into the closing ones;
* **`readString_encode`** — all of them together, before any text that does not open with a quote.

Every form has an induction over the characters of its own. The forms with escapes need to know
nothing about the string; the literal ones need what `formOf` has checked.
-/

namespace RuntimeProfiles.Toml

@[simp]
theorem push_some (c : Char) (chars rest : List Char) :
    push c (some (chars, rest)) = some (c :: chars, rest) := rfl

/-! ## Characters -/

/-- A character that is no control is plain, unless it is an end of line. -/
theorem isPlain_of_not_isControl {c : Char} (h : isControl c = false) (hn : c ≠ '\n') :
    isPlain c = true := by
  simp only [isControl, isPlain, Bool.or_eq_false_iff, Bool.and_eq_false_iff,
    decide_eq_false_iff_not, Bool.or_eq_true, Bool.and_eq_true, decide_eq_true_eq] at *
  obtain ⟨low, del⟩ := h
  rcases low with (low | low) | low
  · exact .inr ⟨by simpa using low, del⟩
  · exact .inl (by simpa using low)
  · exact absurd hn (by simpa using low)

theorem toNat_lt_of_isControl {c : Char} (h : isControl c = true) : c.toNat < 128 := by
  simp only [isControl, Bool.or_eq_true, Bool.and_eq_true, decide_eq_true_eq] at h
  omega

/-! ## Escapes

An escape is a letter after a backslash, or four hexadecimal digits after `\u`. Both readers of
basic strings treat the two shapes in the same way, so each of them is walked through them once. -/

/-- The characters are an escape that stands for `c`. -/
inductive IsEscape (c : Char) : List Char → Prop where
  | letter (e : Char) (h : escaped? e = some c) : IsEscape c ['\\', e]
  | digits (w x y z : Char) (h : hexChar? [w, x, y, z] = some c) :
      IsEscape c ['\\', 'u', w, x, y, z]

/-- Four digits are enough for every control, and they are read as it. -/
theorem hexDigits4_facts : ∀ n < 128, (Text.hexDigits4 n).length = 4
    ∧ hexChar? (Text.hexDigits4 n) = some (Char.ofNat n) := by decide

theorem isEscape_hexDigits4 {c : Char} (h : isControl c = true) :
    IsEscape c ('\\' :: 'u' :: Text.hexDigits4 c.toNat) := by
  obtain ⟨hlen, hchar⟩ := hexDigits4_facts c.toNat (toNat_lt_of_isControl h)
  rw [Char.ofNat_toNat] at hchar
  match hd : Text.hexDigits4 c.toNat with
  | [w, x, y, z] => exact .digits w x y z (hd ▸ hchar)
  | [] | [_] | [_, _] | [_, _, _] | _ :: _ :: _ :: _ :: _ :: _ => simp [hd] at hlen

/-- Whatever has to be escaped is escaped as itself. -/
theorem isEscape_escapeChar {c : Char} (h : needsEscape c = true ∨ c = '"' ∨ c = '\n') :
    IsEscape c (escapeChar c) := by
  unfold escapeChar
  split
  · next hc => rcases hc with rfl | rfl <;> exact .letter _ rfl
  split
  · next hc => subst hc; exact .letter _ rfl
  split
  · next hc => subst hc; exact .letter _ rfl
  split
  · next hc => subst hc; exact .letter _ rfl
  split
  · next hc => subst hc; exact .letter _ rfl
  split
  · next hc => subst hc; exact .letter _ rfl
  · exact isEscape_hexDigits4 (by simp_all [needsEscape])

/-- A letter that is an escape is neither of those that announce digits. -/
theorem ne_u_of_escaped? {e c : Char} (h : escaped? e = some c) : e ≠ 'u' ∧ e ≠ 'U' := by
  constructor <;> rintro rfl <;> simp [escaped?] at h

theorem readBasic_escape {c : Char} {escape : List Char} (h : IsEscape c escape)
    (rest : List Char) : readBasic (escape ++ rest) = push c (readBasic rest) := by
  cases h with
  | letter e he =>
    obtain ⟨hu, hU⟩ := ne_u_of_escaped? he
    simp [readBasic, hu, hU, he]
  | digits w x y z hx => simp [readBasic, hx]

/-- An escape does not join lines, because no end of line follows its backslash. -/
theorem endsLine_letter {e c : Char} (h : escaped? e = some c) (rest : List Char) :
    endsLine (e :: rest) = false := by
  have hs : isSpace e = false := by
    rw [Bool.eq_false_iff]
    intro hs
    simp only [isSpace, Bool.or_eq_true, decide_eq_true_eq] at hs
    rcases hs with rfl | rfl <;> simp [escaped?] at h
  have hn : e ≠ '\n' ∧ e ≠ '\r' := by
    constructor <;> rintro rfl <;> simp [escaped?] at h
  simp [endsLine, List.dropWhile, hs, hn]

theorem readTripledBasic_escape {c : Char} {escape : List Char} (h : IsEscape c escape)
    (rest : List Char) :
    readTripledBasic false (escape ++ rest) = push c (readTripledBasic false rest) := by
  cases h with
  | letter e he =>
    obtain ⟨hu, hU⟩ := ne_u_of_escaped? he
    show readTripledBasic false ('\\' :: e :: rest) = _
    rw [readTripledBasic.eq_def]
    simp [endsLine_letter he, hu, hU, he]
  | digits w x y z hx => simp [readTripledBasic, endsLine, isSpace, hx]

/-! ## The forms on one line -/

theorem readBasic_plain {c : Char} (hp : isPlain c = true) (hq : c ≠ '"') (hb : c ≠ '\\')
    (rest : List Char) : readBasic (c :: rest) = push c (readBasic rest) := by
  rw [readBasic] <;> simp_all

theorem basicChars_escape {c : Char} (h : needsEscape c = true ∨ c = '"' ∨ c = '\n')
    (text : List Char) : basicChars (c :: text) = escapeChar c ++ basicChars text := by
  rw [basicChars, List.flatMap_cons, if_pos (by simpa [or_assoc] using h), ← basicChars]

theorem basicChars_plain {c : Char} (h : ¬ (needsEscape c = true ∨ c = '"' ∨ c = '\n'))
    (text : List Char) : basicChars (c :: text) = c :: basicChars text := by
  rw [basicChars, List.flatMap_cons, if_neg (by simpa [or_assoc] using h), ← basicChars,
    List.singleton_append]

/-- A basic string on one line comes back, whatever its characters. -/
theorem readBasic_basicChars (text rest : List Char) :
    readBasic (basicChars text ++ '"' :: rest) = some (text, rest) := by
  induction text with
  | nil => rw [basicChars, List.flatMap_nil, List.nil_append, readBasic]
  | cons c text ih =>
    -- a character is written as an escape or as itself, and either is read in one step
    by_cases he : needsEscape c = true ∨ c = '"' ∨ c = '\n'
    · rw [basicChars_escape he, List.append_assoc, readBasic_escape (isEscape_escapeChar he), ih,
        push_some]
    · obtain ⟨hn, hq, hl⟩ : needsEscape c = false ∧ c ≠ '"' ∧ c ≠ '\n' := by simpa using he
      simp only [needsEscape, Bool.or_eq_false_iff, decide_eq_false_iff_not] at hn
      rw [basicChars_plain he, List.cons_append,
        readBasic_plain (isPlain_of_not_isControl hn.2 hl) hq hn.1.1, ih, push_some]

/-- A literal string on one line comes back if it can stand there as it is. -/
theorem readLiteral_append {text : List Char} (h : ∀ c ∈ text, isPlain c = true ∧ c ≠ '\'')
    (rest : List Char) : readLiteral (text ++ '\'' :: rest) = some (text, rest) := by
  induction text with
  | nil => simp [readLiteral]
  | cons c text ih =>
    obtain ⟨hp, hq⟩ := h c List.mem_cons_self
    have hread : readLiteral (c :: (text ++ '\'' :: rest))
        = push c (readLiteral (text ++ '\'' :: rest)) := by
      rw [readLiteral] <;> simp_all
    rw [List.cons_append, hread, ih fun x hx => h x (List.mem_cons_of_mem _ hx), push_some]

/-! ## Closing tripled quotes

Three quotes close a string, but up to two quotes right before them belong to it. The reader meets
them one by one, so it closes at the first of the quotes that end the string. -/

theorem closeTripled_of_head {quote : Char} {rest : List Char} (h : rest.head? ≠ some quote) :
    closeTripled quote rest = ([], rest) := by
  cases rest with
  | nil => rfl
  | cons a rest =>
    have ha : a ≠ quote := by simpa using h
    cases rest <;> simp [closeTripled, ha]

theorem closeTripled_one {quote : Char} {rest : List Char} (h : rest.head? ≠ some quote) :
    closeTripled quote (quote :: rest) = ([quote], rest) := by
  cases rest with
  | nil => simp [closeTripled]
  | cons a rest =>
    have ha : a ≠ quote := by simpa using h
    simp [closeTripled, ha]

theorem closeTripled_two (quote : Char) (rest : List Char) :
    closeTripled quote (quote :: quote :: rest) = ([quote, quote], rest) := by
  simp [closeTripled]

/-- The text opens with two quotes, so that a quote before it closes a string. -/
def OpensWithTwo (quote : Char) (text : List Char) : Prop :=
  ∃ rest, text = quote :: quote :: rest

theorem not_opensWithTwo_of_head {quote c : Char} (h : c ≠ quote) (rest : List Char) :
    ¬ OpensWithTwo quote (c :: rest) := by
  rintro ⟨_, heq⟩
  exact h (List.cons.inj heq).1

theorem not_opensWithTwo_of_second {quote c : Char} (h : c ≠ quote) (rest : List Char) :
    ¬ OpensWithTwo quote (quote :: c :: rest) := by
  rintro ⟨_, heq⟩
  exact h (List.cons.inj (List.cons.inj heq).2).1

/-! ## Basic strings on several lines -/

theorem readTripledBasic_close (rest : List Char) :
    readTripledBasic false ('"' :: '"' :: '"' :: rest) = some (closeTripled '"' rest) := by
  rw [readTripledBasic.eq_def]
  simp

theorem readTripledBasic_quote {text : List Char} (h : ¬ OpensWithTwo '"' text) :
    readTripledBasic false ('"' :: text) = push '"' (readTripledBasic false text) := by
  rw [readTripledBasic.eq_def]
  simp only [Bool.false_and, Bool.false_eq_true, if_false, if_true]
  split
  · next rest => exact absurd ⟨rest, rfl⟩ h
  · rfl

theorem readTripledBasic_plain {c : Char} (hp : c = '\n' ∨ isPlain c = true) (hq : c ≠ '"')
    (hb : c ≠ '\\') (text : List Char) :
    readTripledBasic false (c :: text) = push c (readTripledBasic false text) := by
  have hr : c ≠ '\r' := by
    rintro rfl
    rcases hp with hp | hp
    · simp at hp
    · exact absurd hp (by decide)
  rw [readTripledBasic.eq_def]
  simp [hp, hq, hb, hr]

/-- A character that is escaped between tripled quotes is escaped in every basic string. -/
theorem tripledBasicChars_escape {c : Char} (hq : c ≠ '"') (he : needsEscape c = true) (run : Nat)
    (text : List Char) :
    tripledBasicChars run (c :: text) = escapeChar c ++ tripledBasicChars 0 text := by
  rw [tripledBasicChars, if_neg hq, if_pos he]

theorem tripledBasicChars_plain {c : Char} (hq : c ≠ '"') (he : needsEscape c = false) (run : Nat)
    (text : List Char) : tripledBasicChars run (c :: text) = c :: tripledBasicChars 0 text := by
  rw [tripledBasicChars, if_neg hq, if_neg (by simp [he])]

theorem tripledBasicChars_quote {run : Nat} (h : run < 2) (text : List Char) :
    tripledBasicChars run ('"' :: text) = '"' :: tripledBasicChars (run + 1) text := by
  rw [tripledBasicChars, if_pos rfl, if_pos h]

theorem tripledBasicChars_third {run : Nat} (h : ¬ run < 2) (text : List Char) :
    tripledBasicChars run ('"' :: text) = '\\' :: '"' :: tripledBasicChars 0 text := by
  rw [tripledBasicChars, if_pos rfl, if_neg h]

/-- An escape opens with a backslash. -/
theorem IsEscape.exists_cons {c : Char} {escape : List Char} (h : IsEscape c escape) :
    ∃ tail, escape = '\\' :: tail := by
  cases h with
  | letter e _ => exact ⟨[e], rfl⟩
  | digits w x y z _ => exact ⟨['u', w, x, y, z], rfl⟩

/-- What is written for a character opens with a quote only for a quote that is not escaped. -/
theorem tripledBasicChars_head {run : Nat} {c : Char} (h : c ≠ '"' ∨ ¬ run < 2)
    (text : List Char) :
    ∃ head tail, tripledBasicChars run (c :: text) = head :: tail ∧ head ≠ '"' := by
  by_cases hq : c = '"'
  · subst hq
    have hrun : ¬ run < 2 := h.resolve_left fun hne => hne rfl
    exact ⟨_, _, tripledBasicChars_third hrun text, by decide⟩
  · cases he : needsEscape c with
    | false => exact ⟨_, _, tripledBasicChars_plain hq he run text, hq⟩
    | true =>
      obtain ⟨tail, htail⟩ := (isEscape_escapeChar (.inl he)).exists_cons
      rw [tripledBasicChars_escape hq he, htail]
      exact ⟨_, _, rfl, by decide⟩

/-- After a quote that is not escaped, two more of them in a row stand only where the string ends
with at most one of them. -/
theorem not_opensWithTwo_tripledBasicChars {run : Nat} {text : List Char} (hnil : text ≠ [])
    (hone : run + 1 < 2 → text ≠ ['"']) (rest : List Char) :
    ¬ OpensWithTwo '"' (tripledBasicChars (run + 1) text ++ rest) := by
  cases text with
  | nil => exact absurd rfl hnil
  | cons c text =>
    by_cases hfirst : c ≠ '"' ∨ ¬ run + 1 < 2
    · obtain ⟨head, tail, heq, hhead⟩ := tripledBasicChars_head hfirst text
      rw [heq]
      exact not_opensWithTwo_of_head hhead _
    · -- the first character is a quote, so it is the second that has to differ
      obtain ⟨rfl, hrun⟩ : c = '"' ∧ run + 1 < 2 := by
        simpa only [not_or, Decidable.not_not] using hfirst
      rw [tripledBasicChars_quote hrun]
      cases text with
      | nil => exact absurd rfl (hone hrun)
      | cons d text =>
        have hsecond : d ≠ '"' ∨ ¬ run + 1 + 1 < 2 := .inr (by omega)
        obtain ⟨head, tail, heq, hhead⟩ := tripledBasicChars_head hsecond text
        rw [heq]
        exact not_opensWithTwo_of_second hhead _

/-- A basic string on several lines comes back, whatever its characters. The induction runs over the
characters for every number of quotes that stand unescaped before them. -/
theorem readTripledBasic_tripledBasicChars (text : List Char) {rest : List Char}
    (h : rest.head? ≠ some '"') (run : Nat) :
    readTripledBasic false (tripledBasicChars run text ++ '"' :: '"' :: '"' :: rest)
      = some (text, rest) := by
  induction text generalizing run with
  | nil => rw [tripledBasicChars, List.nil_append, readTripledBasic_close, closeTripled_of_head h]
  | cons c text ih =>
    by_cases hq : c = '"'
    · subst hq
      by_cases hrun : run < 2
      · rw [tripledBasicChars_quote hrun, List.cons_append]
        -- one or two quotes at the end of the string run into the closing ones
        by_cases hnil : text = []
        · subst hnil
          rw [tripledBasicChars, List.nil_append, readTripledBasic_close, closeTripled_one h]
        by_cases hone : run + 1 < 2 ∧ text = ['"']
        · obtain ⟨hrun', rfl⟩ := hone
          rw [tripledBasicChars_quote hrun', tripledBasicChars, List.cons_append, List.nil_append,
            readTripledBasic_close, closeTripled_two]
        · -- every other quote stands alone, because an escape breaks the third one in a row
          rw [readTripledBasic_quote
              (not_opensWithTwo_tripledBasicChars hnil (fun hr ht => hone ⟨hr, ht⟩) _),
            ih, push_some]
      · rw [tripledBasicChars_third hrun]
        have hread := readTripledBasic_escape (.letter '"' rfl : IsEscape '"' ['\\', '"'])
          (tripledBasicChars 0 text ++ '"' :: '"' :: '"' :: rest)
        simpa [ih] using hread
    · cases he : needsEscape c with
      | true =>
        rw [tripledBasicChars_escape hq he, List.append_assoc,
          readTripledBasic_escape (isEscape_escapeChar (.inl he)), ih, push_some]
      | false =>
        simp only [needsEscape, Bool.or_eq_false_iff, decide_eq_false_iff_not] at he
        have hp : c = '\n' ∨ isPlain c = true := by
          by_cases hn : c = '\n'
          · exact .inl hn
          · exact .inr (isPlain_of_not_isControl he.2 hn)
        rw [tripledBasicChars_plain hq (by simp [needsEscape, he]), List.cons_append,
          readTripledBasic_plain hp hq he.1.1, ih, push_some]

/-! ## Literal strings on several lines -/

theorem readTripledLiteral_close (rest : List Char) :
    readTripledLiteral ('\'' :: '\'' :: '\'' :: rest) = some (closeTripled '\'' rest) := by
  rw [readTripledLiteral.eq_def]
  simp

theorem readTripledLiteral_quote {text : List Char} (h : ¬ OpensWithTwo '\'' text) :
    readTripledLiteral ('\'' :: text) = push '\'' (readTripledLiteral text) := by
  rw [readTripledLiteral.eq_def]
  simp only [if_true]
  split
  · next rest => exact absurd ⟨rest, rfl⟩ h
  · rfl

theorem readTripledLiteral_plain {c : Char} (hp : c = '\n' ∨ isPlain c = true) (hq : c ≠ '\'')
    (text : List Char) : readTripledLiteral (c :: text) = push c (readTripledLiteral text) := by
  have hr : c ≠ '\r' := by
    rintro rfl
    rcases hp with hp | hp
    · simp at hp
    · exact absurd hp (by decide)
  rw [readTripledLiteral.eq_def]
  simp [hp, hq, hr]

theorem le_longestRun (quote : Char) (text : List Char) (run : Nat) :
    run ≤ longestRun quote run text := by
  induction text generalizing run with
  | nil => exact Nat.le_refl run
  | cons c text ih =>
    rw [longestRun]
    split
    · exact Nat.le_trans (Nat.le_succ run) (ih (run + 1))
    · exact Nat.le_max_left _ _

theorem longestRun_quote (quote : Char) (text : List Char) (run : Nat) :
    longestRun quote run (quote :: text) = longestRun quote (run + 1) text := by
  rw [longestRun, if_pos rfl]

/-- The rest of a text has no longer run of a quote than the text. -/
theorem longestRun_tail_le (quote c : Char) (text : List Char) (run : Nat) :
    ∃ run', longestRun quote run' text ≤ longestRun quote run (c :: text) := by
  rw [longestRun]
  split
  · exact ⟨run + 1, Nat.le_refl _⟩
  · exact ⟨0, Nat.le_max_right _ _⟩

/-- A literal string on several lines comes back if it holds no controls and no three quotes in a
row. The induction runs for every number of quotes that stand before the characters. -/
theorem readTripledLiteral_append {text : List Char} (hp : ∀ c ∈ text, c = '\n' ∨ isPlain c = true)
    {run : Nat} (hrun : longestRun '\'' run text ≤ 2) {rest : List Char}
    (h : rest.head? ≠ some '\'') :
    readTripledLiteral (text ++ '\'' :: '\'' :: '\'' :: rest) = some (text, rest) := by
  induction text generalizing run with
  | nil => rw [List.nil_append, readTripledLiteral_close, closeTripled_of_head h]
  | cons c text ih =>
    -- the bound on runs is all that the induction needs to know about the quotes before
    obtain ⟨run', hle⟩ := longestRun_tail_le '\'' c text run
    have ih := ih (fun x hx => hp x (List.mem_cons_of_mem _ hx)) (Nat.le_trans hle hrun)
    rw [List.cons_append]
    by_cases hq : c = '\''
    · subst hq
      match text with
      | [] => rw [List.nil_append, readTripledLiteral_close, closeTripled_one h]
      | d :: text =>
        by_cases hd : d = '\''
        · subst hd
          match text with
          | [] =>
            rw [List.cons_append, List.nil_append, readTripledLiteral_close, closeTripled_two]
          | e :: text =>
            have he : e ≠ '\'' := by
              -- three quotes in a row would be a run of three
              rintro rfl
              have := le_longestRun '\'' text (run + 1 + 1 + 1)
              simp only [longestRun_quote] at hrun
              omega
            have hopen : ¬ OpensWithTwo '\''
                ('\'' :: e :: text ++ '\'' :: '\'' :: '\'' :: rest) :=
              not_opensWithTwo_of_second he _
            rw [readTripledLiteral_quote hopen, ih, push_some]
        · have hopen : ¬ OpensWithTwo '\'' (d :: text ++ '\'' :: '\'' :: '\'' :: rest) :=
            not_opensWithTwo_of_head hd _
          rw [readTripledLiteral_quote hopen, ih, push_some]
    · rw [readTripledLiteral_plain (hp c List.mem_cons_self) hq, ih, push_some]

/-! ## All forms together -/

theorem longestRun_eq_zero {quote : Char} {text : List Char} (h : longestRun quote 0 text = 0) :
    ∀ c ∈ text, c ≠ quote := by
  induction text with
  | nil => simp
  | cons c text ih =>
    rw [longestRun] at h
    split at h
    · have := le_longestRun quote text (0 + 1)
      omega
    · next hc =>
      intro x hx
      rcases List.mem_cons.1 hx with rfl | hx
      · exact hc
      · exact ih (by omega) x hx

/-- What a form promises about the string for which it is picked. Basic forms promise nothing. -/
def StringForm.Suits (text : List Char) : StringForm → Prop
  | .basic | .tripledBasic => True
  | .literal => text ≠ [] ∧ ∀ c ∈ text, isPlain c = true ∧ c ≠ '\''
  | .tripledLiteral =>
    (∀ c ∈ text, c = '\n' ∨ isPlain c = true) ∧ longestRun '\'' 0 text ≤ 2

theorem suits_formOf (text : List Char) : (formOf text).Suits text := by
  have hplain : text.any isControl = false → ∀ c ∈ text, c = '\n' ∨ isPlain c = true := by
    intro hctl c hc
    by_cases hn : c = '\n'
    · exact .inl hn
    · exact .inr (isPlain_of_not_isControl (by simpa using List.any_eq_false.1 hctl c hc) hn)
  unfold formOf
  simp only
  -- the branches in the order of `formOf`; a literal form promises the test that it has passed
  split
  · trivial
  split
  · next hbasic hliteral =>
    obtain ⟨⟨hctl, hlines⟩, hrun⟩ : (text.any isControl = false ∧ '\n' ∉ text)
        ∧ longestRun '\'' 0 text = 0 := by simpa using hliteral
    refine ⟨?_, fun c hc => ⟨?_, longestRun_eq_zero hrun c hc⟩⟩
    · rintro rfl
      exact hbasic (by decide)
    · exact (hplain hctl c hc).resolve_left fun hn => hlines (hn ▸ hc)
  split
  · trivial
  split
  · next htripled =>
    obtain ⟨hctl, hrun⟩ : text.any isControl = false ∧ longestRun '\'' 0 text ≤ 2 := by
      simpa using htripled
    exact ⟨hplain hctl, hrun⟩
  split <;> trivial

/-- A character with which an end of line begins. -/
def StartsLineEnd (c : Char) : Prop := c = '\n' ∨ c = '\r'

theorem dropFirstNewline_cons {c : Char} (h : ¬ StartsLineEnd c) (rest : List Char) :
    dropFirstNewline (c :: rest) = c :: rest := by
  obtain ⟨hn, hr⟩ := not_or.1 h
  rw [dropFirstNewline] <;> simp_all

/-- The end of line that opens a string on several lines is dropped again, and where none was
written, the text that follows does not start with one. -/
theorem dropFirstNewline_start {lines : Bool} {c : Char} (h : lines = false → ¬ StartsLineEnd c)
    (rest : List Char) :
    dropFirstNewline ((if lines then ['\n'] else []) ++ c :: rest) = c :: rest := by
  cases lines with
  | true => rfl
  | false => exact dropFirstNewline_cons (h rfl) rest

theorem not_startsLineEnd_of_isPlain {c : Char} (hp : c = '\n' ∨ isPlain c = true)
    (hn : c ≠ '\n') : ¬ StartsLineEnd c := by
  rintro (h | rfl)
  · exact hn h
  · exact absurd (hp.resolve_left hn) (by decide)

/-- What is written between tripled quotes starts with an end of line only if the string has one. -/
theorem exists_cons_tripledBasicChars (text rest : List Char) :
    ∃ c tail, tripledBasicChars 0 text ++ '"' :: rest = c :: tail
      ∧ ('\n' ∉ text → ¬ StartsLineEnd c) := by
  have hquote : ¬ StartsLineEnd '"' := by simp [StartsLineEnd]
  cases text with
  | nil => exact ⟨_, _, rfl, fun _ => hquote⟩
  | cons c text =>
    by_cases hq : c = '"'
    · subst hq
      rw [tripledBasicChars_quote (by decide)]
      exact ⟨_, _, rfl, fun _ => hquote⟩
    · cases he : needsEscape c with
      | true =>
        obtain ⟨tail, htail⟩ := (isEscape_escapeChar (.inl he)).exists_cons
        rw [tripledBasicChars_escape hq he, htail]
        exact ⟨_, _, rfl, fun _ => by simp [StartsLineEnd]⟩
      | false =>
        rw [tripledBasicChars_plain hq he]
        refine ⟨_, _, rfl, fun hn => ?_⟩
        have hc : c ≠ '\n' := by
          rintro rfl
          exact hn List.mem_cons_self
        simp only [needsEscape, Bool.or_eq_false_iff] at he
        exact not_startsLineEnd_of_isPlain (.inr (isPlain_of_not_isControl he.2 hc)) hc

theorem exists_cons_append {text : List Char} (hp : ∀ c ∈ text, c = '\n' ∨ isPlain c = true)
    (rest : List Char) :
    ∃ c tail, text ++ '\'' :: rest = c :: tail ∧ ('\n' ∉ text → ¬ StartsLineEnd c) := by
  cases text with
  | nil => exact ⟨_, _, rfl, fun _ => by simp [StartsLineEnd]⟩
  | cons c text =>
    refine ⟨_, _, rfl, fun hn => ?_⟩
    refine not_startsLineEnd_of_isPlain (hp c List.mem_cons_self) ?_
    rintro rfl
    exact hn List.mem_cons_self

/-- One quote opens a string on one line unless it opens with two more. -/
theorem readString_basic {text : List Char} (h : ¬ OpensWithTwo '"' text) :
    readString ('"' :: text) = readBasic text := by
  rw [readString]
  rintro rest rfl
  exact h ⟨rest, rfl⟩

theorem readString_literal {text : List Char} (h : ¬ OpensWithTwo '\'' text) :
    readString ('\'' :: text) = readLiteral text := by
  rw [readString]
  rintro rest rfl
  exact h ⟨rest, rfl⟩

theorem not_opensWithTwo_basicChars (text : List Char) {rest : List Char}
    (h : rest.head? ≠ some '"') : ¬ OpensWithTwo '"' (basicChars text ++ '"' :: rest) := by
  cases text with
  | nil =>
    rintro ⟨_, heq⟩
    simp only [basicChars, List.flatMap_nil, List.nil_append] at heq
    exact h (by rw [(List.cons.inj heq).2]; rfl)
  | cons c text =>
    by_cases he : needsEscape c = true ∨ c = '"' ∨ c = '\n'
    · obtain ⟨tail, htail⟩ := (isEscape_escapeChar he).exists_cons
      rw [basicChars_escape he, htail]
      exact not_opensWithTwo_of_head (by decide) _
    · rw [basicChars_plain he]
      exact not_opensWithTwo_of_head (fun hq => he (.inr (.inl hq))) _

/-- **Strings come back.** A string that has been written is read as itself, and reading stops right
behind it. -/
theorem readString_encode (text : List Char) {rest : List Char} (hbasic : rest.head? ≠ some '"')
    (hliteral : rest.head? ≠ some '\'') : readString (encode text ++ rest) = some (text, rest) := by
  have hsuits := suits_formOf text
  unfold encode
  simp only
  cases hform : formOf text with
  | basic =>
    simp only [List.cons_append, List.append_assoc, List.nil_append]
    rw [readString_basic (not_opensWithTwo_basicChars text hbasic), readBasic_basicChars]
  | literal =>
    rw [hform] at hsuits
    obtain ⟨hne, hall⟩ := hsuits
    simp only [List.cons_append, List.append_assoc, List.nil_append]
    have hopen : ¬ OpensWithTwo '\'' (text ++ '\'' :: rest) := by
      cases text with
      | nil => exact absurd rfl hne
      | cons c text => exact not_opensWithTwo_of_head (hall c List.mem_cons_self).2 _
    rw [readString_literal hopen, readLiteral_append hall]
  | tripledBasic =>
    simp only [List.cons_append, List.append_assoc, List.nil_append]
    obtain ⟨c, tail, hcons, hc⟩ := exists_cons_tripledBasicChars text ('"' :: '"' :: rest)
    -- a string with lines starts on a line of its own, which the reader drops again
    rw [readString, hcons, dropFirstNewline_start (by simpa using hc), ← hcons,
      readTripledBasic_tripledBasicChars text hbasic]
  | tripledLiteral =>
    rw [hform] at hsuits
    obtain ⟨hall, hrun⟩ := hsuits
    simp only [List.cons_append, List.append_assoc, List.nil_append]
    obtain ⟨c, tail, hcons, hc⟩ := exists_cons_append hall ('\'' :: '\'' :: rest)
    rw [readString, hcons, dropFirstNewline_start (by simpa using hc), ← hcons,
      readTripledLiteral_append hall hrun hliteral]

/-- A string that has been written starts with one of the two quotes. -/
theorem exists_cons_encode (text : List Char) :
    ∃ quote tail, encode text = quote :: tail ∧ (quote = '"' ∨ quote = '\'') := by
  unfold encode
  simp only
  cases formOf text with
  | basic | tripledBasic => exact ⟨_, _, rfl, .inl rfl⟩
  | literal | tripledLiteral => exact ⟨_, _, rfl, .inr rfl⟩

end RuntimeProfiles.Toml
