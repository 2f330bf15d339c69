import RuntimeProfiles.Proofs.Text.Digits
import RuntimeProfiles.Proofs.Toml.Document

/-!
# TOML integers come back

The digits of a number could also be those of a year, of an hour or of a number in another base, so
the reader has to rule these out before it takes them for what they are:

* **`skipMoment_digits`** — digits at the end of a line are no date and no time;
* **`readNumber_toDigits`** — they are read as the decimal number that they write;
* **`comesBack_integer`** — so an integer that is not negative and fits in 64 bits with a sign comes
  back.
-/

namespace RuntimeProfiles.Toml

open Text

variable {digits : List Char}

/-! ## Neither a date nor a time -/

/-- Where the text goes on with a character that is no digit, it has left the digits behind, and
with them the end of their line. -/
theorem mem_of_append_eq {front rest after : List Char} {x : Char}
    (h : digits ++ '\n' :: rest = front ++ x :: after) (hdigits : ∀ c ∈ digits, c.isDigit = true)
    (hx : x.isDigit = false) (hne : x ≠ '\n') : '\n' ∈ front := by
  rcases List.append_eq_append_iff.1 h with ⟨more, rfl, hline⟩ | ⟨more, rfl, hafter⟩
  · cases more with
    | nil => exact absurd (List.cons.inj hline).1.symm hne
    | cons c more =>
      rw [(List.cons.inj hline).1]
      exact List.mem_append_right _ List.mem_cons_self
  · cases more with
    | nil => exact absurd (List.cons.inj hafter).1 hne
    | cons c more =>
      have hc := hdigits c (List.mem_append_right _ List.mem_cons_self)
      rw [← (List.cons.inj hafter).1, hx] at hc
      cases hc

theorem year?_digits (hdigits : ∀ c ∈ digits, c.isDigit = true) (rest : List Char) :
    year? (digits ++ '\n' :: rest) = none := by
  unfold year?
  split
  · next a b c d after heq =>
    have hmem : '\n' ∈ [a, b, c, d] := mem_of_append_eq heq hdigits (by decide) (by decide)
    rw [ofDigits?_eq_none hmem (by decide)]
    rfl
  · rfl

theorem hours?_digits (hdigits : ∀ c ∈ digits, c.isDigit = true) (rest : List Char) :
    hours? (digits ++ '\n' :: rest) = none := by
  unfold hours? twoDigits
  split
  · next a b after heq =>
    -- a colon after the hour would stand behind the end of the line
    have hcolon : '\n' ∈ [a, b] ∨ skipChar ':' after = none := by
      cases after with
      | nil => exact .inr rfl
      | cons x after =>
        by_cases hx : x = ':'
        · subst hx
          exact .inl (mem_of_append_eq heq hdigits (by decide) (by decide))
        · exact .inr (if_neg hx)
    rcases hcolon with hmem | hskip
    · rw [ofDigits?_eq_none hmem (by decide)]
      rfl
    · cases ofDigits? 10 digitValue? [a, b] with
      | none => rfl
      | some hour =>
        simp only [Option.bind_eq_bind, Option.bind_some]
        split
        · exact hskip
        · rfl
  · rfl

/-- Digits at the end of a line are no date and no time. -/
theorem skipMoment_digits (hdigits : ∀ c ∈ digits, c.isDigit = true) (rest : List Char) :
    skipMoment (digits ++ '\n' :: rest) = .none := by
  rw [skipMoment, year?_digits hdigits, hours?_digits hdigits]

/-! ## Decimal numbers -/

/-- Digits end where the line ends. -/
theorem moreDigits_append (hdigits : ∀ c ∈ digits, c.isDigit = true) (rest : List Char) :
    moreDigits Char.isDigit (digits ++ '\n' :: rest) = some (digits, '\n' :: rest) := by
  induction digits with
  | nil => rw [List.nil_append, moreDigits.eq_def]; rfl
  | cons c digits ih =>
    have hc := hdigits c List.mem_cons_self
    have hunderscore : c ≠ '_' := ne_of_isDigit hc (by decide)
    rw [List.cons_append, moreDigits.eq_def]
    simp only [hunderscore, if_false, hc, if_true,
      ih fun d hd => hdigits d (List.mem_cons_of_mem _ hd), Option.map_some]

/-- A zero stands alone, and other digits are read up to the end of the line. -/
theorem wholeDigits_append {c : Char} {tail : List Char} (hc : c.isDigit = true)
    (htail : ∀ d ∈ tail, d.isDigit = true) (hzero : c = '0' → tail = []) (rest : List Char) :
    wholeDigits (c :: tail ++ '\n' :: rest) = some (c :: tail, '\n' :: rest) := by
  by_cases h : c = '0'
  · subst h
    rw [hzero rfl]
    rfl
  · have hdigits1 : wholeDigits (c :: tail ++ '\n' :: rest)
        = digits1 Char.isDigit (c :: tail ++ '\n' :: rest) := by
      rw [wholeDigits]
      rintro after heq
      exact h (List.cons.inj heq).1
    rw [hdigits1, List.cons_append, digits1, if_pos hc, moreDigits_append htail, Option.map_some]

/-- The digits of a number are read as that number. -/
theorem natOf_toDigits (n : Nat) : natOf 10 (Nat.toDigits 10 n) = n := by
  rw [natOf, ofDigits?_of_isDigit fun c hc => isDigit_of_mem_toDigits hc,
    Nat.ofDigitChars_ten_toDigits, Option.getD_some]

theorem integer?_natCast {n : Nat} (h : n < 0x8000000000000000) :
    integer? (n : Int) = some (.integer n) := by
  rw [integer?, if_pos (by omega)]

/-- A number without a point and without an exponent is an integer. -/
theorem readDecimal_whole {negative : Bool} {text whole rest : List Char}
    (hwhole : wholeDigits text = some (whole, rest)) (hpoint : ∀ after, rest ≠ '.' :: after)
    (hsmall : ∀ after, rest ≠ 'e' :: after) (hlarge : ∀ after, rest ≠ 'E' :: after) :
    readDecimal negative text
      = (integer? (if negative then -(natOf 10 whole : Int) else natOf 10 whole)).map
          fun data => (data, rest) := by
  unfold readDecimal
  rw [hwhole, Option.bind_eq_bind, Option.bind_some]
  dsimp only
  split
  · exact absurd rfl (hpoint _)
  · exact absurd rfl (hsmall _)
  · exact absurd rfl (hlarge _)
  · cases integer? (if negative then -(natOf 10 whole : Int) else natOf 10 whole) <;> rfl

theorem readDecimal_toDigits {n : Nat} (h : n < 0x8000000000000000) (rest : List Char) :
    readDecimal false (Nat.toDigits 10 n ++ '\n' :: rest) = some (.integer n, '\n' :: rest) := by
  obtain ⟨c, tail, hdigits, hc, htail, hzero⟩ := exists_cons_toDigits n
  have hwhole := wholeDigits_append hc htail hzero rest
  rw [← hdigits] at hwhole
  rw [readDecimal_whole hwhole (by simp) (by simp) (by simp), natOf_toDigits, if_neg (by simp),
    integer?_natCast h, Option.map_some]

/-- The digits of a number at the end of a line are in no other base, without a sign and no word. -/
theorem readNumber_toDigits {n : Nat} (h : n < 0x8000000000000000) (rest : List Char) :
    readNumber (Nat.toDigits 10 n ++ '\n' :: rest) = some (.integer n, '\n' :: rest) := by
  obtain ⟨c, tail, hdigits, hc, -, hzero⟩ := exists_cons_toDigits n
  have hdecimal := readDecimal_toDigits h rest
  rw [hdigits, List.cons_append] at hdecimal ⊢
  have hi : c ≠ 'i' := ne_of_isDigit hc (by decide)
  have hn : c ≠ 'n' := ne_of_isDigit hc (by decide)
  have hplus : c ≠ '+' := ne_of_isDigit hc (by decide)
  have hminus : c ≠ '-' := ne_of_isDigit hc (by decide)
  have hsigned : readSigned false (c :: (tail ++ '\n' :: rest))
      = readDecimal false (c :: (tail ++ '\n' :: rest)) := by
    rw [readSigned] <;> rintro after heq
    · exact hi (List.cons.inj heq).1
    · exact hn (List.cons.inj heq).1
  -- the letter of a base would stand right after a zero, where the line ends
  have hbase : ∀ letter after, letter ≠ '\n'
      → c :: (tail ++ '\n' :: rest) ≠ '0' :: letter :: after := by
    intro letter after hletter heq
    obtain ⟨rfl, htail⟩ := List.cons.inj heq
    rw [hzero rfl, List.nil_append] at htail
    exact hletter (List.cons.inj htail).1.symm
  rw [readNumber, hsigned, hdecimal]
  · exact fun after => hbase 'x' after (by decide)
  · exact fun after => hbase 'o' after (by decide)
  · exact fun after => hbase 'b' after (by decide)
  · exact fun after heq => hplus (List.cons.inj heq).1
  · exact fun after heq => hminus (List.cons.inj heq).1

/-! ## Integers as scalars -/

/-- An integer that is not negative and fits in 64 bits with a sign comes back. -/
theorem comesBack_integer {n : Nat} (h : n < 0x8000000000000000) : ComesBack (.integer n) := by
  obtain ⟨c, tail, hdigits, hc, htail, -⟩ := exists_cons_toDigits n
  have hspace : isSpace c = false := by
    have hblank : c ≠ ' ' := ne_of_isDigit hc (by decide)
    have htab : c ≠ '\t' := ne_of_isDigit hc (by decide)
    simp [isSpace, hblank, htab]
  refine ⟨c, tail, ?_, hspace, fun fuel rest => ?_⟩
  · rw [scalarText?, toList_toString_natCast, hdigits]
  · have hall : ∀ d ∈ c :: tail, d.isDigit = true := List.forall_mem_cons.2 ⟨hc, htail⟩
    have hmoment := skipMoment_digits hall rest
    have hnumber := readNumber_toDigits h rest
    rw [hdigits] at hnumber
    simp only [List.cons_append] at hmoment hnumber ⊢
    have hscalar : readScalar (c :: (tail ++ '\n' :: rest)) = some (.integer n, '\n' :: rest) := by
      rw [readScalar, hmoment, hnumber]
      · exact fun after heq => ne_of_isDigit hc (by decide) (List.cons.inj heq).1
      · exact fun after heq => ne_of_isDigit hc (by decide) (List.cons.inj heq).1
      · exact fun after heq => ne_of_isDigit hc (by decide) (List.cons.inj heq).1
      · exact fun after heq => ne_of_isDigit hc (by decide) (List.cons.inj heq).1
    rw [readValue, hscalar]
    · exact fun after heq => ne_of_isDigit hc (by decide) (List.cons.inj heq).1
    · exact fun after heq => ne_of_isDigit hc (by decide) (List.cons.inj heq).1

end RuntimeProfiles.Toml
