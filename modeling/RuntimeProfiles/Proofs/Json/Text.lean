import RuntimeProfiles.Json.Text

/-!
# JSON strings come back

A string is written character by character, and every character becomes one piece of the scanned
string: `IsPieceOf` says that it has become the right one.

* **`exists_piece`** — what is written for a character is scanned as a piece of it;
* **`join_cons`** — the pieces of characters are put together as these characters, because none of
  them is half a surrogate pair;
* **`scan_encode`** — so a string is scanned up to its closing quote, and comes back.
-/

namespace RuntimeProfiles.Json

/-! ## Pieces -/

/-- The piece stands for the character: plainly, or as an escaped control. -/
def IsPieceOf (c : Char) (piece : Piece) : Prop :=
  piece = .char c ∨ c.toNat < 0x20 ∧ piece = .unit c.toNat

/-- A control is no half of a surrogate pair, whatever follows it. -/
theorem join_unit {c : Char} (h : c.toNat < 0x20) (rest : List Piece) :
    Piece.join (.unit c.toNat :: rest) = (c :: ·) <$> Piece.join rest := by
  have hlead : Piece.isLead c.toNat = false := by
    have hlow : ¬ 0xD800 ≤ c.toNat := by omega
    simp [Piece.isLead, hlow]
  have htrail : Piece.isTrail c.toNat = false := by
    have hlow : ¬ 0xDC00 ≤ c.toNat := by omega
    simp [Piece.isTrail, hlow]
  cases rest with
  | nil => simp [Piece.join, hlead, htrail]
  | cons next rest =>
    cases next with
    | char d => simp [Piece.join, hlead, htrail]
    | unit trail =>
      rw [Piece.join, hlead, htrail, if_neg (by simp), if_neg (by simp), Char.ofNat_toNat]

theorem join_cons {c : Char} {piece : Piece} (h : IsPieceOf c piece) (rest : List Piece) :
    Piece.join (piece :: rest) = (c :: ·) <$> Piece.join rest := by
  rcases h with rfl | ⟨hlow, rfl⟩
  · rw [Piece.join]
  · exact join_unit hlow rest

/-! ## Scanning -/

/-- The characters are scanned as one piece, whatever follows them. -/
def ScansAs (written : List Char) (piece : Piece) : Prop :=
  ∀ more, scan (written ++ more) = (scan more).map fun (pieces, rest) => (piece :: pieces, rest)

theorem scansAs_letter {e c : Char} (h : escaped? e = some c) : ScansAs ['\\', e] (.char c) := by
  have hu : e ≠ 'u' := by
    rintro rfl
    cases h
  intro more
  show scan ('\\' :: e :: more) = _
  rw [scan]
  · rw [h]
    cases scan more <;> rfl
  · rintro _ _ _ _ _ rfl _
    exact hu rfl

/-- Two digits after two zeros are enough for every control. -/
theorem ofDigits?_control : ∀ n < 0x20,
    Text.ofDigits? 16 Text.hexValue? ['0', '0', Nat.digitChar (n / 16), Nat.digitChar (n % 16)]
      = some n := by decide

theorem scansAs_digits {n : Nat} (h : n < 0x20) :
    ScansAs ('\\' :: 'u' :: '0' :: '0' :: Nat.digitChar (n / 16) :: [Nat.digitChar (n % 16)])
      (.unit n) := by
  intro more
  simp only [List.cons_append, List.nil_append]
  rw [scan, ofDigits?_control n h]
  cases scan more <;> rfl

theorem scansAs_plain {c : Char} (hlow : ¬ c.toNat < 0x20) (hquote : c ≠ '"') (hback : c ≠ '\\') :
    ScansAs [c] (.char c) := by
  intro more
  rw [List.singleton_append, scan]
  · rw [if_neg (not_or.2 ⟨hlow, hback⟩)]
    cases scan more <;> rfl
  · exact hquote
  · rintro _ _ _ _ _ rfl
    exact absurd rfl hback
  · rintro _ _ rfl
    exact absurd rfl hback

/-- What is written for a character is scanned as a piece of it. -/
theorem exists_piece (c : Char) : ∃ piece, ScansAs (encodeChar c) piece ∧ IsPieceOf c piece := by
  unfold encodeChar
  split
  · next h => rcases h with rfl | rfl <;> exact ⟨_, scansAs_letter rfl, .inl rfl⟩
  next hquote =>
  obtain ⟨hquote, hback⟩ := not_or.1 hquote
  split
  · next h => subst h; exact ⟨_, scansAs_letter rfl, .inl rfl⟩
  split
  · next h => subst h; exact ⟨_, scansAs_letter rfl, .inl rfl⟩
  split
  · next h => subst h; exact ⟨_, scansAs_letter rfl, .inl rfl⟩
  split
  · next h => subst h; exact ⟨_, scansAs_letter rfl, .inl rfl⟩
  split
  · next h => subst h; exact ⟨_, scansAs_letter rfl, .inl rfl⟩
  split
  · next hlow => exact ⟨_, scansAs_digits hlow, .inr ⟨hlow, rfl⟩⟩
  · next hlow => exact ⟨_, scansAs_plain hlow hquote hback, .inl rfl⟩

theorem exists_pieces (text rest : List Char) :
    ∃ pieces, scan (text.flatMap encodeChar ++ '"' :: rest) = some (pieces, rest)
      ∧ Piece.join pieces = some text := by
  induction text with
  | nil => exact ⟨[], by rw [List.flatMap_nil, List.nil_append, scan], rfl⟩
  | cons c text ih =>
    obtain ⟨pieces, hscan, hjoin⟩ := ih
    obtain ⟨piece, hpiece, hof⟩ := exists_piece c
    refine ⟨piece :: pieces, ?_, ?_⟩
    · rw [List.flatMap_cons, List.append_assoc, hpiece, hscan, Option.map_some]
    · rw [join_cons hof, hjoin, Option.map_eq_map, Option.map_some]

/-- **Strings come back.** After its opening quote a string that has been written is scanned up to
its closing quote, and its pieces are put together as the string. -/
theorem scan_encode (text rest : List Char) :
    ∃ pieces, encode text ++ rest = '"' :: (text.flatMap encodeChar ++ '"' :: rest)
      ∧ scan (text.flatMap encodeChar ++ '"' :: rest) = some (pieces, rest)
      ∧ Piece.join pieces = some text := by
  obtain ⟨pieces, hscan, hjoin⟩ := exists_pieces text rest
  refine ⟨pieces, ?_, hscan, hjoin⟩
  rw [encode, List.cons_append, List.cons_append, List.append_assoc, List.singleton_append]

end RuntimeProfiles.Json
