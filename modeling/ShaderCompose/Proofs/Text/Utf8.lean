import ShaderCompose.Proofs.Lists
import ShaderCompose.Text.Utf8

/-!
# Bytes of texts

Decoding gives back the text that was encoded, and bytes that are decoded are the encoding of what
they are decoded to, so the bytes that have a text are the encodings of texts and no others
(`decode_eq_ok_iff`).  Both directions rest on one lemma for each length of a sequence: it is
decoded in one step, and it is the encoding of the character that comes out.
-/

set_option autoImplicit false

namespace ShaderCompose.Text.Utf8

/-! ## Bytes as numbers -/

/-- A continuation byte is one from 128 on and below 192. -/
theorem isContinuation_iff {b : UInt8} :
    isContinuation b = true ↔ 128 ≤ b.toNat ∧ b.toNat < 192 := by
  simp [isContinuation, UInt8.le_iff_toNat_le, UInt8.lt_iff_toNat_lt]

/-- The byte behind a starting one is a continuation byte, within narrower bounds behind four of the
starting bytes. -/
theorem followsStart_iff {a b : UInt8} : followsStart a b = true ↔
    (128 ≤ b.toNat ∧ b.toNat < 192) ∧ (a.toNat = 224 → 160 ≤ b.toNat) ∧
      (a.toNat = 237 → b.toNat < 160) ∧ (a.toNat = 240 → 144 ≤ b.toNat) ∧
      (a.toNat = 244 → b.toNat < 144) := by
  simp only [followsStart, Bool.and_eq_true, isContinuation_iff, ← UInt8.toNat_inj,
    UInt8.le_iff_toNat_le, UInt8.lt_iff_toNat_lt, UInt8.reduceToNat]
  grind

/-! ## Sequences -/

section

variable {a b c d : UInt8} {position : Nat} {rest : List UInt8}

/-- A byte below 128 is decoded to the character with its code. -/
theorem decodeAt_one (ha : a.toNat < 128) :
    decodeAt position (a :: rest) =
      (decodeAt (position + 1) rest).map (Char.ofNat a.toNat :: ·) := by
  rw [decodeAt.eq_def]
  simp only [UInt8.lt_iff_toNat_lt, UInt8.reduceToNat]
  rw [if_pos ha]

/-- A sequence of two bytes is decoded to one character. -/
theorem decodeAt_two (ha : 194 ≤ a.toNat) (ha' : a.toNat < 224) (hb : isContinuation b = true) :
    decodeAt position (a :: b :: rest) = (decodeAt (position + 2) rest).map
      (Char.ofNat (a.toNat % 32 * 64 + payload b) :: ·) := by
  rw [decodeAt.eq_def]
  simp only [UInt8.lt_iff_toNat_lt, UInt8.reduceToNat]
  rw [if_neg (by omega), if_neg (by omega), if_pos (by omega), if_pos hb]

/-- A sequence of three bytes is decoded to one character. -/
theorem decodeAt_three (ha : 224 ≤ a.toNat) (ha' : a.toNat < 240) (hb : followsStart a b = true)
    (hc : isContinuation c = true) :
    decodeAt position (a :: b :: c :: rest) = (decodeAt (position + 3) rest).map
      (Char.ofNat ((a.toNat % 16 * 64 + payload b) * 64 + payload c) :: ·) := by
  rw [decodeAt.eq_def]
  simp only [UInt8.lt_iff_toNat_lt, UInt8.reduceToNat]
  rw [if_neg (by omega), if_neg (by omega), if_neg (by omega), if_pos (by omega), if_pos hb,
    if_pos hc]

/-- A sequence of four bytes is decoded to one character. -/
theorem decodeAt_four (ha : 240 ≤ a.toNat) (ha' : a.toNat < 245) (hb : followsStart a b = true)
    (hc : isContinuation c = true) (hd : isContinuation d = true) :
    decodeAt position (a :: b :: c :: d :: rest) = (decodeAt (position + 4) rest).map
      (Char.ofNat (((a.toNat % 8 * 64 + payload b) * 64 + payload c) * 64 + payload d) :: ·) := by
  rw [decodeAt.eq_def]
  simp only [UInt8.lt_iff_toNat_lt, UInt8.reduceToNat]
  rw [if_neg (by omega), if_neg (by omega), if_neg (by omega), if_neg (by omega),
    if_pos (by omega), if_pos hb, if_pos hc, if_pos hd]

/-- The value of a character is the code that it was made of. -/
theorem val_ofNat {n : Nat} (h : n.isValidChar) : (Char.ofNat n).val.toNat = n := by
  unfold Char.ofNat
  rw [dif_pos h]
  rfl

/-- The character of one byte is encoded to it. -/
theorem encode_one (ha : a.toNat < 128) : String.utf8EncodeChar (Char.ofNat a.toNat) = [a] := by
  unfold String.utf8EncodeChar
  rw [val_ofNat (Or.inl (by omega))]
  dsimp only
  rw [if_pos (by omega), UInt8.ofNat_toNat]

/-- The character of a sequence of two bytes is encoded to this sequence. -/
theorem encode_two (ha : 194 ≤ a.toNat) (ha' : a.toNat < 224) (hb : isContinuation b = true) :
    String.utf8EncodeChar (Char.ofNat (a.toNat % 32 * 64 + payload b)) = [a, b] := by
  obtain ⟨hb, hb'⟩ := isContinuation_iff.mp hb
  unfold payload String.utf8EncodeChar
  rw [val_ofNat (Or.inl (by omega))]
  dsimp only
  rw [if_neg (by omega), if_pos (by omega)]
  simp only [List.cons.injEq, ← UInt8.toNat_inj, UInt8.toNat_ofNat', and_true]
  omega

/-- The character of a sequence of three bytes is encoded to this sequence. -/
theorem encode_three (ha : 224 ≤ a.toNat) (ha' : a.toNat < 240) (hb : followsStart a b = true)
    (hc : isContinuation c = true) :
    String.utf8EncodeChar (Char.ofNat ((a.toNat % 16 * 64 + payload b) * 64 + payload c)) =
      [a, b, c] := by
  obtain ⟨⟨hb, hb'⟩, hshort, hsurrogate, -, -⟩ := followsStart_iff.mp hb
  obtain ⟨hc, hc'⟩ := isContinuation_iff.mp hc
  unfold payload String.utf8EncodeChar
  rw [val_ofNat (by unfold Nat.isValidChar; omega)]
  dsimp only
  rw [if_neg (by omega), if_neg (by omega), if_pos (by omega)]
  simp only [List.cons.injEq, ← UInt8.toNat_inj, UInt8.toNat_ofNat', and_true]
  omega

/-- The character of a sequence of four bytes is encoded to this sequence. -/
theorem encode_four (ha : 240 ≤ a.toNat) (ha' : a.toNat < 245) (hb : followsStart a b = true)
    (hc : isContinuation c = true) (hd : isContinuation d = true) :
    String.utf8EncodeChar
        (Char.ofNat (((a.toNat % 8 * 64 + payload b) * 64 + payload c) * 64 + payload d)) =
      [a, b, c, d] := by
  obtain ⟨⟨hb, hb'⟩, -, -, hshort, hlast⟩ := followsStart_iff.mp hb
  obtain ⟨hc, hc'⟩ := isContinuation_iff.mp hc
  obtain ⟨hd, hd'⟩ := isContinuation_iff.mp hd
  unfold payload String.utf8EncodeChar
  rw [val_ofNat (by unfold Nat.isValidChar; omega)]
  dsimp only
  rw [if_neg (by omega), if_neg (by omega), if_neg (by omega)]
  simp only [List.cons.injEq, ← UInt8.toNat_inj, UInt8.toNat_ofNat', and_true]
  omega

end

/-! ## Whole texts -/

/-- The encoding of a character is decoded to it, whatever follows. -/
theorem decodeAt_encodeChar (c : Char) (position : Nat) (rest : List UInt8) :
    ∃ next, decodeAt position (String.utf8EncodeChar c ++ rest) =
      (decodeAt next rest).map (c :: ·) := by
  have hvalid : c.val.toNat.isValidChar := c.valid
  have hback : ∀ n, n = c.val.toNat → Char.ofNat n = c := by
    rintro n rfl
    exact Char.ofNat_toNat c
  unfold String.utf8EncodeChar
  generalize c.val.toNat = n at hvalid hback
  unfold Nat.isValidChar at hvalid
  dsimp only
  -- one case for each length of the encoding
  split
  · refine ⟨position + 1, ?_⟩
    rw [List.cons_append, List.nil_append, decodeAt_one, hback]
    all_goals
      simp only [UInt8.toNat_ofNat']
      omega
  split
  · refine ⟨position + 2, ?_⟩
    rw [List.cons_append, List.cons_append, List.nil_append, decodeAt_two, hback]
    all_goals
      simp only [payload, isContinuation_iff, UInt8.toNat_ofNat']
      omega
  split
  · refine ⟨position + 3, ?_⟩
    rw [List.cons_append, List.cons_append, List.cons_append, List.nil_append, decodeAt_three,
      hback]
    all_goals
      simp only [payload, isContinuation_iff, followsStart_iff, UInt8.toNat_ofNat']
      omega
  · refine ⟨position + 4, ?_⟩
    rw [List.cons_append, List.cons_append, List.cons_append, List.cons_append, List.nil_append,
      decodeAt_four, hback]
    all_goals
      simp only [payload, isContinuation_iff, followsStart_iff, UInt8.toNat_ofNat']
      omega

/-- A text is encoded character by character. -/
theorem encode_cons (c : Char) (t : Text) :
    encode (c :: t) = String.utf8EncodeChar c ++ encode t := List.flatMap_cons

/-- What was encoded is decoded to the text from before, whatever position it is said to have. -/
theorem decodeAt_encode (t : Text) (position : Nat) : decodeAt position (encode t) = .ok t := by
  induction t generalizing position with
  | nil => rw [encode, List.flatMap_nil, decodeAt.eq_1]
  | cons c t ih =>
    obtain ⟨next, hnext⟩ := decodeAt_encodeChar c position (encode t)
    rw [encode_cons, hnext, ih]
    rfl

/-- Bytes that are decoded to a text are its encoding. -/
theorem encode_of_decodeAt {position : Nat} {data : List UInt8} {t : Text}
    (h : decodeAt position data = .ok t) : data = encode t := by
  -- the decoder goes on behind a sequence of each length; all its other cases are failures
  fun_induction decodeAt position data generalizing t with
  | case1 position =>
    obtain rfl : [] = t := Except.ok.inj h
    rfl
  | case2 position a rest ha ih =>
    obtain ⟨u, hrest, rfl⟩ := map_eq_ok h
    rw [UInt8.lt_iff_toNat_lt] at ha
    rw [encode_cons, encode_one ha, ← ih hrest]
    rfl
  | case5 position a h1 h2 h3 b rest hb ih =>
    obtain ⟨u, hrest, rfl⟩ := map_eq_ok h
    rw [UInt8.lt_iff_toNat_lt] at h1 h2 h3
    rw [encode_cons, encode_two (by simpa using h2) h3 hb, ← ih hrest]
    rfl
  | case9 position a h1 h2 h3 h4 b hb c rest hc ih =>
    obtain ⟨u, hrest, rfl⟩ := map_eq_ok h
    rw [UInt8.lt_iff_toNat_lt] at h3 h4
    rw [encode_cons, encode_three (by simpa using h3) h4 hb hc, ← ih hrest]
    rfl
  | case15 position a h1 h2 h3 h4 h5 b hb c hc d rest hd ih =>
    obtain ⟨u, hrest, rfl⟩ := map_eq_ok h
    rw [UInt8.lt_iff_toNat_lt] at h4 h5
    rw [encode_cons, encode_four (by simpa using h4) h5 hb hc hd, ← ih hrest]
    rfl
  | case3 | case4 | case6 | case7 | case8 | case10 | case11 | case12 | case13 | case14 | case16
  | case17 | case18 | case19 => cases h

/-- The bytes that have a text are the encodings of texts, and no others. -/
theorem decode_eq_ok_iff {data : List UInt8} {t : Text} : decode data = .ok t ↔ data = encode t :=
  ⟨encode_of_decodeAt, fun h => h ▸ decodeAt_encode t 0⟩

/-! ## Byte order marks -/

/-- The character that a byte order mark encodes. -/
def markChar : Char := '\ufeff'

/-- The character of the mark is encoded to the mark. -/
theorem encode_markChar_cons (t : Text) : encode (markChar :: t) = mark ++ encode t := by
  rw [encode_cons]
  rfl

/-- A mark in front of bytes is dropped. -/
@[simp]
theorem dropMark_mark_append (body : List UInt8) : dropMark (mark ++ body) = body := rfl

/-- Bytes that do not start with a mark stay as they are. -/
theorem dropMark_of_not_prefix {data : List UInt8} (h : ¬mark <+: data) : dropMark data = data := by
  unfold dropMark
  split
  · rename_i rest
    exact absurd (List.prefix_append mark rest) h
  · rfl

/-- The encoding of a text starts with a byte order mark only if the text starts with its
character. -/
theorem head?_of_mark_prefix {t : Text} (h : mark <+: encode t) : t.head? = some markChar := by
  obtain ⟨body, hbody⟩ := h
  have hdecode : decodeAt 0 (mark ++ body) = .ok t := by rw [hbody, decodeAt_encode]
  obtain ⟨next, hnext⟩ := decodeAt_encodeChar markChar 0 body
  have hmark : String.utf8EncodeChar markChar = mark := rfl
  rw [hmark, hdecode] at hnext
  obtain ⟨u, -, rfl⟩ := map_eq_ok hnext.symm
  rfl

/-- The encoding of a text without its mark is that of the text without the character of the mark at
its start. -/
theorem dropMark_encode (t : Text) :
    dropMark (encode t) = encode (if t.head? = some markChar then t.tail else t) := by
  by_cases h : t.head? = some markChar
  · obtain ⟨u, rfl⟩ := List.head?_eq_some_iff.mp h
    rw [if_pos h, encode_markChar_cons, dropMark_mark_append, List.tail_cons]
  · rw [if_neg h, dropMark_of_not_prefix (mt head?_of_mark_prefix h)]

end ShaderCompose.Text.Utf8
