import ShaderCompose.Proofs.Expansion.LineBreaks
import ShaderCompose.Proofs.Text.Utf8

/-!
# Sources that are bytes

What is read of bytes is the text that they encode behind a byte order mark, if there is one.  A
second mark belongs to the text, and bytes that encode no text make the source unavailable
(`Registry.read_decodes`).  So a reader may give a text as it is or as its bytes, with a mark or
without one, and compositions are the same, as long as the text does not start with the character
that the mark encodes.
-/

set_option autoImplicit false

namespace ShaderCompose

open Text.Utf8 (mark markChar encode)

/-- The ways in which a reader can give a text: as it is, or as bytes, with a byte order mark or
without one. -/
inductive ReadOutcome.Gives (t : Text) : ReadOutcome → Prop
  | text : Gives t (.text t)
  | bytes : Gives t (.bytes (encode t))
  | marked : Gives t (.bytes (mark ++ encode t))

/-- The same content, or one text that is given in two ways and does not start with the character of
a byte order mark. -/
inductive ReadOutcome.AlikeTexts : ReadOutcome → ReadOutcome → Prop
  | same {content : ReadOutcome} : AlikeTexts content content
  | texts {content other : ReadOutcome} {t : Text} : t.head? ≠ some markChar →
      content.Gives t → other.Gives t → AlikeTexts content other

/-- Readers that have the same sources, with texts that may be given in different ways. -/
structure Reader.AlikeTexts (reader other : Reader) : Prop where
  has (file : SourceFile) : other.has file = reader.has file
  read (file : SourceFile) : (reader.read file).AlikeTexts (other.read file)

/-- The failure to read bytes that encode no text. -/
def undecodable (file : SourceFile) : Failure :=
  .effect (.sourceUnavailable file "not valid utf-8".toList (some .undecodable))

/-- The text of bytes is what they encode behind a mark, if they encode a text. -/
theorem ReadOutcome.text?_bytes (data : List UInt8) :
    (ReadOutcome.bytes data).text? =
      (Text.Utf8.decode (Text.Utf8.dropMark data)).toOption := rfl

/-- What gives a text that does not start with the character of the mark is read as this text. -/
theorem ReadOutcome.Gives.text? {t : Text} {content : ReadOutcome} (h : content.Gives t)
    (hmark : t.head? ≠ some markChar) : content.text? = some t := by
  have hdecode : Text.Utf8.decode (encode t) = .ok t := Text.Utf8.decode_eq_ok_iff.mpr rfl
  cases h with
  | text => rfl
  | bytes =>
    rw [ReadOutcome.text?_bytes, Text.Utf8.dropMark_encode, if_neg hmark, hdecode]
    rfl
  | marked =>
    rw [ReadOutcome.text?_bytes, Text.Utf8.dropMark_mark_append, hdecode]
    rfl

/-- Contents that give the same text in two ways are alike in their lines. -/
theorem ReadOutcome.AlikeTexts.alikeLines {content other : ReadOutcome}
    (h : content.AlikeTexts other) : content.AlikeLines other := by
  cases h with
  | same => exact .same
  | texts hmark hgives hgives' => exact .texts (hgives.text? hmark) (hgives'.text? hmark) rfl

/-- Readers that give the same texts in different ways are alike in their lines. -/
theorem Reader.AlikeTexts.alikeLines {reader other : Reader} (h : reader.AlikeTexts other) :
    reader.AlikeLines other where
  has := h.has
  read file := (h.read file).alikeLines

/-- Tables are alike if they have the same locations, with texts that may be given in different
ways. -/
theorem Reader.alikeTexts_of_table {shelf other : Shelf}
    (h : List.Forall₂ (fun a b => b.1 = a.1 ∧ ReadOutcome.AlikeTexts a.2 b.2) shelf other) :
    (Reader.table shelf).AlikeTexts (.table other) where
  has := Reader.has_table h
  read := Reader.read_table .same h

namespace Registry

variable {r : Registry} {file : SourceFile} {data : List UInt8}

/-- Bytes that encode a text behind a mark are read as this text. -/
theorem read_of_decode_eq_ok {t : Text} (h : r.reader.read file = .bytes data)
    (hdecode : Text.Utf8.decode (Text.Utf8.dropMark data) = .ok t) : r.read file = .ok t := by
  rw [read_eq_ok_iff, h, ReadOutcome.text?_bytes, hdecode]
  rfl

/-- Bytes that encode no text cannot be read, and the failure names the source. -/
theorem read_of_decode_ne_ok (h : r.reader.read file = .bytes data)
    (hdecode : ∀ t, Text.Utf8.decode (Text.Utf8.dropMark data) ≠ .ok t) :
    r.read file = .error (undecodable file) := by
  unfold Registry.read
  rw [Reader.sourceReader_read, h]
  dsimp only [ReadOutcome.decode]
  cases hresult : Text.Utf8.decode (Text.Utf8.dropMark data) with
  | ok t => exact absurd hresult (hdecode t)
  | error e => rfl

/-- Reading decodes exactly the encodings of texts, behind at most one byte order mark.  What is
read of an encoded text behind a mark is the text; without a mark it is the text as well, but
without its first character if this is the one that the mark encodes.  Bytes that encode no text,
when one mark in front of them does not count, make the source unavailable because they cannot be
decoded.  Texts that do not start with the character of the mark are composed alike, whichever way a
reader gives them. -/
theorem read_decodes (r : Registry) (file : SourceFile) :
    (∀ t, r.reader.read file = .bytes (mark ++ encode t) → r.read file = .ok t) ∧
    (∀ t, r.reader.read file = .bytes (encode t) →
      r.read file = .ok (if t.head? = some markChar then t.tail else t)) ∧
    (∀ data body, r.reader.read file = .bytes data →
      (data = mark ++ body ∨ ¬mark <+: data ∧ data = body) → (∀ t, body ≠ encode t) →
        r.read file = .error (undecodable file)) ∧
    ∀ other : Reader, r.reader.AlikeTexts other → ∀ m n : Memory, n.cache = m.cache →
      ∀ (key : Value) (vars : Composer.Vars),
        (Composer.compose { r with reader := other } key vars n).1 =
          (Composer.compose r key vars m).1 ∧
        (Composer.compose { r with reader := other } key vars n).2.cache =
          (Composer.compose r key vars m).2.cache := by
  refine ⟨?_, ?_, ?_, ?_⟩
  · intro t hread
    apply read_of_decode_eq_ok hread
    rw [Text.Utf8.dropMark_mark_append, Text.Utf8.decode_eq_ok_iff]
  · intro t hread
    apply read_of_decode_eq_ok hread
    rw [Text.Utf8.dropMark_encode, Text.Utf8.decode_eq_ok_iff]
  · intro data body hread hbody hnone
    have hdrop : Text.Utf8.dropMark data = body := by
      rcases hbody with rfl | ⟨hmark, rfl⟩
      · exact Text.Utf8.dropMark_mark_append body
      · exact Text.Utf8.dropMark_of_not_prefix hmark
    apply read_of_decode_ne_ok hread
    intro t hdecode
    rw [hdrop, Text.Utf8.decode_eq_ok_iff] at hdecode
    exact hnone t hdecode
  · intro other hother m n hcache key vars
    exact hother.alikeLines.stepsAs.compose hcache key vars

/-- The text of a file that includes another one, and the text of that one. -/
def hazeText : Text := "-- main\n#include \"dust.top\"\nh\n".toList

/-- The text of the file that is included, with characters of two, three and four bytes. -/
def dustText : Text := "-- top\nfloat d; // é€🌫\n".toList

/-- A file whose bytes have a mark, one whose bytes have two, one whose bytes have none, and one
with a surrogate behind a mark. -/
def hazeShelf : Shelf :=
  [("fx/haze.glsl".toList, .bytes (mark ++ encode hazeText)),
    ("fx/fog.glsl".toList, .bytes (encode (markChar :: markChar :: hazeText))),
    ("fx/dust.glsl".toList, .bytes (encode dustText)),
    ("fx/soot.glsl".toList, .bytes (mark ++ [0x2d, 0x2d, 0xed, 0xa0, 0x80]))]

/-- The first and the third file as texts. -/
def mistShelf : Shelf :=
  [("fx/haze.glsl".toList, .text hazeText),
    ("fx/fog.glsl".toList, .bytes (encode (markChar :: markChar :: hazeText))),
    ("fx/dust.glsl".toList, .text dustText),
    ("fx/soot.glsl".toList, .bytes (mark ++ [0x2d, 0x2d, 0xed, 0xa0, 0x80]))]

/-- The scene with the four files. -/
def hazeScene : Registry := ⟨[], "fx".toList, "glsl".toList, .table hazeShelf, "/work".toList⟩

/-- The shelf of bytes and the shelf of texts give the same texts. -/
theorem hazeShelf_alikeTexts : (Reader.table hazeShelf).AlikeTexts (.table mistShelf) := by
  apply Reader.alikeTexts_of_table
  refine .cons ⟨rfl, ?_⟩ (.cons ⟨rfl, .same⟩ (.cons ⟨rfl, ?_⟩ (.cons ⟨rfl, .same⟩ .nil)))
  · exact .texts (t := hazeText) (by decide) .marked .text
  · exact .texts (t := dustText) (by decide) .bytes .text

/-- One mark is no part of the text and a second one is, a surrogate is not decoded, and the two
files that are bytes compose as they do as texts. -/
theorem read_decodes_haze :
    hazeScene.read (hazeScene.fileAt "haze".toList "fx/haze.glsl".toList) = .ok hazeText ∧
    hazeScene.read (hazeScene.fileAt "fog".toList "fx/fog.glsl".toList) =
      .ok (markChar :: hazeText) ∧
    hazeScene.read (hazeScene.fileAt "soot".toList "fx/soot.glsl".toList) =
      .error (undecodable (hazeScene.fileAt "soot".toList "fx/soot.glsl".toList)) ∧
    ∃ c m', Composer.compose hazeScene (.text "haze.main".toList) [] ⟨.empty, [], []⟩ =
        (.ok c, m') ∧
      c.code = "#line 2 1\nfloat d; // é€🌫\n#line 3 0\nh\n".toList ∧
      (Composer.compose { hazeScene with reader := .table mistShelf } (.text "haze.main".toList) []
        ⟨.empty, [], []⟩).1 = .ok c := by
  refine ⟨?_, ?_, ?_, ?_⟩
  · exact (read_decodes hazeScene _).1 hazeText (by decide +kernel)
  · exact (read_decodes hazeScene _).2.1 (markChar :: markChar :: hazeText) (by decide +kernel)
  · refine (read_decodes hazeScene _).2.2.1 _ [0x2d, 0x2d, 0xed, 0xa0, 0x80] (by decide +kernel)
      (.inl rfl) ?_
    intro t ht
    have hnone : (Text.Utf8.decode [0x2d, 0x2d, 0xed, 0xa0, 0x80]).toOption = none := by
      decide +kernel
    rw [Text.Utf8.decode_eq_ok_iff.mpr ht] at hnone
    exact Option.some_ne_none t hnone
  · obtain ⟨c, m', hcompose, htest⟩ := exists_of_any
      (Composer.compose hazeScene (.text "haze.main".toList) [] ⟨.empty, [], []⟩)
      (fun c => c.code ==
        "#line 2 1\nfloat d; // é€🌫\n#line 3 0\nh\n".toList) (by decide +kernel)
    obtain ⟨hsame, -⟩ := (read_decodes hazeScene
      (hazeScene.fileAt "haze".toList "fx/haze.glsl".toList)).2.2.2 (.table mistShelf)
        hazeShelf_alikeTexts ⟨.empty, [], []⟩ ⟨.empty, [], []⟩ rfl (.text "haze.main".toList) []
    rw [hcompose] at hsame
    exact ⟨c, m', hcompose, beq_iff_eq.mp htest, hsame⟩

end Registry

end ShaderCompose
