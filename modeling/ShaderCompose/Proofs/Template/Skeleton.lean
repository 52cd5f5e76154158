import ShaderCompose.Proofs.Template.TagFree
import ShaderCompose.Proofs.Text.Words

/-!
# Templates with names only

The tags of these templates print the value of a variable, or start or end a choice that depends on
one.  A template is a skeleton of texts and tags in turn.  When it is filled in, names give way to
texts and all other tags to nothing.  A skeleton can be put below another one, so that a template
can be given line by line; its tags have to nest over all lines together.
-/

set_option autoImplicit false

namespace ShaderCompose.Template

/-! ## Tags -/

/-- The words that stand for constants, and the one that negates what follows it: names that no
variable can have. -/
def keywords : List Text :=
  ["true".toList, "True".toList, "false".toList, "False".toList, "none".toList, "None".toList,
    "not".toList]

/-- The name of a variable as it can stand in a tag. -/
structure Variable where
  name : Text
  isName : Text.isName name = true := by decide +kernel
  isWord : Text.IsWord name := by decide +kernel
  free : name ∉ keywords := by decide +kernel

/-- Blanks inside a tag. -/
structure Padding where
  text : Text
  blank : text.Blank := by decide +kernel

/-- A single blank inside a tag. -/
def space : Padding := ⟨[' '], by decide⟩

/-- A tag that prints a variable, one that starts a choice by the truth of a variable, or one that
ends a choice; with the blanks in it. -/
inductive Tag where
  | print (before : Padding) (v : Variable) (after : Padding)
  | start (before between : Padding) (v : Variable) (after : Padding) (apart : between.text ≠ [])
  | finish (before after : Padding)

namespace Tag

/-- A tag as it is written. -/
def text : Tag → Text
  | print before v after =>
    "\x7b\x7b".toList ++ (before.text ++ (v.name ++ (after.text ++ "\x7d\x7d".toList)))
  | start before between v after _ =>
    "\x7b$".toList ++ (before.text ++ ("if".toList ++ (between.text ++ (v.name ++
      (after.text ++ "$\x7d".toList)))))
  | finish before after =>
    "\x7b$".toList ++ (before.text ++ ("endif".toList ++ (after.text ++ "$\x7d".toList)))

/-- What becomes of a tag when every name gives way to a text. -/
def filled (value : Text → Text) : Tag → Text
  | print _ v _ => value v.name
  | start _ _ _ _ _ => []
  | finish _ _ => []

/-- The name that a tag prints. -/
def printed? : Tag → Option Text
  | print _ v _ => some v.name
  | _ => none

/-- The name that a choice depends on. -/
def condition? : Tag → Option Text
  | start _ _ v _ _ => some v.name
  | _ => none

/-- The name that is looked up for a tag. -/
def used? (tag : Tag) : Option Text := tag.printed? <|> tag.condition?

end Tag

/-- The names that are looked up for tags. -/
def namesOf (tags : List Tag) : List Text := tags.filterMap Tag.used?

/-- Starts and ends of choices come in pairs, one inside the other or one behind the other. -/
inductive Nested : List Tag → Prop
  | nil : Nested []
  | print {before after : Padding} {v : Variable} {more : List Tag} :
      Nested more → Nested (.print before v after :: more)
  | choice {before between after before' after' : Padding} {v : Variable}
      {apart : between.text ≠ []} {inner more : List Tag} : Nested inner → Nested more →
        Nested (.start before between v after apart :: (inner ++ .finish before' after' :: more))

/-- No opening delimiter goes across a line feed. -/
theorem TagFree.append_lineFeed {t u : Text} (ht : TagFree t) (hu : TagFree u) :
    TagFree (t ++ '\n' :: u) := by
  intro opening hmem hwithin
  have hplain : ∀ d ∈ openings, '\n' ∉ d := by decide
  have hprefix : ∀ part rest : Text, opening = rest ++ part → part <+: '\n' :: u → part = [] := by
    intro part rest hopening hpart
    cases part with
    | nil => rfl
    | cons c part =>
      obtain rfl : c = '\n' := (List.cons_prefix_cons.mp hpart).1
      exact absurd (by simp [hopening]) (hplain opening hmem)
  rcases List.infix_append_iff.mp hwithin with hleft | hright | ⟨first, second, rfl, hfirst, hsecond⟩
  · exact ht opening hmem hleft
  · rcases List.infix_cons_iff.mp hright with hstart | hright
    · obtain rfl := hprefix opening [] rfl hstart
      exact absurd hmem (by decide)
    · exact hu opening hmem hright
  · obtain rfl := hprefix second first rfl hsecond
    exact ht first (by simpa using hmem) hfirst.isInfix

/-! ## Skeletons -/

/-- A tag with the text in front of it. -/
structure Piece where
  front : Text
  tag : Tag

/-- Tags with the text in front of each of them, and the text behind the last. -/
structure Skeleton where
  pieces : List Piece
  tail : Text

namespace Skeleton

/-- A skeleton as it is written. -/
def text (l : Skeleton) : Text := (l.pieces.flatMap fun p => p.front ++ p.tag.text) ++ l.tail

/-- A skeleton in which every name gives way to a text, and all other tags to nothing. -/
def filled (value : Text → Text) (l : Skeleton) : Text :=
  (l.pieces.flatMap fun p => p.front ++ p.tag.filled value) ++ l.tail

/-- The tags of a skeleton. -/
def tags (l : Skeleton) : List Tag := l.pieces.map Piece.tag

/-- The texts of a skeleton hold no opening delimiters, and a tag is not preceded by the character
that these start with. -/
structure Sound (l : Skeleton) : Prop where
  front : ∀ p ∈ l.pieces, TagFree p.front ∧ p.front.getLast? ≠ some '\x7b'
  tail : TagFree l.tail

instance (t : Text) : Decidable (TagFree t) :=
  decidable_of_iff ((findOpening t).isNone = true)
    (by rw [Option.isNone_iff_eq_none, findOpening_eq_none_iff])

instance (l : Skeleton) : Decidable l.Sound :=
  decidable_of_iff ((∀ p ∈ l.pieces, TagFree p.front ∧ p.front.getLast? ≠ some '\x7b') ∧
    TagFree l.tail) ⟨fun h => ⟨h.1, h.2⟩, fun h => ⟨h.front, h.tail⟩⟩

/-! ## Skeletons below each other -/

/-- A skeleton behind some text. -/
def behind (t : Text) (l : Skeleton) : Skeleton :=
  match l.pieces with
  | [] => ⟨[], t ++ l.tail⟩
  | p :: more => ⟨⟨t ++ p.front, p.tag⟩ :: more, l.tail⟩

/-- A skeleton on the line above another one. -/
def above (l m : Skeleton) : Skeleton :=
  ⟨l.pieces ++ (behind (l.tail ++ ['\n']) m).pieces, (behind (l.tail ++ ['\n']) m).tail⟩

/-- A skeleton from the skeletons of its lines. -/
def ofLines : List Skeleton → Skeleton
  | [] => ⟨[], []⟩
  | [l] => l
  | l :: m :: more => l.above (ofLines (m :: more))

section

variable (t : Text) (l m : Skeleton) (value : Text → Text)

/-- A skeleton behind some text is written behind it. -/
theorem text_behind : (l.behind t).text = t ++ l.text := by
  unfold behind text
  split <;> simp_all

/-- Filling it in leaves the text in front as it is. -/
theorem filled_behind : (l.behind t).filled value = t ++ l.filled value := by
  unfold behind filled
  split <;> simp_all

/-- Text in front adds no tags. -/
theorem tags_behind : (l.behind t).tags = l.tags := by
  unfold behind tags
  split <;> simp_all

/-- A skeleton above another one is written above it. -/
theorem text_above : (l.above m).text = l.text ++ '\n' :: m.text := by
  have h := text_behind (l.tail ++ ['\n']) m
  simp only [text, above, List.flatMap_append, List.append_assoc] at h ⊢
  rw [h]
  simp

/-- Two skeletons are filled in each on its own lines. -/
theorem filled_above : (l.above m).filled value = l.filled value ++ '\n' :: m.filled value := by
  have h := filled_behind (l.tail ++ ['\n']) m value
  simp only [filled, above, List.flatMap_append, List.append_assoc] at h ⊢
  rw [h]
  simp

/-- The tags of both are those of the first and then those of the second. -/
theorem tags_above : (l.above m).tags = l.tags ++ m.tags := by
  rw [← tags_behind (l.tail ++ ['\n']) m]
  simp [tags, above]

end

/-- The tags of a skeleton are those of its lines, in order. -/
theorem tags_ofLines (lines : List Skeleton) : (ofLines lines).tags = lines.flatMap tags := by
  fun_induction ofLines lines with
  | case1 => rfl
  | case2 l => simp
  | case3 l m more ih =>
    rw [tags_above, ih]
    rfl

/-- Sound skeletons make a sound one when one is put above the other. -/
theorem Sound.above {l m : Skeleton} (hl : l.Sound) (hm : m.Sound) : (l.above m).Sound := by
  obtain ⟨pieces, tail⟩ := m
  cases pieces with
  | nil =>
    refine ⟨fun p hp => ?_, ?_⟩
    · exact hl.front p (by simpa [Skeleton.above, behind] using hp)
    · simpa [Skeleton.above, behind] using hl.tail.append_lineFeed hm.tail
  | cons p more =>
    obtain ⟨hfree, hlast⟩ := hm.front p List.mem_cons_self
    refine ⟨fun q hq => ?_, hm.tail⟩
    rcases List.mem_append.mp hq with hq | hq
    · exact hl.front q hq
    · rcases List.mem_cons.mp hq with rfl | hq
      · refine ⟨by simpa using hl.tail.append_lineFeed hfree, ?_⟩
        show (l.tail ++ ['\n'] ++ p.front).getLast? ≠ some '\x7b'
        rw [List.getLast?_append]
        cases hp : p.front.getLast? with
        | none => simp
        | some c => simpa [hp] using hlast
      · exact hm.front q (List.mem_cons_of_mem p hq)

/-- A skeleton is sound if all of its lines are. -/
theorem Sound.ofLines {lines : List Skeleton} (h : ∀ l ∈ lines, l.Sound) :
    (ofLines lines).Sound := by
  fun_induction Skeleton.ofLines lines with
  | case1 => exact ⟨by simp, by decide⟩
  | case2 l => exact h l List.mem_cons_self
  | case3 l m more ih =>
    exact (h l List.mem_cons_self).above (ih fun k hk => h k (List.mem_cons_of_mem l hk))

end Skeleton

end ShaderCompose.Template
