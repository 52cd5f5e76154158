import ShaderCompose.Proofs.Spelling.Backslashes
import ShaderCompose.Proofs.Text.CharacterRuns

/-!
# The forms of include lines

An include line is the keyword, some blanks, and a rest that does not start with a blank.  The rest
names a key: the one in quotes or brackets that it starts with, or else everything up to the first
blank.  `Include.Directive` and `Include.Names` say so without a scanner.

A key without blanks, quotes and brackets can therefore be written in three forms, with any blanks
in front of it and any text behind it.  Lines that are reworded in this way make the same blocks and
stand for the same steps, so a composition does not depend on the forms of the include lines.
-/

set_option autoImplicit false

namespace ShaderCompose

namespace Include

/-! ## Keys in quotes and brackets -/

/-- A key is enclosed up to a closing character if it is not empty and the first such character
comes right behind it. -/
theorem enclosed?_eq_some_iff {close : Char} {t key : Text} :
    enclosed? close t = some key ↔ key ≠ [] ∧ close ∉ key ∧ ∃ tail, t = key ++ close :: tail := by
  constructor
  · intro h
    unfold enclosed? at h
    split at h
    · next first more d tail htake hdrop =>
      obtain rfl : first :: more = key := Option.some.inj h
      obtain ⟨hclose, ht⟩ := Text.of_dropWhile_ne hdrop
      rw [htake] at hclose ht
      exact ⟨List.cons_ne_nil first more, hclose, tail, ht⟩
    · simp at h
  · rintro ⟨hne, hclose, tail, rfl⟩
    obtain ⟨first, more, rfl⟩ := List.exists_cons_of_ne_nil hne
    obtain ⟨htake, hdrop⟩ := Text.takeWhile_ne_append hclose tail
    unfold enclosed?
    rw [htake, hdrop]

/-- A text that starts with a key in quotes or in brackets. -/
inductive Enclosed : Text → Text → Prop
  | quoted {key tail : Text} : key ≠ [] → '"' ∉ key → Enclosed ('"' :: (key ++ '"' :: tail)) key
  | bracketed {key tail : Text} : key ≠ [] → '>' ∉ key →
      Enclosed ('<' :: (key ++ '>' :: tail)) key

/-- Only quotes and brackets open something, and each is closed by its own character. -/
theorem closing?_cases {c close : Char} (h : closing? c = some close) :
    c = '"' ∧ close = '"' ∨ c = '<' ∧ close = '>' := by
  unfold closing? at h
  split at h
  · next hquote => exact Or.inl ⟨hquote, (Option.some.inj h).symm⟩
  · split at h
    · next hangle => exact Or.inr ⟨hangle, (Option.some.inj h).symm⟩
    · simp at h

/-- A text starts with an enclosed key exactly if its first character opens something and the key is
enclosed in what follows. -/
theorem enclosed_cons_iff {c : Char} {rest key : Text} :
    Enclosed (c :: rest) key ↔ (closing? c).bind (enclosed? · rest) = some key := by
  constructor
  · intro h
    cases h with
    | quoted hne hclose => exact enclosed?_eq_some_iff.mpr ⟨hne, hclose, _, rfl⟩
    | bracketed hne hclose => exact enclosed?_eq_some_iff.mpr ⟨hne, hclose, _, rfl⟩
  · intro h
    obtain ⟨close, hclosing, henclosed⟩ := Option.bind_eq_some_iff.mp h
    obtain ⟨hne, hclose, tail, rfl⟩ := enclosed?_eq_some_iff.mp henclosed
    rcases closing?_cases hclosing with ⟨rfl, rfl⟩ | ⟨rfl, rfl⟩
    · exact .quoted hne hclose
    · exact .bracketed hne hclose

/-! ## Which key is named -/

/-- The key that a text names: the one in quotes or brackets that it starts with, and if there is
none the longest start without blanks. -/
inductive Names : Text → Text → Prop
  | enclosed {t key : Text} : Enclosed t key → Names t key
  | bare {key tail : Text} : (∀ inner, ¬ Enclosed (key ++ tail) inner) → key.Unblank →
      (∀ c ∈ tail.head?, Text.isBlank c = true) → Names (key ++ tail) key

/-- The key of a text that starts with an enclosed one is this key. -/
theorem keyAt_of_enclosed {t key : Text} (h : Enclosed t key) : keyAt t = key := by
  cases t with
  | nil => nomatch h
  | cons c rest => rw [keyAt_cons, enclosed_cons_iff.mp h, Option.getD_some]

/-- The key of any other text is what it starts with up to the first blank. -/
theorem keyAt_of_not_enclosed {t : Text} (h : ∀ key, ¬ Enclosed t key) : keyAt t = bare t := by
  cases t with
  | nil => rfl
  | cons c rest =>
    have hnone : (closing? c).bind (enclosed? · rest) = none := by
      rw [Option.eq_none_iff_forall_ne_some]
      exact fun key hkey => h key (enclosed_cons_iff.mpr hkey)
    rw [keyAt_cons, hnone, Option.getD_none]

/-- A bare key with a blank behind it, or nothing, ends where the blank begins. -/
theorem bare_append {key tail : Text} (hkey : key.Unblank)
    (htail : ∀ c ∈ tail.head?, Text.isBlank c = true) : bare (key ++ tail) = key := by
  have hrun : ∀ c ∈ key, (!Text.isBlank c) = true := fun c hc => by rw [hkey c hc]; rfl
  have hstop : ∀ c ∈ tail.head?, (!Text.isBlank c) = false := fun c hc => by rw [htail c hc]; rfl
  exact (Text.takeWhile_run hrun hstop).1

/-- Every text names one key, which is the one that is read off. -/
theorem names_iff {t key : Text} : Names t key ↔ key = keyAt t := by
  constructor
  · intro h
    cases h with
    | enclosed henclosed => exact (keyAt_of_enclosed henclosed).symm
    | bare hnone hkey htail => rw [keyAt_of_not_enclosed hnone, bare_append hkey htail]
  · rintro rfl
    by_cases henclosed : ∃ key, Enclosed t key
    · obtain ⟨key, hkey⟩ := henclosed
      rw [keyAt_of_enclosed hkey]
      exact .enclosed hkey
    · have hnone := not_exists.mp henclosed
      have hsplit : bare t ++ t.dropWhile (fun c => !Text.isBlank c) = t :=
        List.takeWhile_append_dropWhile
      have hunblank : (bare t).Unblank := by
        intro c hc
        simpa using List.mem_takeWhile_imp hc
      have hstop : ∀ c ∈ (t.dropWhile fun c => !Text.isBlank c).head?, Text.isBlank c = true := by
        intro c hc
        simpa using Text.head?_behind_run t c hc
      rw [keyAt_of_not_enclosed hnone]
      have hbare : Names (bare t ++ t.dropWhile fun c => !Text.isBlank c) (bare t) :=
        .bare (by rwa [hsplit]) hunblank hstop
      rwa [hsplit] at hbare

/-- The key of a text that starts with no blank is not empty. -/
theorem keyAt_ne_nil {c : Char} (hc : Text.isBlank c = false) (rest : Text) :
    keyAt (c :: rest) ≠ [] := by
  intro hnil
  have hnames : Names (c :: rest) [] := names_iff.mpr hnil.symm
  generalize ht : c :: rest = t at hnames
  cases hnames with
  | enclosed henclosed => cases henclosed <;> contradiction
  | bare _ _ htail =>
    rw [List.nil_append] at ht
    rw [← ht] at htail
    simp [hc] at htail

/-! ## Include lines -/

/-- An include line: the keyword, one blank or more, and a rest that starts with no blank. -/
def Directive (line rest : Text) : Prop :=
  (∃ blanks, line = keyword ++ (blanks ++ rest) ∧ blanks ≠ [] ∧ blanks.Blank) ∧
    ∃ c ∈ rest.head?, Text.isBlank c = false

section

variable {line rest key : Text}

/-- The key of an include line is the one at the start of the rest behind the keyword. -/
theorem Directive.key?_eq (h : Directive line rest) : key? line = some (keyAt rest) := by
  obtain ⟨⟨blanks, rfl, hne, hblank⟩, c, hc, hstart⟩ := h
  obtain ⟨tail, rfl⟩ : ∃ tail, rest = c :: tail := List.head?_eq_some_iff.mp hc
  obtain ⟨first, more, rfl⟩ := List.exists_cons_of_ne_nil hne
  have hfirst : Text.isBlank first = true := hblank first List.mem_cons_self
  have hstop : ∀ d ∈ (c :: tail).head?, Text.isBlank d = false := by simpa using hstart
  have hstrip : Text.stripStart (first :: more ++ c :: tail) = c :: tail :=
    (hblank.takeWhile hstop).2
  unfold key?
  rw [Text.dropStart?_append]
  dsimp only
  rw [hstrip, List.cons_append]
  dsimp only
  rw [if_pos hfirst]

/-- A line that has a key is an include line. -/
theorem exists_directive (h : key? line = some key) : ∃ rest, Directive line rest := by
  obtain ⟨rest, first, blanks, c, tail, rfl, hblanks, -, hstrip, hc, -⟩ := exists_of_key? h
  have hsplit : first :: blanks ++ c :: tail = rest := by
    rw [← hblanks, ← hstrip]
    exact List.takeWhile_append_dropWhile
  refine ⟨c :: tail, ⟨first :: blanks, by rw [hsplit], List.cons_ne_nil first blanks, ?_⟩,
    c, rfl, hc⟩
  rw [← hblanks]
  exact Text.blank_takeWhile rest

/-- The key of an include line is the one that its rest names. -/
theorem Directive.key?_eq_some_iff (h : Directive line rest) :
    key? line = some key ↔ Names rest key := by
  rw [h.key?_eq, names_iff, Option.some.injEq, eq_comm]

/-- The key of a line is never empty. -/
theorem key_ne_nil (h : key? line = some key) : key ≠ [] := by
  obtain ⟨rest, hdirective⟩ := exists_directive h
  have hnames := hdirective.key?_eq_some_iff.mp h
  obtain ⟨-, c, hc, hstart⟩ := hdirective
  obtain ⟨tail, rfl⟩ : ∃ tail, rest = c :: tail := List.head?_eq_some_iff.mp hc
  rw [names_iff.mp hnames]
  exact keyAt_ne_nil hstart tail

/-- An include line starts no section. -/
theorem sectionKey?_of_key? (h : key? line = some key) : sectionKey? line = none := by
  obtain ⟨rest, ⟨blanks, rfl, -⟩, -⟩ := exists_directive h
  rfl

end

/-! ## Forms -/

/-- A key, which is never empty, that can be written without quotes or brackets and with either. -/
def Free (key : Text) : Prop :=
  key ≠ [] ∧ key.Unblank ∧ '"' ∉ key ∧ '<' ∉ key ∧ '>' ∉ key

instance (key : Text) : Decidable (Free key) :=
  inferInstanceAs (Decidable (key ≠ [] ∧ key.Unblank ∧ '"' ∉ key ∧ '<' ∉ key ∧ '>' ∉ key))

/-- A line that includes a key in one of the three forms, with any blanks in front of it.  Behind it
there is any text, which starts with a blank if the key is bare. -/
inductive Spells (key : Text) : Text → Prop
  | bare (blanks tail : Text) : blanks ≠ [] → blanks.Blank →
      (∀ c ∈ tail.head?, Text.isBlank c = true) →
        Spells key (keyword ++ (blanks ++ (key ++ tail)))
  | quoted (blanks tail : Text) : blanks ≠ [] → blanks.Blank →
      Spells key (keyword ++ (blanks ++ '"' :: (key ++ '"' :: tail)))
  | bracketed (blanks tail : Text) : blanks ≠ [] → blanks.Blank →
      Spells key (keyword ++ (blanks ++ '<' :: (key ++ '>' :: tail)))

/-- Lines that are the same, or include the same key in any two forms. -/
inductive Reworded : Text → Text → Prop
  | same {line : Text} : Reworded line line
  | forms {key line other : Text} : Free key → Spells key line → Spells key other →
      Reworded line other

/-- A line that spells a free key in one of the three forms has this key. -/
theorem Spells.key?_eq {key line : Text} (hkey : Free key) (h : Spells key line) :
    key? line = some key := by
  obtain ⟨hne, hunblank, hquote, hopen, hclose⟩ := hkey
  cases h with
  | bare blanks tail hblanks hblank htail =>
    obtain ⟨c, more, rfl⟩ := List.exists_cons_of_ne_nil hne
    have hstart : Text.isBlank c = false := hunblank c List.mem_cons_self
    have hdirective : Directive (keyword ++ (blanks ++ (c :: more ++ tail))) (c :: more ++ tail) :=
      ⟨⟨blanks, rfl, hblanks, hblank⟩, c, rfl, hstart⟩
    refine hdirective.key?_eq_some_iff.mpr (.bare ?_ hunblank htail)
    -- what is enclosed starts with a quote or a bracket
    intro inner henclosed
    rw [List.cons_append, enclosed_cons_iff] at henclosed
    obtain ⟨close, hclosing, -⟩ := Option.bind_eq_some_iff.mp henclosed
    rcases closing?_cases hclosing with ⟨rfl, -⟩ | ⟨rfl, -⟩
    · exact hquote List.mem_cons_self
    · exact hopen List.mem_cons_self
  | quoted blanks tail hblanks hblank =>
    have hdirective : Directive (keyword ++ (blanks ++ '"' :: (key ++ '"' :: tail)))
        ('"' :: (key ++ '"' :: tail)) := ⟨⟨blanks, rfl, hblanks, hblank⟩, '"', rfl, by decide⟩
    exact hdirective.key?_eq_some_iff.mpr (.enclosed (.quoted hne hquote))
  | bracketed blanks tail hblanks hblank =>
    have hdirective : Directive (keyword ++ (blanks ++ '<' :: (key ++ '>' :: tail)))
        ('<' :: (key ++ '>' :: tail)) := ⟨⟨blanks, rfl, hblanks, hblank⟩, '<', rfl, by decide⟩
    exact hdirective.key?_eq_some_iff.mpr (.enclosed (.bracketed hne hclose))

/-- Reworded lines are kept, or include the same key. -/
theorem Reworded.respelled {line other : Text} (h : Reworded line other) :
    Respelled Eq line other := by
  cases h with
  | same =>
    cases hkey : key? line with
    | none => exact .kept hkey
    | some key => exact .included hkey hkey rfl
  | forms hkey hline hother => exact .included (hline.key?_eq hkey) (hother.key?_eq hkey) rfl

/-- Rewording a line does not change whether it starts a section, and which. -/
theorem Reworded.sectionKey?_eq {line other : Text} (h : Reworded line other) :
    sectionKey? other = sectionKey? line := by
  cases h with
  | same => rfl
  | forms hkey hline hother =>
    rw [sectionKey?_of_key? (hline.key?_eq hkey), sectionKey?_of_key? (hother.key?_eq hkey)]

/-- Lines with the same key stand for the same step. -/
theorem Respelled.step_eq {line other : Text} (h : Respelled Eq line other) :
    step other = step line := by
  cases h with
  | kept _ => rfl
  | included hline hother hsame => simp only [step, hline, hother, hsame]

end Include

/-- Numbered lines whose include lines have the same keys stand for the same steps. -/
theorem RespelledLines.stepsOf_eq {lines others : List (Nat × Text)}
    (h : RespelledLines Eq lines others) : stepsOf others = stepsOf lines := by
  induction h with
  | nil => rfl
  | cons hline _ ih =>
    obtain ⟨hnumber, hrespelled⟩ := hline
    rw [stepsOf, List.map_cons, hnumber, hrespelled.step_eq]
    exact congrArg _ ih

/-! ## Blocks and effects -/

/-- Reworded lines are cut into the same blocks, with reworded lines in them. -/
theorem cutBlocks_reworded {lines others : List Text}
    (h : List.Forall₂ Include.Reworded lines others) (first : Nat) :
    List.Forall₂ (Include.Respelled Eq) (cutBlocks (Text.numberLines first lines)).1
        (cutBlocks (Text.numberLines first others)).1 ∧
      List.Forall₂ (Block.Respelled Eq) (cutBlocks (Text.numberLines first lines)).2
        (cutBlocks (Text.numberLines first others)).2 := by
  induction h generalizing first with
  | nil => exact ⟨.nil, .nil⟩
  | @cons line other rest rest' hline _ ih =>
    obtain ⟨hbody, hblocks⟩ := ih (first + 1)
    simp only [Text.numberLines, cutBlocks, hline.sectionKey?_eq]
    cases sectionKey? line with
    | none => exact ⟨.cons hline.respelled hbody, hblocks⟩
    | some key => exact ⟨.nil, .cons ⟨rfl, rfl, hbody⟩ hblocks⟩

/-! ## Readers -/

/-- Contents that are the same, or texts whose lines are reworded. -/
inductive ReadOutcome.Reworded : ReadOutcome → ReadOutcome → Prop
  | same {content : ReadOutcome} : Reworded content content
  | texts {content other : ReadOutcome} {t u : Text} : content.text? = some t →
      other.text? = some u →
        List.Forall₂ Include.Reworded (Text.splitLines t) (Text.splitLines u) →
          Reworded content other

/-- Texts that are joined from reworded lines are reworded contents. -/
theorem ReadOutcome.reworded_of_lines {lines others : List Text}
    (h : List.Forall₂ Include.Reworded lines others)
    (hlines : ∀ line ∈ lines, Text.Unbroken line) (hothers : ∀ line ∈ others, Text.Unbroken line) :
    (ReadOutcome.text (Text.joinLines lines)).Reworded (.text (Text.joinLines others)) := by
  refine .texts rfl rfl ?_
  rw [Text.splitLines_joinLines hlines, Text.splitLines_joinLines hothers]
  exact h

/-- Readers that have the same sources, with contents whose include lines differ in their form. -/
structure Reader.Reworded (reader other : Reader) : Prop where
  has (file : SourceFile) : other.has file = reader.has file
  read (file : SourceFile) : (reader.read file).Reworded (other.read file)

/-- Tables with reworded contents at the same locations are reworded readers. -/
theorem Reader.reworded_of_table {shelf other : Shelf}
    (h : List.Forall₂ (fun a b => b.1 = a.1 ∧ ReadOutcome.Reworded a.2 b.2) shelf other) :
    (Reader.table shelf).Reworded (.table other) where
  has := Reader.has_table h
  read := Reader.read_table .same h

section

variable {r : Registry} {other : Reader}

/-- What the second reader gives is read with the same outcome, and its lines are reworded. -/
theorem Reader.Reworded.read_lines (h : r.reader.Reworded other) (file : SourceFile) :
    Parallel (fun t u => List.Forall₂ Include.Reworded (Text.splitLines t) (Text.splitLines u))
      (r.read file) (({ r with reader := other } : Registry).read file) := by
  have hread := h.read file
  apply Registry.read_parallel
  generalize r.reader.read file = content at hread
  generalize other.read file = content' at hread
  cases hread with
  | same => exact .inl ⟨rfl, fun _ _ => List.forall₂_same.mpr fun _ _ => .same⟩
  | texts ht hu hlines => exact .inr ⟨_, _, ht, hu, hlines⟩

/-- The effects of reworded readers differ in the form of their include lines only. -/
theorem Reader.Reworded.corresponds (h : r.reader.Reworded other) :
    r.Corresponds other (Effect.Respelled Eq) where
  has := h.has
  read {_ file} _ := (h.read_lines file).mono fun _ _ hlines =>
    Effect.parse_respelled (cutBlocks_reworded hlines 1).2 file.identity (some file) (some file)

/-- Readers with reworded contents lead through the same steps. -/
theorem Reader.Reworded.stepsAs (h : r.reader.Reworded other) :
    r.StepsAs { r with reader := other } fun m n =>
      m.cache.Matches (Effect.Respelled Eq) n.cache where
  target hcache key :=
    (h.corresponds.locate (.respelled Eq) hcache key).outcome.parallel.mono fun _ _ hsame =>
      ⟨hsame.name, hsame.file, hsame.effect.identity, hsame.found.id,
        hsame.found.lines.stepsOf_eq⟩
  locate hcache key := (h.corresponds.locate (.respelled Eq) hcache key).cache
  report hcache _ := hcache

end

/-- A line is an include line exactly if it is the keyword, blanks, and a rest that starts with no
blank.  Its key is then the one that the rest names, and never empty.  Hence the form of include
lines makes no difference: let two readers have the same sources, with texts in which lines include
the same keys in any two forms.  Then an argument composes to the same with both, or fails for the
same reason, and the effects that are loaded afterwards have the same keys on their include
lines. -/
theorem include_forms_compose_alike :
    (∀ line, (∃ key, Include.key? line = some key) ↔ ∃ rest, Include.Directive line rest) ∧
    (∀ line rest, Include.Directive line rest →
      ∀ key, Include.key? line = some key ↔ Include.Names rest key) ∧
    (∀ line key, Include.key? line = some key → key ≠ []) ∧
    ∀ (r : Registry) (other : Reader), r.reader.Reworded other →
      ∀ m n : Memory, m.cache.Matches (Effect.Respelled Eq) n.cache →
        ∀ (key : Value) (vars : Composer.Vars),
          (Composer.compose { r with reader := other } key vars n).1 =
            (Composer.compose r key vars m).1 ∧
          (Composer.compose r key vars m).2.cache.Matches (Effect.Respelled Eq)
            (Composer.compose { r with reader := other } key vars n).2.cache := by
  refine ⟨?_, fun line rest h key => h.key?_eq_some_iff, fun line key h => Include.key_ne_nil h, ?_⟩
  · intro line
    constructor
    · rintro ⟨key, hkey⟩
      exact Include.exists_directive hkey
    · rintro ⟨rest, hdirective⟩
      exact ⟨Include.keyAt rest, hdirective.key?_eq⟩
  · intro r other hreader m n hcache key vars
    exact hreader.stepsAs.compose hcache key vars

/-- Files with include lines in all forms. -/
def marshShelf : Shelf :=
  [("fx/marsh.glsl".toList, .text (Text.joinLines ["-- main".toList,
      "#include reed.top // \"x\"".toList, "#include \"reed.low\"y".toList,
      "#include <reed.top>".toList, "m".toList])),
    ("fx/reed.glsl".toList, .text (Text.joinLines ["-- top".toList, "t".toList, "-- low".toList,
      "#include <pool.deep>".toList, "l".toList])),
    ("fx/pool.glsl".toList, .bytes "-- deep\r\np\r\n".toUTF8.toList)]

/-- The files with the same keys in other forms. -/
def marshForms : Shelf :=
  [("fx/marsh.glsl".toList, .text (Text.joinLines ["-- main".toList,
      "#include\t<reed.top>".toList, "#include \u3000reed.low".toList,
      "#include \x1f\"reed.top\"\"z".toList, "m".toList])),
    ("fx/reed.glsl".toList, .text (Text.joinLines ["-- top".toList, "t".toList, "-- low".toList,
      "#include pool.deep <".toList, "l".toList])),
    ("fx/pool.glsl".toList, .bytes "-- deep\r\np\r\n".toUTF8.toList)]

/-- The marsh with include lines in all forms. -/
def marshScene : Registry :=
  ⟨[], "fx".toList, "glsl".toList, .table marshShelf, "/work".toList⟩

/-- The two shelves of the marsh differ in the form of their include lines only. -/
theorem marshShelf_reworded : (Reader.table marshShelf).Reworded (.table marshForms) := by
  have htop : Include.Free "reed.top".toList := by decide
  have hlow : Include.Free "reed.low".toList := by decide
  have hdeep : Include.Free "pool.deep".toList := by decide
  have hspace : ∀ t : Text, ∀ c ∈ (' ' :: t).head?, Text.isBlank c = true := by
    intro t c hc
    obtain rfl : ' ' = c := Option.some.inj hc
    decide
  have hfirst : Include.Reworded "#include reed.top // \"x\"".toList
      "#include\t<reed.top>".toList :=
    .forms htop (.bare " ".toList (' ' :: "// \"x\"".toList) (by decide) (by decide) (hspace _))
      (.bracketed "\t".toList [] (by decide) (by decide))
  have hsecond : Include.Reworded "#include \"reed.low\"y".toList
      "#include \u3000reed.low".toList :=
    .forms hlow (.quoted " ".toList "y".toList (by decide) (by decide))
      (.bare " \u3000".toList [] (by decide) (by decide) (by simp))
  have hthird : Include.Reworded "#include <reed.top>".toList
      "#include \x1f\"reed.top\"\"z".toList :=
    .forms htop (.bracketed " ".toList [] (by decide) (by decide))
      (.quoted " \x1f".toList "\"z".toList (by decide) (by decide))
  have hinner : Include.Reworded "#include <pool.deep>".toList "#include pool.deep <".toList :=
    .forms hdeep (.bracketed " ".toList [] (by decide) (by decide))
      (.bare " ".toList (' ' :: "<".toList) (by decide) (by decide) (hspace _))
  apply Reader.reworded_of_table
  refine .cons ⟨rfl, ?_⟩ (.cons ⟨rfl, ?_⟩ (.cons ⟨rfl, .same⟩ .nil))
  · exact ReadOutcome.reworded_of_lines
      (.cons .same (.cons hfirst (.cons hsecond (.cons hthird (.cons .same .nil)))))
      (by decide) (by decide)
  · exact ReadOutcome.reworded_of_lines
      (.cons .same (.cons .same (.cons .same (.cons hinner (.cons .same .nil)))))
      (by decide) (by decide)

/-- The marsh is composed to the same in either form, also where a key in quotes is empty and the
quotes belong to the key. -/
theorem include_forms_compose_alike_marsh :
    Include.key? "#include \t\"\"x \"reed.top\"".toList = some "\"\"x".toList ∧
    ∃ c m', Composer.compose marshScene (.text "marsh.main".toList) [] ⟨.empty, [], []⟩ =
        (.ok c, m') ∧
      c.code = "#line 2 1\nt\n#line 2 2\np\n#line 5 1\nl\n#line 5 0\nm\n".toList ∧
      c.warnings.length = 1 ∧
      (Composer.compose { marshScene with reader := .table marshForms }
        (.text "marsh.main".toList) [] ⟨.empty, [], []⟩).1 = .ok c := by
  obtain ⟨-, hnames, -, hcompose⟩ := include_forms_compose_alike
  constructor
  · -- the quotes at the start enclose nothing, so the key is bare
    have hdirective : Include.Directive "#include \t\"\"x \"reed.top\"".toList
        "\"\"x \"reed.top\"".toList :=
      ⟨⟨" \t".toList, by decide, by decide, by decide⟩, '"', by decide, by decide⟩
    exact (hnames _ _ hdirective _).mpr (Include.names_iff.mpr (by decide))
  · obtain ⟨c, m', hown, htest⟩ := exists_of_any
      (Composer.compose marshScene (.text "marsh.main".toList) [] ⟨.empty, [], []⟩)
      (fun c => c.code == "#line 2 1\nt\n#line 2 2\np\n#line 5 1\nl\n#line 5 0\nm\n".toList &&
        c.warnings.length == 1) (by decide +kernel)
    obtain ⟨hcode, hwarnings⟩ := (Bool.and_eq_true _ _).mp htest
    obtain ⟨hsame, -⟩ := hcompose marshScene (.table marshForms) marshShelf_reworded
      ⟨.empty, [], []⟩ ⟨.empty, [], []⟩ (fun _ => .none) (.text "marsh.main".toList) []
    rw [hown] at hsame
    exact ⟨c, m', hown, beq_iff_eq.mp hcode, beq_iff_eq.mp hwarnings, hsame⟩

end ShaderCompose
