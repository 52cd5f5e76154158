import ShaderCompose.Proofs.Effect.Slices

/-!
# Separators

A separator is a line that starts a section.  The separators of a text, each with its number and the
key that it names, say what the blocks of the text are: the block of a separator has for its body
the lines behind it, up to the next separator or the end of the text.
-/

set_option autoImplicit false

namespace ShaderCompose

/-- The line of a text with the given number, counted from one. -/
def Text.lineAt? (text : Text) : Nat → Option Text
  | 0 => none
  | i + 1 => (Text.splitLines text)[i]?

/-- The numbers of the lines that start sections, with the keys of these. -/
def separatorsOf (text : Text) : List (Nat × Text) :=
  (Text.numberLines 1 (Text.splitLines text)).filterMap fun entry =>
    (sectionKey? entry.2).map fun key => (entry.1, key)

/-- The lines behind the line with the given number, up to the next separator. -/
def linesAfter (text : Text) (number : Nat) : List Text :=
  ((Text.splitLines text).drop number).takeWhile isPlain

/-! ## Lines that are separators -/

/-- A line is a separator with a key if it starts with two hyphens and the key is what is behind
them, without the blanks around it. -/
theorem sectionKey?_eq_some_iff {line key : Text} :
    sectionKey? line = some key ↔ ∃ rest, line = '-' :: '-' :: rest ∧ Text.strip rest = key := by
  unfold sectionKey?
  rw [Option.map_eq_some_iff]
  constructor
  · rintro ⟨rest, hdrop, hstrip⟩
    exact ⟨rest, Text.eq_append_of_dropStart? hdrop, hstrip⟩
  · rintro ⟨rest, rfl, hstrip⟩
    exact ⟨rest, Text.dropStart?_append ['-', '-'] rest, hstrip⟩

/-- A line is plain if it does not start with two hyphens. -/
theorem isPlain_eq (line : Text) : isPlain line = !Text.startsWith line ['-', '-'] := by
  unfold isPlain Text.startsWith
  cases hkey : sectionKey? line with
  | some key =>
    obtain ⟨rest, rfl, -⟩ := sectionKey?_eq_some_iff.mp hkey
    rfl
  | none =>
    have hstart : ¬ ['-', '-'] <+: line := by
      rintro ⟨rest, rfl⟩
      have hsome := sectionKey?_eq_some_iff.mpr ⟨rest, rfl, rfl⟩
      exact absurd (hkey.symm.trans hsome) (by simp)
    have hfalse : List.isPrefixOf ['-', '-'] line = false := by
      rw [← Bool.not_eq_true, List.isPrefixOf_iff_prefix]
      exact hstart
    rw [hfalse]
    rfl

/-- A line that is seen not to start with two hyphens is plain. -/
theorem isPlain_of_startsWith {line : Text} (h : Text.startsWith line ['-', '-'] = false) :
    isPlain line = true := by
  rw [isPlain_eq, h]
  rfl

section

variable {text key : Text} {number : Nat}

/-- The separators of a text are its lines that start sections, with their numbers. -/
theorem mem_separatorsOf : (number, key) ∈ separatorsOf text ↔
    ∃ line, text.lineAt? number = some line ∧ sectionKey? line = some key := by
  unfold separatorsOf
  rw [List.mem_filterMap]
  constructor
  · rintro ⟨⟨n, line⟩, hentry, hkey⟩
    obtain ⟨found, hfound, heq⟩ := Option.map_eq_some_iff.mp hkey
    obtain ⟨rfl, rfl⟩ := Prod.mk.inj heq
    obtain ⟨i, rfl, hi⟩ := Text.mem_numberLines.mp hentry
    refine ⟨line, ?_, hfound⟩
    rw [Nat.add_comm]
    exact hi
  · rintro ⟨line, hline, hkey⟩
    cases number with
    | zero => simp [Text.lineAt?] at hline
    | succ i =>
      refine ⟨(i + 1, line), Text.mem_numberLines.mpr ⟨i, by omega, hline⟩, ?_⟩
      simp [hkey]

/-- A line starts a section exactly if it is a separator. -/
theorem isPlain_iff_of_lineAt? {line : Text} (h : text.lineAt? number = some line) :
    isPlain line = true ↔ ∀ key, (number, key) ∉ separatorsOf text := by
  constructor
  · intro hplain key hmem
    obtain ⟨found, hfound, hkey⟩ := mem_separatorsOf.mp hmem
    obtain rfl : found = line := Option.some.inj (hfound.symm.trans h)
    simp [isPlain, hkey] at hplain
  · intro hnone
    cases hkey : sectionKey? line with
    | none => simp [isPlain, hkey]
    | some key => exact absurd (mem_separatorsOf.mpr ⟨line, h, hkey⟩) (hnone key)

/-- A line has at most one key. -/
theorem key_unique {other : Text} (h : (number, key) ∈ separatorsOf text)
    (hother : (number, other) ∈ separatorsOf text) : key = other := by
  obtain ⟨line, hline, hkey⟩ := mem_separatorsOf.mp h
  obtain ⟨line', hline', hkey'⟩ := mem_separatorsOf.mp hother
  obtain rfl : line = line' := Option.some.inj (hline.symm.trans hline')
  exact Option.some.inj (hkey.symm.trans hkey')

end

/-- The separators stand in the order of their lines, so no number comes up twice. -/
theorem separators_ascend (text : Text) :
    ((separatorsOf text).map Prod.fst).Pairwise (· < ·) := by
  have hnumbers := Text.numbers_ascend 1 (Text.splitLines text)
  rw [List.pairwise_map] at hnumbers
  unfold separatorsOf
  rw [List.pairwise_map, List.pairwise_filterMap]
  refine hnumbers.imp ?_
  intro a b hlt x hx y hy
  obtain ⟨_, -, rfl⟩ := Option.map_eq_some_iff.mp hx
  obtain ⟨_, -, rfl⟩ := Option.map_eq_some_iff.mp hy
  exact hlt

/-! ## The lines behind a separator -/

/-- What is behind a separator: a line with no separator on the way to it. -/
theorem getElem?_linesAfter {text line : Text} {number j : Nat} :
    (linesAfter text number)[j]? = some line ↔
      text.lineAt? (number + 1 + j) = some line ∧
        ∀ n key, number < n → n ≤ number + 1 + j → (n, key) ∉ separatorsOf text := by
  have hat : ∀ i, ((Text.splitLines text).drop number)[i]? = text.lineAt? (number + 1 + i) := by
    intro i
    rw [List.getElem?_drop, show number + 1 + i = number + i + 1 by omega]
    rfl
  unfold linesAfter
  rw [getElem?_takeWhile, hat]
  refine and_congr_right fun hline => ?_
  constructor
  · intro hplain n key hlow hhigh hmem
    obtain ⟨other, hother, -⟩ := mem_separatorsOf.mp hmem
    have hi : ((Text.splitLines text).drop number)[n - number - 1]? = some other := by
      rw [hat, show number + 1 + (n - number - 1) = n by omega]
      exact hother
    exact (isPlain_iff_of_lineAt? hother).mp (hplain _ (by omega) other hi) key hmem
  · intro hnone i hi other hother
    rw [hat] at hother
    exact (isPlain_iff_of_lineAt? hother).mpr fun key => hnone _ key (by omega) (by omega)

/-- The line at which the lines behind a separator end is a separator again. -/
theorem not_isPlain_after {text line : Text} {number : Nat}
    (h : text.lineAt? (number + 1 + (linesAfter text number).length) = some line) :
    isPlain line = false := by
  apply of_getElem?_length_takeWhile (l := (Text.splitLines text).drop number)
  rw [List.getElem?_drop]
  rw [show number + 1 + (linesAfter text number).length =
    number + (linesAfter text number).length + 1 by omega] at h
  exact h

/-- The lines behind a separator have no breaks in them, being lines of the text. -/
theorem unbroken_of_mem_linesAfter {text line : Text} {number : Nat}
    (h : line ∈ linesAfter text number) : Text.Unbroken line := by
  have hmem : line ∈ Text.splitLines text :=
    List.mem_of_mem_drop ((List.takeWhile_sublist _).subset h)
  exact Text.unbroken_of_mem_splitLines hmem

/-! ## Blocks -/

/-- The block of a separator. -/
def blockAt (text : Text) (separator : Nat × Text) : Block :=
  ⟨separator.2, separator.1, linesAfter text separator.1⟩

/-- The blocks that numbered lines are cut into are those of their separators: each has the plain
lines behind its separator for its body. -/
theorem cutBlocks_snd (before lines : List Text) :
    (cutBlocks (Text.numberLines (before.length + 1) lines)).2 =
      ((Text.numberLines (before.length + 1) lines).filterMap fun entry =>
        (sectionKey? entry.2).map fun key => (entry.1, key)).map fun separator =>
          ⟨separator.2, separator.1, ((before ++ lines).drop separator.1).takeWhile isPlain⟩ := by
  induction lines generalizing before with
  | nil => rfl
  | cons line more ih =>
    have hmore := ih (before ++ [line])
    rw [List.length_append, List.length_singleton, List.append_assoc,
      List.singleton_append] at hmore
    simp only [Text.numberLines, cutBlocks]
    cases hkey : sectionKey? line with
    | none =>
      simp only [hmore, List.filterMap_cons, hkey, Option.map_none]
    | some key =>
      have hbody : (before ++ line :: more).drop (before.length + 1) = more := by
        simp [List.drop_append]
      simp only [hmore, List.filterMap_cons, hkey, Option.map_some, List.map_cons, hbody,
        cutBlocks_fst]

/-- A text has one block for each separator. -/
theorem blocksOf_eq (text : Text) : blocksOf text = (separatorsOf text).map (blockAt text) :=
  cutBlocks_snd [] (Text.splitLines text)

end ShaderCompose
