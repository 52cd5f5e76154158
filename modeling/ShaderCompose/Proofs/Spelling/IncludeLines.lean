import ShaderCompose.Proofs.Spelling.Slashes

/-!
# Include lines with slashes in their keys

`Include.slashKey` puts slashes in for the backslashes in the key of an include line and leaves all
else as it is, also backslashes behind the key.  The key of the new line is the old one with
slashes, for keys in quotes, in brackets and bare ones.  No line starts a section that did not start
one before, so a text with such lines falls into the same blocks.
-/

set_option autoImplicit false

namespace ShaderCompose

namespace Include

/-- A text with slashes for the backslashes up to the first character that fails a test. -/
def slashWhile (test : Char → Bool) (t : Text) : Text :=
  Text.slashed (t.takeWhile test) ++ t.dropWhile test

/-- The character that closes what a character opens. -/
def closing? (c : Char) : Option Char :=
  if c = '"' then some '"' else if c = '<' then some '>' else none

/-- A text that starts with a key, with slashes for the backslashes in the key. -/
def slashKeyAt : Text → Text
  | [] => []
  | c :: rest =>
    match closing? c with
    | some close =>
      if (enclosed? close rest).isSome then c :: slashWhile (· ≠ close) rest
      else slashWhile (fun d => !Text.isBlank d) (c :: rest)
    | none => slashWhile (fun d => !Text.isBlank d) (c :: rest)

/-- A line with slashes for the backslashes in its key, if it is an include line. -/
def slashKey (line : Text) : Text :=
  if (key? line).isSome then
    let rest := line.drop keyword.length
    keyword ++ (rest.takeWhile Text.isBlank ++ slashKeyAt (Text.stripStart rest))
  else line

/-- The key of a text is the one that its first character opens, if there is one, and else the bare
one. -/
theorem keyAt_cons (c : Char) (rest : Text) :
    keyAt (c :: rest) = ((closing? c).bind (enclosed? · rest)).getD (bare (c :: rest)) := by
  by_cases hquote : c = '"'
  · subst hquote
    rfl
  · by_cases hangle : c = '<'
    · subst hangle
      rfl
    · have hclosing : closing? c = none := by simp [closing?, hquote, hangle]
      rw [hclosing]
      unfold keyAt
      split
      · next heq => simp_all
      · next heq => simp_all
      · rfl

/-- A backslash at the start becomes a slash as long as the test is passed. -/
theorem slashWhile_cons_of_pos {test : Char → Bool} {c : Char} (h : test c = true) (rest : Text) :
    slashWhile test (c :: rest) = (if c = '\\' then '/' else c) :: slashWhile test rest := by
  unfold slashWhile
  rw [List.takeWhile_cons_of_pos h, List.dropWhile_cons_of_pos h]
  rfl

/-- From the first character on that fails the test, everything stays. -/
theorem slashWhile_cons_of_neg {test : Char → Bool} {c : Char} (h : ¬ test c = true) (rest : Text) :
    slashWhile test (c :: rest) = c :: rest := by
  unfold slashWhile
  rw [List.takeWhile_cons_of_neg h, List.dropWhile_cons_of_neg h]
  rfl

section

variable {test : Char → Bool} (htest : test '\\' = test '/')

include htest

/-- The text falls into the same two pieces as before, the first with slashes and the second as it
was. -/
theorem takeWhile_slashWhile (t : Text) :
    (slashWhile test t).takeWhile test = Text.slashed (t.takeWhile test) ∧
      (slashWhile test t).dropWhile test = t.dropWhile test := by
  have hall : ∀ c ∈ Text.slashed (t.takeWhile test), test c = true := by
    intro c hc
    obtain ⟨d, hd, rfl⟩ := List.mem_map.mp hc
    have htaken := List.mem_takeWhile_imp hd
    split
    · next hback =>
      rw [hback] at htaken
      rw [← htest, htaken]
    · exact htaken
  have hstop : (t.dropWhile test).takeWhile test = [] := by
    have hsplit := List.takeWhile_append_dropWhile (p := test) (l := t.dropWhile test)
    rw [List.dropWhile_idempotent] at hsplit
    simpa using hsplit
  unfold slashWhile
  rw [List.takeWhile_append_of_pos hall, List.dropWhile_append_of_pos hall, hstop,
    List.dropWhile_idempotent, List.append_nil]
  exact ⟨rfl, rfl⟩

end

/-- A bare key is the same but for its slashes. -/
theorem bare_slashWhile (t : Text) :
    bare (slashWhile (fun c => !Text.isBlank c) t) = Text.slashed (bare t) :=
  (takeWhile_slashWhile (by decide) t).1

/-- What closes a key is no slash. -/
theorem closing?_eq_some {c close : Char} (h : closing? c = some close) :
    close ≠ '\\' ∧ close ≠ '/' := by
  unfold closing? at h
  split at h
  · rw [← Option.some.inj h]
    decide
  · split at h
    · rw [← Option.some.inj h]
      decide
    · simp at h

section

variable {close : Char} (hback : close ≠ '\\') (hslash : close ≠ '/')

include hback hslash

/-- An enclosed key is the same but for its slashes. -/
theorem enclosed?_slashWhile (t : Text) :
    enclosed? close (slashWhile (· ≠ close) t) = (enclosed? close t).map Text.slashed := by
  obtain ⟨htake, hdrop⟩ : (slashWhile (· ≠ close) t).takeWhile (· ≠ close) =
      Text.slashed (t.takeWhile (· ≠ close)) ∧
      (slashWhile (· ≠ close) t).dropWhile (· ≠ close) = t.dropWhile (· ≠ close) :=
    takeWhile_slashWhile (by simp [hback.symm, hslash.symm]) t
  unfold enclosed?
  rw [htake, hdrop]
  cases t.takeWhile (· ≠ close) with
  | nil => rfl
  | cons c rest =>
    cases t.dropWhile (· ≠ close) with
    | nil => rfl
    | cons d more => rfl

/-- What is not enclosed is not enclosed with slashes in it. -/
theorem enclosed?_slashWhile_eq_none {t : Text} (h : enclosed? close t = none)
    (test : Char → Bool) : enclosed? close (slashWhile test t) = none := by
  by_cases hmem : close ∈ t
  · -- something is left behind, so the closing character comes first
    cases t with
    | nil => simp at hmem
    | cons c rest =>
      obtain rfl : c = close := by
        by_contra hne
        have hrest : close ∈ rest := by simpa [Ne.symm hne] using hmem
        have hleft : rest.dropWhile (· ≠ close) ≠ [] := by
          rw [Ne, List.dropWhile_eq_nil_iff]
          intro hall
          simpa using hall close hrest
        obtain ⟨d, more, hmore⟩ := List.exists_cons_of_ne_nil hleft
        have htest : decide (c ≠ close) = true := by simpa using hne
        unfold enclosed? at h
        rw [List.takeWhile_cons, List.dropWhile_cons, if_pos htest, if_pos htest, hmore] at h
        simp at h
      by_cases htest : test c = true
      · rw [slashWhile_cons_of_pos htest, if_neg hback]
        simp [enclosed?]
      · rw [slashWhile_cons_of_neg htest]
        exact h
  · have hnone : ∀ d ∈ slashWhile test t, decide (d ≠ close) = true := by
      intro d hd
      rw [decide_eq_true_eq]
      rintro rfl
      rcases List.mem_append.mp hd with hd | hd
      · rcases Text.mem_of_mem_slashed hd with hd | hd
        · exact hmem ((List.takeWhile_sublist _).subset hd)
        · exact hslash hd
      · exact hmem ((List.dropWhile_sublist _).subset hd)
    unfold enclosed?
    rw [List.dropWhile_eq_nil_iff.mpr hnone]
    simp

end

section

variable {c : Char} {rest : Text}

/-- If nothing is enclosed, the key is the bare one. -/
theorem keyAt_of_bare (h : ∀ close, closing? c = some close → enclosed? close rest = none) :
    keyAt (c :: rest) = bare (c :: rest) := by
  rw [keyAt_cons]
  cases hclosing : closing? c with
  | none => rfl
  | some close => rw [Option.bind_some, h close hclosing, Option.getD_none]

/-- If nothing is enclosed, slashes are put in up to the first blank. -/
theorem slashKeyAt_of_bare (h : ∀ close, closing? c = some close → enclosed? close rest = none) :
    slashKeyAt (c :: rest) = slashWhile (fun d => !Text.isBlank d) (c :: rest) := by
  cases hclosing : closing? c with
  | none => simp only [slashKeyAt, hclosing]
  | some close => simp [slashKeyAt, hclosing, h close hclosing]

/-- If a key is enclosed, slashes are put in up to the character that closes it. -/
theorem slashKeyAt_of_enclosed {close : Char} {key : Text} (hclosing : closing? c = some close)
    (henclosed : enclosed? close rest = some key) :
    slashKeyAt (c :: rest) = c :: slashWhile (· ≠ close) rest := by
  simp [slashKeyAt, hclosing, henclosed]

end

/-- Putting slashes into the key of a text gives a text with the slashed key. -/
theorem keyAt_slashKeyAt (t : Text) : keyAt (slashKeyAt t) = Text.slashed (keyAt t) := by
  cases t with
  | nil => rfl
  | cons c rest =>
    by_cases hbare : ∀ close, closing? c = some close → enclosed? close rest = none
    · rw [slashKeyAt_of_bare hbare, keyAt_of_bare hbare, ← bare_slashWhile]
      by_cases hblank : (!Text.isBlank c) = true
      · rw [slashWhile_cons_of_pos hblank]
        apply keyAt_of_bare
        intro close hclosing
        split at hclosing
        · simp [closing?] at hclosing
        · obtain ⟨hclose, hslash⟩ := closing?_eq_some hclosing
          exact enclosed?_slashWhile_eq_none hclose hslash (hbare close hclosing) _
      · rw [slashWhile_cons_of_neg hblank]
        exact keyAt_of_bare hbare
    · obtain ⟨close, hclosing, hsome⟩ : ∃ close, closing? c = some close ∧
          enclosed? close rest ≠ none := by simpa using hbare
      obtain ⟨key, henclosed⟩ := Option.ne_none_iff_exists'.mp hsome
      obtain ⟨hclose, hslash⟩ := closing?_eq_some hclosing
      rw [slashKeyAt_of_enclosed hclosing henclosed, keyAt_cons, keyAt_cons, hclosing,
        Option.bind_some, Option.bind_some, enclosed?_slashWhile hclose hslash, henclosed]
      rfl

/-- A key that does not start with a blank does not start with one when slashes are put in. -/
theorem exists_slashKeyAt_cons {c : Char} (hblank : Text.isBlank c = false) (rest : Text) :
    ∃ d more, slashKeyAt (c :: rest) = d :: more ∧ Text.isBlank d = false := by
  by_cases hbare : ∀ close, closing? c = some close → enclosed? close rest = none
  · rw [slashKeyAt_of_bare hbare, slashWhile_cons_of_pos (by simp [hblank])]
    refine ⟨_, _, rfl, ?_⟩
    split
    · decide
    · exact hblank
  · obtain ⟨close, hclosing, hsome⟩ : ∃ close, closing? c = some close ∧
        enclosed? close rest ≠ none := by simpa using hbare
    obtain ⟨key, henclosed⟩ := Option.ne_none_iff_exists'.mp hsome
    rw [slashKeyAt_of_enclosed hclosing henclosed]
    exact ⟨c, _, rfl, hblank⟩

/-- What an include line consists of. -/
theorem exists_of_key? {line key : Text} (h : key? line = some key) :
    ∃ rest first blanks c tail, line = keyword ++ rest ∧
      rest.takeWhile Text.isBlank = first :: blanks ∧ Text.isBlank first = true ∧
      Text.stripStart rest = c :: tail ∧ Text.isBlank c = false ∧ key = keyAt (c :: tail) := by
  unfold key? at h
  cases hdrop : Text.dropStart? line keyword with
  | none => simp [hdrop] at h
  | some rest =>
    rw [hdrop] at h
    dsimp only at h
    split at h
    · next first after c tail hstrip =>
      split at h
      · next hfirst =>
        have hc := List.head?_dropWhile_not Text.isBlank (first :: after)
        have hdropped : (first :: after).dropWhile Text.isBlank = c :: tail := hstrip
        rw [hdropped] at hc
        exact ⟨first :: after, first, _, c, tail, Text.eq_append_of_dropStart? hdrop,
          List.takeWhile_cons_of_pos hfirst, hfirst, hstrip, hc, (Option.some.inj h).symm⟩
      · simp at h
    · simp at h

/-- The key of a line with slashes put in is the slashed key of the line, if it has one. -/
theorem key?_slashKey (line : Text) : key? (slashKey line) = (key? line).map Text.slashed := by
  cases hkey : key? line with
  | none => simp [slashKey, hkey]
  | some key =>
    obtain ⟨rest, first, blanks, c, tail, rfl, hblanks, hfirst, hstrip, hc, rfl⟩ :=
      exists_of_key? hkey
    obtain ⟨d, more, hstart, hd⟩ := exists_slashKeyAt_cons hc tail
    have hslashKey : slashKey (keyword ++ rest) =
        keyword ++ (first :: (blanks ++ slashKeyAt (c :: tail))) := by
      simp [slashKey, hkey, hblanks, hstrip]
    have hagain : Text.stripStart (first :: (blanks ++ slashKeyAt (c :: tail))) =
        slashKeyAt (c :: tail) := by
      have hall : ∀ e ∈ first :: blanks, Text.isBlank e = true := by
        rw [← hblanks]
        exact fun e he => List.mem_takeWhile_imp he
      unfold Text.stripStart
      rw [← List.cons_append, List.dropWhile_append_of_pos hall, hstart,
        List.dropWhile_cons_of_neg (by simp [hd])]
    rw [hslashKey, Option.map_some, ← keyAt_slashKeyAt]
    unfold key?
    rw [Text.dropStart?_append]
    dsimp only
    rw [hagain, hstart]
    dsimp only
    rw [if_pos hfirst]

/-- A line starts the same section with slashes in its key, if any. -/
theorem sectionKey?_slashKey (line : Text) : sectionKey? (slashKey line) = sectionKey? line := by
  cases hkey : key? line with
  | none => simp [slashKey, hkey]
  | some key =>
    have hnone : ∀ rest, sectionKey? (keyword ++ rest) = none := fun _ => rfl
    obtain ⟨rest, -, -, -, -, rfl, -⟩ := exists_of_key? hkey
    rw [hnone]
    simp only [slashKey, hkey, Option.isSome_some, if_true]
    exact hnone _

end Include

/-! ## Blocks -/

/-- A block with slashes in the keys of its include lines. -/
def Block.slashKeys (block : Block) : Block :=
  { block with body := block.body.map Include.slashKey }

/-- Lines with slashes in their keys are cut into the same blocks, with slashes in their keys. -/
theorem cutBlocks_slashKey (lines : List Text) (first : Nat) :
    cutBlocks (Text.numberLines first (lines.map Include.slashKey)) =
      ((cutBlocks (Text.numberLines first lines)).1.map Include.slashKey,
        (cutBlocks (Text.numberLines first lines)).2.map Block.slashKeys) := by
  induction lines generalizing first with
  | nil => rfl
  | cons line rest ih =>
    simp only [List.map_cons, Text.numberLines, cutBlocks, ih, Include.sectionKey?_slashKey]
    cases sectionKey? line with
    | none => rfl
    | some key => rfl

/-- A text with slashes in the keys of its lines has the blocks of the other text, with slashes in
their keys. -/
theorem blocksOf_slashKey {text other : Text}
    (h : Text.splitLines other = (Text.splitLines text).map Include.slashKey) :
    blocksOf other = (blocksOf text).map Block.slashKeys := by
  unfold blocksOf
  rw [h, cutBlocks_slashKey]

end ShaderCompose
