import ShaderCompose.Proofs.Text.Lines

/-!
# Ways to end a line

A text with other breaks, or without one behind its last line, can have the same lines.  Written
with a line feed behind every line, texts with the same lines are the same: `regular` does this to
a text, and it is what the lines of the text give when they are joined.  Lines that have no breaks
in them are read back from a text in which all of them are ended in the same way, whichever it is.
-/

set_option autoImplicit false

namespace ShaderCompose.Text

/-! ## Regular texts -/

/-- A text with a line feed for every break, and with one more at its end if it is not empty and
does not end with one. -/
def regular (t : Text) : Text :=
  if unifyBreaks t = [] ∨ (unifyBreaks t).getLast? = some '\n' then unifyBreaks t
  else unifyBreaks t ++ ['\n']

/-- A character that is no carriage return stays when breaks are made line feeds. -/
theorem unifyBreaks_cons {c : Char} (hr : c ≠ '\r') (t : Text) :
    unifyBreaks (c :: t) = c :: unifyBreaks t := by
  rw [unifyBreaks]
  · intro rest hc _
    exact hr hc
  · exact hr

/-- A text without carriage returns has nothing but line feeds for breaks. -/
theorem unifyBreaks_of_notMem {t : Text} (h : '\r' ∉ t) : unifyBreaks t = t := by
  induction t with
  | nil => rfl
  | cons c t ih =>
    obtain ⟨hc, ht⟩ := not_or.mp (mt List.mem_cons.mpr h)
    rw [unifyBreaks_cons (Ne.symm hc), ih ht]

/-- A break at the start becomes a line feed in front of what is behind it. -/
theorem regular_of_break {t rest : Text} (h : unifyBreaks t = '\n' :: unifyBreaks rest) :
    regular t = '\n' :: regular rest := by
  unfold regular
  rw [h]
  by_cases hempty : unifyBreaks rest = []
  · simp [hempty]
  · rw [List.getLast?_cons_of_ne_nil hempty]
    by_cases hlast : (unifyBreaks rest).getLast? = some '\n'
    · simp [hlast]
    · simp [hlast, hempty]

/-- Any other character stays in front, and gets a line feed if nothing is behind it. -/
theorem regular_cons {c : Char} (hn : c ≠ '\n') (hr : c ≠ '\r') (t : Text) :
    regular (c :: t) = if regular t = [] then [c, '\n'] else c :: regular t := by
  unfold regular
  rw [unifyBreaks_cons hr]
  by_cases hempty : unifyBreaks t = []
  · simp [hempty, hn]
  · rw [List.getLast?_cons_of_ne_nil hempty]
    by_cases hlast : (unifyBreaks t).getLast? = some '\n'
    · simp [hlast, hempty]
    · simp [hlast, hempty]

/-- The lines of a text, joined, are the regular text. -/
theorem joinLines_splitLines (t : Text) : joinLines (splitLines t) = regular t := by
  have hempty : ∀ lines, joinLines ([] :: lines) = '\n' :: joinLines lines := fun _ => rfl
  fun_induction splitLines t with
  | case1 => rfl
  | case2 rest ih =>
    have hunify : unifyBreaks ('\r' :: '\n' :: rest) = '\n' :: unifyBreaks rest := by
      rw [unifyBreaks]
    rw [hempty, ih, regular_of_break hunify]
  | case3 rest hnext ih =>
    have hunify : unifyBreaks ('\r' :: rest) = '\n' :: unifyBreaks rest := by
      rw [unifyBreaks]
      exact hnext
    rw [hempty, ih, regular_of_break hunify]
  | case4 rest ih =>
    have hunify : unifyBreaks ('\n' :: rest) = '\n' :: unifyBreaks rest :=
      unifyBreaks_cons (by decide) rest
    rw [hempty, ih, regular_of_break hunify]
  | case5 c rest _ hr hn hrest ih =>
    -- the last line has no break behind it
    have hregular : regular rest = [] := by
      rw [← ih, hrest]
      rfl
    rw [regular_cons hn hr, if_pos hregular]
    rfl
  | case6 c rest _ hr hn line more hrest ih =>
    have hjoined : regular rest = line ++ '\n' :: joinLines more := by
      rw [← ih, hrest]
      simp [joinLines]
    have hne : regular rest ≠ [] := by simp [hjoined]
    rw [regular_cons hn hr, if_neg hne, hjoined]
    simp [joinLines]

/-- Texts that are the same when they are made regular have the same lines. -/
theorem splitLines_eq_of_regular_eq {t u : Text} (h : regular t = regular u) :
    splitLines t = splitLines u := by
  have hlines : ∀ v, splitLines (regular v) = splitLines v := by
    intro v
    rw [← joinLines_splitLines]
    exact splitLines_joinLines fun line hline => unbroken_of_mem_splitLines hline
  rw [← hlines t, h, hlines u]

/-! ## Written lines -/

/-- The ways to end a line. -/
inductive Ending where
  | lineFeed
  | returnAndFeed
  | carriageReturn
deriving DecidableEq, Repr

/-- The characters that end a line. -/
def Ending.text : Ending → Text
  | lineFeed => ['\n']
  | returnAndFeed => ['\r', '\n']
  | carriageReturn => ['\r']

/-- The lines written one after the other, each ended in the given way. -/
def writeLines (ending : Ending) (lines : List Text) : Text :=
  lines.flatMap fun line => line ++ ending.text

/-- Written lines do not start with a line feed unless lines are ended by line feeds. -/
theorem head?_writeLines {ending : Ending} (hending : ending ≠ .lineFeed) {lines : List Text}
    (h : ∀ line ∈ lines, Unbroken line) : (writeLines ending lines).head? ≠ some '\n' := by
  cases lines with
  | nil => simp [writeLines]
  | cons line more =>
    have hline : Unbroken line := h line List.mem_cons_self
    cases line with
    | nil => cases ending <;> simp_all [writeLines, Ending.text]
    | cons c rest =>
      obtain ⟨⟨hn, -⟩, -⟩ := unbroken_cons.mp hline
      simpa [writeLines] using hn

/-- Lines without breaks are read back as they were written. -/
theorem splitLines_writeLines (ending : Ending) {lines : List Text}
    (h : ∀ line ∈ lines, Unbroken line) : splitLines (writeLines ending lines) = lines := by
  induction lines with
  | nil => rfl
  | cons line more ih =>
    have hline : Unbroken line := h line List.mem_cons_self
    have hmore : ∀ other ∈ more, Unbroken other :=
      fun other hother => h other (List.mem_cons_of_mem _ hother)
    have hbreak : splitLines (ending.text ++ writeLines ending more) =
        [] :: splitLines (writeLines ending more) := by
      cases ending with
      | lineFeed | returnAndFeed => simp [Ending.text, splitLines]
      | carriageReturn =>
        -- a line feed behind the carriage return would belong to the same break
        have hhead : (writeLines .carriageReturn more).head? ≠ some '\n' :=
          head?_writeLines (by decide) hmore
        show splitLines ('\r' :: writeLines .carriageReturn more) = _
        rw [splitLines]
        intro rest hrest
        apply hhead
        rw [hrest]
        rfl
    have hwritten : writeLines ending (line :: more) =
        line ++ (ending.text ++ writeLines ending more) := by
      simp [writeLines]
    rw [hwritten, splitLines_append_break hline hbreak, ih hmore]

end ShaderCompose.Text
