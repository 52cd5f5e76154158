import ShaderCompose.Expansion
import ShaderCompose.Proofs.Text.Lines

/-!
# Reading code with its markers

A shader compiler reads code line by line and keeps a position, a file index and a line number.  A
marker sets the position of the line after it, and every other line moves the position on by one
line.  For code that an expansion writes, reading the text in this way comes to the same as walking
through the lines of the expansion: `Attributed` says so for one property of all its copied lines.
-/

set_option autoImplicit false

namespace ShaderCompose

/-! ## Positions -/

/-- A line of a source file: a file index, and a number counted from one. -/
structure Position where
  file : Nat
  line : Nat
deriving DecidableEq, Repr

/-- The next line of the same file. -/
def Position.next (p : Position) : Position := ⟨p.file, p.line + 1⟩

/-- Texts that are written by digits, one at least. -/
def isNumeral (t : Text) : Bool := !t.isEmpty && t.all Char.isDigit

/-- The position that a line sets, if it is a marker: the word, a line number and a file index, with
single spaces between them. -/
def markedPosition? (line : Text) : Option Position :=
  match Text.dropStart? line "#line ".toList with
  | none => none
  | some rest =>
    let number := rest.takeWhile Char.isDigit
    match Text.dropStart? (rest.dropWhile Char.isDigit) [' '] with
    | none => none
    | some file =>
      if isNumeral number && isNumeral file then
        some ⟨Text.decimalOf file, Text.decimalOf number⟩
      else none

/-- The lines of a code that are no markers, each with the position at which it is read. -/
def readPositions : Option Position → List Text → List (Option Position × Text)
  | _, [] => []
  | position, line :: rest =>
    match markedPosition? line with
    | some marked => readPositions (some marked) rest
    | none => (position, line) :: readPositions (position.map Position.next) rest

/-- The lines of a code, each of which is ended by a line feed. -/
def codeLines (code : Text) : List Text := (Text.pieces '\n' code).dropLast

/-- What comes after the last line feed of a code. -/
def codeRest (code : Text) : Text := (Text.pieces '\n' code).getLastD []

/-! ## The text of expanded code -/

/-- The text of a line of expanded code without its line feed. -/
def CodeLine.content : CodeLine → Text
  | .marker line file => "#line ".toList ++ (Text.ofNat line ++ ' ' :: Text.ofNat file)
  | .copied text => text

/-- The text of a marker. -/
theorem content_marker (line file : Nat) :
    (CodeLine.marker line file).content =
      "#line ".toList ++ (Text.ofNat line ++ ' ' :: Text.ofNat file) := rfl

/-- A line of expanded code is written with a line feed behind it. -/
theorem render_eq_content (line : CodeLine) : line.render = line.content ++ ['\n'] := by
  cases line with
  | marker line file =>
    change lineMarker (Text.ofNat line) (Text.ofNat file) = _ ++ (_ ++ ' ' :: _) ++ _
    unfold lineMarker
    -- the word is kept from being computed
    generalize "#line ".toList = word
    simp
  | copied text => rfl

/-- A number is written without line feeds. -/
theorem lf_notMem_ofNat (n : Nat) : '\n' ∉ Text.ofNat n := by
  intro hmem
  exact absurd (Text.isDigit_of_mem_ofNat hmem) (by decide)

/-- A line of expanded code has no line feed in it if none is copied. -/
theorem lf_notMem_content {line : CodeLine} (h : ∀ text, line = .copied text → '\n' ∉ text) :
    '\n' ∉ line.content := by
  cases line with
  | copied text => exact h text rfl
  | marker line file =>
    have hword : '\n' ∉ "#line ".toList := by decide
    rw [content_marker, List.mem_append, List.mem_append, List.mem_cons, not_or, not_or, not_or]
    exact ⟨hword, lf_notMem_ofNat line, by decide, lf_notMem_ofNat file⟩

/-- The pieces of expanded code between line feeds are its lines, and nothing behind them. -/
theorem pieces_renderCode {code : List CodeLine} (h : ∀ text, .copied text ∈ code → '\n' ∉ text) :
    Text.pieces '\n' (renderCode code) = code.map CodeLine.content ++ [[]] := by
  induction code with
  | nil => rfl
  | cons line rest ih =>
    have hline : '\n' ∉ line.content :=
      lf_notMem_content fun text heq => h text (heq ▸ List.mem_cons_self)
    have hrest := ih fun text hmem => h text (List.mem_cons_of_mem _ hmem)
    have hrender : renderCode (line :: rest) = line.content ++ '\n' :: renderCode rest := by
      simp [renderCode, render_eq_content]
    rw [hrender, Text.pieces_append, Text.pieces_of_notMem hline, hrest]
    rfl

/-- The lines of expanded code, if no line feed is copied. -/
theorem codeLines_renderCode {code : List CodeLine}
    (h : ∀ text, .copied text ∈ code → '\n' ∉ text) :
    codeLines (renderCode code) = code.map CodeLine.content := by
  unfold codeLines
  rw [pieces_renderCode h, List.dropLast_concat]

/-- Nothing comes after the last line feed of expanded code. -/
theorem codeRest_renderCode {code : List CodeLine}
    (h : ∀ text, .copied text ∈ code → '\n' ∉ text) : codeRest (renderCode code) = [] := by
  unfold codeRest
  rw [pieces_renderCode h]
  simp

/-! ## Markers -/

/-- A number is written by digits. -/
theorem isNumeral_ofNat (n : Nat) : isNumeral (Text.ofNat n) = true := by
  have hall : (Text.ofNat n).all Char.isDigit = true :=
    List.all_eq_true.mpr fun c hc => Text.isDigit_of_mem_ofNat hc
  have hsome : (Text.ofNat n).isEmpty = false := by simp [Text.ofNat_ne_nil]
  rw [isNumeral, hall, hsome]
  rfl

/-- A marker sets the position that it was written for. -/
theorem markedPosition?_marker (line file : Nat) :
    markedPosition? (CodeLine.marker line file).content = some ⟨file, line⟩ := by
  have hdigits : ∀ c ∈ Text.ofNat line, c.isDigit = true :=
    fun c hc => Text.isDigit_of_mem_ofNat hc
  have htake : (Text.ofNat line ++ ' ' :: Text.ofNat file).takeWhile Char.isDigit =
      Text.ofNat line := by
    rw [List.takeWhile_append_of_pos hdigits, List.takeWhile_cons_of_neg (by decide),
      List.append_nil]
  have hdrop : (Text.ofNat line ++ ' ' :: Text.ofNat file).dropWhile Char.isDigit =
      [' '] ++ Text.ofNat file := by
    rw [List.dropWhile_append_of_pos hdigits, List.dropWhile_cons_of_neg (by decide)]
    rfl
  unfold markedPosition?
  rw [content_marker, Text.dropStart?_append]
  dsimp only
  rw [htake, hdrop, Text.dropStart?_append]
  dsimp only
  rw [isNumeral_ofNat, isNumeral_ofNat, Text.decimalOf_ofNat, Text.decimalOf_ofNat]
  rfl

/-- A line that does not start like a marker sets no position. -/
theorem markedPosition?_of_not_startsWith {line : Text}
    (h : Text.startsWith line "#line".toList = false) : markedPosition? line = none := by
  unfold markedPosition?
  cases hdrop : Text.dropStart? line "#line ".toList with
  | none => rfl
  | some rest =>
    have hword : "#line ".toList = "#line".toList ++ [' '] := by decide
    have hstarts : Text.startsWith line "#line".toList = true := by
      rw [Text.eq_append_of_dropStart? hdrop, hword, List.append_assoc]
      exact List.isPrefixOf_iff_prefix.mpr (List.prefix_append _ _)
    rw [hstarts] at h
    contradiction

/-! ## Attribution -/

/-- Walking through expanded code from a position on, every copied line has the given property at
the position at which it is met. -/
def Attributed (holds : Option Position → Text → Prop) : Option Position → List CodeLine → Prop
  | _, [] => True
  | _, .marker line file :: rest => Attributed holds (some ⟨file, line⟩) rest
  | position, .copied text :: rest =>
    holds position text ∧ Attributed holds (position.map Position.next) rest

/-- Code that is attributed from any position on can come behind other attributed code. -/
theorem Attributed.append {holds : Option Position → Text → Prop} {position : Option Position}
    {code more : List CodeLine} (h : Attributed holds position code)
    (hmore : ∀ later, Attributed holds later more) :
    Attributed holds position (code ++ more) := by
  induction code generalizing position with
  | nil => exact hmore position
  | cons line rest ih =>
    cases line with
    | marker line file => exact ih h
    | copied text => exact ⟨h.1, ih h.2⟩

/-- Every copied line of attributed code has the property at some position. -/
theorem Attributed.exists_of_mem {holds : Option Position → Text → Prop}
    {position : Option Position} {code : List CodeLine} {text : Text}
    (h : Attributed holds position code) (hmem : .copied text ∈ code) :
    ∃ met, holds met text := by
  induction code generalizing position with
  | nil => simp at hmem
  | cons line rest ih =>
    cases line with
    | marker line file => exact ih h (by simpa using hmem)
    | copied other =>
      rcases List.mem_cons.mp hmem with heq | hmem
      · obtain rfl : text = other := by simpa using heq
        exact ⟨position, h.1⟩
      · exact ih h.2 hmem

/-- The lines of attributed code have the property at the positions at which they are read. -/
theorem Attributed.of_mem_readPositions {holds : Option Position → Text → Prop}
    {position met : Option Position} {code : List CodeLine} {text : Text}
    (h : Attributed holds position code)
    (hplain : ∀ text, .copied text ∈ code → Text.startsWith text "#line".toList = false)
    (hmem : (met, text) ∈ readPositions position (code.map CodeLine.content)) :
    holds met text := by
  induction code generalizing position with
  | nil => simp [readPositions] at hmem
  | cons line rest ih =>
    have hrest : ∀ text, .copied text ∈ rest → Text.startsWith text "#line".toList = false :=
      fun text ht => hplain text (List.mem_cons_of_mem _ ht)
    cases line with
    | marker line file =>
      simp only [List.map_cons, readPositions, markedPosition?_marker] at hmem
      exact ih h hrest hmem
    | copied other =>
      have hnone := markedPosition?_of_not_startsWith (hplain other List.mem_cons_self)
      change (met, text) ∈ readPositions position (other :: rest.map CodeLine.content) at hmem
      simp only [readPositions, hnone] at hmem
      rcases List.mem_cons.mp hmem with heq | hmem
      · obtain ⟨rfl, rfl⟩ := Prod.mk.inj heq
        exact h.1
      · exact ih h.2 hrest hmem

end ShaderCompose
