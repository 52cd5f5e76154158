import ShaderCompose.Proofs.Expansion.Indices

/-!
# Where markers stand

A marker is due in front of a line of a section if the numbering breaks off there: at the first line
of the section and at the first one behind each include line, where include lines and version
directives do not count.  In expanded code the markers stand where they are due, and nowhere else,
however the sections are nested.

The flag that an expansion keeps while it copies the lines of a section says whether a marker is
pending behind the lines that it has copied, and this is what each step preserves.
-/

set_option autoImplicit false

namespace ShaderCompose

/-! ## Lines for which a marker is due -/

/-- Lines that a marker can stand in front of: neither include lines nor version directives. -/
def takesMarker (line : Text) : Bool := (Include.key? line).isNone && !isVersionLine line

/-- The given lines of a section have none behind their last include line that takes a marker, or
none at all. -/
def MarkerPending (front : List (Nat × Text)) : Prop :=
  (∀ entry ∈ front, takesMarker entry.2 = false) ∨
    ∃ earlier number line between, front = earlier ++ (number, line) :: between ∧
      (Include.key? line).isSome = true ∧ ∀ entry ∈ between, takesMarker entry.2 = false

/-- The line with a number is the first of these lines that takes a marker, or the first one behind
an include line. -/
def MarkerDue (lines : List (Nat × Text)) (number : Nat) : Prop :=
  ∃ front line rest, lines = front ++ (number, line) :: rest ∧ takesMarker line = true ∧
    MarkerPending front

/-- In front of the first line of a section a marker is pending. -/
theorem markerPending_nil : MarkerPending [] := Or.inl (by simp)

/-- Behind an include line a marker is pending. -/
theorem markerPending_snoc_include {front : List (Nat × Text)} {number : Nat} {line key : Text}
    (hkey : Include.key? line = some key) : MarkerPending (front ++ [(number, line)]) :=
  Or.inr ⟨front, number, line, [], rfl, by rw [hkey]; rfl, by simp⟩

/-- Behind a line that is no include line, a marker is pending if it was so before and the line is a
version directive. -/
theorem markerPending_snoc_iff {front : List (Nat × Text)} {number : Nat} {line : Text}
    (hkey : Include.key? line = none) :
    MarkerPending (front ++ [(number, line)]) ↔
      MarkerPending front ∧ isVersionLine line = true := by
  have htakes : takesMarker line = false ↔ isVersionLine line = true := by
    simp [takesMarker, hkey]
  have hsnoc : ∀ entries : List (Nat × Text),
      (∀ entry ∈ entries ++ [(number, line)], takesMarker entry.2 = false) ↔
        (∀ entry ∈ entries, takesMarker entry.2 = false) ∧ isVersionLine line = true := by
    intro entries
    rw [← htakes]
    simp only [List.mem_append, List.mem_singleton, or_imp, forall_and, forall_eq]
  constructor
  · rintro (hnone | ⟨earlier, number', start, between, hfront, hstart, hnone⟩)
    · obtain ⟨hfront, hline⟩ := (hsnoc front).mp hnone
      exact ⟨Or.inl hfront, hline⟩
    · -- the include line is not the last one, so it stands in front of the line
      rcases List.eq_nil_or_concat' between with rfl | ⟨initial, last, rfl⟩
      · obtain ⟨-, hlast⟩ := List.append_inj' hfront rfl
        obtain ⟨-, rfl⟩ : number = number' ∧ line = start := by simpa using hlast
        simp [hkey] at hstart
      · rw [← List.cons_append, ← List.append_assoc] at hfront
        obtain ⟨rfl, hlast⟩ := List.append_inj' hfront rfl
        obtain rfl : (number, line) = last := by simpa using hlast
        obtain ⟨hbetween, hline⟩ := (hsnoc initial).mp hnone
        exact ⟨Or.inr ⟨earlier, number', start, initial, rfl, hstart, hbetween⟩, hline⟩
  · rintro ⟨hnone | ⟨earlier, number', start, between, rfl, hstart, hnone⟩, hline⟩
    · exact Or.inl ((hsnoc front).mpr ⟨hnone, hline⟩)
    · refine Or.inr ⟨earlier, number', start, between ++ [(number, line)], ?_, hstart, ?_⟩
      · simp
      · exact (hsnoc between).mpr ⟨hnone, hline⟩

/-- Where numbers differ, the number tells which line is meant. -/
theorem markerDue_iff {lines front rest : List (Nat × Text)} {number : Nat} {line : Text}
    (h : (lines.map Prod.fst).Nodup) (hsplit : lines = front ++ (number, line) :: rest) :
    MarkerDue lines number ↔ takesMarker line = true ∧ MarkerPending front := by
  subst hsplit
  constructor
  · rintro ⟨front', line', rest', hlines, htakes, hpending⟩
    rw [List.map_append, List.map_cons, List.nodup_append, List.nodup_cons] at h
    obtain ⟨-, ⟨hrest, -⟩, hfront⟩ := h
    have hnotFront : (number, line') ∉ front := by
      intro hmem
      exact hfront number (List.mem_map_of_mem hmem) number (by simp) rfl
    have hnotRest : (number, line') ∉ rest := by
      intro hmem
      have hnumber : number ∈ rest.map Prod.fst := List.mem_map_of_mem hmem
      exact hrest hnumber
    obtain ⟨rfl, hentry, -⟩ := (List.append_cons_inj_of_notMem hnotFront hnotRest).mp hlines
    rw [(Prod.mk.inj hentry).2]
    exact ⟨htakes, hpending⟩
  · rintro ⟨htakes, hpending⟩
    exact ⟨front, line, rest, rfl, htakes, hpending⟩

/-! ## Code with markers -/

/-- Code goes along the given lines, and the rule says which of them have a marker in front. -/
inductive Placed (rule : SectionId → Nat → Text → Bool → Prop) :
    List CodeLine → List (SectionId × Nat × Text) → Prop
  | nil : Placed rule [] []
  | copied {id : SectionId} {number : Nat} {line : Text} {code : List CodeLine}
      {lines : List (SectionId × Nat × Text)} :
      rule id number line false → Placed rule code lines →
        Placed rule (.copied line :: code) ((id, number, line) :: lines)
  | marker {id : SectionId} {number index : Nat} {line : Text} {code : List CodeLine}
      {lines : List (SectionId × Nat × Text)} :
      rule id number line true → Placed rule code lines →
        Placed rule (.marker number index :: .copied line :: code) ((id, number, line) :: lines)

/-- Whether code ends with a marker. -/
def endsInMarker (code : List CodeLine) : Bool :=
  match code.getLast? with
  | some (.marker _ _) => true
  | _ => false

/-- A copied line in front does not change whether code ends in a marker. -/
theorem endsInMarker_copied_cons (line : Text) (code : List CodeLine) :
    endsInMarker (.copied line :: code) = endsInMarker code := by
  cases code with
  | nil => rfl
  | cons first rest => simp [endsInMarker, List.getLast?_cons_cons]

/-- Code with a marker put at its end ends in one. -/
theorem endsInMarker_snoc (code : List CodeLine) (number index : Nat) :
    endsInMarker (code ++ [.marker number index]) = true := by
  simp [endsInMarker]

namespace Placed

variable {rule : SectionId → Nat → Text → Bool → Prop} {code more : List CodeLine}
variable {lines others : List (SectionId × Nat × Text)}

/-- Markers that stand where they are due still do so when two pieces of code are put one behind the
other. -/
theorem append (h : Placed rule code lines) (h' : Placed rule more others) :
    Placed rule (code ++ more) (lines ++ others) := by
  induction h with
  | nil => exact h'
  | copied hrule _ ih => exact .copied hrule ih
  | marker hrule _ ih => exact .marker hrule ih

/-- The rule for a line of the code, by its place among the lines. -/
theorem rule_of_copied (h : Placed rule code lines) {before after : List CodeLine} {line : Text}
    (hcode : code = before ++ .copied line :: after) :
    ∃ id number, lines[(copiedLines before).length]? = some (id, number, line) ∧
      rule id number line (endsInMarker before) := by
  induction h generalizing before with
  | nil => simp at hcode
  | @copied id number text code lines hrule _ ih =>
    cases before with
    | nil =>
      obtain ⟨hline, -⟩ := List.cons.inj hcode
      obtain rfl := CodeLine.copied.inj hline
      exact ⟨id, number, rfl, hrule⟩
    | cons first before =>
      rw [List.cons_append] at hcode
      obtain ⟨rfl, htail⟩ := List.cons.inj hcode
      obtain ⟨id, number, hline, hrule⟩ := ih htail
      rw [endsInMarker_copied_cons]
      exact ⟨id, number, by simpa [copiedLines] using hline, hrule⟩
  | @marker id number index text code lines hrule _ ih =>
    -- the marker and the line behind it are both in front of the line, or the line is this one
    cases before with
    | nil => simp at hcode
    | cons first before =>
      cases before with
      | nil =>
        obtain ⟨rfl, hline, -⟩ : CodeLine.marker number index = first ∧ text = line ∧
            code = after := by
          simpa using hcode
        rw [← hline]
        exact ⟨id, number, rfl, hrule⟩
      | cons second before =>
        obtain ⟨rfl, rfl, htail⟩ : CodeLine.marker number index = first ∧
            CodeLine.copied text = second ∧ code = before ++ .copied line :: after := by
          simpa using hcode
        obtain ⟨id, number', hline, hrule⟩ := ih htail
        have hends : endsInMarker (.marker number index :: .copied text :: before) =
            endsInMarker before := by
          rw [← endsInMarker_copied_cons text before]
          simp [endsInMarker, List.getLast?_cons_cons]
        rw [hends]
        exact ⟨id, number', by simpa [copiedLines] using hline, hrule⟩

/-- Behind a marker there is a line. -/
theorem copied_of_marker (h : Placed rule code lines) {before after : List CodeLine}
    {number index : Nat} (hcode : code = before ++ .marker number index :: after) :
    ∃ line rest, after = .copied line :: rest := by
  induction h generalizing before with
  | nil => simp at hcode
  | copied _ _ ih =>
    cases before with
    | nil => simp at hcode
    | cons first before => exact ih (List.cons.inj hcode).2
  | @marker id number' index' line code lines _ _ ih =>
    match before, hcode with
    | [], hcode => exact ⟨line, code, (List.cons.inj hcode).2.symm⟩
    | [first], hcode => simp at hcode
    | first :: second :: before, hcode => exact ih (List.cons.inj (List.cons.inj hcode).2).2

end Placed

/-! ## Along a run -/

/-- A line belongs to a section that is requested, and is marked if a marker is due for it there. -/
def MarkedWhereDue (requests : List (Text × Target)) (id : SectionId) (number : Nat) (line : Text)
    (marked : Bool) : Prop :=
  ∃ request ∈ requests, request.2.found.id = id ∧
    ∃ front rest, request.2.found.lines = front ++ (number, line) :: rest ∧
      (marked = true ↔ takesMarker line = true ∧ MarkerPending front)

/-- The lines that a job copies by itself are the remaining ones of a section that is requested, and
the flag says whether a marker is pending in front of them. -/
def Job.Within (requests : List (Text × Target)) (owner : SectionId) : Job → Prop
  | .request _ _ => True
  | .copy _ _ _ lines pending =>
    ∃ request ∈ requests, request.2.found.id = owner ∧
      ∃ front, request.2.found.lines = front ++ lines ∧
        (pending = true ↔ MarkerPending front)

section

variable {requests : List (Text × Target)} {owner : SectionId} {chain : Chain} {dir line : Text}
variable {index number : Nat} {rest : List (Nat × Text)} {pending : Bool}

/-- Behind an include line the rest of the lines is copied with a marker pending. -/
theorem Job.Within.included
    (h : (Job.copy chain dir index ((number, line) :: rest) pending).Within requests owner)
    {key : Text} (hkey : Include.key? line = some key) :
    (Job.copy chain dir index rest true).Within requests owner := by
  obtain ⟨request, hrequest, howner, front, hlines, -⟩ := h
  refine ⟨request, hrequest, howner, front ++ [(number, line)], by simp [hlines], ?_⟩
  simp [markerPending_snoc_include hkey]

/-- Behind a copied line a marker is pending only if one was and the line is a version directive. -/
theorem Job.Within.copied
    (h : (Job.copy chain dir index ((number, line) :: rest) pending).Within requests owner)
    (hkey : Include.key? line = none) :
    (Job.copy chain dir index rest (pending && isVersionLine line)).Within requests owner := by
  obtain ⟨request, hrequest, howner, front, hlines, hpending⟩ := h
  refine ⟨request, hrequest, howner, front ++ [(number, line)], by simp [hlines], ?_⟩
  rw [markerPending_snoc_iff hkey, ← hpending, Bool.and_eq_true]

/-- A copied line is marked where it is due. -/
theorem Job.Within.markedWhereDue
    (h : (Job.copy chain dir index ((number, line) :: rest) pending).Within requests owner)
    (hkey : Include.key? line = none) :
    MarkedWhereDue requests owner number line (pending && !isVersionLine line) := by
  obtain ⟨request, hrequest, howner, front, hlines, hpending⟩ := h
  refine ⟨request, hrequest, howner, front, rest, hlines, ?_⟩
  rw [← hpending]
  simp [takesMarker, hkey, and_comm]

end

/-- In the code of a job the markers stand where they are due. -/
theorem RunsAlong.placed {r : Registry} {m : Memory} {job : Job} {s s' : Expansion} {o : Outline}
    {code : List CodeLine} (h : RunsAlong r m job s o code s') {requests : List (Text × Target)}
    (hentered : o.entered ⊆ requests) (owner : SectionId) (howner : job.Within requests owner) :
    Placed (MarkedWhereDue requests) code (o.lines owner) := by
  induction h generalizing owner with
  | repeated | ended => exact .nil
  | @unfolded chain key s s' target m' inner code _ _ _ _ _ ih =>
    rw [Outline.entered, List.cons_subset, Outline.entered, List.append_nil] at hentered
    -- the flag is set at the start of a section
    have hwithin : (Job.copy (chain ++ [(target.found.id, key)]) (Path.directory target.name)
        ((s.withMemory m').begin target).1 target.found.lines true).Within requests
        target.found.id :=
      ⟨_, hentered.1, rfl, [], rfl, by simp [markerPending_nil]⟩
    have hplaced := ih hentered.2 _ hwithin
    simpa only [Outline.lines, List.append_nil] using hplaced
  | included hkey _ _ ihrequest ihrest =>
    rw [Outline.entered_append, List.append_subset] at hentered
    rw [Outline.lines_append]
    exact (ihrequest hentered.1 owner trivial).append
      (ihrest hentered.2 owner (howner.included hkey))
  | copied hkey _ ih =>
    have hplaced := ih hentered owner (howner.copied hkey)
    have hmarked := howner.markedWhereDue hkey
    unfold markerFor
    split
    · next hdue =>
      rw [hdue] at hmarked
      exact .marker hmarked hplaced
    · next hdue =>
      rw [Bool.not_eq_true] at hdue
      rw [hdue] at hmarked
      exact .copied hmarked hplaced

/-- In expanded code a marker stands directly in front of a line if and only if one is due for this
line in its section.  So behind each marker there is a line that is no version directive, and a
version directive that only has such directives before it has no marker before it at all. -/
theorem expand_markers_placed {r : Registry} {key : Text} {m m' : Memory} {expanded : Expanded}
    (h : expand r key m = (.ok expanded, m')) :
    ∃ tree : IncludeTree r m' key,
      (∀ before line after, expanded.code = before ++ .copied line :: after →
        ∃ request ∈ tree.requests, ∃ number,
          tree.lines[(copiedLines before).length]? = some (request.2.found.id, number, line) ∧
          (number, line) ∈ request.2.found.lines ∧
          (endsInMarker before = true ↔ MarkerDue request.2.found.lines number)) ∧
      (∀ before number index after, expanded.code = before ++ .marker number index :: after →
        ∃ line rest, after = .copied line :: rest ∧ takesMarker line = true) ∧
      ∀ before line after, expanded.code = before ++ .copied line :: after →
        isVersionLine line = true → (∀ text ∈ copiedLines before, isVersionLine text = true) →
          ∀ number index, .marker number index ∉ before := by
  obtain ⟨s, hruns, -, -, rfl⟩ := runs_of_expand_eq_ok h
  obtain ⟨tree, halong⟩ := hruns.exists_tree
  have hplaced : Placed (MarkedWhereDue tree.requests) expanded.code tree.lines := by
    have hentered : tree.request.entered ⊆ tree.requests := by simp
    simpa using halong.placed hentered tree.root.found.id trivial
  have hline : ∀ before line after, expanded.code = before ++ .copied line :: after →
      ∃ request ∈ tree.requests, ∃ number,
        tree.lines[(copiedLines before).length]? = some (request.2.found.id, number, line) ∧
        (number, line) ∈ request.2.found.lines ∧
        (endsInMarker before = true ↔ MarkerDue request.2.found.lines number) := by
    intro before line after hcode
    obtain ⟨id, number, hat, request, hrequest, rfl, front, rest, hlines, hdue⟩ :=
      hplaced.rule_of_copied hcode
    have hnodup : (request.2.found.lines.map Prod.fst).Nodup :=
      (Text.numbers_ascend _ _).imp Nat.ne_of_lt
    refine ⟨request, hrequest, number, hat, by simp [hlines], ?_⟩
    rw [markerDue_iff hnodup hlines]
    exact hdue
  have hmarker : ∀ before number index after,
      expanded.code = before ++ .marker number index :: after →
        ∃ line rest, after = .copied line :: rest ∧ takesMarker line = true := by
    intro before number index after hcode
    obtain ⟨line, rest, rfl⟩ := hplaced.copied_of_marker hcode
    have hsplit : expanded.code = before ++ [.marker number index] ++ .copied line :: rest := by
      simp [hcode]
    obtain ⟨id, number', -, request, -, -, front, later, -, hdue⟩ :=
      hplaced.rule_of_copied hsplit
    exact ⟨line, rest, rfl, (hdue.mp (endsInMarker_snoc before number index)).1⟩
  refine ⟨tree, hline, hmarker, ?_⟩
  intro before line after hcode hversion hbefore number index hmem
  obtain ⟨front, back, rfl⟩ := List.append_of_mem hmem
  rw [List.append_assoc, List.cons_append] at hcode
  obtain ⟨text, rest, hback, htakes⟩ := hmarker _ _ _ _ hcode
  have htext : isVersionLine text = false := by
    simp only [takesMarker, Bool.and_eq_true, Bool.not_eq_true'] at htakes
    exact htakes.2
  -- the line behind the marker is the directive itself or stands in front of it
  cases back with
  | nil =>
    obtain ⟨hsame, -⟩ := List.cons.inj hback
    rw [← CodeLine.copied.inj hsame, hversion] at htext
    contradiction
  | cons first back =>
    obtain ⟨rfl, -⟩ := List.cons.inj hback
    have hversion' := hbefore text (by simp [copiedLines])
    rw [hversion'] at htext
    contradiction

/-- A scene with version directives, a section without lines, and an include line at the end. -/
def stagedScene : Registry :=
  ⟨[], "fx".toList, "glsl".toList,
    .table [
      ("fx/stage.glsl".toList, .text ("-- main\n#version 330\n#include \"stage.empty\"\n" ++
        "#version 410\nfirst\nsecond\n#include \"stage.tail\"\n#include \"stage.empty\"\n" ++
        "third\n-- empty\n-- tail\n#include \"stage.empty\"\n").toList)],
    "/work".toList⟩

/-- Both version directives are in front of the first marker, and the line behind two include lines
that give no lines has a marker again. -/
theorem expand_stagedScene_placed :
    ∃ expanded m', expand stagedScene "stage.main".toList ⟨.empty, [], []⟩ = (.ok expanded, m') ∧
      expanded.code = [.copied "#version 330".toList, .copied "#version 410".toList,
        .marker 5 0, .copied "first".toList, .copied "second".toList, .marker 9 0,
        .copied "third".toList] ∧
      ∃ tree : IncludeTree stagedScene m' "stage.main".toList,
        ∃ request ∈ tree.requests, ∃ number,
          tree.lines[4]? = some (request.2.found.id, number, "third".toList) ∧
          MarkerDue request.2.found.lines number := by
  obtain ⟨expanded, m', hexpand, htest⟩ := exists_of_any
    (expand stagedScene "stage.main".toList ⟨.empty, [], []⟩)
    (fun expanded => expanded.code == [.copied "#version 330".toList,
      .copied "#version 410".toList, .marker 5 0, .copied "first".toList,
      .copied "second".toList, .marker 9 0, .copied "third".toList]) (by decide +kernel)
  have hcode := beq_iff_eq.mp htest
  obtain ⟨tree, hline, -, -⟩ := expand_markers_placed hexpand
  obtain ⟨request, hrequest, number, hat, -, hdue⟩ := hline
    [.copied "#version 330".toList, .copied "#version 410".toList, .marker 5 0,
      .copied "first".toList, .copied "second".toList, .marker 9 0] "third".toList [] hcode
  exact ⟨expanded, m', hexpand, hcode, tree, request, hrequest, number, hat, hdue.mp rfl⟩

end ShaderCompose
