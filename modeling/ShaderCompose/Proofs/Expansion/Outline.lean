import Mathlib.Data.List.Nodup
import Mathlib.Logic.Relation
import ShaderCompose.Proofs.Loading

/-!
# Outlines of include trees

An outline lists the lines of a section in order, and for an include line the section that it
requests: entered, with an outline of its own, if this is the first request, and skipped otherwise.
The outline says nothing about markers, file indices or the sections that are being expanded.  The
main statements are about its parts: a section is entered once, those entered are those that include
lines lead to, and each of them contributes its own lines once and in order.
-/

set_option autoImplicit false

namespace ShaderCompose

/-- A key is found with what is in the cache already. -/
def Finds (r : Registry) (m : Memory) (key : Text) (target : Target) : Prop :=
  locate r key m = (.ok target, m)

/-- A key is found as one target only. -/
theorem Finds.unique {r : Registry} {m : Memory} {key : Text} {target other : Target}
    (h : Finds r m key target) (h' : Finds r m key other) : target = other := by
  have heq := h.symm.trans h'
  simpa using heq

/-- The numbered lines that are no include lines. -/
def ownLines (lines : List (Nat × Text)) : List (Nat × Text) :=
  lines.filter fun entry => (Include.key? entry.2).isNone

/-- How many of the numbered lines are include lines. -/
def includeCount (lines : List (Nat × Text)) : Nat :=
  lines.countP fun entry => (Include.key? entry.2).isSome

/-- The total over a list is that of its first item and of the others. -/
theorem totalOf_cons {α : Type} (count : α → Nat) (item : α) (items : List α) :
    totalOf count (item :: items) = count item + totalOf count items := rfl

/-- The total over a list in two parts is the sum of their totals. -/
theorem totalOf_append {α : Type} (count : α → Nat) (items more : List α) :
    totalOf count (items ++ more) = totalOf count items + totalOf count more := by
  induction items with
  | nil => simp [totalOf]
  | cons item rest ih => rw [List.cons_append, totalOf_cons, totalOf_cons, ih, Nat.add_assoc]

/-- The lines of a section, each to be copied or requesting a section by a key.  A requested section
is skipped or entered. -/
inductive Outline where
  | done
  | line (number : Nat) (text : Text) (rest : Outline)
  | skip (key : Text) (target : Target) (rest : Outline)
  | enter (key : Text) (target : Target) (inner rest : Outline)

namespace Outline

/-- One outline behind another. -/
def append : Outline → Outline → Outline
  | done, more => more
  | line number text rest, more => line number text (rest.append more)
  | skip key target rest, more => skip key target (rest.append more)
  | enter key target inner rest, more => enter key target inner (rest.append more)

/-- The requests on which a section is entered, in order. -/
def entered : Outline → List (Text × Target)
  | done => []
  | line _ _ rest => rest.entered
  | skip _ _ rest => rest.entered
  | enter key target inner rest => (key, target) :: (inner.entered ++ rest.entered)

/-- The requests on which a section is skipped, in order. -/
def skipped : Outline → List (Text × Target)
  | done => []
  | line _ _ rest => rest.skipped
  | skip key target rest => (key, target) :: rest.skipped
  | enter _ _ inner rest => inner.skipped ++ rest.skipped

/-- The sections that are entered, in order. -/
def sections (o : Outline) : List SectionId := o.entered.map fun request => request.2.found.id

/-- The lines that are copied in order, each with its number and the section that it belongs to.
The lines outside of the sections that are entered belong to the given one. -/
def lines (owner : SectionId) : Outline → List (SectionId × Nat × Text)
  | done => []
  | line number text rest => (owner, number, text) :: rest.lines owner
  | skip _ _ rest => rest.lines owner
  | enter _ target inner rest => inner.lines target.found.id ++ rest.lines owner

/-- A section is entered where it is requested for the first time, and skipped from then on.  The
given sections have been requested before. -/
def FirstEntered (seen : List SectionId) : Outline → Prop
  | done => True
  | line _ _ rest => rest.FirstEntered seen
  | skip _ target rest => target.found.id ∈ seen ∧ rest.FirstEntered seen
  | enter _ target inner rest =>
    target.found.id ∉ seen ∧ inner.FirstEntered (seen ++ [target.found.id]) ∧
      rest.FirstEntered (seen ++ [target.found.id] ++ inner.sections)

/-- An outline in two parts enters what the first part enters, and then what the second does. -/
@[simp]
theorem entered_append (a b : Outline) : (a.append b).entered = a.entered ++ b.entered := by
  induction a with
  | done => rfl
  | line number text rest ih => simpa [append, entered] using ih
  | skip key target rest ih => simpa [append, entered] using ih
  | enter key target inner rest _ ih => simp [append, entered, ih]

/-- An outline in two parts skips what the first part skips, and then what the second does. -/
@[simp]
theorem skipped_append (a b : Outline) : (a.append b).skipped = a.skipped ++ b.skipped := by
  induction a with
  | done => rfl
  | line number text rest ih => simpa [append, skipped] using ih
  | skip key target rest ih => simp [append, skipped, ih]
  | enter key target inner rest _ ih => simp [append, skipped, ih]

/-- The sections of an outline in two parts are those of the first, and then those of the second. -/
@[simp]
theorem sections_append (a b : Outline) : (a.append b).sections = a.sections ++ b.sections := by
  simp [sections]

/-- The sections of an outline that begins with an entered one are this section, those inside it and
those of the rest. -/
@[simp]
theorem sections_enter (key : Text) (target : Target) (inner rest : Outline) :
    (enter key target inner rest).sections =
      target.found.id :: (inner.sections ++ rest.sections) := by
  simp [sections, entered]

/-- The lines of an outline in two parts are those of the first part, and then those of the
second. -/
@[simp]
theorem lines_append (owner : SectionId) (a b : Outline) :
    (a.append b).lines owner = a.lines owner ++ b.lines owner := by
  induction a with
  | done => rfl
  | line number text rest ih => simp [append, lines, ih]
  | skip key target rest ih => simpa [append, lines] using ih
  | enter key target inner rest _ ih => simp [append, lines, ih]

/-- An outline in two parts enters sections for the first time if the first part does, and if the
second does behind all sections of the first. -/
theorem firstEntered_append {seen : List SectionId} {a b : Outline} :
    (a.append b).FirstEntered seen ↔
      a.FirstEntered seen ∧ b.FirstEntered (seen ++ a.sections) := by
  induction a generalizing seen with
  | done => simp [append, FirstEntered, sections, entered]
  | line number text rest ih => exact ih
  | skip key target rest ih =>
    simp only [append, FirstEntered, ih, and_assoc]
    rfl
  | enter key target inner rest _ ih => simp [append, FirstEntered, ih, and_assoc]

/-- No section is entered twice, and none that was requested before. -/
theorem FirstEntered.nodup {seen : List SectionId} {o : Outline} (h : o.FirstEntered seen)
    (hseen : seen.Nodup) : (seen ++ o.sections).Nodup := by
  induction o generalizing seen with
  | done => simpa [sections, entered] using hseen
  | line number text rest ih => exact ih h hseen
  | skip key target rest ih => exact ih h.2 hseen
  | enter key target inner rest ihinner ihrest =>
    obtain ⟨hnew, hinner, hrest⟩ := h
    have hfirst : (seen ++ [target.found.id]).Nodup :=
      hseen.append (List.nodup_singleton _) (List.disjoint_singleton.mpr hnew)
    have hall := ihrest hrest (ihinner hinner hfirst)
    simpa using hall

/-- A section that is entered for the first time was not seen before. -/
theorem FirstEntered.notMem_seen {seen : List SectionId} {o : Outline} (h : o.FirstEntered seen)
    (hseen : seen.Nodup) {id : SectionId} (hid : id ∈ o.sections) : id ∉ seen := by
  intro hmem
  exact (List.nodup_append.mp (h.nodup hseen)).2.2 id hmem id hid rfl

/-- A section that is entered is one of the sections of the outline. -/
theorem mem_sections {o : Outline} {request : Text × Target} (h : request ∈ o.entered) :
    request.2.found.id ∈ o.sections :=
  List.mem_map_of_mem h

/-- A copied line belongs to the section at hand or to one that is entered. -/
theorem mem_lines {owner id : SectionId} {entry : Nat × Text} {o : Outline}
    (h : (id, entry) ∈ o.lines owner) : id = owner ∨ id ∈ o.sections := by
  induction o generalizing owner with
  | done => simp [lines] at h
  | line number text rest ih =>
    rcases List.mem_cons.mp h with h | h
    · exact Or.inl (congrArg Prod.fst h)
    · exact ih h
  | skip key target rest ih => exact ih h
  | enter key target inner rest ihinner ihrest =>
    rw [sections_enter, List.mem_cons, List.mem_append]
    rcases List.mem_append.mp h with h | h
    · rcases ihinner h with h | h
      · exact Or.inr (Or.inl h)
      · exact Or.inr (Or.inr (Or.inl h))
    · rcases ihrest h with h | h
      · exact Or.inl h
      · exact Or.inr (Or.inr (Or.inr h))

/-- Among copied lines, those of one section. -/
def linesOf (id : SectionId) (copied : List (SectionId × Nat × Text)) : List (Nat × Text) :=
  (copied.filter fun entry => entry.1 = id).map Prod.snd

/-- The lines that a section owns in two lists are those in the first, and then those in the
second. -/
@[simp]
theorem linesOf_append (id : SectionId) (a b : List (SectionId × Nat × Text)) :
    linesOf id (a ++ b) = linesOf id a ++ linesOf id b := by
  simp [linesOf]

/-- An outline has no lines of a section that is not at hand and is not entered. -/
theorem linesOf_eq_nil {owner id : SectionId} {o : Outline} (howner : id ≠ owner)
    (hid : id ∉ o.sections) : linesOf id (o.lines owner) = [] := by
  unfold linesOf
  rw [List.map_eq_nil_iff, List.filter_eq_nil_iff]
  rintro ⟨other, entry⟩ hmem
  have hother := mem_lines hmem
  simp only [decide_eq_true_eq]
  rintro rfl
  exact hother.elim howner hid

end Outline

/-! ## The outline of a section -/

/-- The outline goes along the given lines of a section, whose include keys are relative to the
directory.  Each section that is entered has the outline of its own lines, with include keys
relative to the directory of the key that requests it. -/
inductive Follows (r : Registry) (m : Memory) : Text → List (Nat × Text) → Outline → Prop
  | done {dir : Text} : Follows r m dir [] .done
  | line {dir text : Text} {number : Nat} {lines : List (Nat × Text)} {rest : Outline} :
      Include.key? text = none → Follows r m dir lines rest →
        Follows r m dir ((number, text) :: lines) (.line number text rest)
  | skip {dir text key : Text} {number : Nat} {lines : List (Nat × Text)} {target : Target}
      {rest : Outline} :
      Include.key? text = some key → Finds r m (Include.relativeTo dir key) target →
      Follows r m dir lines rest →
        Follows r m dir ((number, text) :: lines)
          (.skip (Include.relativeTo dir key) target rest)
  | enter {dir text key : Text} {number : Nat} {lines : List (Nat × Text)} {target : Target}
      {inner rest : Outline} :
      Include.key? text = some key → Finds r m (Include.relativeTo dir key) target →
      Follows r m (Path.directory target.name) target.found.lines inner →
      Follows r m dir lines rest →
        Follows r m dir ((number, text) :: lines)
          (.enter (Include.relativeTo dir key) target inner rest)

namespace Follows

variable {r : Registry} {m : Memory} {dir : Text} {lines : List (Nat × Text)} {o : Outline}
variable {seen : List SectionId}

/-- The sections that were requested before decide what the outline is. -/
theorem unique (h : Follows r m dir lines o) (hfirst : o.FirstEntered seen) {other : Outline}
    (h' : Follows r m dir lines other) (hfirst' : other.FirstEntered seen) : o = other := by
  -- an include line is skipped or entered by what was requested before, which is the same
  induction h generalizing other seen with
  | done =>
    cases h' with
    | done => rfl
  | line hkey _ ih =>
    cases h' with
    | line hkey' hrest' => rw [ih hfirst hrest' hfirst']
    | skip hkey' | enter hkey' => simp [hkey] at hkey'
  | skip hkey hfinds _ ih =>
    cases h' with
    | line hkey' => simp [hkey] at hkey'
    | skip hkey' hfinds' hrest' =>
      cases hkey.symm.trans hkey'
      rw [hfinds.unique hfinds', ih hfirst.2 hrest' hfirst'.2]
    | enter hkey' hfinds' hinner' hrest' =>
      cases hkey.symm.trans hkey'
      rw [hfinds.unique hfinds'] at hfirst
      exact absurd hfirst.1 hfirst'.1
  | enter hkey hfinds _ _ ihinner ihrest =>
    cases h' with
    | line hkey' => simp [hkey] at hkey'
    | skip hkey' hfinds' hrest' =>
      cases hkey.symm.trans hkey'
      rw [hfinds.unique hfinds'] at hfirst
      exact absurd hfirst'.1 hfirst.1
    | enter hkey' hfinds' hinner' hrest' =>
      cases hkey.symm.trans hkey'
      cases hfinds.unique hfinds'
      obtain rfl := ihinner hfirst.2.1 hinner' hfirst'.2.1
      rw [ihrest hfirst.2.2 hrest' hfirst'.2.2]

/-- Every include line is a request, on which a section is entered or skipped. -/
theorem length_entered_add_length_skipped (h : Follows r m dir lines o) :
    o.entered.length + o.skipped.length =
      includeCount lines +
        totalOf (fun request => includeCount request.2.found.lines) o.entered := by
  induction h with
  | done => rfl
  | line hkey _ ih => simpa [Outline.entered, Outline.skipped, includeCount, hkey] using ih
  | skip hkey _ _ ih =>
    simp only [Outline.entered, Outline.skipped, List.length_cons]
    simp only [includeCount, List.countP_cons, hkey] at ih ⊢
    simp only [Option.isSome_some, if_true]
    omega
  | enter hkey _ _ _ ihinner ihrest =>
    simp only [Outline.entered, Outline.skipped, List.length_cons, List.length_append, totalOf_cons,
      totalOf_append]
    simp only [includeCount, List.countP_cons, hkey] at ihinner ihrest ⊢
    simp only [Option.isSome_some, if_true]
    omega

/-- The lines at hand are copied once and in order, and nothing else that belongs to their
section. -/
theorem linesOf_owner (h : Follows r m dir lines o) (hfirst : o.FirstEntered seen)
    (hseen : seen.Nodup) {owner : SectionId} (howner : owner ∈ seen) :
    Outline.linesOf owner (o.lines owner) = ownLines lines := by
  induction h generalizing seen with
  | done => rfl
  | line hkey _ ih =>
    simpa [Outline.lines, Outline.linesOf, ownLines, hkey] using ih hfirst hseen howner
  | skip hkey _ _ ih => simpa [Outline.lines, ownLines, hkey] using ih hfirst.2 hseen howner
  | @enter dir text key number lines target inner rest hkey _ _ _ _ ihrest =>
    obtain ⟨hnew, hinner, hrest⟩ := hfirst
    have hseen' : (seen ++ [target.found.id]).Nodup :=
      hseen.append (List.nodup_singleton _) (List.disjoint_singleton.mpr hnew)
    have howner' : owner ∈ seen ++ [target.found.id] := List.mem_append_left _ howner
    have hnil : Outline.linesOf owner (inner.lines target.found.id) = [] := by
      refine Outline.linesOf_eq_nil ?_ fun hmem => hinner.notMem_seen hseen' hmem howner'
      rintro rfl
      exact hnew howner
    have htail := ihrest hrest (hinner.nodup hseen') (List.mem_append_left _ howner')
    rw [Outline.lines, Outline.linesOf_append, hnil, List.nil_append, htail]
    simp [ownLines, hkey]

/-- The lines of a section that is entered are copied once and in order, and nothing else that
belongs to it. -/
theorem linesOf_entered (h : Follows r m dir lines o) (hfirst : o.FirstEntered seen)
    (hseen : seen.Nodup) {owner : SectionId} (howner : owner ∈ seen) {request : Text × Target}
    (hrequest : request ∈ o.entered) :
    Outline.linesOf request.2.found.id (o.lines owner) = ownLines request.2.found.lines := by
  have hsection := Outline.mem_sections hrequest
  have hother : request.2.found.id ≠ owner := by
    intro heq
    exact hfirst.notMem_seen hseen hsection (heq ▸ howner)
  induction h generalizing seen owner with
  | done => simp [Outline.entered] at hrequest
  | line hkey hrest ih =>
    have hskip := ih hfirst hseen howner hrequest hsection hother
    simpa [Outline.lines, Outline.linesOf, hother.symm] using hskip
  | skip hkey _ _ ih => exact ih hfirst.2 hseen howner hrequest hsection hother
  | @enter dir text key number lines target inner rest hkey _ hfollows _ ihinner ihrest =>
    obtain ⟨hnew, hinner, hrest⟩ := hfirst
    have hseen' : (seen ++ [target.found.id]).Nodup :=
      hseen.append (List.nodup_singleton _) (List.disjoint_singleton.mpr hnew)
    have hseen'' := hinner.nodup hseen'
    have howner' : owner ∈ seen ++ [target.found.id] ++ inner.sections :=
      List.mem_append_left _ (List.mem_append_left _ howner)
    have hlast : target.found.id ∈ seen ++ [target.found.id] := by simp
    rw [Outline.lines, Outline.linesOf_append]
    simp only [Outline.entered, List.mem_cons, List.mem_append] at hrequest
    -- the section is the one entered here, or is entered inside it, or is entered later on
    rcases hrequest with rfl | hrequest | hrequest
    · rw [hfollows.linesOf_owner hinner hseen' hlast, Outline.linesOf_eq_nil hother,
        List.append_nil]
      intro hmem
      exact hrest.notMem_seen hseen'' hmem (List.mem_append_left _ hlast)
    · have hmem := Outline.mem_sections hrequest
      rw [ihinner hinner hseen' hlast hrequest hmem, Outline.linesOf_eq_nil hother,
        List.append_nil]
      · intro hlater
        exact hrest.notMem_seen hseen'' hlater (List.mem_append_right _ hmem)
      · intro heq
        exact hinner.notMem_seen hseen' hmem (heq ▸ hlast)
    · have hmem := Outline.mem_sections hrequest
      have hfresh := hrest.notMem_seen hseen'' hmem
      rw [ihrest hrest hseen'' howner' hrequest hmem hother, Outline.linesOf_eq_nil,
        List.nil_append]
      · intro heq
        exact hfresh (List.mem_append_left _ (heq ▸ hlast))
      · exact fun hinside => hfresh (List.mem_append_right _ hinside)

/-- What an include line at hand requests was requested before or is entered. -/
theorem mem_of_include (h : Follows r m dir lines o) (hfirst : o.FirstEntered seen) {number : Nat}
    {text key : Text} {target : Target} (hline : (number, text) ∈ lines)
    (hkey : Include.key? text = some key) (hfinds : Finds r m (Include.relativeTo dir key) target) :
    target.found.id ∈ seen ++ o.sections := by
  induction h generalizing seen with
  | done => simp at hline
  | line hkey' _ ih =>
    rcases List.mem_cons.mp hline with heq | hline
    · obtain ⟨-, rfl⟩ := Prod.mk.inj heq
      simp [hkey] at hkey'
    · exact ih hfirst hline hfinds
  | skip hkey' hfinds' _ ih =>
    rcases List.mem_cons.mp hline with heq | hline
    · obtain ⟨-, rfl⟩ := Prod.mk.inj heq
      cases hkey.symm.trans hkey'
      rw [hfinds.unique hfinds']
      exact List.mem_append_left _ hfirst.1
    · exact ih hfirst.2 hline hfinds
  | enter hkey' hfinds' _ _ _ ih =>
    rw [Outline.sections_enter]
    rcases List.mem_cons.mp hline with heq | hline
    · obtain ⟨-, rfl⟩ := Prod.mk.inj heq
      cases hkey.symm.trans hkey'
      rw [hfinds.unique hfinds']
      simp
    · simpa using ih hfirst.2.2 hline hfinds

end Follows

/-- A section that is requested as the one target has an include line for the other. -/
def Includes (r : Registry) (m : Memory) (target other : Target) : Prop :=
  ∃ number text key, (number, text) ∈ target.found.lines ∧ Include.key? text = some key ∧
    Finds r m (Include.relativeTo (Path.directory target.name) key) other

namespace Follows

variable {r : Registry} {m : Memory} {dir : Text} {lines : List (Nat × Text)} {o : Outline}
variable {seen : List SectionId}

/-- What a section that is entered includes was requested before or is entered. -/
theorem mem_of_includes (h : Follows r m dir lines o) (hfirst : o.FirstEntered seen)
    {request : Text × Target} (hrequest : request ∈ o.entered) {target : Target}
    (hincludes : Includes r m request.2 target) : target.found.id ∈ seen ++ o.sections := by
  induction h generalizing seen with
  | done => simp [Outline.entered] at hrequest
  | line _ _ ih => exact ih hfirst hrequest
  | skip _ _ _ ih => exact ih hfirst.2 hrequest
  | @enter dir text key number lines target' inner rest _ _ hfollows _ ihinner ihrest =>
    obtain ⟨-, hinner, hrest⟩ := hfirst
    have hall : seen ++ (Outline.enter (Include.relativeTo dir key) target' inner rest).sections =
        seen ++ [target'.found.id] ++ inner.sections ++ rest.sections := by
      simp
    rw [hall]
    simp only [Outline.entered, List.mem_cons, List.mem_append] at hrequest
    rcases hrequest with rfl | hrequest | hrequest
    · obtain ⟨number, text, key, hline, hkey, hfinds⟩ := hincludes
      exact List.mem_append_left _ (hfollows.mem_of_include hinner hline hkey hfinds)
    · exact List.mem_append_left _ (ihinner hinner hrequest)
    · exact ihrest hrest hrequest

/-- Steps that lead to whatever the include lines at hand request, and on from every section that is
entered, lead to all that are entered. -/
theorem reflTransGen_of_mem (h : Follows r m dir lines o) {step : SectionId → SectionId → Prop}
    {start : SectionId}
    (hstart : ∀ number text key target, (number, text) ∈ lines → Include.key? text = some key →
      Finds r m (Include.relativeTo dir key) target → step start target.found.id)
    (hstep : ∀ request ∈ o.entered, ∀ target, Includes r m request.2 target →
      step request.2.found.id target.found.id) {request : Text × Target}
    (hrequest : request ∈ o.entered) :
    Relation.ReflTransGen step start request.2.found.id := by
  induction h generalizing start with
  | done => simp [Outline.entered] at hrequest
  | line _ _ ih =>
    refine ih ?_ hstep hrequest
    exact fun number text key target hline => hstart number text key target (.tail _ hline)
  | skip _ _ _ ih =>
    refine ih ?_ hstep hrequest
    exact fun number text key target hline => hstart number text key target (.tail _ hline)
  | @enter dir text key number lines target inner rest hkey hfinds _ _ ihinner ihrest =>
    simp only [Outline.entered, List.mem_cons, List.mem_append] at hrequest hstep
    have hfirst : step start target.found.id := hstart _ _ _ _ (.head _) hkey hfinds
    rcases hrequest with rfl | hrequest | hrequest
    · exact .single hfirst
    · refine .head hfirst (ihinner ?_ ?_ hrequest)
      · intro number text key other hline hkey hfinds
        exact hstep _ (Or.inl rfl) other ⟨number, text, key, hline, hkey, hfinds⟩
      · exact fun request hmem => hstep request (Or.inr (Or.inl hmem))
    · refine ihrest ?_ ?_ hrequest
      · exact fun number text key target hline => hstart number text key target (.tail _ hline)
      · exact fun request hmem => hstep request (Or.inr (Or.inr hmem))

end Follows

/-! ## Include trees -/

/-- The include tree of a key: the section that the key stands for, and the outline of its lines in
which every section is entered on the first request and skipped on the others. -/
structure IncludeTree (r : Registry) (m : Memory) (key : Text) where
  root : Target
  outline : Outline
  finds : Finds r m key root
  follows : Follows r m (Path.directory root.name) root.found.lines outline
  firstEntered : outline.FirstEntered [root.found.id]

namespace IncludeTree

variable {r : Registry} {m : Memory} {key : Text} (tree : IncludeTree r m key)

/-- The first request of each section, in the order in which they are made. -/
def requests : List (Text × Target) := (key, tree.root) :: tree.outline.entered

/-- The sections of the tree. -/
def sections : List SectionId := tree.requests.map fun request => request.2.found.id

/-- The lines of the tree in order, each with its number and the section that it belongs to. -/
def lines : List (SectionId × Nat × Text) := tree.outline.lines tree.root.found.id

/-- The requests of a section after the first, in the order in which they are made. -/
def skipped : List (Text × Target) := tree.outline.skipped

/-- A section of the tree has an include line for the other, with the key taken relative to the
directory of the key that first requested the section. -/
def Step (a b : SectionId) : Prop :=
  ∃ request ∈ tree.requests, request.2.found.id = a ∧
    ∃ target, Includes r m request.2 target ∧ target.found.id = b

/-- The sections of a tree are its root and those that its outline enters. -/
theorem sections_eq : tree.sections = [tree.root.found.id] ++ tree.outline.sections := rfl

/-- A key has one include tree. -/
theorem unique (other : IncludeTree r m key) : tree = other := by
  obtain ⟨root, outline, hfinds, hfollows, hfirst⟩ := tree
  obtain ⟨root', outline', hfinds', hfollows', hfirst'⟩ := other
  obtain rfl := hfinds.unique hfinds'
  obtain rfl := hfollows.unique hfirst hfollows' hfirst'
  rfl

/-- No section is entered twice in a tree. -/
theorem nodup_sections : tree.sections.Nodup :=
  tree.firstEntered.nodup (by simp)

/-- The sections of the tree are those that include lines lead to from the root. -/
theorem mem_sections_iff (id : SectionId) :
    id ∈ tree.sections ↔ Relation.ReflTransGen tree.Step tree.root.found.id id := by
  constructor
  · intro hid
    obtain ⟨request, hrequest, rfl⟩ := List.mem_map.mp hid
    rcases List.mem_cons.mp hrequest with rfl | hrequest
    · exact .refl
    · refine tree.follows.reflTransGen_of_mem ?_ ?_ hrequest
      · intro number text inner target hline hkey hfinds
        exact ⟨_, List.mem_cons_self, rfl, target, ⟨number, text, inner, hline, hkey, hfinds⟩, rfl⟩
      · intro request hmem target hincludes
        exact ⟨request, List.mem_cons_of_mem _ hmem, rfl, target, hincludes, rfl⟩
  · intro hreach
    induction hreach with
    | refl => simp [sections_eq]
    | tail _ hstep _ =>
      obtain ⟨request, hrequest, -, target, hincludes, rfl⟩ := hstep
      rw [sections_eq]
      rcases List.mem_cons.mp hrequest with rfl | hrequest
      · obtain ⟨number, text, inner, hline, hkey, hfinds⟩ := hincludes
        exact tree.follows.mem_of_include tree.firstEntered hline hkey hfinds
      · exact tree.follows.mem_of_includes tree.firstEntered hrequest hincludes

/-- Of each section the tree has the lines that are no include lines, once and in order. -/
theorem linesOf_request {request : Text × Target} (h : request ∈ tree.requests) :
    Outline.linesOf request.2.found.id tree.lines = ownLines request.2.found.lines := by
  rcases List.mem_cons.mp h with rfl | h
  · exact tree.follows.linesOf_owner tree.firstEntered (by simp) (by simp)
  · exact tree.follows.linesOf_entered tree.firstEntered (by simp) (by simp) h

/-- Every line of a tree is owned by one of its sections. -/
theorem mem_sections_of_mem_lines {entry : SectionId × Nat × Text} (h : entry ∈ tree.lines) :
    entry.1 ∈ tree.sections := by
  rw [sections_eq, List.mem_append, List.mem_singleton]
  exact Outline.mem_lines h

/-- Every include line of the tree is a request, and so is the key of the tree. -/
theorem length_skipped_add_length_sections :
    tree.skipped.length + tree.sections.length =
      1 + totalOf (fun request => includeCount request.2.found.lines) tree.requests := by
  have hcount := tree.follows.length_entered_add_length_skipped
  simp only [sections, requests, skipped, List.length_cons, List.length_map, totalOf_cons]
  omega

end IncludeTree

end ShaderCompose
