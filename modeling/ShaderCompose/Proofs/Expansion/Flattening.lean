import ShaderCompose.Proofs.Expansion.Depth
import ShaderCompose.Proofs.Expansion.Outline

/-!
# Expanded code is the flattened include tree

Whatever else an expansion keeps in its state, the code that it gives is that of the include tree of
its key: the lines of the tree in order, with markers between them.  From the tree one reads off
which sections are expanded, that none of their lines is lost or repeated, and how many warnings
there are.
-/

set_option autoImplicit false

namespace ShaderCompose

/-- The lines of expanded code without the markers. -/
def copiedLines (code : List CodeLine) : List Text :=
  code.filterMap fun
    | .copied text => some text
    | .marker _ _ => none

/-- The copied lines of code in two pieces are those of the first piece and then those of the
second. -/
@[simp]
theorem copiedLines_append (a b : List CodeLine) :
    copiedLines (a ++ b) = copiedLines a ++ copiedLines b := by
  simp [copiedLines]

/-- A marker is no copied line. -/
theorem copiedLines_markerFor (pending : Bool) (number index : Nat) (line : Text)
    (tail : List CodeLine) :
    copiedLines (markerFor pending number index line ++ .copied line :: tail) =
      line :: copiedLines tail := by
  unfold markerFor
  split <;> simp [copiedLines]

/-- The warning for a request on which a section is skipped. -/
def duplicateWarning (request : Text × Target) : Warning :=
  .duplicateInclude request.2.effect.identity request.2.found.key request.1

/-- The outline of a request by itself. -/
inductive Answers (r : Registry) (m : Memory) (key : Text) : Outline → Prop
  | skip {target : Target} : Finds r m key target → Answers r m key (.skip key target .done)
  | enter {target : Target} {inner : Outline} :
      Finds r m key target →
      Follows r m (Path.directory target.name) target.found.lines inner →
        Answers r m key (.enter key target inner .done)

/-- An outline of what a job has to do. -/
def Job.Outlined (r : Registry) (m : Memory) : Job → Outline → Prop
  | .request _ key, o => Answers r m key o
  | .copy _ dir _ lines _, o => Follows r m dir lines o

/-- A run that succeeds works off an outline, whose requests are found with what is in the cache of
the given memory.  The outline of a request consists of this request alone, and that of a copy goes
along its lines. -/
inductive RunsAlong (r : Registry) (m : Memory) :
    Job → Expansion → Outline → List CodeLine → Expansion → Prop
  | repeated {chain : Chain} {key : Text} {s : Expansion} {target : Target} {m' : Memory} :
      locate r key s.memory = (.ok target, m') → target.found.id ∉ chain.map Prod.fst →
      target.found.id ∈ s.expanded → Finds r m key target →
        RunsAlong r m (.request chain key) s (.skip key target .done) []
          ((s.withMemory m').warn target key)
  | unfolded {chain : Chain} {key : Text} {s s' : Expansion} {target : Target} {m' : Memory}
      {inner : Outline} {code : List CodeLine} :
      locate r key s.memory = (.ok target, m') → target.found.id ∉ chain.map Prod.fst →
      target.found.id ∉ s.expanded → Finds r m key target →
      RunsAlong r m (.copy (chain ++ [(target.found.id, key)]) (Path.directory target.name)
          ((s.withMemory m').begin target).1 target.found.lines true)
        ((s.withMemory m').begin target).2 inner code s' →
        RunsAlong r m (.request chain key) s (.enter key target inner .done) code s'
  | ended {chain : Chain} {dir : Text} {index : Nat} {pending : Bool} {s : Expansion} :
      RunsAlong r m (.copy chain dir index [] pending) s .done [] s
  | included {chain : Chain} {dir line key : Text} {index number : Nat}
      {rest : List (Nat × Text)} {pending : Bool} {s t s' : Expansion} {first later : Outline}
      {inner tail : List CodeLine} :
      Include.key? line = some key →
      RunsAlong r m (.request chain (Include.relativeTo dir key)) s first inner t →
      RunsAlong r m (.copy chain dir index rest true) t later tail s' →
        RunsAlong r m (.copy chain dir index ((number, line) :: rest) pending) s
          (first.append later) (inner ++ tail) s'
  | copied {chain : Chain} {dir line : Text} {index number : Nat} {rest : List (Nat × Text)}
      {pending : Bool} {s s' : Expansion} {later : Outline} {tail : List CodeLine} :
      Include.key? line = none →
      RunsAlong r m (.copy chain dir index rest (pending && isVersionLine line)) s later tail s' →
        RunsAlong r m (.copy chain dir index ((number, line) :: rest) pending) s
          (.line number line later) (markerFor pending number index line ++ .copied line :: tail) s'

section

variable {r : Registry} {m : Memory} {job : Job} {s s' : Expansion} {o : Outline}
variable {code : List CodeLine}

/-- Every run that succeeds works off an outline. -/
theorem Runs.exists_along (h : Runs r job s (.ok code) s')
    (hlater : Cache.Loads r s'.memory.cache m.cache) : ∃ o, RunsAlong r m job s o code s' := by
  -- a key that is found at some point of the run is found in all later memories
  induction h using Runs.ok_induction with
  | repeated hlocate hchain hbegun =>
    exact ⟨_, .repeated hlocate hchain hbegun (locate_again hlocate hlater)⟩
  | unfolded hlocate hchain hnew hcopy ih =>
    obtain ⟨inner, hinner⟩ := ih hlater
    have hloads := hcopy.loads.trans hlater
    rw [Expansion.memory_begin] at hloads
    exact ⟨_, .unfolded hlocate hchain hnew (locate_again hlocate hloads) hinner⟩
  | ended => exact ⟨_, .ended⟩
  | included hkey hrequest hrest ihrequest ihrest =>
    obtain ⟨first, hfirst⟩ := ihrequest (hrest.loads.trans hlater)
    obtain ⟨later, hlaterAlong⟩ := ihrest hlater
    exact ⟨_, .included hkey hfirst hlaterAlong⟩
  | copied hkey hrest ih =>
    obtain ⟨later, halong⟩ := ih hlater
    exact ⟨_, .copied hkey halong⟩

/-- What was evaluated along an outline was evaluated. -/
theorem RunsAlong.runs (h : RunsAlong r m job s o code s') : Runs r job s (.ok code) s' := by
  induction h with
  | repeated hlocate hchain hbegun _ => exact .repeated hlocate hchain hbegun
  | unfolded hlocate hchain hnew _ _ ih => exact .unfolded hlocate hchain hnew ih
  | ended => exact .ended
  | included hkey _ _ ihrequest ihrest => exact .included hkey ihrequest ihrest
  | copied hkey _ ih => exact .copied hkey ih

/-- The outline along which a job was evaluated is an outline of this job. -/
theorem RunsAlong.outlined (h : RunsAlong r m job s o code s') : job.Outlined r m o := by
  induction h with
  | repeated _ _ _ hfinds => exact .skip hfinds
  | unfolded _ _ _ hfinds _ ih => exact .enter hfinds ih
  | ended => exact .done
  | included hkey _ _ ihrequest ihrest =>
    cases ihrequest with
    | skip hfinds => exact .skip hkey hfinds ihrest
    | enter hfinds hinner => exact .enter hkey hfinds hinner ihrest
  | copied hkey _ ih => exact .line hkey ih

end

/-- Between two states of an expansion an outline was worked off, which gave the code. -/
structure Outline.Between (o : Outline) (s : Expansion) (code : List CodeLine) (s' : Expansion) :
    Prop where
  firstEntered : o.FirstEntered s.expanded
  expanded : s'.expanded = s.expanded ++ o.sections
  warnings : s'.warnings = s.warnings ++ o.skipped.map duplicateWarning
  copied (owner : SectionId) : copiedLines code = (o.lines owner).map fun entry => entry.2.2

/-- One outline is worked off after the other. -/
theorem Outline.Between.append {a b : Outline} {s t s' : Expansion} {code more : List CodeLine}
    (ha : a.Between s code t) (hb : b.Between t more s') :
    (a.append b).Between s (code ++ more) s' where
  firstEntered := by
    rw [firstEntered_append, ← ha.expanded]
    exact ⟨ha.firstEntered, hb.firstEntered⟩
  expanded := by rw [hb.expanded, ha.expanded, sections_append, List.append_assoc]
  warnings := by
    rw [hb.warnings, ha.warnings, skipped_append, List.map_append, List.append_assoc]
  copied owner := by
    rw [copiedLines_append, ha.copied owner, hb.copied owner, lines_append, List.map_append]

/-- A run goes along an outline that enters sections on the first request. -/
theorem RunsAlong.between {r : Registry} {m : Memory} {job : Job} {s s' : Expansion} {o : Outline}
    {code : List CodeLine} (h : RunsAlong r m job s o code s') : o.Between s code s' := by
  induction h with
  | repeated _ _ hbegun _ =>
    exact ⟨⟨hbegun, trivial⟩, by simp [Outline.sections, Outline.entered], rfl, fun _ => rfl⟩
  | @unfolded chain key s s' target m' inner code _ _ hnew _ _ ih =>
    obtain ⟨hfirst, hexpanded, hwarnings, hcopied⟩ := ih
    rw [Expansion.expanded_begin] at hfirst hexpanded
    rw [Expansion.warnings_begin] at hwarnings
    refine ⟨⟨hnew, hfirst, trivial⟩, ?_, ?_, ?_⟩
    · rw [hexpanded, Outline.sections_enter]
      simp [Outline.sections, Outline.entered]
    · rw [hwarnings]
      simp [Outline.skipped]
    · intro owner
      rw [hcopied target.found.id]
      simp [Outline.lines]
  | ended =>
    refine ⟨trivial, ?_, ?_, fun _ => rfl⟩
    · simp [Outline.sections, Outline.entered]
    · simp [Outline.skipped]
  | included _ _ _ ihrequest ihrest => exact ihrequest.append ihrest
  | copied _ _ ih =>
    obtain ⟨hfirst, hexpanded, hwarnings, hcopied⟩ := ih
    refine ⟨hfirst, hexpanded, hwarnings, ?_⟩
    intro owner
    rw [copiedLines_markerFor, hcopied owner]
    rfl

/-- The outline of the request for the key of an include tree. -/
def IncludeTree.request {r : Registry} {m : Memory} {key : Text} (tree : IncludeTree r m key) :
    Outline :=
  .enter key tree.root tree.outline .done

section

variable {r : Registry} {m : Memory} {key : Text} (tree : IncludeTree r m key)

/-- The lines of the request for a tree are those of the tree, whoever makes the request. -/
@[simp]
theorem IncludeTree.lines_request (owner : SectionId) : tree.request.lines owner = tree.lines := by
  simp [request, lines, Outline.lines]

/-- The sections that the request for a tree enters are those of all requests of the tree. -/
@[simp]
theorem IncludeTree.entered_request : tree.request.entered = tree.requests := by
  simp [request, requests, Outline.entered]

/-- The request for a tree skips what the tree skips. -/
@[simp]
theorem IncludeTree.skipped_request : tree.request.skipped = tree.skipped := by
  simp [request, skipped, Outline.skipped]

end

/-- An expansion works off the include tree of its key. -/
theorem Runs.exists_tree {r : Registry} {key : Text} {m : Memory} {s : Expansion}
    {code : List CodeLine} (h : Runs r (.request [] key) (.start m) (.ok code) s) :
    ∃ tree : IncludeTree r s.memory key,
      RunsAlong r s.memory (.request [] key) (.start m) tree.request code s := by
  obtain ⟨o, halong⟩ := h.exists_along .refl
  have hfirst := halong.between.firstEntered
  cases halong.outlined with
  | skip => exact absurd hfirst.1 List.not_mem_nil
  | enter hfinds hinner => exact ⟨⟨_, _, hfinds, hinner, hfirst.2.1⟩, halong⟩

/-- The code of a run along an include tree has the lines of the tree. -/
theorem RunsAlong.copied_tree {r : Registry} {m m' : Memory} {key : Text} {s : Expansion}
    {code : List CodeLine} {tree : IncludeTree r m' key}
    (h : RunsAlong r m' (.request [] key) (.start m) tree.request code s) :
    copiedLines code = (tree.lines.map fun entry => entry.2.2) := by
  simpa using h.between.copied tree.root.found.id

/-- Sections are expanded exactly once.  Expanded code without its markers is the include tree of
its key, read in order.  The sections of the tree are those that include lines lead to from the
root, and each of them has all its own lines in the code, once and in order.  There is a warning for
each include line that does not enter a section. -/
theorem expand_flattens_tree {r : Registry} {key : Text} {m m' : Memory} {expanded : Expanded}
    (h : expand r key m = (.ok expanded, m')) :
    ∃ tree : IncludeTree r m' key, (∀ other, tree = other) ∧
      copiedLines expanded.code = (tree.lines.map fun entry => entry.2.2) ∧
      tree.sections.Nodup ∧
      (∀ id, id ∈ tree.sections ↔ Relation.ReflTransGen tree.Step tree.root.found.id id) ∧
      (∀ entry ∈ tree.lines, entry.1 ∈ tree.sections) ∧
      (∀ request ∈ tree.requests,
        Outline.linesOf request.2.found.id tree.lines = ownLines request.2.found.lines) ∧
      expanded.warnings = tree.skipped.map duplicateWarning ∧
      expanded.warnings.length + tree.sections.length =
        1 + totalOf (fun request => includeCount request.2.found.lines) tree.requests := by
  obtain ⟨s, hruns, -, hwarned, rfl⟩ := runs_of_expand_eq_ok h
  obtain ⟨tree, halong⟩ := hruns.exists_tree
  have hcode := halong.copied_tree
  have hwarnings : expanded.warnings = tree.skipped.map duplicateWarning := by
    rw [hwarned, halong.between.warnings, tree.skipped_request]
    rfl
  refine ⟨tree, tree.unique, hcode, tree.nodup_sections, tree.mem_sections_iff, ?_, ?_,
    hwarnings, ?_⟩
  · exact fun _ hentry => tree.mem_sections_of_mem_lines hentry
  · exact fun _ hrequest => tree.linesOf_request hrequest
  · rw [hwarnings, List.length_map]
    exact tree.length_skipped_add_length_sections

/-- A scene in which two sections include a third one. -/
def diamondScene : Registry :=
  ⟨[], "fx".toList, "glsl".toList,
    .table [("fx/scene.glsl".toList, .text ("-- main\n#include \"scene.left\"\nm\n" ++
      "#include \"scene.right\"\n-- left\n#include \"scene.base\"\nl\n" ++
      "-- right\nr\n#include \"scene.base\"\n-- base\nb\n").toList)],
    "/work".toList⟩

/-- The third section is entered once, and the second request for it gives a warning. -/
theorem expand_diamondScene_flattens :
    ∃ expanded m', expand diamondScene "scene.main".toList ⟨.empty, [], []⟩ = (.ok expanded, m') ∧
      copiedLines expanded.code = ["b".toList, "l".toList, "m".toList, "r".toList] ∧
      expanded.warnings.length = 1 ∧
      ∃ tree : IncludeTree diamondScene m' "scene.main".toList, (∀ other, tree = other) ∧
        copiedLines expanded.code = (tree.lines.map fun entry => entry.2.2) ∧
        tree.sections.Nodup ∧
        expanded.warnings.length + tree.sections.length =
          1 + totalOf (fun request => includeCount request.2.found.lines) tree.requests := by
  obtain ⟨expanded, m', hexpand, htest⟩ := exists_of_any
    (expand diamondScene "scene.main".toList ⟨.empty, [], []⟩)
    (fun expanded => copiedLines expanded.code = ["b".toList, "l".toList, "m".toList, "r".toList] &&
      expanded.warnings.length == 1) (by decide +kernel)
  obtain ⟨hcode, hwarnings⟩ := Bool.and_eq_true_iff.mp htest
  obtain ⟨tree, hunique, hlines, hnodup, -, -, -, -, hcount⟩ := expand_flattens_tree hexpand
  exact ⟨expanded, m', hexpand, of_decide_eq_true hcode, by simpa using hwarnings, tree, hunique,
    hlines, hnodup, hcount⟩

end ShaderCompose
