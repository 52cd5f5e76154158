import ShaderCompose.Proofs.Template.Names

/-!
# Filling in a skeleton

Making the statements of a skeleton ready changes nothing about them, since a name is no constant.
Run in a frame in which its names have their values, they give the text of the skeleton with the
values in the place of the names, and nothing in the place of the tags of choices.
-/

set_option autoImplicit false

namespace ShaderCompose.Template

/-! ## Running statements -/

/-- Statements that are made ready wherever they stand, and give a text without changing what names
stand for. -/
structure Fills (b : Frames) (nodes : List Node) (t : Text) : Prop where
  check : checkPrints nodes = .ok ()
  ready : ∀ known inChoice inRun, ∃ actions,
    prepareNodes known inChoice inRun nodes = .ok actions ∧
      ∀ globals, runActions globals b actions = .ok (t, b)

section

variable {b : Frames} {node : Node} {nodes yes : List Node} {t u : Text} {n : Text}

/-- No statements give no text. -/
theorem fills_nil (b : Frames) : Fills b [] [] := by
  refine ⟨rfl, fun known inChoice inRun => ⟨[], ?_, fun globals => ?_⟩⟩
  · rw [prepareNodes]
  · rw [runActions]

/-- One statement in front of others. -/
theorem Fills.cons (hcheck : checkPrints (node :: nodes) = .ok ())
    (hnode : ∀ known inChoice, ∃ action, prepareNode known inChoice node = .ok action ∧
      ∀ globals, runAction globals b action = .ok (u, b))
    (h : Fills b nodes t) : Fills b (node :: nodes) (u ++ t) := by
  refine ⟨hcheck, fun known inChoice inRun => ?_⟩
  obtain ⟨action, haction, hrun⟩ := hnode known inChoice
  obtain ⟨actions, hactions, hmore⟩ := h.ready known inChoice node.isOutput
  refine ⟨action :: actions, ?_, fun globals => ?_⟩
  · rw [prepareNodes, hcheck, haction, hactions]
    split <;> rfl
  · rw [runActions, hrun]
    show (runActions globals b actions >>= fun more => pure (u ++ more.1, more.2)) = _
    rw [hmore]
    rfl

/-- Text in front of statements is given in front of their text. -/
theorem Fills.copy (u : Text) (h : Fills b nodes t) : Fills b (copyNodes u ++ nodes) (u ++ t) := by
  cases u with
  | nil => exact h
  | cons c u =>
    refine Fills.cons h.check (fun known inChoice => ⟨.text (c :: u), ?_, fun globals => ?_⟩) h
    · rw [prepareNode]
    · rw [runAction]

/-- A name has no constant text. -/
theorem constantText?_name (n : Text) : constantText? (.name n) = .ok none := by
  unfold constantText?
  rw [constant]

/-- A name is ready as it is. -/
theorem prepareExpr_name (inChoice : Bool) (n : Text) :
    prepareExpr inChoice (.name n) = .ok (.name n) := by
  have hlook : inspectExpr inChoice (.name n) = .ok () := by rw [inspectExpr]
  rw [prepareExpr, prepareWhole, fold]
  · show (inspectExpr inChoice (.name n) >>= fun _ => pure (Expr.name n)) = _
    rw [hlook]
    rfl
  all_goals simp

/-- A print in front gives the text of its value. -/
theorem Fills.print (hvalue : printed (valueOf b n) = .ok u) (h : Fills b nodes t) :
    Fills b (.print (.name n) :: nodes) (u ++ t) := by
  refine Fills.cons ?_ (fun known inChoice => ⟨.print (.name n), ?_, fun globals => ?_⟩) h
  · rw [checkPrints, constantText?_name]
    exact h.check
  · rw [prepareNode, constantText?_name, prepareExpr_name]
    rfl
  · rw [runAction, eval]
    show (printed (valueOf b n) >>= fun text => pure (text, b)) = _
    rw [hvalue]
    rfl

/-- A choice whose condition holds gives the text of its first branch. -/
theorem Fills.choice (hvalue : truthOf (valueOf b n) = .ok true) (hyes : Fills b yes u)
    (h : Fills b nodes t) : Fills b (.choose (.name n) yes [] false :: nodes) (u ++ t) := by
  refine Fills.cons rfl (fun known inChoice => ?_) h
  obtain ⟨actions, hactions, hrun⟩ := hyes.ready known true false
  refine ⟨.choose (.name n) actions [], ?_, fun globals => ?_⟩
  · rw [prepareNode, prepareExpr_name, hactions, prepareNodes]
    rfl
  · rw [runAction, eval]
    show (truthOf (valueOf b n) >>= fun holds =>
      if holds = true then runActions globals b actions else runActions globals b []) = _
    rw [hvalue]
    exact hrun globals

end

/-! ## Running the statements of a skeleton -/

/-- Every name that is printed stands for a value with the given text, every choice depends on a
value that counts as true, and names with the same normal form stand for the same value.  No
variable is called like an argument on the way. -/
structure Supplies (vars : Bindings) (value : Text → Text) (tags : List Tag) : Prop where
  prints : ∀ tag ∈ tags, ∀ n, tag.printed? = some n →
    ∃ v, vars.lookup n = some v ∧ printed v = .ok (value n)
  holds : ∀ tag ∈ tags, ∀ n, tag.condition? = some n →
    ∃ v, vars.lookup n = some v ∧ truthOf v = .ok true
  alike : ∀ m ∈ namesOf tags, ∀ n ∈ namesOf tags, Text.normalName m = Text.normalName n →
    vars.lookup m = vars.lookup n
  unreserved : ∀ entry ∈ vars, entry.1 ∉ [selfName, "code".toList]

/-- The name that a tag prints is looked up. -/
theorem mem_namesOf_of_printed {tags : List Tag} {tag : Tag} (htag : tag ∈ tags) {n : Text}
    (h : tag.printed? = some n) : n ∈ namesOf tags :=
  List.mem_filterMap.mpr ⟨tag, htag, by rw [Tag.used?, h]; rfl⟩

/-- The name that a choice depends on is looked up. -/
theorem mem_namesOf_of_condition {tags : List Tag} {tag : Tag} (htag : tag ∈ tags) {n : Text}
    (h : tag.condition? = some n) : n ∈ namesOf tags := by
  refine List.mem_filterMap.mpr ⟨tag, htag, ?_⟩
  cases tag with
  | print _ _ _ => contradiction
  | start _ _ _ _ _ => exact h
  | finish _ _ => contradiction

/-- Every name that is looked up has a value. -/
theorem Supplies.isSome {vars : Bindings} {value : Text → Text} {tags : List Tag}
    (h : Supplies vars value tags) {n : Text} (hn : n ∈ namesOf tags) :
    (vars.lookup n).isSome := by
  obtain ⟨tag, htag, hused⟩ := List.mem_filterMap.mp hn
  rw [Tag.used?, Option.orElse_eq_some] at hused
  rcases hused with hprinted | ⟨-, hcondition⟩
  · obtain ⟨v, hv, -⟩ := h.prints tag htag n hprinted
    rw [hv]
    rfl
  · obtain ⟨v, hv, -⟩ := h.holds tag htag n hcondition
    rw [hv]
    rfl

/-- The statements of a skeleton give its text with the values in the place of the names. -/
theorem Makes.fills {pieces : List Piece} {nodes : List Node} (h : Makes pieces nodes)
    {b : Frames} {value : Text → Text}
    (hprints : ∀ p ∈ pieces, ∀ n, p.tag.printed? = some n →
      printed (valueOf b n) = .ok (value n))
    (hholds : ∀ p ∈ pieces, ∀ n, p.tag.condition? = some n →
      truthOf (valueOf b n) = .ok true) (tail : Text) :
    Fills b (nodes ++ copyNodes tail) (Skeleton.filled value ⟨pieces, tail⟩) := by
  -- the body of a choice is a skeleton of its own, whose tail is the text in front of the end tag
  induction h generalizing tail with
  | nil => simpa [Skeleton.filled] using Fills.copy tail (fills_nil b)
  | @print front before after v more nodes _ ih =>
    have hmore := ih (fun p hp => hprints p (List.mem_cons_of_mem _ hp))
      (fun p hp => hholds p (List.mem_cons_of_mem _ hp)) tail
    have hvalue : printed (valueOf b v.name) = .ok (value v.name) :=
      hprints _ List.mem_cons_self v.name rfl
    simpa [Skeleton.filled, Tag.filled] using Fills.copy front (Fills.print hvalue hmore)
  | @choice front last before between after before' after' v apart inner more yes nodes _ _
      ihInner ihMore =>
    have hinner : ∀ p ∈ inner, p ∈ (⟨front, .start before between v after apart⟩ ::
        (inner ++ ⟨last, .finish before' after'⟩ :: more) : List Piece) :=
      fun p hp => List.mem_cons_of_mem _ (List.mem_append_left _ hp)
    have hmore : ∀ p ∈ more, p ∈ (⟨front, .start before between v after apart⟩ ::
        (inner ++ ⟨last, .finish before' after'⟩ :: more) : List Piece) :=
      fun p hp => List.mem_cons_of_mem _ (List.mem_append_right _ (List.mem_cons_of_mem _ hp))
    have hyes := ihInner (fun p hp => hprints p (hinner p hp))
      (fun p hp => hholds p (hinner p hp)) last
    have hrest := ihMore (fun p hp => hprints p (hmore p hp))
      (fun p hp => hholds p (hmore p hp)) tail
    have hvalue : truthOf (valueOf b v.name) = .ok true :=
      hholds _ List.mem_cons_self v.name rfl
    simpa [Skeleton.filled, Tag.filled] using Fills.copy front (Fills.choice hvalue hyes hrest)

/-- All names are looked up in the one frame of the template, and found there. -/
theorem Supplies.valueOf_enter {vars : Bindings} {value : Text → Text} {tags : List Tag}
    (hvars : Supplies vars value tags) {locals : List Local}
    (horigin : ∀ l ∈ locals, l.origin = .variable)
    (hnames : ∀ n, n ∈ locals.map Local.name ↔ n ∈ namesOf tags) (start : Frame) {n : Text}
    (hn : n ∈ namesOf tags) {v : Value} (hv : vars.lookup n = some v) :
    valueOf [start.enter (vars ++ standardNames) [] locals] n = v := by
  have hname (k : Local) (hk : k ∈ locals) : k.name ∈ namesOf tags :=
    (hnames k.name).mp (List.mem_map_of_mem hk)
  have hglobal (m : Text) (hm : m ∈ namesOf tags) :
      (vars ++ standardNames).lookup m = vars.lookup m := by
    rw [List.lookup_append]
    exact Option.or_of_isSome (hvars.isSome hm)
  refine Template.valueOf_enter horigin (fun k hk => ?_) (fun j hj k hk hsame => ?_) start
    ((hnames n).mpr hn) ((hglobal n hn).trans hv)
  · rw [hglobal _ (hname k hk)]
    exact hvars.isSome (hname k hk)
  · rw [hglobal _ (hname j hj), hglobal _ (hname k hk)]
    exact hvars.alike _ (hname j hj) _ (hname k hk) hsame

/-- No name that is looked up is that of the template itself. -/
theorem Supplies.self_notMem {vars : Bindings} {value : Text → Text} {tags : List Tag}
    (hvars : Supplies vars value tags) : selfName ∉ namesOf tags := by
  intro hmem
  obtain ⟨v, hv⟩ := Option.isSome_iff_exists.mp (hvars.isSome hmem)
  obtain ⟨front, rest, rfl, -⟩ := List.lookup_eq_some_iff.mp hv
  exact hvars.unreserved (selfName, v) (by simp) (by simp)

/-- The text of a skeleton is planned to the statements that its pieces stand for, made ready in the
frame of their names. -/
theorem plan_text {l : Skeleton} (hreturn : '\r' ∉ l.text) (hsound : l.Sound)
    {nodes : List Node} (hmakes : Makes l.pieces nodes) {actions : List Action}
    (hready : prepareNodes (within (templateLocals (nodes ++ copyNodes l.tail)) []) false false
      (nodes ++ copyNodes l.tail) = .ok actions) :
    plan l.text = .ok ⟨templateLocals (nodes ++ copyNodes l.tail), actions⟩ := by
  obtain ⟨htoks, hflaw⟩ := tokenize_text hreturn hsound
  unfold plan
  rw [parseTokens_pieces hmakes l.tail hflaw htoks]
  show (prepareNodes (within (templateLocals (nodes ++ copyNodes l.tail)) []) false false
    (nodes ++ copyNodes l.tail) >>= fun actions =>
      pure (Plan.mk (templateLocals (nodes ++ copyNodes l.tail)) actions)) = _
  rw [hready]
  rfl

/-- The frame that the names of a template are looked up in. -/
def templateFrame (vars : Bindings) (nodes : List Node) : Frame :=
  ((Frame.mk [] []).set selfName .template).enter (vars ++ standardNames) []
    (templateLocals nodes)

/-- A skeleton is filled in by running its statements. -/
theorem fill_of_fills {l : Skeleton} (hreturn : '\r' ∉ l.text) (hsound : l.Sound)
    {nodes : List Node} (hmakes : Makes l.pieces nodes) {vars : Bindings}
    (hvars : ∀ entry ∈ vars, entry.1 ∉ [selfName, "code".toList]) {t : Text}
    (hfills : Fills [templateFrame vars (nodes ++ copyNodes l.tail)] (nodes ++ copyNodes l.tail) t) :
    fill l.text vars = .ok t := by
  obtain ⟨actions, hactions, hrun⟩ := hfills.ready _ false false
  refine fill_eq hvars (plan_text hreturn hsound hmakes hactions) ?_
  unfold Plan.fillIn
  show (runActions (vars ++ standardNames) [templateFrame vars (nodes ++ copyNodes l.tail)]
    actions >>= fun result => pure result.1) = _
  rw [hrun]
  rfl

/-- A skeleton is filled in with the values of its names. -/
theorem fill_text {l : Skeleton} {vars : Bindings} {value : Text → Text}
    (hreturn : '\r' ∉ l.text) (hsound : l.Sound) (hnested : Nested l.tags)
    (hvars : Supplies vars value l.tags) : fill l.text vars = .ok (l.filled value) := by
  obtain ⟨nodes, hmakes⟩ := hnested.exists_makes rfl
  obtain ⟨horigin, hnames⟩ := hmakes.templateLocals l.tail hvars.self_notMem
  refine fill_of_fills hreturn hsound hmakes hvars.unreserved ?_
  refine hmakes.fills (fun p hp n hprinted => ?_) (fun p hp n hcondition => ?_) l.tail
  · have htag : p.tag ∈ l.tags := List.mem_map_of_mem hp
    obtain ⟨v, hv, ht⟩ := hvars.prints p.tag htag n hprinted
    rw [templateFrame,
      hvars.valueOf_enter horigin hnames _ (mem_namesOf_of_printed htag hprinted) hv, ht]
  · have htag : p.tag ∈ l.tags := List.mem_map_of_mem hp
    obtain ⟨v, hv, htrue⟩ := hvars.holds p.tag htag n hcondition
    rw [templateFrame,
      hvars.valueOf_enter horigin hnames _ (mem_namesOf_of_condition htag hcondition) hv, htrue]

end ShaderCompose.Template
