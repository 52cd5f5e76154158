import ShaderCompose.Proofs.Template.Statements

/-!
# The names of a skeleton

No statement of a skeleton binds a name, so all its names stand for variables of the template, in
choices too.  The frame that they are looked up in has one place for all names with the same normal
form.  If such names stand for the same value, every name is found with its own value.
-/

set_option autoImplicit false

namespace ShaderCompose.Template

/-! ## Which names there are -/

/-- All names found are variables, and they are the given ones. -/
structure Names.Holds (s : Names) (ns : List Text) : Prop where
  unbound : s.bound = []
  origin : ∀ l ∈ s.locals, l.origin = .variable
  mem_iff : ∀ n, n ∈ s.locals.map Local.name ↔ n ∈ ns

namespace Names

variable {s branch : Names} {ns ms : List Text}

/-- At the start no name was found. -/
theorem holds_empty : empty.Holds [] := ⟨rfl, by simp [empty], by simp [empty]⟩

/-- The names found are a set, so neither order nor repetition matters. -/
theorem Holds.congr (h : s.Holds ns) (hiff : ∀ n, n ∈ ns ↔ n ∈ ms) : s.Holds ms :=
  ⟨h.unbound, h.origin, fun n => (h.mem_iff n).trans (hiff n)⟩

/-- A name was found if it is one of those with a place. -/
theorem has_iff (s : Names) (n : Text) : s.has n = true ↔ n ∈ s.locals.map Local.name := by
  rw [has, List.any_eq_true, List.mem_map]
  simp only [beq_iff_eq]

/-- A variable that is defined is found besides the others. -/
theorem Holds.define (h : s.Holds ns) (n : Text) : (s.define n .variable).Holds (n :: ns) := by
  unfold Names.define
  by_cases hhas : s.has n = true
  · -- The name is there already, as a variable, so that nothing changes.
    have hkept : s.locals.map (fun l => if l.name == n then ⟨n, .variable⟩ else l) = s.locals := by
      rw [List.map_congr_left (g := id), List.map_id]
      intro l hl
      by_cases hname : l.name = n
      · rw [if_pos (beq_iff_eq.mpr hname), ← hname, ← h.origin l hl]
        rfl
      · rw [if_neg (by simpa using hname)]
        rfl
    rw [if_pos hhas, hkept]
    have hn : n ∈ ns := (h.mem_iff n).mp ((s.has_iff n).mp hhas)
    refine h.congr fun m => ?_
    rw [List.mem_cons, or_iff_right_of_imp]
    rintro rfl
    exact hn
  · rw [if_neg hhas]
    refine ⟨h.unbound, ?_, fun m => ?_⟩
    · intro l hl
      rcases List.mem_append.mp hl with hl | hl
      · exact h.origin l hl
      · rw [List.mem_singleton.mp hl]
    · rw [List.map_append, List.mem_append, h.mem_iff, List.mem_cons, or_comm]
      simp

/-- A name that is used is found besides the others. -/
theorem Holds.use (h : s.Holds ns) (n : Text) : (s.use [] n).Holds (n :: ns) := by
  unfold Names.use
  by_cases hhas : s.has n = true
  · have hn : n ∈ ns := (h.mem_iff n).mp ((s.has_iff n).mp hhas)
    rw [hhas, Bool.true_or, if_pos rfl]
    refine h.congr fun m => ?_
    rw [List.mem_cons, or_iff_right_of_imp]
    rintro rfl
    exact hn
  · rw [if_neg (by simpa using hhas)]
    exact h.define n

/-- The names of a branch are added. -/
theorem Holds.absorb (h : s.Holds ns) (hbranch : branch.Holds ms) :
    (s.absorb branch).Holds (ms ++ ns) := by
  obtain ⟨locals, bound⟩ := branch
  obtain ⟨rfl, horigin, hmem⟩ := hbranch
  have hfold : ∀ (s : Names) (ns : List Text), s.Holds ns →
      (locals.foldl (fun s l => s.define l.name l.origin) s).Holds
        (locals.map Local.name ++ ns) := by
    clear hmem
    induction locals with
    | nil => exact fun s ns h => h
    | cons l locals ih =>
      intro s ns h
      have hl : l.origin = .variable := horigin l List.mem_cons_self
      have hdefine := h.define l.name
      rw [List.foldl_cons, hl]
      refine (ih (fun k hk => horigin k (List.mem_cons_of_mem l hk)) _ _ hdefine).congr fun n => ?_
      simp only [List.mem_append, List.map_cons, List.mem_cons]
      tauto
  refine (hfold _ _ h).congr fun n => ?_
  rw [List.mem_append, hmem, List.mem_append]

/-- Where no branch binds a name, all names of the branches are variables. -/
theorem Holds.merge (h : s.Holds ns) {yes further no : Names} {ys fs os : List Text}
    (hyes : yes.Holds ys) (hfurther : further.Holds fs) (hno : no.Holds os) :
    (merge [] s yes further no).Holds (os ++ (fs ++ (ys ++ ns))) := by
  unfold Names.merge
  simp only [hyes.unbound, hfurther.unbound, hno.unbound, List.append_nil, List.filter_nil,
    List.foldl_nil]
  exact ((h.absorb hyes).absorb hfurther).absorb hno

end Names

/-- The names that are looked up for pieces. -/
def pieceNames (pieces : List Piece) : List Text := namesOf (pieces.map Piece.tag)

/-- Pieces in two groups have the names of the first and those of the second. -/
theorem pieceNames_append (pieces more : List Piece) :
    pieceNames (pieces ++ more) = pieceNames pieces ++ pieceNames more := by
  simp [pieceNames, namesOf]

/-- A piece that prints a variable has its name in front of those of the others. -/
theorem pieceNames_print (front : Text) (before after : Padding) (v : Variable)
    (more : List Piece) :
    pieceNames (⟨front, .print before v after⟩ :: more) = v.name :: pieceNames more := rfl

/-- A choice has the name that it depends on, those inside it and those behind it. -/
theorem pieceNames_choice {front last : Text} {before between after before' after' : Padding}
    {v : Variable} {apart : between.text ≠ []} {inner more : List Piece} :
    pieceNames (⟨front, .start before between v after apart⟩ ::
        (inner ++ ⟨last, .finish before' after'⟩ :: more)) =
      v.name :: (pieceNames inner ++ pieceNames more) := by
  have hstart (rest : List Piece) :
      pieceNames (⟨front, .start before between v after apart⟩ :: rest) =
        v.name :: pieceNames rest := rfl
  rw [hstart, pieceNames_append]
  rfl

section

variable {pieces : List Piece} {nodes : List Node} {s : Names} {ns : List Text}

/-- Statements are gone through for names in order. -/
theorem afterNodes_append (s : Names) (nodes more : List Node) :
    s.afterNodes [] (nodes ++ more) = (s.afterNodes [] nodes).afterNodes [] more := by
  induction nodes generalizing s with
  | nil => simp [Names.afterNodes]
  | cons node nodes ih => simp [Names.afterNodes, ih]

/-- Text has no names. -/
theorem afterNodes_copyNodes (s : Names) (t : Text) : s.afterNodes [] (copyNodes t) = s := by
  cases t <;> simp [copyNodes, Names.afterNodes, Names.afterNode]

/-- The names after the statements of pieces are those of the pieces, and those found before. -/
theorem Makes.holds (h : Makes pieces nodes) (hs : s.Holds ns) :
    (s.afterNodes [] nodes).Holds (pieceNames pieces ++ ns) := by
  -- what a choice finds in its body is merged with what was known before it
  induction h generalizing s ns with
  | nil => simpa [pieceNames, namesOf, Names.afterNodes] using hs
  | @print front before after v more nodes _ ih =>
    rw [afterNodes_append, afterNodes_copyNodes, Names.afterNodes, Names.afterNode,
      pieceNames_print]
    refine (ih (hs.use v.name)).congr fun n => ?_
    simp only [List.mem_append, List.mem_cons]
    tauto
  | @choice front last before between after before' after' v apart inner more yes nodes _ _
      ihInner ihMore =>
    have hchoice : s.afterNode [] (.choose (.name v.name) (yes ++ copyNodes last) [] false) =
        Names.merge [] (s.use [] v.name) ((s.use [] v.name).afterNodes [] yes)
          (s.use [] v.name) (s.use [] v.name) := by
      simp [Names.afterNode, Names.afterNodes, Names.useAll, Expr.names, afterNodes_append,
        afterNodes_copyNodes]
    have hname := hs.use v.name
    have hmerge := hname.merge (ihInner hname) hname hname
    rw [afterNodes_append, afterNodes_copyNodes, Names.afterNodes, hchoice, pieceNames_choice]
    refine (ihMore hmerge).congr fun n => ?_
    simp only [List.mem_append, List.mem_cons]
    tauto

/-- Statements in two groups mention what the first group does and then what the second does. -/
theorem mentionsOfNodes_append (nodes more : List Node) :
    mentionsOfNodes (nodes ++ more) = mentionsOfNodes nodes ++ mentionsOfNodes more := by
  induction nodes with
  | nil => simp [mentionsOfNodes]
  | cons node nodes ih => simp [mentionsOfNodes, ih]

/-- Text mentions nothing. -/
theorem mentionsOfNodes_copyNodes (t : Text) : mentionsOfNodes (copyNodes t) = [] := by
  cases t <;> simp [copyNodes, mentionsOfNodes, Node.mentions]

/-- The statements of pieces use their names and bind none. -/
theorem Makes.mentions (h : Makes pieces nodes) :
    mentionsOfNodes nodes = (pieceNames pieces).map .used := by
  induction h with
  | nil => simp [pieceNames, namesOf, mentionsOfNodes]
  | print _ ih =>
    rw [mentionsOfNodes_append, mentionsOfNodes_copyNodes, mentionsOfNodes, ih, pieceNames_print]
    rfl
  | choice _ _ ihInner ihMore =>
    rw [mentionsOfNodes_append, mentionsOfNodes_copyNodes, mentionsOfNodes, Node.mentions,
      mentionsOfNodes_append, mentionsOfNodes_copyNodes, ihInner, ihMore, pieceNames_choice]
    simp [Expr.mentions, Expr.names, mentionsOfNodes]

/-- A name is not found to be used first among uses of others. -/
theorem usesFirst_used {n : Text} {ns : List Text} (h : n ∉ ns) :
    usesFirst n (ns.map .used) = false := by
  induction ns with
  | nil => rfl
  | cons m ns ih =>
    obtain ⟨hm, hns⟩ := not_or.mp (mt List.mem_cons.mpr h)
    rw [List.map_cons, usesFirst, ih hns, Bool.or_false]
    simpa using fun heq => hm heq.symm

/-- The names of a template are those of its pieces, all of them variables. -/
theorem Makes.templateLocals (h : Makes pieces nodes) (tail : Text)
    (hself : selfName ∉ pieceNames pieces) :
    (∀ l ∈ templateLocals (nodes ++ copyNodes tail), l.origin = .variable) ∧
      ∀ n, n ∈ (templateLocals (nodes ++ copyNodes tail)).map Local.name ↔
        n ∈ pieceNames pieces := by
  unfold Template.templateLocals
  rw [mentionsOfNodes_append, mentionsOfNodes_copyNodes, List.append_nil, h.mentions,
    usesFirst_used hself, if_neg Bool.false_ne_true]
  dsimp only
  rw [afterNodes_append, afterNodes_copyNodes]
  have hholds := h.holds Names.holds_empty
  rw [List.append_nil] at hholds
  exact ⟨hholds.origin, hholds.mem_iff⟩

end

/-! ## What the names stand for -/

/-- A value that is put into a frame is found under all names with the normal form of its name, and
no other name is affected. -/
theorem Frame.get?_set (f : Frame) (m n : Text) (v : Value) :
    (f.set m v).get? n = if Text.normalName n = Text.normalName m then some v else f.get? n := by
  unfold Frame.get? Frame.set
  by_cases hsame : Text.normalName n = Text.normalName m
  · rw [if_pos hsame, List.lookup_cons, beq_iff_eq.mpr hsame]
  · rw [if_neg hsame, List.lookup_cons, beq_eq_false_iff_ne.mpr hsame]
    exact lookup_filter_ne hsame f.places

/-- The value of every name is found, if names with the same normal form have the same value. -/
theorem Frame.get?_loaded {globals : List (Text × Value)} {locals : List Local}
    (hdefined : ∀ l ∈ locals, (globals.lookup l.name).isSome)
    (halike : ∀ k ∈ locals, ∀ l ∈ locals, Text.normalName k.name = Text.normalName l.name →
      globals.lookup k.name = globals.lookup l.name) (f : Frame) :
    (locals.foldl (fun f l => f.assign l.name (globals.lookup l.name)) f).names = f.names ∧
      ∀ l ∈ locals,
        (locals.foldl (fun f l => f.assign l.name (globals.lookup l.name)) f).get? l.name =
          globals.lookup l.name := by
  induction locals using List.reverseRecOn with
  | nil => simp
  | append_singleton front last ih =>
    obtain ⟨hnames, hvalues⟩ := ih (fun l hl => hdefined l (List.mem_append_left _ hl))
      fun k hk l hl => halike k (List.mem_append_left _ hk) l (List.mem_append_left _ hl)
    obtain ⟨v, hv⟩ := Option.isSome_iff_exists.mp
      (hdefined last (List.mem_append_right _ List.mem_cons_self))
    rw [List.foldl_append, List.foldl_cons, List.foldl_nil, hv, Frame.assign]
    refine ⟨hnames, fun l hl => ?_⟩
    rw [Frame.get?_set]
    split
    · rename_i hsame
      rw [halike l hl last (List.mem_append_right _ List.mem_cons_self) hsame, hv]
    · rename_i hother
      rcases List.mem_append.mp hl with hl | hl
      · exact hvalues l hl
      · rw [List.mem_singleton.mp hl] at hother
        exact absurd rfl hother

/-- The frame of a template all of whose names are variables. -/
theorem valueOf_enter {globals : List (Text × Value)} {locals : List Local}
    (horigin : ∀ l ∈ locals, l.origin = .variable)
    (hdefined : ∀ l ∈ locals, (globals.lookup l.name).isSome)
    (halike : ∀ k ∈ locals, ∀ l ∈ locals, Text.normalName k.name = Text.normalName l.name →
      globals.lookup k.name = globals.lookup l.name) (f : Frame) {n : Text} {v : Value}
    (hn : n ∈ locals.map Local.name) (hv : globals.lookup n = some v) :
    valueOf [f.enter globals [] locals] n = v := by
  have henter : f.enter globals [] locals =
      locals.foldl (fun f l => f.assign l.name (globals.lookup l.name))
        { f with names := locals.map (·.name) } := by
    unfold Frame.enter
    rw [List.foldl_ext _ (fun f _ => f) _, List.foldl_fixed, List.foldl_ext]
    · intro g l hl
      rw [horigin l hl]
    · intro g l hl
      rw [horigin l hl, if_neg (by decide)]
  obtain ⟨hnames, hvalues⟩ := Frame.get?_loaded hdefined halike
    { f with names := locals.map (·.name) }
  obtain ⟨l, hl, rfl⟩ := List.mem_map.mp hn
  rw [← henter] at hnames hvalues
  have hcontains : (f.enter globals [] locals).names.contains l.name = true := by
    rw [hnames, List.contains_iff_mem]
    exact hn
  unfold valueOf Frames.get?
  simp only [List.find?_cons, hcontains, hvalues l hl, hv, Option.getD_some]

end ShaderCompose.Template
