import ShaderCompose.Proofs.Spelling.Names

/-!
# Backslashes in paths

A path can be normalised before or after slashes are put in for its backslashes.  Before, a part
with backslashes is a single name, and a double dot behind it takes back all of it; afterwards it is
the parts that it falls into.  A path that is seen from a directory without backslashes leads to the
same place in both orders if it does so by itself and none of its parts starts with a backslash
(`normalize_slashed_join`).  If the parts with backslashes fall into nothing but names, there is
also nothing left to normalise (`normalize_slashed_normalize`).
-/

set_option autoImplicit false

namespace ShaderCompose

/-! ## Texts with slashes for backslashes -/

namespace Text

/-- A text with slashes for its backslashes. -/
def slashed (t : Text) : Text := replaceChar '\\' '/' t

/-- Slashes are put in piece by piece. -/
theorem slashed_append (s t : Text) : slashed (s ++ t) = slashed s ++ slashed t := List.map_append

/-- A text without backslashes stays as it is. -/
theorem slashed_of_notMem {t : Text} (h : '\\' ∉ t) : slashed t = t := replaceChar_of_notMem h '/'

/-- A text with slashes for its backslashes has no backslash. -/
theorem backslash_notMem_slashed (t : Text) : '\\' ∉ slashed t := by
  intro hmem
  obtain ⟨c, -, hc⟩ := List.mem_map.mp hmem
  split at hc
  · exact absurd hc (by decide)
  · next hne => exact hne hc

/-- The characters of the new text are those of the old one, and slashes. -/
theorem mem_of_mem_slashed {t : Text} {c : Char} (h : c ∈ slashed t) : c ∈ t ∨ c = '/' := by
  obtain ⟨d, hd, rfl⟩ := List.mem_map.mp h
  split
  · exact Or.inr rfl
  · exact Or.inl hd

/-- Each piece between slashes falls into its pieces between backslashes. -/
theorem pieces_slashed (t : Text) :
    pieces '/' (slashed t) = (pieces '/' t).flatMap (pieces '\\') := by
  induction t with
  | nil => rfl
  | cons c t ih =>
    obtain ⟨piece, more, hpieces⟩ := List.exists_cons_of_ne_nil (pieces_ne_nil '/' t)
    rw [hpieces, List.flatMap_cons] at ih
    obtain ⟨first, rest, hfirst⟩ := List.exists_cons_of_ne_nil (pieces_ne_nil '\\' piece)
    by_cases hslash : c = '/'
    · subst hslash
      have hstart : slashed ('/' :: t) = '/' :: slashed t := rfl
      rw [hstart, pieces, pieces, if_pos rfl, if_pos rfl, List.flatMap_cons, hpieces,
        List.flatMap_cons, ih]
      rfl
    · by_cases hback : c = '\\'
      · subst hback
        have hstart : slashed ('\\' :: t) = '/' :: slashed t := rfl
        rw [hstart, pieces, pieces, if_pos rfl, if_neg hslash, hpieces, ih]
        dsimp only
        rw [List.flatMap_cons, pieces, if_pos rfl, List.cons_append]
      · have hstart : slashed (c :: t) = c :: slashed t := by simp [slashed, replaceChar, hback]
        rw [hstart, pieces, pieces, if_neg hslash, if_neg hslash, hpieces, ih, hfirst]
        dsimp only
        rw [List.flatMap_cons, pieces, if_neg hback, hfirst]
        rfl

end Text

namespace Path

open Text (slashed)

/-! ## Parts of texts with slashes for backslashes -/

/-- Parts that may have backslashes fall into parts that have none. -/
def slashedParts (names : List Text) : List Text := names.flatMap fun part => parts (slashed part)

/-- The parts of two stretches fall into those of the first and those of the second. -/
theorem slashedParts_append (first second : List Text) :
    slashedParts (first ++ second) = slashedParts first ++ slashedParts second :=
  List.flatMap_append

/-- With slashes for backslashes, a path has the parts that its parts fall into. -/
theorem parts_slashed (path : Text) : parts (slashed path) = slashedParts (parts path) := by
  have hpiece : ∀ piece ∈ Text.pieces '/' path,
      (Text.pieces '\\' piece).filter isPart = parts (slashed piece) := by
    intro piece hmem
    rw [parts_eq_filter, Text.pieces_slashed,
      Text.pieces_of_notMem (notMem_of_mem_pieces hmem).1, List.flatMap_singleton]
  have hskip : ∀ piece, isPart piece = false → parts (slashed piece) = [] := by
    intro piece hnot
    have himp : piece ≠ [] → piece = ['.'] := by simpa [isPart] using hnot
    by_cases hempty : piece = []
    · rw [hempty]
      rfl
    · rw [himp hempty]
      rfl
  rw [parts_eq_filter, Text.pieces_slashed, List.filter_flatMap, List.flatMap_congr hpiece]
  unfold slashedParts
  rw [parts_eq_filter]
  generalize Text.pieces '/' path = pieces
  induction pieces with
  | nil => rfl
  | cons piece rest ih =>
    rw [List.flatMap_cons, ih, List.filter_cons]
    cases hpart : isPart piece with
    | true => rfl
    | false => rw [hskip piece hpart]; rfl

/-- Parts without backslashes stay as they are. -/
theorem slashedParts_eq_self {names : List Text}
    (h : ∀ part ∈ names, parts part = [part] ∧ '\\' ∉ part) : slashedParts names = names := by
  unfold slashedParts
  induction names with
  | nil => rfl
  | cons part rest ih =>
    obtain ⟨hpart, hclean⟩ := h part List.mem_cons_self
    rw [List.flatMap_cons, Text.slashed_of_notMem hclean, hpart,
      ih fun other hother => h other (List.mem_cons_of_mem _ hother)]
    rfl

/-! ## Double dots in front of names -/

/-- Double dots at the start of a relative path pile up. -/
theorem descend_replicate (count : Nat) :
    descend false (List.replicate count parent) parent = List.replicate (count + 1) parent := by
  cases count with
  | zero => rfl
  | succ count =>
    rw [List.replicate_succ, descend, if_pos rfl, if_pos rfl, List.replicate_succ,
      List.replicate_succ]

/-- What is left of the parts of a relative path are double dots in front of names. -/
theorem exists_settle_eq (pieces : List Text) :
    ∃ count names, settle pieces = List.replicate count parent ++ names ∧ parent ∉ names := by
  induction pieces using List.reverseRecOn with
  | nil => exact ⟨0, [], rfl, List.not_mem_nil⟩
  | append_singleton pieces part ih =>
    obtain ⟨count, names, hsettle, hnames⟩ := ih
    by_cases hpart : part = parent
    · have hstep : settle (pieces ++ [part]) =
          (descend false (settle pieces).reverse part).reverse := by
        simp [settle, List.foldl_append]
      rw [hstep, hsettle, hpart]
      rcases List.eq_nil_or_concat names with rfl | ⟨front, last, rfl⟩
      · refine ⟨count + 1, [], ?_, List.not_mem_nil⟩
        rw [List.append_nil, List.append_nil, List.reverse_replicate, descend_replicate,
          List.reverse_replicate]
      · have hlast : last ≠ parent := by
          rintro rfl
          simp at hnames
        refine ⟨count, front, ?_, fun hmem => hnames (by simp [hmem])⟩
        simp [descend, hlast]
    · rw [settle_snoc hpart, hsettle]
      refine ⟨count, names ++ [part], by simp, ?_⟩
      simp [hnames, Ne.symm hpart]

/-- What is left of some parts are double dots in front of names, and no double dots below a
root. -/
theorem exists_foldl_descend_eq (absolute : Bool) (pieces : List Text) :
    ∃ count names, (pieces.foldl (descend absolute) []).reverse =
        List.replicate count parent ++ names ∧
      parent ∉ names ∧ (absolute = true → count = 0) := by
  cases absolute with
  | true =>
    refine ⟨0, (pieces.foldl (descend true) []).reverse, rfl, ?_, fun _ => rfl⟩
    rw [List.mem_reverse]
    exact parent_notMem_foldl List.not_mem_nil pieces
  | false =>
    obtain ⟨count, names, hsettle, hnames⟩ := exists_settle_eq pieces
    exact ⟨count, names, hsettle, hnames, by simp⟩

/-- Double dots in front of names stay as they are. -/
theorem foldl_descend_replicate {absolute : Bool} {count : Nat} {names : List Text}
    (hcount : absolute = true → count = 0) (hnames : parent ∉ names) :
    (List.replicate count parent ++ names).foldl (descend absolute) [] =
      (List.replicate count parent ++ names).reverse := by
  have hdots : (List.replicate count parent).foldl (descend absolute) [] =
      List.replicate count parent := by
    cases absolute with
    | true => rw [hcount rfl]; rfl
    | false =>
      clear hcount
      induction count with
      | zero => rfl
      | succ count ih =>
        rw [List.replicate_succ', List.foldl_append, ih, List.foldl_cons, List.foldl_nil,
          descend_replicate, List.replicate_succ']
  rw [List.foldl_append, hdots, foldl_descend_of_notMem hnames]
  simp

/-- Parts in which double dots are resolved stay as they are when this is done again. -/
theorem foldl_descend_foldl (absolute : Bool) (pieces : List Text) :
    (pieces.foldl (descend absolute) []).reverse.foldl (descend absolute) [] =
      pieces.foldl (descend absolute) [] := by
  obtain ⟨count, names, hparts, hnames, hcount⟩ := exists_foldl_descend_eq absolute pieces
  rw [hparts, foldl_descend_replicate hcount hnames, ← hparts, List.reverse_reverse]

/-! ## Normalising before and after -/

/-- No part starts with a backslash. -/
def NoneLeads (names : List Text) : Prop := ∀ part ∈ names, part.head? ≠ some '\\'

instance (names : List Text) : Decidable (NoneLeads names) :=
  inferInstanceAs (Decidable (∀ part ∈ names, part.head? ≠ some '\\'))

/-- The root of a path has no backslashes. -/
theorem slashed_root (path : Text) : slashed (root path) = root path := by
  cases habsolute : isAbsolute path with
  | false => rw [root_of_not_isAbsolute habsolute]; rfl
  | true => rcases root_of_isAbsolute habsolute with hroot | hroot <;> rw [hroot] <;> rfl

/-- The root of a path is its own root. -/
theorem root_root (path : Text) : root (root path) = root path := by
  cases habsolute : isAbsolute path with
  | false => rw [root_of_not_isAbsolute habsolute]; rfl
  | true => rcases root_of_isAbsolute habsolute with hroot | hroot <;> rw [hroot] <;> rfl

/-- Slashes for backslashes do not change the root of a normal form in which no part starts with a
backslash. -/
theorem root_slashed_normalize {path : Text} (h : NoneLeads (parts path)) :
    root (slashed (normalize path)) = root path := by
  have hspelled : isAbsolute (slashed (Text.joinWith ['/'] (resolvedParts path))) = false := by
    cases hparts : resolvedParts path with
    | nil => rfl
    | cons first rest =>
      have hfirst : first ∈ parts path := by
        apply mem_of_mem_resolvedParts
        rw [hparts]
        exact List.mem_cons_self
      have hpart : isPart first = true := (List.mem_filter.mp hfirst).2
      have hslash := slash_notMem_of_mem_parts hfirst
      have hleads := h first hfirst
      cases first with
      | nil => simp [isPart] at hpart
      | cons c tail =>
        have hc : c ≠ '/' := fun heq => hslash (heq ▸ List.mem_cons_self)
        have hback : c ≠ '\\' := by simpa using hleads
        cases rest with
        | nil =>
          simp [Text.joinWith, List.intercalate, slashed, Text.replaceChar, isAbsolute, hc, hback]
        | cons next rest =>
          simp [Text.joinWith, List.intercalate, slashed, Text.replaceChar, isAbsolute, hc, hback]
  rcases normalize_eq_or path with ⟨hdot, hroot, -⟩ | hnormal
  · rw [hdot, hroot]
    rfl
  · rw [hnormal, Text.slashed_append, slashed_root, root_append hspelled, root_root]

/-- Paths with the same root are both absolute or both relative. -/
theorem isAbsolute_eq_of_root_eq {path other : Text} (h : root path = root other) :
    isAbsolute path = isAbsolute other := by
  have hroot : ∀ t : Text, isAbsolute t = (root t != []) := by
    intro t
    cases habsolute : isAbsolute t with
    | false => rw [root_of_not_isAbsolute habsolute]; rfl
    | true => rcases root_of_isAbsolute habsolute with hroot | hroot <;> rw [hroot] <;> rfl
  rw [hroot, hroot, h]

/-- Seen from a directory without backslashes, a path that can be normalised in both orders leads to
the same place in both orders. -/
theorem normalize_slashed_join {dir path : Text} (hdir : '\\' ∉ dir)
    (hpath : NoneLeads (parts path))
    (heven : normalize (slashed (normalize path)) = normalize (slashed path)) :
    normalize (slashed (normalize (join dir path))) = normalize (join dir (slashed path)) := by
  cases habsolute : isAbsolute path with
  | true =>
    have hslashed : isAbsolute (slashed path) = true := by
      cases path with
      | nil => simp [isAbsolute] at habsolute
      | cons c rest =>
        obtain rfl : c = '/' := by simpa [isAbsolute] using habsolute
        rfl
    rw [join_of_isAbsolute habsolute, join_of_isAbsolute hslashed, heven]
  | false =>
    rw [← normalize_join_congr_right heven]
    have hnone : NoneLeads (parts (join dir path)) := by
      rw [parts_join habsolute]
      intro part hmem
      rcases List.mem_append.mp hmem with hmem | hmem
      · intro hlead
        exact hdir (mem_of_mem_parts hmem (List.mem_of_mem_head? hlead))
      · exact hpath part hmem
    have hinner : isAbsolute (slashed (normalize path)) = false := by
      rw [isAbsolute_eq_of_root_eq (root_slashed_normalize hpath), habsolute]
    have hroot : root (slashed (normalize (join dir path))) = root dir := by
      rw [root_slashed_normalize hnone, root_join habsolute]
    apply normalize_congr
    · rw [hroot, root_join hinner]
    · obtain ⟨count, names, hsettle, hnames⟩ := exists_settle_eq (parts path)
      let absolute := isAbsolute dir
      let front := (parts dir ++ List.replicate count parent).foldl (descend absolute) []
      have hfold : ∀ more, (parts dir ++ (List.replicate count parent ++ more)).foldl
          (descend absolute) [] = more.foldl (descend absolute) front := by
        intro more
        rw [← List.append_assoc, List.foldl_append]
      have hjoined : resolvedParts (join dir path) = front.reverse ++ names := by
        unfold resolvedParts
        rw [isAbsolute_join_of_not_isAbsolute habsolute, parts_join habsolute, List.foldl_append,
          ← foldl_settle, hsettle, ← List.foldl_append, hfold, foldl_descend_of_notMem hnames]
        simp
      -- what the double dots leave of the directory has no backslashes
      have hdots : parts parent = [parent] ∧ '\\' ∉ parent := by decide
      have hfront : slashedParts front.reverse = front.reverse := by
        apply slashedParts_eq_self
        intro part hpart
        rcases mem_foldl_descend (List.mem_reverse.mp hpart) with hnil | hmem
        · simp at hnil
        · rcases List.mem_append.mp hmem with hmem | hmem
          · exact ⟨parts_of_mem_parts hmem, fun hc => hdir (mem_of_mem_parts hmem hc)⟩
          · rw [List.eq_of_mem_replicate hmem]
            exact hdots
      have hclimb : slashedParts (List.replicate count parent) = List.replicate count parent := by
        apply slashedParts_eq_self
        intro part hpart
        rw [List.eq_of_mem_replicate hpart]
        exact hdots
      have hagain : front.reverse.foldl (descend absolute) [] = front :=
        foldl_descend_foldl absolute _
      unfold resolvedParts
      rw [isAbsolute_eq_of_root_eq hroot, isAbsolute_join_of_not_isAbsolute hinner,
        parts_join hinner, parts_slashed, parts_slashed, parts_normalize, parts_normalize, hjoined,
        resolvedParts_of_not_isAbsolute habsolute, hsettle, slashedParts_append, hfront,
        slashedParts_append, hclimb, hfold, List.foldl_append, hagain]

/-! ## Parts that fall into names -/

/-- Parts that have no backslashes, or fall into nothing but names. -/
def FallIntoNames (names : List Text) : Prop :=
  ∀ part ∈ names, '\\' ∈ part → ∀ piece ∈ Text.pieces '\\' part, isName piece = true

instance (names : List Text) : Decidable (FallIntoNames names) :=
  inferInstanceAs (Decidable (∀ part ∈ names, '\\' ∈ part →
    ∀ piece ∈ Text.pieces '\\' part, isName piece = true))

/-- A part that falls into nothing but names does not start with a backslash. -/
theorem FallIntoNames.noneLeads {names : List Text} (h : FallIntoNames names) :
    NoneLeads names := by
  intro part hpart hlead
  cases part with
  | nil => simp at hlead
  | cons c rest =>
    obtain rfl : c = '\\' := by simpa using hlead
    have hfirst := h _ hpart List.mem_cons_self [] (by rw [Text.pieces, if_pos rfl]; simp)
    simp [isName, isPart] at hfirst

/-- Texts in two groups are joined group by group, with a slash in between. -/
theorem joinWith_append {first second : List Text} (hfirst : first ≠ []) (hsecond : second ≠ []) :
    Text.joinWith ['/'] (first ++ second) =
      Text.joinWith ['/'] first ++ '/' :: Text.joinWith ['/'] second := by
  induction second using List.reverseRecOn with
  | nil => exact absurd rfl hsecond
  | append_singleton front last ih =>
    by_cases hfront : front = []
    · subst hfront
      rw [List.nil_append, joinWith_snoc hfirst]
      simp [Text.joinWith, List.intercalate]
    · rw [← List.append_assoc, joinWith_snoc (by simp [hfirst]), ih hfront, joinWith_snoc hfront]
      simp

/-- The pieces of a text, with slashes between them. -/
theorem joinWith_pieces (separator : Char) (t : Text) :
    Text.joinWith ['/'] (Text.pieces separator t) = Text.replaceChar separator '/' t := by
  induction t with
  | nil => rfl
  | cons c t ih =>
    obtain ⟨piece, more, hpieces⟩ := List.exists_cons_of_ne_nil (Text.pieces_ne_nil separator t)
    rw [Text.pieces]
    by_cases hcut : c = separator
    · have hsplit : Text.joinWith ['/'] ([[]] ++ Text.pieces separator t) =
          Text.joinWith ['/'] [[]] ++ '/' :: Text.joinWith ['/'] (Text.pieces separator t) :=
        joinWith_append (by simp) (Text.pieces_ne_nil separator t)
      rw [if_pos hcut]
      rw [List.singleton_append, ih] at hsplit
      rw [hsplit]
      simp [Text.joinWith, List.intercalate, Text.replaceChar, hcut]
    · have hcons : Text.joinWith ['/'] ((c :: piece) :: more) =
          c :: Text.joinWith ['/'] (piece :: more) := by
        cases more <;> simp [Text.joinWith, List.intercalate]
      rw [if_neg hcut, hpieces]
      dsimp only
      rw [hcons, ← hpieces, ih]
      simp [Text.replaceChar, hcut]

/-- Pieces that are joined again give the text that was cut at its slashes. -/
theorem joinWith_pieces_slash (t : Text) : Text.joinWith ['/'] (Text.pieces '/' t) = t := by
  have hkept : ∀ c ∈ t, (if c = '/' then '/' else c) = c := by
    intro c _
    split
    · next hslash => exact hslash.symm
    · rfl
  rw [joinWith_pieces]
  exact (List.map_congr_left hkept).trans (List.map_id' t)

/-- Joined parts with slashes for backslashes are joined from the pieces of the parts. -/
theorem slashed_joinWith (names : List Text) :
    slashed (Text.joinWith ['/'] names) =
      Text.joinWith ['/'] (names.flatMap (Text.pieces '\\')) := by
  induction names using List.reverseRecOn with
  | nil => rfl
  | append_singleton front last ih =>
    by_cases hfront : front = []
    · subst hfront
      simpa [slashed, Text.joinWith, List.intercalate] using (joinWith_pieces '\\' last).symm
    · have hpieces : front.flatMap (Text.pieces '\\') ≠ [] := by
        obtain ⟨first, rest, rfl⟩ := List.exists_cons_of_ne_nil hfront
        simp [Text.pieces_ne_nil]
      rw [joinWith_snoc hfront, Text.slashed_append, ih, List.flatMap_append,
        List.flatMap_singleton, joinWith_append hpieces (Text.pieces_ne_nil '\\' last),
        joinWith_pieces]
      rfl

/-- The normal form of a path is never empty. -/
theorem normalize_ne_nil (path : Text) : normalize path ≠ [] := by
  unfold normalize
  dsimp only
  split
  · simp
  · next hspelled => simpa using hspelled

/-- Parts that fall into names fall into all of their pieces. -/
theorem FallIntoNames.slashedParts_eq {path : Text} {names : List Text} (h : FallIntoNames names)
    (hmem : ∀ part ∈ names, part ∈ parts path) :
    slashedParts names = names.flatMap (Text.pieces '\\') := by
  unfold slashedParts
  apply List.flatMap_congr
  intro part hpart
  have hslash := slash_notMem_of_mem_parts (hmem part hpart)
  rw [parts_eq_filter, Text.pieces_slashed, Text.pieces_of_notMem hslash, List.flatMap_singleton,
    List.filter_eq_self]
  intro piece hpiece
  by_cases hback : '\\' ∈ part
  · exact isPart_of_isName (h part hpart hback piece hpiece)
  · rw [Text.pieces_of_notMem hback] at hpiece
    rw [List.mem_singleton.mp hpiece]
    exact (List.mem_filter.mp (hmem part hpart)).2

/-- With slashes for backslashes, a normal form whose parts fall into names is a normal form. -/
theorem normalize_slashed_normalize {path : Text} (h : FallIntoNames (parts path)) :
    normalize (slashed (normalize path)) = slashed (normalize path) := by
  obtain ⟨count, names, hparts, hnames, hcount⟩ :=
    exists_foldl_descend_eq (isAbsolute path) (parts path)
  have hresolved : resolvedParts path = List.replicate count parent ++ names := hparts
  have hmem : ∀ part ∈ resolvedParts path, part ∈ parts path := fun part =>
    mem_of_mem_resolvedParts
  have hfall : FallIntoNames (resolvedParts path) := fun part hpart => h part (hmem part hpart)
  have hroot := root_slashed_normalize h.noneLeads
  -- the double dots in front fall into nothing smaller
  have hpieces : (resolvedParts path).flatMap (Text.pieces '\\') =
      List.replicate count parent ++ names.flatMap (Text.pieces '\\') := by
    have hparent : Text.pieces '\\' parent = [parent] := by decide
    have hdots : ∀ n : Nat, (List.replicate n parent).flatMap (Text.pieces '\\') =
        List.replicate n parent := by
      intro n
      induction n with
      | zero => rfl
      | succ n ih => rw [List.replicate_succ, List.flatMap_cons, ih, hparent]; rfl
    rw [hresolved, List.flatMap_append, hdots]
  -- no name falls into a double dot, so nothing behind them is taken back
  have hclean : parent ∉ names.flatMap (Text.pieces '\\') := by
    intro hparent
    obtain ⟨part, hpart, hpiece⟩ := List.mem_flatMap.mp hparent
    by_cases hback : '\\' ∈ part
    · have hname := hfall part (by rw [hresolved]; simp [hpart]) hback parent hpiece
      exact ne_parent_of_isName hname rfl
    · rw [Text.pieces_of_notMem hback] at hpiece
      rw [List.mem_singleton.mp hpiece] at hnames
      exact hnames hpart
  have hsettled : resolvedParts (slashed (normalize path)) =
      (resolvedParts path).flatMap (Text.pieces '\\') := by
    rw [hpieces, resolvedParts, isAbsolute_eq_of_root_eq hroot, parts_slashed, parts_normalize,
      hfall.slashedParts_eq hmem, hpieces, foldl_descend_replicate hcount hclean,
      List.reverse_reverse]
  rcases normalize_eq_or path with ⟨hdot, -, -⟩ | hnormal
  · rw [hdot]
    decide
  · have hspelled : slashed (normalize path) =
        root path ++ Text.joinWith ['/'] ((resolvedParts path).flatMap (Text.pieces '\\')) := by
      rw [hnormal, Text.slashed_append, slashed_root, slashed_joinWith]
    rcases normalize_eq_or (slashed (normalize path)) with ⟨-, hnone, hempty⟩ | hagain
    · rw [← hsettled, hempty, ← hroot, hnone] at hspelled
      exact absurd (List.map_eq_nil_iff.mp hspelled) (normalize_ne_nil path)
    · rw [hagain, hroot, hsettled, ← hspelled]

/-- The last part behind all slashes and backslashes is found in the last part behind the
slashes. -/
theorem lastPart_slashed (path : Text) :
    lastPart (slashed path) = lastPart (slashed (lastPart path)) := by
  rcases exists_last_slash path with hnone | ⟨start, rest, rfl, hrest⟩
  · rw [lastPart_of_notMem hnone]
  · rw [lastPart_append, lastPart_of_notMem hrest, Text.slashed_append]
    exact lastPart_append (slashed start) (slashed rest)

end Path

end ShaderCompose
