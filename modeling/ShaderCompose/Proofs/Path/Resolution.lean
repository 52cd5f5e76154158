import Mathlib.Data.List.DropRight
import Mathlib.Data.List.Induction
import Mathlib.Data.List.TakeWhile
import ShaderCompose.Proofs.Path

/-!
# Resolving double dots

Double dots can be resolved in any stretch of a path before the rest of it: the part in front of a
double dot goes with it, and what is left begins with double dots that wait for something in front
of them.  So joining and normalising paths is an algebra of lists of parts, in which `settle` is the
normal form of the relative ones.  A path and its normal form also fall into a directory and a last
part in the same way.
-/

set_option autoImplicit false

namespace ShaderCompose.Path

/-! ## Settled parts -/

/-- The parts that are left when the double dots among some parts of a relative path are
resolved. -/
def settle (parts : List Text) : List Text := (parts.foldl (descend false) []).reverse

/-- Going down the parts that are kept leads to the same place as going down one part more. -/
theorem foldl_reverse_descend (absolute : Bool) (start kept : List Text) (part : Text) :
    (descend false kept part).reverse.foldl (descend absolute) start =
      descend absolute (kept.reverse.foldl (descend absolute) start) part := by
  by_cases hpart : part = parent
  · subst hpart
    cases kept with
    | nil => simp [descend]
    | cons last before =>
      by_cases hlast : last = parent
      · simp [descend, hlast]
      · -- the double dot takes back what `last` has added
        simp [descend, hlast]
  · simp [descend, hpart]

/-- Settling some parts does not change where they lead to, wherever one starts. -/
theorem foldl_settle (absolute : Bool) (start parts : List Text) :
    (settle parts).foldl (descend absolute) start = parts.foldl (descend absolute) start := by
  unfold settle
  induction parts using List.reverseRecOn with
  | nil => rfl
  | append_singleton parts part ih =>
    rw [List.foldl_append, List.foldl_append, List.foldl_cons, List.foldl_nil,
      foldl_reverse_descend, ih]
    rfl

/-- Resolving the double dots of the second stretch first makes no difference. -/
theorem settle_append_settle (first second : List Text) :
    settle (first ++ settle second) = settle (first ++ second) := by
  unfold settle
  rw [List.foldl_append, List.foldl_append]
  exact congrArg List.reverse (foldl_settle false _ second)

/-- Resolving those of the first stretch first makes none either. -/
theorem settle_settle_append (first second : List Text) :
    settle (settle first ++ second) = settle (first ++ second) := by
  unfold settle
  rw [List.foldl_append, List.foldl_append]
  congr 2
  exact foldl_settle false [] first

/-- Parts in which double dots are resolved stay as they are. -/
theorem settle_settle (parts : List Text) : settle (settle parts) = settle parts := by
  simpa [settle] using settle_append_settle [] parts

/-- A part that is no double dot stays at the end. -/
theorem settle_snoc {part : Text} (h : part ≠ parent) (parts : List Text) :
    settle (parts ++ [part]) = settle parts ++ [part] := by
  simp [settle, List.foldl_append, descend, h]

/-- A step down a path keeps no parts but those from before and the new one. -/
theorem mem_descend {absolute : Bool} {kept : List Text} {part next : Text}
    (h : part ∈ descend absolute kept next) : part = next ∨ part ∈ kept := by
  unfold descend at h
  split at h
  · split at h
    · split at h
      · simp at h
      · exact Or.inl (List.mem_singleton.mp h)
    · split at h
      · exact List.mem_cons.mp h
      · exact Or.inr (List.mem_cons_of_mem _ h)
  · exact List.mem_cons.mp h

/-- Several steps keep no parts but those from before and the new ones. -/
theorem mem_foldl_descend {absolute : Bool} {kept rest : List Text} {part : Text}
    (h : part ∈ rest.foldl (descend absolute) kept) : part ∈ kept ∨ part ∈ rest := by
  induction rest generalizing kept with
  | nil => exact Or.inl h
  | cons next rest ih =>
    rcases ih h with hkept | hrest
    · rcases mem_descend hkept with rfl | hkept
      · exact Or.inr List.mem_cons_self
      · exact Or.inl hkept
    · exact Or.inr (List.mem_cons_of_mem _ hrest)

/-- Resolving double dots gives no new parts. -/
theorem mem_of_mem_resolvedParts {path part : Text} (h : part ∈ resolvedParts path) :
    part ∈ parts path := by
  rcases mem_foldl_descend (List.mem_reverse.mp h) with hnil | hmem
  · simp at hnil
  · exact hmem

/-- For a relative path, the parts with double dots resolved are its settled parts. -/
theorem resolvedParts_of_not_isAbsolute {path : Text} (h : isAbsolute path = false) :
    resolvedParts path = settle (parts path) := by
  unfold resolvedParts settle
  rw [h]

/-! ## Roots -/

/-- A relative path is joined to a base with a slash in between, unless the base is empty or ends
with one. -/
theorem join_of_not_isAbsolute {path : Text} (h : isAbsolute path = false) (base : Text) :
    join base path = if base.isEmpty || base.getLast? == some '/' then base ++ path
      else base ++ '/' :: path := by
  unfold join
  rw [if_neg (by simp [h])]

/-- A base with a relative path joined to it is absolute if the base is. -/
theorem isAbsolute_join_of_not_isAbsolute {path : Text} (h : isAbsolute path = false)
    (base : Text) : isAbsolute (join base path) = isAbsolute base := by
  rw [join_of_not_isAbsolute h]
  cases base with
  | nil => simpa [isAbsolute] using h
  | cons c base => split <;> simp [isAbsolute]

/-- A relative path has no root. -/
theorem root_of_not_isAbsolute {path : Text} (h : isAbsolute path = false) : root path = [] := by
  unfold root
  split
  · simp [isAbsolute] at h
  · simp [isAbsolute] at h
  · simp [isAbsolute] at h
  · rfl

/-- What follows the slashes at the start of a path does not matter to its root. -/
theorem root_append {start rest : Text} (hrest : isAbsolute rest = false) :
    root (start ++ rest) = root start := by
  match start with
  | [] => rw [List.nil_append, root_of_not_isAbsolute hrest]; rfl
  | [a] =>
    cases rest with
    | nil => rfl
    | cons c rest =>
      have hc : c ≠ '/' := by simpa [isAbsolute] using hrest
      by_cases ha : a = '/' <;> simp [root, ha, hc]
  | [a, b] =>
    cases rest with
    | nil => rfl
    | cons c rest =>
      have hc : c ≠ '/' := by simpa [isAbsolute] using hrest
      by_cases ha : a = '/' <;> by_cases hb : b = '/' <;> simp [root, ha, hb, hc]
  | a :: b :: c :: start =>
    by_cases ha : a = '/' <;> by_cases hb : b = '/' <;> by_cases hc : c = '/' <;>
      simp [root, ha, hb, hc]

/-- Joining a relative path keeps the root of the base. -/
theorem root_join {path : Text} (h : isAbsolute path = false) (base : Text) :
    root (join base path) = root base := by
  rw [join_of_not_isAbsolute h]
  split
  · exact root_append h
  · next hbase =>
    rcases List.eq_nil_or_concat base with rfl | ⟨front, last, rfl⟩
    · simp at hbase
    · have hlast : last ≠ '/' := by simpa using hbase
      rw [List.concat_eq_append, List.append_assoc, List.singleton_append,
        root_append (by simpa [isAbsolute] using hlast),
        root_append (by simpa [isAbsolute] using hlast)]

/-- The normal form of a path depends on its root and its resolved parts only. -/
theorem normalize_congr {path other : Text} (hroot : root path = root other)
    (hparts : resolvedParts path = resolvedParts other) : normalize path = normalize other := by
  unfold normalize
  rw [hroot, hparts]

/-! ## Directories and last parts -/

/-- No character of a text without slashes is a slash, also when the text is read from behind. -/
theorem ne_slash_of_mem_reverse {text : Text} (h : '/' ∉ text) :
    ∀ c ∈ text.reverse, decide (c ≠ '/') = true := by
  intro c hc
  rw [decide_eq_true_eq]
  rintro rfl
  exact h (List.mem_reverse.mp hc)

/-- A path has no slash, or it has a last one. -/
theorem exists_last_slash (path : Text) :
    '/' ∉ path ∨ ∃ start rest, path = start ++ '/' :: rest ∧ '/' ∉ rest := by
  induction path using List.reverseRecOn with
  | nil => exact Or.inl List.not_mem_nil
  | append_singleton path c ih =>
    by_cases hc : c = '/'
    · exact Or.inr ⟨path, [], by rw [hc], List.not_mem_nil⟩
    · rcases ih with hnone | ⟨start, rest, rfl, hrest⟩
      · exact Or.inl (by simp [hnone, Ne.symm hc])
      · exact Or.inr ⟨start, rest ++ [c], by simp, by simp [hrest, Ne.symm hc]⟩

/-- A path without slashes is its own last part. -/
theorem lastPart_of_notMem {path : Text} (h : '/' ∉ path) : lastPart path = path := by
  unfold lastPart
  rw [List.takeWhile_eq_self_iff.mpr (ne_slash_of_mem_reverse h), List.reverse_reverse]

/-- A path without slashes has nothing in front of its last part. -/
theorem leadingPart_of_notMem {path : Text} (h : '/' ∉ path) : leadingPart path = [] := by
  unfold leadingPart
  rw [List.dropWhile_eq_nil_iff.mpr (ne_slash_of_mem_reverse h), List.reverse_nil]

/-- What leads up to the last part ends with the last slash. -/
theorem leadingPart_append {rest : Text} (start : Text) (h : '/' ∉ rest) :
    leadingPart (start ++ '/' :: rest) = start ++ ['/'] := by
  unfold leadingPart
  rw [List.reverse_append, List.reverse_cons, List.append_assoc,
    List.dropWhile_append_of_pos (ne_slash_of_mem_reverse h)]
  simp

/-- The last part does not depend on what stands in front of a slash. -/
theorem lastPart_append (start path : Text) : lastPart (start ++ '/' :: path) = lastPart path := by
  have hplain : ∀ (start rest : Text), '/' ∉ rest → lastPart (start ++ '/' :: rest) = rest := by
    intro start rest hrest
    unfold lastPart
    rw [List.reverse_append, List.reverse_cons, List.append_assoc,
      List.takeWhile_append_of_pos (ne_slash_of_mem_reverse hrest)]
    simp
  rcases exists_last_slash path with hnone | ⟨front, rest, rfl, hrest⟩
  · rw [hplain start path hnone, lastPart_of_notMem hnone]
  · have hassoc :
        start ++ '/' :: (front ++ '/' :: rest) = (start ++ '/' :: front) ++ '/' :: rest := by
      simp
    rw [hassoc, hplain _ rest hrest, hplain front rest hrest]

/-- There is no slash in the last part of a path. -/
theorem slash_notMem_lastPart (path : Text) : '/' ∉ lastPart path := by
  rcases exists_last_slash path with hnone | ⟨start, rest, rfl, hrest⟩
  · rwa [lastPart_of_notMem hnone]
  · rwa [lastPart_append, lastPart_of_notMem hrest]

/-- A relative path that is joined to another one stands at the end, behind a slash if there is
anything in front of it. -/
theorem join_eq {path : Text} (h : isAbsolute path = false) (base : Text) :
    join base path = path ∨ ∃ start, join base path = start ++ '/' :: path := by
  rw [join_of_not_isAbsolute h]
  split
  · next hbase =>
    rcases List.eq_nil_or_concat base with rfl | ⟨front, last, rfl⟩
    · exact Or.inl rfl
    · have hlast : last = '/' := by simpa using hbase
      exact Or.inr ⟨front, by rw [hlast]; simp⟩
  · exact Or.inr ⟨base, rfl⟩

/-- Joining a relative path to a base keeps its last part. -/
theorem lastPart_join {path : Text} (h : isAbsolute path = false) (base : Text) :
    lastPart (join base path) = lastPart path := by
  rcases join_eq h base with heq | ⟨start, heq⟩
  · rw [heq]
  · rw [heq, lastPart_append]

/-- A path without slashes is relative. -/
theorem isAbsolute_of_notMem {path : Text} (h : '/' ∉ path) : isAbsolute path = false := by
  cases path with
  | nil => rfl
  | cons c path =>
    have hc : c ≠ '/' := fun heq => h (heq ▸ List.mem_cons_self)
    simpa [isAbsolute] using hc

/-- A name that is joined to a directory can be lengthened before or after that. -/
theorem join_append {name : Text} (hname : name ≠ []) (habsolute : isAbsolute name = false)
    (base rest : Text) : join base name ++ rest = join base (name ++ rest) := by
  obtain ⟨c, name, rfl⟩ := List.exists_cons_of_ne_nil hname
  have hlonger : isAbsolute (c :: name ++ rest) = false := by
    simpa [isAbsolute] using habsolute
  rw [join_of_not_isAbsolute habsolute, join_of_not_isAbsolute hlonger]
  split <;> simp

/-- Dropping characters from the end of a text is the list operation of this kind. -/
theorem dropEndWhile_eq (p : Char → Bool) (t : Text) : Text.dropEndWhile p t = t.rdropWhile p :=
  rfl

/-- Slashes at the end of a path are no parts. -/
theorem parts_dropEndWhile (path : Text) :
    parts (Text.dropEndWhile (· = '/') path) = parts path := by
  rw [dropEndWhile_eq]
  induction path using List.reverseRecOn with
  | nil => rfl
  | append_singleton path c ih =>
    rw [List.rdropWhile_concat]
    split
    · next hc =>
      have hslash : c = '/' := by simpa using hc
      rw [ih, hslash, parts_append_slash]
    · rfl

/-- The parts of a path are those of its directory, and the last part if it counts as one. -/
theorem parts_directory_append (path : Text) :
    parts (directory path) ++ parts (lastPart path) = parts path := by
  have hdirectory : parts (directory path) = parts (leadingPart path) := by
    unfold directory
    dsimp only
    split
    · rfl
    · exact parts_dropEndWhile _
  rw [hdirectory]
  rcases exists_last_slash path with hnone | ⟨start, rest, rfl, hrest⟩
  · rw [leadingPart_of_notMem hnone, lastPart_of_notMem hnone]
    rfl
  · rw [leadingPart_append start hrest, lastPart_append, lastPart_of_notMem hrest,
      parts_append_slash, parts_append]

/-- A path without slashes has an empty directory. -/
theorem directory_of_notMem {path : Text} (h : '/' ∉ path) : directory path = [] := by
  unfold directory
  rw [leadingPart_of_notMem h]
  rfl

/-- The directory of a path with a slash: the slashes in front of its last part are left out, unless
there is nothing else. -/
theorem directory_append {rest : Text} (start : Text) (h : '/' ∉ rest) :
    directory (start ++ '/' :: rest) =
      if start.all (· = '/') then start ++ ['/'] else Text.dropEndWhile (· = '/') start := by
  have hdrop : Text.dropEndWhile (· = '/') (start ++ ['/']) =
      Text.dropEndWhile (· = '/') start :=
    List.rdropWhile_concat_pos _ _ _ (by simp)
  unfold directory
  rw [leadingPart_append start h]
  dsimp only
  rw [hdrop]
  simp

/-- The directory of a path is absolute if the path is. -/
theorem isAbsolute_directory (path : Text) : isAbsolute (directory path) = isAbsolute path := by
  rcases exists_last_slash path with hnone | ⟨start, rest, rfl, hrest⟩
  · rw [directory_of_notMem hnone, isAbsolute_of_notMem hnone]
    rfl
  · rw [directory_append start hrest]
    split
    · cases start <;> simp [isAbsolute]
    · next hall =>
      obtain ⟨rest', hstart⟩ : Text.dropEndWhile (· = '/') start <+: start :=
        List.rdropWhile_prefix _ _
      have hne : Text.dropEndWhile (· = '/') start ≠ [] := by
        rw [dropEndWhile_eq, Ne, List.rdropWhile_eq_nil_iff]
        simpa using hall
      obtain ⟨c, front, hfront⟩ := List.exists_cons_of_ne_nil hne
      rw [hfront] at hstart ⊢
      rw [← hstart]
      simp [isAbsolute]

/-- The characters of the directory are characters of the path. -/
theorem mem_of_mem_directory {path : Text} {c : Char} (h : c ∈ directory path) : c ∈ path := by
  rcases exists_last_slash path with hnone | ⟨start, rest, rfl, hrest⟩
  · simp [directory_of_notMem hnone] at h
  · rw [directory_append start hrest] at h
    split at h
    · rcases List.mem_append.mp h with h | h
      · exact List.mem_append_left _ h
      · exact List.mem_append_right _ (List.mem_cons.mpr (Or.inl (List.mem_singleton.mp h)))
    · exact List.mem_append_left _ ((List.rdropWhile_prefix _ _).subset h)

/-- The characters of the last part are characters of the path. -/
theorem mem_of_mem_lastPart {path : Text} {c : Char} (h : c ∈ lastPart path) : c ∈ path :=
  List.mem_reverse.mp ((List.takeWhile_sublist _).subset (List.mem_reverse.mp h))

/-- The directory of a path is nothing but slashes, or does not end with one. -/
theorem directory_cases (path : Text) :
    (directory path).all (· = '/') = true ∨ (directory path).getLast? ≠ some '/' := by
  unfold directory
  dsimp only
  split
  · next hall => exact Or.inl hall
  · refine Or.inr ?_
    intro hlast
    obtain ⟨front, hfront⟩ := List.getLast?_eq_some_iff.mp hlast
    have hne : List.rdropWhile (fun c => decide (c = '/')) (leadingPart path) ≠ [] := by
      rw [← dropEndWhile_eq, hfront]
      simp
    have hnot := List.rdropWhile_last_not _ _ hne
    simp only [← dropEndWhile_eq, hfront] at hnot
    simp at hnot

/-- A name without slashes that is joined to the directory of a path stands in this directory. -/
theorem directory_join_directory {name : Text} (hname : '/' ∉ name) (path : Text) :
    directory (join (directory path) name) = directory path := by
  rw [join_of_not_isAbsolute (isAbsolute_of_notMem hname)]
  have hcases := directory_cases path
  generalize directory path = dir at hcases ⊢
  rcases List.eq_nil_or_concat dir with rfl | ⟨front, last, rfl⟩
  · exact directory_of_notMem hname
  · rw [List.concat_eq_append] at hcases ⊢
    by_cases hlast : last = '/'
    · subst hlast
      have hall : front.all (· = '/') = true := by simpa using hcases
      rw [if_pos (by simp), List.append_assoc, List.singleton_append,
        directory_append front hname, if_pos hall]
    · have hall : ¬ (front ++ [last]).all (· = '/') = true := by simp [hlast]
      rw [if_neg (by simp [hlast]), directory_append _ hname, if_neg hall, dropEndWhile_eq,
        List.rdropWhile_concat_neg _ _ _ (by simpa using hlast)]

/-! ## Spelling parts -/

/-- The pieces between separators have none in them, and no characters that the text does not
have. -/
theorem notMem_of_mem_pieces {separator : Char} {t piece : Text}
    (h : piece ∈ Text.pieces separator t) : separator ∉ piece ∧ ∀ c ∈ piece, c ∈ t := by
  induction t generalizing piece with
  | nil =>
    obtain rfl : piece = [] := by simpa [Text.pieces] using h
    simp
  | cons c t ih =>
    rw [Text.pieces] at h
    by_cases hc : c = separator
    · rw [if_pos hc] at h
      rcases List.mem_cons.mp h with rfl | hmem
      · simp
      · obtain ⟨hnot, hchars⟩ := ih hmem
        exact ⟨hnot, fun d hd => List.mem_cons_of_mem _ (hchars d hd)⟩
    · rw [if_neg hc] at h
      obtain ⟨first, more, hpieces⟩ := List.exists_cons_of_ne_nil (Text.pieces_ne_nil separator t)
      rw [hpieces] at h
      -- a character that is no separator goes on the first piece
      have hold : ∀ other ∈ first :: more, separator ∉ other ∧ ∀ d ∈ other, d ∈ t := by
        intro other hother
        rw [← hpieces] at hother
        exact ih hother
      rcases List.mem_cons.mp h with rfl | hmem
      · obtain ⟨hnot, hchars⟩ := hold first List.mem_cons_self
        refine ⟨by simp [hnot, Ne.symm hc], ?_⟩
        intro d hd
        rcases List.mem_cons.mp hd with rfl | hd
        · exact List.mem_cons_self
        · exact List.mem_cons_of_mem _ (hchars d hd)
      · obtain ⟨hnot, hchars⟩ := hold piece (List.mem_cons_of_mem _ hmem)
        exact ⟨hnot, fun d hd => List.mem_cons_of_mem _ (hchars d hd)⟩

/-- There is no slash in a part of a path. -/
theorem slash_notMem_of_mem_parts {path part : Text} (h : part ∈ parts path) : '/' ∉ part :=
  (notMem_of_mem_pieces (List.mem_of_mem_filter h)).1

/-- The characters of a part are characters of the path. -/
theorem mem_of_mem_parts {path part : Text} (h : part ∈ parts path) {c : Char} (hc : c ∈ part) :
    c ∈ path :=
  (notMem_of_mem_pieces (List.mem_of_mem_filter h)).2 c hc

/-- A part of a path is a path with this part only. -/
theorem parts_of_mem_parts {path part : Text} (h : part ∈ parts path) : parts part = [part] := by
  have hpart : isPart part = true := (List.mem_filter.mp h).2
  rw [parts_eq_filter, Text.pieces_of_notMem (slash_notMem_of_mem_parts h)]
  simp [hpart]

/-- One more text is joined to others behind a slash. -/
theorem joinWith_snoc {first : List Text} (hfirst : first ≠ []) (last : Text) :
    Text.joinWith ['/'] (first ++ [last]) = Text.joinWith ['/'] first ++ '/' :: last := by
  induction first with
  | nil => exact absurd rfl hfirst
  | cons part rest ih =>
    cases rest with
    | nil => simp [Text.joinWith, List.intercalate]
    | cons next rest =>
      have hrest := ih (by simp)
      simp only [Text.joinWith, List.intercalate, List.cons_append, List.intersperse_cons_cons,
        List.flatten_cons] at hrest ⊢
      rw [hrest]
      simp

/-- Parts that are spelled with slashes between them are the parts of that spelling. -/
theorem parts_joinWith {path : Text} {spelt : List Text} (h : ∀ part ∈ spelt, part ∈ parts path) :
    parts (Text.joinWith ['/'] spelt) = spelt := by
  induction spelt using List.reverseRecOn with
  | nil => rfl
  | append_singleton first last ih =>
    have hlast := parts_of_mem_parts (h last (by simp))
    by_cases hfirst : first = []
    · subst hfirst
      simpa [Text.joinWith, List.intercalate] using hlast
    · rw [joinWith_snoc hfirst, parts_append, hlast,
        ih fun part hpart => h part (List.mem_append_left _ hpart)]

/-- The last part of joined texts is the last one of them, if it has no slash. -/
theorem lastPart_joinWith {last : Text} (hlast : '/' ∉ last) (first : List Text) :
    lastPart (Text.joinWith ['/'] (first ++ [last])) = last := by
  by_cases hfirst : first = []
  · subst hfirst
    simpa [Text.joinWith, List.intercalate] using lastPart_of_notMem hlast
  · rw [joinWith_snoc hfirst, lastPart_append, lastPart_of_notMem hlast]

/-- The characters of joined texts are slashes and characters of the texts. -/
theorem mem_joinWith {spelt : List Text} {c : Char} (h : c ∈ Text.joinWith ['/'] spelt) :
    c = '/' ∨ ∃ part ∈ spelt, c ∈ part := by
  induction spelt using List.reverseRecOn with
  | nil => simp [Text.joinWith, List.intercalate] at h
  | append_singleton first last ih =>
    by_cases hfirst : first = []
    · subst hfirst
      exact Or.inr ⟨last, by simp, by simpa [Text.joinWith, List.intercalate] using h⟩
    · rw [joinWith_snoc hfirst] at h
      rcases List.mem_append.mp h with h | h
      · rcases ih h with hslash | ⟨part, hpart, hc⟩
        · exact Or.inl hslash
        · exact Or.inr ⟨part, List.mem_append_left _ hpart, hc⟩
      · rcases List.mem_cons.mp h with hslash | hc
        · exact Or.inl hslash
        · exact Or.inr ⟨last, by simp, hc⟩

/-! ## Normal forms -/

/-- Parts of a path that are joined to a path again make a relative one. -/
theorem isAbsolute_joinWith {path : Text} {spelt : List Text}
    (h : ∀ part ∈ spelt, part ∈ parts path) :
    isAbsolute (Text.joinWith ['/'] spelt) = false := by
  cases spelt with
  | nil => rfl
  | cons first rest =>
    have hfirst := h first List.mem_cons_self
    have hpart : isPart first = true := (List.mem_filter.mp hfirst).2
    have hslash := slash_notMem_of_mem_parts hfirst
    obtain ⟨c, tail, rfl⟩ : ∃ c tail, first = c :: tail := by
      refine List.exists_cons_of_ne_nil ?_
      rintro rfl
      simp [isPart] at hpart
    have hc : c ≠ '/' := fun heq => hslash (heq ▸ List.mem_cons_self)
    cases rest <;> simp [Text.joinWith, List.intercalate, isAbsolute, hc]

/-- Normalising a path keeps whether it is absolute. -/
theorem isAbsolute_normalize (path : Text) : isAbsolute (normalize path) = isAbsolute path := by
  have hparts : isAbsolute (Text.joinWith ['/'] (resolvedParts path)) = false :=
    isAbsolute_joinWith fun part => mem_of_mem_resolvedParts
  unfold normalize
  cases habsolute : isAbsolute path with
  | true =>
    rcases root_of_isAbsolute habsolute with hroot | hroot <;> simp [hroot, isAbsolute]
  | false =>
    rw [root_of_not_isAbsolute habsolute, List.nil_append]
    dsimp only
    split
    · rfl
    · exact hparts

/-- A normal form has no characters but those of the path, slashes and dots. -/
theorem mem_of_mem_normalize {path : Text} {c : Char} (h : c ∈ normalize path) :
    c ∈ path ∨ c = '/' ∨ c = '.' := by
  have hroot : ∀ c ∈ root path, c = '/' := by
    intro c hc
    unfold root at hc
    split at hc <;> simp_all
  unfold normalize at h
  dsimp only at h
  split at h
  · exact Or.inr (Or.inr (by simpa using h))
  · rcases List.mem_append.mp h with h | h
    · exact Or.inr (Or.inl (hroot c h))
    · rcases mem_joinWith h with hslash | ⟨part, hpart, hc⟩
      · exact Or.inr (Or.inl hslash)
      · exact Or.inl (mem_of_mem_parts (mem_of_mem_resolvedParts hpart) hc)

/-- The normal form of a relative path consists of its settled parts, if there are any. -/
theorem normalize_of_settle_ne_nil {path : Text} (h : isAbsolute path = false)
    (hne : settle (parts path) ≠ []) :
    normalize path = Text.joinWith ['/'] (settle (parts path)) := by
  have hresolved := resolvedParts_of_not_isAbsolute h
  have hspelled : Text.joinWith ['/'] (settle (parts path)) ≠ [] := by
    intro hnil
    have hparts := parts_joinWith fun part (hpart : part ∈ resolvedParts path) =>
      mem_of_mem_resolvedParts hpart
    rw [hresolved, hnil] at hparts
    exact hne hparts.symm
  unfold normalize
  rw [root_of_not_isAbsolute h, hresolved, List.nil_append]
  simp [hspelled]

/-- The normal form of a relative path falls into its last settled part and those before it. -/
theorem normalize_of_settle {path last : Text} {first : List Text}
    (h : isAbsolute path = false) (hsettle : settle (parts path) = first ++ [last]) :
    lastPart (normalize path) = last ∧ parts (directory (normalize path)) = first := by
  have hmem : ∀ part ∈ first ++ [last], part ∈ parts path := by
    intro part hpart
    rw [← hsettle, ← resolvedParts_of_not_isAbsolute h] at hpart
    exact mem_of_mem_resolvedParts hpart
  have hlast : last ∈ parts path := hmem last (by simp)
  have hnormal : normalize path = Text.joinWith ['/'] (first ++ [last]) := by
    rw [normalize_of_settle_ne_nil h (by simp [hsettle]), hsettle]
  have hend : lastPart (normalize path) = last := by
    rw [hnormal, lastPart_joinWith (slash_notMem_of_mem_parts hlast)]
  refine ⟨hend, ?_⟩
  have hparts := parts_directory_append (normalize path)
  rw [hend, parts_of_mem_parts hlast, hnormal, parts_joinWith hmem] at hparts
  rw [hnormal]
  exact List.append_cancel_right hparts

/-- The normal form of a path is a single dot, if nothing is left of the path, and else its root
with the resolved parts behind it. -/
theorem normalize_eq_or (path : Text) :
    (normalize path = ['.'] ∧ root path = [] ∧ resolvedParts path = []) ∨
      normalize path = root path ++ Text.joinWith ['/'] (resolvedParts path) := by
  by_cases hempty : root path ++ Text.joinWith ['/'] (resolvedParts path) = []
  · obtain ⟨hroot, hspelled⟩ := List.append_eq_nil_iff.mp hempty
    have hparts := parts_joinWith fun part (hpart : part ∈ resolvedParts path) =>
      mem_of_mem_resolvedParts hpart
    rw [hspelled] at hparts
    refine Or.inl ⟨?_, hroot, hparts.symm⟩
    unfold normalize
    simp [hempty]
  · refine Or.inr ?_
    unfold normalize
    simp only [List.isEmpty_iff, if_neg hempty]

/-- Normalising a path keeps its root. -/
theorem root_normalize (path : Text) : root (normalize path) = root path := by
  rcases normalize_eq_or path with ⟨hdot, hroot, -⟩ | hspelled
  · rw [hdot, hroot]
    rfl
  · rw [hspelled, root_append (isAbsolute_joinWith fun part => mem_of_mem_resolvedParts)]
    cases habsolute : isAbsolute path with
    | false => rw [root_of_not_isAbsolute habsolute]; rfl
    | true => rcases root_of_isAbsolute habsolute with hroot | hroot <;> rw [hroot] <;> rfl

/-- The parts of the normal form are the resolved parts. -/
theorem parts_normalize (path : Text) : parts (normalize path) = resolvedParts path := by
  have hspelling := parts_joinWith fun part (hpart : part ∈ resolvedParts path) =>
    mem_of_mem_resolvedParts hpart
  have hslash : ∀ text : Text, parts ('/' :: text) = parts text := parts_append []
  rcases normalize_eq_or path with ⟨hdot, -, hparts⟩ | hspelled
  · rw [hdot, hparts]
    rfl
  · rw [hspelled]
    cases habsolute : isAbsolute path with
    | false => rw [root_of_not_isAbsolute habsolute, List.nil_append, hspelling]
    | true =>
      rcases root_of_isAbsolute habsolute with hroot | hroot
      · rw [hroot, List.singleton_append, hslash, hspelling]
      · rw [hroot, List.cons_append, List.singleton_append, hslash, hslash, hspelling]

/-- Without double dots all parts are kept, in reverse behind those from before. -/
theorem foldl_descend_of_notMem {absolute : Bool} {rest : List Text} (h : parent ∉ rest)
    (kept : List Text) : rest.foldl (descend absolute) kept = rest.reverse ++ kept := by
  induction rest generalizing kept with
  | nil => rfl
  | cons part rest ih =>
    obtain ⟨hpart, hrest⟩ := List.ne_and_not_mem_of_not_mem_cons h
    have hkept : descend absolute kept part = part :: kept := by
      simp [descend, Ne.symm hpart]
    rw [List.foldl_cons, hkept, ih hrest]
    simp

/-- Parts without double dots stay as they are. -/
theorem settle_of_notMem {parts : List Text} (h : parent ∉ parts) : settle parts = parts := by
  unfold settle
  rw [foldl_descend_of_notMem h]
  simp

/-- A path in normal form stays as it is. -/
theorem normalize_normalize (path : Text) : normalize (normalize path) = normalize path := by
  apply normalize_congr (root_normalize path)
  cases habsolute : isAbsolute path with
  | false =>
    have hnormal : isAbsolute (normalize path) = false := by
      rw [isAbsolute_normalize, habsolute]
    rw [resolvedParts_of_not_isAbsolute hnormal, parts_normalize,
      resolvedParts_of_not_isAbsolute habsolute, settle_settle]
  | true =>
    have hnormal : isAbsolute (normalize path) = true := by
      rw [isAbsolute_normalize, habsolute]
    rw [resolvedParts_of_isAbsolute hnormal, parts_normalize,
      foldl_descend_of_notMem (parent_notMem_resolvedParts habsolute)]
    simp

end ShaderCompose.Path
