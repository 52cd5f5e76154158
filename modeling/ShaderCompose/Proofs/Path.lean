import ShaderCompose.Path
import ShaderCompose.Proofs.Text.Lines

/-!
# Parts of paths

The parts of a joined path are those of its two halves, and resolving the double dots of an absolute
path goes part by part and never leaves a double dot behind.  So an absolute path is spelled by its
resolved parts behind one slash or two.
-/

set_option autoImplicit false

namespace ShaderCompose.Path

/-! ## Parts -/

/-- Whether a piece of a path is a part of it, being neither empty nor a single dot. -/
def isPart (piece : Text) : Bool := !piece.isEmpty && piece != ['.']

/-- The parts of a path are its pieces that count. -/
theorem parts_eq_filter (path : Text) : parts path = (Text.pieces '/' path).filter isPart := rfl

/-- A slash divides the parts before it from those after it. -/
theorem parts_append (s t : Text) : parts (s ++ '/' :: t) = parts s ++ parts t := by
  simp only [parts_eq_filter, Text.pieces_append, List.filter_append]

/-- A slash at the end does not matter to the parts. -/
theorem parts_append_slash (s : Text) : parts (s ++ ['/']) = parts s := by
  have hempty : parts [] = [] := by decide
  rw [parts_append, hempty, List.append_nil]

/-- A relative path that is joined to another one adds its parts. -/
theorem parts_join {base path : Text} (h : isAbsolute path = false) :
    parts (join base path) = parts base ++ parts path := by
  unfold join
  rw [if_neg (by simp [h])]
  by_cases hbase : (base.isEmpty || base.getLast? == some '/') = true
  · rw [if_pos hbase]
    rcases List.eq_nil_or_concat base with rfl | ⟨front, last, rfl⟩
    · have hempty : parts [] = [] := by decide
      rw [hempty]
      rfl
    · have hlast : last = '/' := by simpa using hbase
      subst hlast
      rw [List.concat_eq_append, parts_append_slash, List.append_assoc, List.singleton_append,
        parts_append]
  · rw [if_neg hbase, parts_append]

/-- An absolute path is not changed by joining it to another one. -/
theorem join_of_isAbsolute {base path : Text} (h : isAbsolute path = true) :
    join base path = path := by
  unfold join
  rw [if_pos h]

/-- A path that is joined to an absolute one is absolute. -/
theorem isAbsolute_join {base : Text} (h : isAbsolute base = true) (path : Text) :
    isAbsolute (join base path) = true := by
  unfold join
  by_cases hpath : isAbsolute path = true
  · rw [if_pos hpath]
    exact hpath
  · rw [if_neg hpath]
    cases base with
    | nil => simp [isAbsolute] at h
    | cons c base =>
      have hc : c = '/' := by simpa [isAbsolute] using h
      subst hc
      split <;> simp [isAbsolute]

/-- A working directory is absolute. -/
theorem isAbsolute_rooted (workDir : Text) : isAbsolute (rooted workDir) = true :=
  isAbsolute_join (by decide) workDir

/-! ## Double dots -/

/-- A double dot takes back the last part. -/
theorem descend_parent {kept : List Text} (h : parent ∉ kept) :
    descend true kept parent = kept.tail := by
  cases kept with
  | nil => simp [descend]
  | cons last before =>
    have hlast : last ≠ parent := fun heq => h (heq ▸ List.mem_cons_self)
    simp [descend, hlast]

/-- A part that is no double dot is kept. -/
theorem descend_of_ne {part : Text} (h : part ≠ parent) (kept : List Text) :
    descend true kept part = part :: kept := by
  simp [descend, h]

/-- One step down an absolute path leaves no double dot behind. -/
theorem parent_notMem_descend {kept : List Text} (h : parent ∉ kept) (part : Text) :
    parent ∉ descend true kept part := by
  by_cases hpart : part = parent
  · subst hpart
    rw [descend_parent h]
    exact fun hmem => h (List.mem_of_mem_tail hmem)
  · rw [descend_of_ne hpart]
    intro hmem
    rcases List.mem_cons.mp hmem with heq | hmem
    · exact hpart heq.symm
    · exact h hmem

/-- No double dot is left behind on the way down an absolute path. -/
theorem parent_notMem_foldl {kept : List Text} (h : parent ∉ kept) (parts : List Text) :
    parent ∉ parts.foldl (descend true) kept := by
  induction parts generalizing kept with
  | nil => exact h
  | cons part rest ih => exact ih (parent_notMem_descend h part)

/-- The resolved parts of an absolute path. -/
theorem resolvedParts_of_isAbsolute {path : Text} (h : isAbsolute path = true) :
    resolvedParts path = ((parts path).foldl (descend true) []).reverse := by
  unfold resolvedParts
  rw [h]

/-- There is no double dot among the resolved parts of an absolute path. -/
theorem parent_notMem_resolvedParts {path : Text} (h : isAbsolute path = true) :
    parent ∉ resolvedParts path := by
  rw [resolvedParts_of_isAbsolute h, List.mem_reverse]
  exact parent_notMem_foldl List.not_mem_nil _

/-! ## Spelling -/

/-- A path from the root on, with the given parts. -/
def spelled (start : Text) (parts : List Text) : Text := start ++ Text.joinWith ['/'] parts

/-- The root of an absolute path is one slash or two. -/
theorem root_of_isAbsolute {path : Text} (h : isAbsolute path = true) :
    root path = ['/'] ∨ root path = ['/', '/'] := by
  cases path with
  | nil => simp [isAbsolute] at h
  | cons c rest =>
    have hc : c = '/' := by simpa [isAbsolute] using h
    subst hc
    unfold root
    split <;> simp_all

/-- The normal form of an absolute path is spelled by its resolved parts. -/
theorem normalize_of_isAbsolute {path : Text} (h : isAbsolute path = true) :
    normalize path ∈
      [spelled ['/'] (resolvedParts path), spelled ['/', '/'] (resolvedParts path)] := by
  unfold normalize spelled
  rcases root_of_isAbsolute h with hroot | hroot <;> simp [hroot]

end ShaderCompose.Path
