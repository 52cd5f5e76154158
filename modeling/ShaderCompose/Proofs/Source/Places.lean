import ShaderCompose.Proofs.Lists
import ShaderCompose.Proofs.Path
import ShaderCompose.Source.Registry

/-!
# The places of files

What a path leads to in a file tree is decided part by part, and a file that is found is one of the
files of the tree, at a place of its own.  The place is what the parts of the path come to when its
double dots are resolved, so the path by itself says which file of the tree it can lead to
(`Leads.place_eq`).  Resources of packages are looked for by the parts of their location.
-/

set_option autoImplicit false

namespace ShaderCompose

namespace FileTree

/-- The pieces of a path lead from a folder to the file at a place: by staying for a piece that is
no part, by going up or down a folder, and at last by arriving at the file. -/
inductive Leads (tree : FileTree) : List Text → List Text → List Text → Prop
  | stay {place rest found : List Text} {piece : Text} : Path.isPart piece = false →
      Leads tree place rest found → Leads tree place (piece :: rest) found
  | up {place rest found : List Text} : Leads tree place.dropLast rest found →
      Leads tree place (Path.parent :: rest) found
  | down {place rest found : List Text} {piece : Text} : Path.isPart piece = true →
      piece ≠ Path.parent → ¬longestName < (Text.Utf8.encode piece).length →
      tree.files.lookup (place ++ [piece]) = none → tree.hasFolder (place ++ [piece]) = true →
      Leads tree (place ++ [piece]) rest found → Leads tree place (piece :: rest) found
  | arrive {place : List Text} {piece : Text} {data : List UInt8} : Path.isPart piece = true →
      piece ≠ Path.parent → ¬longestName < (Text.Utf8.encode piece).length →
      tree.files.lookup (place ++ [piece]) = some data →
      Leads tree place [piece] (place ++ [piece])

/-- A piece that is skipped in a path is one that is no part of it. -/
theorem isSkipped_eq (piece : Text) :
    (piece.isEmpty || piece == ['.']) = !Path.isPart piece := by
  unfold Path.isPart
  cases hempty : piece.isEmpty <;> simp [bne]

/-- A walk ends at a file exactly if the pieces lead to its place. -/
theorem walk_eq_file_iff {tree : FileTree} {place pieces : List Text} {data : List UInt8} :
    tree.walk place pieces = .file data ↔
      ∃ found, tree.Leads place pieces found ∧ tree.files.lookup found = some data := by
  constructor
  · intro h
    -- a walk asks of each piece what the rules ask, in the order of the tests below
    induction pieces generalizing place with
    | nil => simp [walk] at h
    | cons piece rest ih =>
      unfold walk at h
      rw [isSkipped_eq] at h
      cases hpart : Path.isPart piece with
      | false =>
        rw [hpart, if_pos (by rfl)] at h
        obtain ⟨found, hleads, hfile⟩ := ih h
        exact ⟨found, .stay hpart hleads, hfile⟩
      | true =>
        rw [hpart, if_neg (by decide)] at h
        by_cases hup : piece = Path.parent
        · rw [hup, if_pos (by simp)] at h
          obtain ⟨found, hleads, hfile⟩ := ih h
          exact ⟨found, hup ▸ .up hleads, hfile⟩
        · rw [if_neg (by simpa using hup)] at h
          by_cases hlong : longestName < (Text.Utf8.encode piece).length
          · simp [hlong] at h
          · rw [if_neg hlong] at h
            cases hlookup : tree.files.lookup (place ++ [piece]) with
            | some content =>
              simp only [hlookup] at h
              cases rest with
              | nil =>
                obtain rfl : content = data := by simpa using h
                exact ⟨_, .arrive hpart hup hlong hlookup, hlookup⟩
              | cons next more => simp at h
            | none =>
              simp only [hlookup] at h
              by_cases hfolder : tree.hasFolder (place ++ [piece]) = true
              · rw [if_pos hfolder] at h
                obtain ⟨found, hleads, hfile⟩ := ih h
                exact ⟨found, .down hpart hup hlong hlookup hfolder hleads, hfile⟩
              · simp [hfolder] at h
  · rintro ⟨found, hleads, hfile⟩
    induction hleads with
    | stay hpart _ ih =>
      unfold walk
      rw [isSkipped_eq, hpart, if_pos (by rfl)]
      exact ih hfile
    | up _ ih =>
      unfold walk
      rw [if_neg (by decide), if_pos (by rfl)]
      exact ih hfile
    | @down place rest found piece hpart hup hlong hlookup hfolder _ ih =>
      unfold walk
      rw [isSkipped_eq, hpart, if_neg (by decide), if_neg (by simpa using hup), if_neg hlong]
      simp only [hlookup, hfolder, if_true]
      exact ih hfile
    | @arrive place piece content hpart hup hlong hlookup =>
      obtain rfl : content = data := Option.some.inj (hlookup.symm.trans hfile)
      unfold walk
      rw [isSkipped_eq, hpart, if_neg (by decide), if_neg (by simpa using hup), if_neg hlong]
      simp [hlookup]

/-- From a place without double dots, the pieces lead to the place that is found by going down the
parts among them. -/
theorem Leads.place_eq {tree : FileTree} {place pieces found : List Text}
    (h : tree.Leads place pieces found) (hclean : Path.parent ∉ place) :
    found = ((pieces.filter Path.isPart).foldl (Path.descend true) place.reverse).reverse := by
  induction h with
  | @stay place rest found piece hpart _ ih =>
    rw [List.filter_cons_of_neg (by simp [hpart])]
    exact ih hclean
  | @up place rest found _ ih =>
    have hclean' : Path.parent ∉ place.reverse := by simpa using hclean
    have hfront : Path.parent ∉ place.dropLast := fun hmem =>
      hclean (List.dropLast_subset place hmem)
    rw [ih hfront, List.filter_cons_of_pos (by rfl), List.foldl_cons,
      Path.descend_parent hclean', List.tail_reverse]
  | @down place rest found piece hpart hup _ _ _ _ ih =>
    have hnext : Path.parent ∉ place ++ [piece] := by
      intro hmem
      rcases List.mem_append.mp hmem with hmem | hmem
      · exact hclean hmem
      · exact hup (List.mem_singleton.mp hmem).symm
    rw [ih hnext, List.filter_cons_of_pos hpart, List.foldl_cons, Path.descend_of_ne hup,
      List.reverse_append, List.reverse_singleton, List.singleton_append]
  | @arrive place piece data hpart hup _ _ =>
    rw [List.filter_cons_of_pos hpart, List.filter_nil, List.foldl_cons, List.foldl_nil,
      Path.descend_of_ne hup, List.reverse_cons, List.reverse_reverse]

/-- A path, read from a working directory if it is relative, opens the file at a place. -/
def Opens (tree : FileTree) (workDir path : Text) (place : List Text) : Prop :=
  path ≠ [] ∧ ¬longestPath < (Text.Utf8.encode path).length ∧
    tree.Leads (if Path.isAbsolute path then [] else Path.resolvedParts (Path.rooted workDir))
      (Text.pieces '/' path) place

/-- What is found at a path is a file exactly if the path opens the place of that file. -/
theorem find_eq_file_iff {tree : FileTree} {workDir path : Text} {data : List UInt8} :
    tree.find workDir path = .file data ↔
      ∃ place, tree.Opens workDir path place ∧ tree.files.lookup place = some data := by
  unfold find Opens
  by_cases hempty : path = []
  · simp [hempty]
  · rw [if_neg (by simpa using hempty)]
    by_cases hlong : longestPath < (Text.Utf8.encode path).length
    · simp [hlong]
    · rw [if_neg hlong, walk_eq_file_iff]
      simp [hempty, hlong]

/-- The file that a path opens has the resolved parts of the path for its place. -/
theorem Opens.place_eq {tree : FileTree} {workDir path : Text} {place : List Text}
    (h : tree.Opens workDir path place) :
    place = Path.resolvedParts (Path.join (Path.rooted workDir) path) := by
  have hrooted := Path.isAbsolute_rooted workDir
  have hjoined := Path.isAbsolute_join hrooted path
  obtain ⟨-, -, hleads⟩ := h
  rw [Path.resolvedParts_of_isAbsolute hjoined]
  by_cases hpath : Path.isAbsolute path = true
  · rw [if_pos hpath] at hleads
    rw [hleads.place_eq List.not_mem_nil, Path.join_of_isAbsolute hpath, Path.parts_eq_filter,
      List.reverse_nil]
  · rw [if_neg hpath] at hleads
    rw [hleads.place_eq (Path.parent_notMem_resolvedParts hrooted), ← Path.parts_eq_filter,
      Path.parts_join (by simpa using hpath), List.foldl_append,
      Path.resolvedParts_of_isAbsolute hrooted, List.reverse_reverse]

/-- A file that is found is at the place that its path comes to. -/
theorem opens_of_find {tree : FileTree} {workDir path : Text} {data : List UInt8}
    (h : tree.find workDir path = .file data) :
    tree.Opens workDir path (Path.resolvedParts (Path.join (Path.rooted workDir) path)) := by
  obtain ⟨place, hopens, -⟩ := find_eq_file_iff.mp h
  rwa [← hopens.place_eq]

end FileTree

end ShaderCompose
