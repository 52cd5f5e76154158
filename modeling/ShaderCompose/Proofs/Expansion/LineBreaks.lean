import ShaderCompose.Proofs.Expansion.Simulation
import ShaderCompose.Proofs.Text.Breaks

/-!
# Compositions do not depend on how lines are broken

A parsed effect depends on the lines of its text only, so readers whose contents differ in nothing
but their line breaks, and in whether there is one behind the last line, give the same effects.
Every key stands for the same section with both, and so whole compositions are the same, or fail for
the same reason.
-/

set_option autoImplicit false

namespace ShaderCompose

/-! ## Readers that differ in line breaks -/

/-- Contents that are the same, or texts that are the same when they are made regular. -/
inductive ReadOutcome.AlikeLines : ReadOutcome → ReadOutcome → Prop
  | same {content : ReadOutcome} : AlikeLines content content
  | texts {content other : ReadOutcome} {t u : Text} : content.text? = some t →
      other.text? = some u → Text.regular t = Text.regular u → AlikeLines content other

/-- Readers that have the same sources, with contents that differ in line breaks only. -/
structure Reader.AlikeLines (reader other : Reader) : Prop where
  has (file : SourceFile) : other.has file = reader.has file
  read (file : SourceFile) : (reader.read file).AlikeLines (other.read file)

section

variable {R : ReadOutcome → ReadOutcome → Prop} {shelf other : Shelf}

/-- Shelves with related contents at the same locations give related answers for every location. -/
theorem Shelf.lookup_rel (h : List.Forall₂ (fun a b => b.1 = a.1 ∧ R a.2 b.2) shelf other)
    (location : Text) : Option.Rel R (shelf.lookup location) (other.lookup location) := by
  induction h with
  | nil => exact .none
  | @cons a b _ _ hab _ ih =>
    obtain ⟨held, content⟩ := a
    obtain ⟨held', content'⟩ := b
    obtain ⟨rfl, hcontent⟩ := hab
    rw [List.lookup_cons, List.lookup_cons]
    by_cases hlocation : location = held'
    · simpa [hlocation] using hcontent
    · have hne : (location == held') = false := by simpa using hlocation
      simpa [hne] using ih

/-- Tables with the same locations have the same sources. -/
theorem Reader.has_table (h : List.Forall₂ (fun a b => b.1 = a.1 ∧ R a.2 b.2) shelf other)
    (file : SourceFile) : (Reader.table other).has file = (Reader.table shelf).has file := by
  have hlocations : other.map Prod.fst = shelf.map Prod.fst := by
    induction h with
    | nil => rfl
    | cons hab _ ih => rw [List.map_cons, List.map_cons, hab.1, ih]
  have hany : ∀ held : Shelf, held.any (·.1 == file.location) =
      (held.map Prod.fst).any (· == file.location) := by
    intro held
    rw [List.any_map]
    rfl
  show other.any (·.1 == file.location) = shelf.any (·.1 == file.location)
  rw [hany, hany, hlocations]

/-- The contents of tables with the same locations are related one by one. -/
theorem Reader.read_table (hmissing : R .missing .missing)
    (h : List.Forall₂ (fun a b => b.1 = a.1 ∧ R a.2 b.2) shelf other) (file : SourceFile) :
    R ((Reader.table shelf).read file) ((Reader.table other).read file) := by
  have hlookup := Shelf.lookup_rel h file.location
  show R ((shelf.lookup file.location).getD .missing) ((other.lookup file.location).getD .missing)
  generalize shelf.lookup file.location = held at hlookup
  generalize other.lookup file.location = held' at hlookup
  cases hlookup with
  | none => exact hmissing
  | some hcontent => exact hcontent

end

/-- Tables are alike if they have the same locations, with contents that are alike. -/
theorem Reader.alikeLines_of_table {shelf other : Shelf}
    (h : List.Forall₂ (fun a b => b.1 = a.1 ∧ ReadOutcome.AlikeLines a.2 b.2) shelf other) :
    (Reader.table shelf).AlikeLines (.table other) where
  has := Reader.has_table h
  read := Reader.read_table .same h

/-! ## The same answers -/

/-- Texts with the same lines are parsed to the same effect. -/
theorem Effect.parse_of_splitLines_eq {t u : Text} (h : Text.splitLines t = Text.splitLines u)
    (identity : Text) (origin : Option SourceFile) :
    parse t identity origin = parse u identity origin := by
  unfold parse blocksOf
  rw [h]

section

variable {r : Registry} {other : Reader}

/-- What is read has the same lines with both readers, or cannot be read for the same reason. -/
theorem Reader.AlikeLines.read_lines (h : r.reader.AlikeLines other) (file : SourceFile) :
    Parallel (fun t u => Text.splitLines t = Text.splitLines u) (r.read file)
      (({ r with reader := other } : Registry).read file) := by
  have hread := h.read file
  apply Registry.read_parallel
  generalize r.reader.read file = content at hread
  generalize other.read file = content' at hread
  cases hread with
  | same => exact .inl ⟨rfl, fun _ _ => rfl⟩
  | texts ht hu hregular =>
    exact .inr ⟨_, _, ht, hu, Text.splitLines_eq_of_regular_eq hregular⟩

/-- Keys stand for the same targets, and the cache is the same afterwards. -/
theorem Reader.AlikeLines.locate (h : r.reader.AlikeLines other) {m n : Memory}
    (hcache : n.cache = m.cache) (key : Text) :
    PairedAnswers Eq (Target.Corresponds Eq Eq) (fun cache cache' => cache' = cache)
      (locate r key m) (locate { r with reader := other } key n) := by
  have hselect : Effect.SelectAlike Eq Eq := by
    constructor
    · rintro effect _ rfl
      rfl
    · rintro effect _ rfl requested
      cases effect.bestSection requested with
      | none => exact .none
      | some found => exact .some rfl
  refine Registry.locate_reader_paired (C := fun cache cache' => cache' = cache) (m := m) (n := n)
    h.has hselect hcache ?_ key
  intro name file hresolve
  have hread := (h.read_lines (r := r) file).mono fun text text' hlines =>
    Effect.parse_of_splitLines_eq hlines file.identity (some file)
  refine Memory.load_paired rfl hcache ?_ hread.paired ?_
  · rw [hcache]
    exact Cache.Matches.refl (fun _ => rfl) m.cache file.identity
  · rintro effect _ rfl
    rw [hcache]

/-- With readers that are alike but for their line breaks, expansions take the same steps and have
the same caches. -/
theorem Reader.AlikeLines.stepsAs (h : r.reader.AlikeLines other) :
    r.StepsAs { r with reader := other } fun m n => n.cache = m.cache where
  target hcache key := (h.locate hcache key).outcome.parallel.mono fun _ _ hsame =>
    ⟨hsame.name, hsame.file, by rw [hsame.effect], by rw [hsame.found], by rw [hsame.found]⟩
  locate hcache key := (h.locate hcache key).cache
  report hcache _ := hcache

end

/-- Line breaks make no difference.  Let two readers have the same sources, with texts that are the
same when every break is a line feed and one is put behind the last line.  Then a key composes to
the same code, source files and warnings with both, or fails for the same reason, and the same
effects are loaded afterwards. -/
theorem compose_ignores_line_breaks {r : Registry} {other : Reader}
    (hreader : r.reader.AlikeLines other) {m n : Memory} (hcache : n.cache = m.cache) (key : Value)
    (vars : Composer.Vars) :
    (Composer.compose { r with reader := other } key vars n).1 =
      (Composer.compose r key vars m).1 ∧
    (Composer.compose { r with reader := other } key vars n).2.cache =
      (Composer.compose r key vars m).2.cache :=
  hreader.stepsAs.compose hcache key vars

/-- Two files with all kinds of line breaks, of which one includes the other twice. -/
def shoreShelf : Shelf :=
  [("/lib/shore.glsl".toList, .text ("lead\r\r\n-- main\r\n#include \"foam.top\"\rx\n\r" ++
      "#include \"foam.top\"\r\ny").toList),
    ("/lib/foam.glsl".toList, .bytes "-- top\r\rf\r".toUTF8.toList)]

/-- The two files with line feeds only. -/
def coastShelf : Shelf :=
  [("/lib/shore.glsl".toList, .text ("lead\n\n-- main\n#include \"foam.top\"\nx\n\n" ++
      "#include \"foam.top\"\ny\n").toList),
    ("/lib/foam.glsl".toList, .text "-- top\n\nf".toList)]

/-- The shore with its files in the library. -/
def shoreScene : Registry := ⟨[], "/lib".toList, "glsl".toList, .table shoreShelf, "/".toList⟩

/-- The files of the shore have the same lines when they are broken in other ways. -/
theorem shoreShelf_alikeLines :
    (Reader.table shoreShelf).AlikeLines (.table coastShelf) := by
  apply Reader.alikeLines_of_table
  refine .cons ⟨rfl, ?_⟩ (.cons ⟨rfl, ?_⟩ .nil)
  · exact .texts rfl rfl (by decide +kernel)
  · exact .texts (t := "-- top\r\rf\r".toList) (by decide +kernel) rfl (by decide +kernel)

/-- The shore is composed to the same, with a repeated include line and an empty line, however its
lines are broken. -/
theorem compose_ignores_line_breaks_shore :
    ∃ c m', Composer.compose shoreScene (.text "shore.main".toList) [] ⟨.empty, [], []⟩ =
        (.ok c, m') ∧
      c.code = "#line 2 1\n\nf\n#line 5 0\nx\n\n#line 8 0\ny\n".toList ∧
      c.warnings.length = 1 ∧
      (Composer.compose { shoreScene with reader := .table coastShelf }
        (.text "shore.main".toList) [] ⟨.empty, [], []⟩).1 = .ok c := by
  obtain ⟨c, m', hcompose, htest⟩ := exists_of_any
    (Composer.compose shoreScene (.text "shore.main".toList) [] ⟨.empty, [], []⟩)
    (fun c => c.code == "#line 2 1\n\nf\n#line 5 0\nx\n\n#line 8 0\ny\n".toList &&
      c.warnings.length == 1) (by decide +kernel)
  obtain ⟨hcode, hwarnings⟩ := (Bool.and_eq_true _ _).mp htest
  obtain ⟨hsame, -⟩ := compose_ignores_line_breaks (r := shoreScene) shoreShelf_alikeLines
    (m := ⟨.empty, [], []⟩) (n := ⟨.empty, [], []⟩) rfl (.text "shore.main".toList) []
  rw [hcompose] at hsame
  exact ⟨c, m', hcompose, beq_iff_eq.mp hcode, beq_iff_eq.mp hwarnings, hsame⟩

end ShaderCompose
