import ShaderCompose.Proofs.Expansion.Simulation

/-!
# Compositions do not depend on what is loaded

A registry answers alike with any two memories whose caches mirror the sources.  So a composition
gives the same code, source files and warnings, or the same failure, whichever of them it starts
from.  The same is true of the stages of a program, and all of them leave a mirror behind.  Whatever
a cache holds, an expansion that succeeded gives the same after any further loads.
-/

set_option autoImplicit false

namespace ShaderCompose

/-! ## Once more -/

/-- A run that succeeded can be repeated after any further loads, and then loads nothing. -/
theorem Runs.again {r : Registry} {job : Job} {s s' : Expansion} {code : List CodeLine}
    (h : Runs r job s (.ok code) s') {n : Memory}
    (hloads : Cache.Loads r s'.memory.cache n.cache) :
    ∃ n', Runs r job (s.withMemory n) (.ok code) (s'.withMemory n') ∧ n'.cache = n.cache := by
  induction h using Runs.ok_induction generalizing n with
  | @repeated chain key s target m hlocate hchain hbegun =>
    have hagain : locate r key n = (.ok target, n) := locate_again hlocate hloads
    exact ⟨((s.withMemory n).warn target key).memory, .repeated hagain hchain hbegun, rfl⟩
  | @unfolded chain key s s' target m code hlocate hchain hnew hcopy ih =>
    have hcopied := hcopy.loads
    rw [Expansion.memory_begin] at hcopied
    have hagain : locate r key n = (.ok target, n) := locate_again hlocate (hcopied.trans hloads)
    obtain ⟨n', hruns, hcache⟩ := ih hloads
    have hbegin : ((s.withMemory n).withMemory n).begin target =
        (((s.withMemory m).begin target).1, ((s.withMemory m).begin target).2.withMemory n) :=
      begin_withMemory (s.withMemory m) n (.of_bare_eq rfl)
    refine ⟨n', .unfolded hagain hchain hnew ?_, hcache⟩
    rw [hbegin]
    exact hruns
  | ended => exact ⟨n, .ended, rfl⟩
  | included hkey hrequest hrest ihrequest ihrest =>
    obtain ⟨n', hrequest', hcache⟩ := ihrequest (hrest.loads.trans hloads)
    obtain ⟨n'', hrest', hcache'⟩ := ihrest (n := n') (by rwa [hcache])
    exact ⟨n'', .included hkey hrequest' hrest', hcache'.trans hcache⟩
  | copied hkey hrest ih =>
    obtain ⟨n', hrest', hcache⟩ := ih hloads
    exact ⟨n', .copied hkey hrest', hcache⟩

/-- An expansion that succeeded gives the same again after further loads, and loads nothing more. -/
theorem expand_again {r : Registry} {key : Text} {m m' n : Memory} {expanded : Expanded}
    (h : expand r key m = (.ok expanded, m')) (hloads : Cache.Loads r m'.cache n.cache) :
    ∃ n', expand r key n = (.ok expanded, n') ∧ n'.cache = n.cache := by
  obtain ⟨s, hruns, hfiles, hwarnings, rfl⟩ := runs_of_expand_eq_ok h
  obtain ⟨n', hagain, hcache⟩ := hruns.again hloads
  refine ⟨n', ?_, hcache⟩
  rw [expand_eq_of_runs (show Runs r (.request [] key) (.start n) _ _ from hagain),
    Expansion.files_withMemory, Expansion.warnings_withMemory, ← hfiles, ← hwarnings]
  rfl

/-! ## From related memories -/

section

variable {r : Registry} {known : SourceFile → Prop}

/-- A consistent registry answers alike with any two memories whose caches mirror the sources. -/
theorem Registry.Consistent.answersAs (hr : r.Consistent known) :
    r.AnswersAs r fun m n => m.cache.Mirrors r known ∧ n.cache.Mirrors r known where
  target h key := by
    obtain ⟨hm, hn⟩ := h
    rw [locate_of_mirrors hr hm, locate_of_mirrors hr hn]
  locate h key := by
    obtain ⟨hm, hn⟩ := h
    exact ⟨hm.locate hr rfl, hn.locate hr rfl⟩
  report h _ := h

/-- Two memories that mirror the sources give the same composition, and mirror them still. -/
theorem compose_of_mirrors (hr : r.Consistent known) {m n : Memory}
    (hm : m.cache.Mirrors r known) (hn : n.cache.Mirrors r known) (key : Value)
    (vars : Composer.Vars) :
    (Composer.compose r key vars m).1 = (Composer.compose r key vars n).1 ∧
      (Composer.compose r key vars m).2.cache.Mirrors r known := by
  obtain ⟨hsame, hmirrors, -⟩ := hr.answersAs.compose ⟨hm, hn⟩ key vars
  exact ⟨hsame.symm, hmirrors⟩

/-- Stages that are composed one after the other come out as each does alone, with any memory that
mirrors the sources. -/
theorem composeStages_of_mirrors (hr : r.Consistent known) {m n : Memory}
    (hm : m.cache.Mirrors r known) (hn : n.cache.Mirrors r known) (vars : Composer.Vars)
    (stages : List (Value × Value)) :
    (Composer.composeStages r vars stages m).2.cache.Mirrors r known ∧
      ∀ entries, (Composer.composeStages r vars stages m).1 = .ok entries →
        List.Forall₂ (fun request entry => entry.1 = request.1 ∧
          (Composer.compose r request.2 vars n).1 = .ok entry.2) stages entries := by
  -- each stage finds another memory, and all of these mirror the sources
  induction stages generalizing m with
  | nil =>
    refine ⟨hm, ?_⟩
    intro entries hentries
    obtain rfl : [] = entries := by simpa [Composer.composeStages] using hentries
    exact .nil
  | cons request rest ih =>
    obtain ⟨stage, key⟩ := request
    unfold Composer.composeStages
    dsimp only
    have hreport : ∀ records, (m.report records).cache.Mirrors r known := fun _ => hm
    generalize (⟨.debug, "Composing ".toList ++ stage.display ++ ": ".toList ++ key.display⟩ :
      LogRecord) = record
    obtain ⟨hsame, hmirrors⟩ := compose_of_mirrors hr (hreport [record]) hn key vars
    rcases hfirst : Composer.compose r key vars (m.report [record]) with ⟨result, m'⟩
    rw [hfirst] at hsame hmirrors
    cases result with
    | error e => exact ⟨hmirrors, by simp⟩
    | ok c =>
      obtain ⟨hrest, hentries⟩ := ih hmirrors
      dsimp only
      rcases htail : Composer.composeStages r vars rest m' with ⟨tail, m''⟩
      rw [htail] at hrest hentries
      cases tail with
      | error e => exact ⟨hrest, by simp⟩
      | ok more =>
        refine ⟨hrest, ?_⟩
        rintro entries ⟨rfl⟩
        exact .cons ⟨rfl, hsame.symm⟩ (hentries more rfl)

/-- The stages of a program come out as each does alone, with any memory that mirrors the
sources. -/
theorem composeProgram_of_mirrors (hr : r.Consistent known) {m n : Memory}
    (hm : m.cache.Mirrors r known) (hn : n.cache.Mirrors r known) (stages : List (Value × Value))
    (vars : Composer.Vars) :
    (Composer.composeProgram r stages vars m).2.cache.Mirrors r known ∧
      ∀ entries, (Composer.composeProgram r stages vars m).1 = .ok entries →
        List.Forall₂ (fun request entry => entry.1 = request.1 ∧
          (Composer.compose r request.2 vars n).1 = .ok entry.2) stages entries := by
  unfold Composer.composeProgram
  cases Composer.checkVars "ShaderComposer.compose_program" ["self", "stages"] vars with
  | error e => exact ⟨hm, by simp⟩
  | ok _ =>
    dsimp only
    split
    · exact ⟨hm, by simp⟩
    · exact composeStages_of_mirrors hr hm hn vars stages

end

end ShaderCompose
