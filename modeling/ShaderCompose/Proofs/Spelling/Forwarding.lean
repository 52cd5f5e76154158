import ShaderCompose.Proofs.Expansion.Dependencies
import ShaderCompose.Proofs.Spelling.Lockstep

/-!
# Effects that forward to a key

An effect in the base directory whose only section includes a key, and nothing else, stands in front
of that key.  To expand the effect is to expand the normal form of the key behind a head start of
one file.  The normal form has the same last part as the key and a directory with the same normal
form, so it is a key for the same section unless a declaration tells the two spellings apart, which
only a declaration for a name with a directory in it can do.
-/

set_option autoImplicit false

namespace ShaderCompose

/-! ## Keys and their normal forms -/

/-- The last part of a key that can be taken apart is a name. -/
theorem EffectKey.isName_of_divide? {last : Text} {entry : Text × Text}
    (h : divide? last = some entry) : Path.isName last = true := by
  rw [Path.isName_iff]
  refine ⟨?_, ?_, ?_⟩
  · rintro rfl
    simp [divide?] at h
  · rintro rfl
    simp [divide?] at h
  · rintro rfl
    simp [divide?, Path.parent] at h

/-- No declaration tells the source of a key from that of its normal form. -/
def Registry.DeclaresAlike (r : Registry) (key : Text) : Prop :=
  ∀ parts parts', EffectKey.split? key = some parts →
    EffectKey.split? (Path.normalize key) = some parts' →
      r.findDeclaration parts'.source = r.findDeclaration parts.source

section

variable {r : Registry} {key : Text}

/-- A plain key that can be taken apart ends in a name. -/
theorem Path.isName_lastPart_of_split? (hplain : key.Plain)
    (hsplit : (EffectKey.split? key).isSome) : Path.isName (Path.lastPart key) = true := by
  rw [EffectKey.split?_of_plain hplain, Option.isSome_map] at hsplit
  obtain ⟨entry, hentry⟩ := Option.isSome_iff_exists.mp hsplit
  exact EffectKey.isName_of_divide? hentry

/-- Declarations for names without directories tell no key from its normal form. -/
theorem Registry.Undivided.declaresAlike (h : r.Undivided) (hplain : key.Plain)
    (hsplit : (EffectKey.split? key).isSome) : r.DeclaresAlike key := by
  intro parts parts' hparts hparts'
  refine h.findDeclaration_source ?_ hparts hparts'
  rw [EffectKey.tidy_of_plain hplain, EffectKey.tidy_of_plain (Path.plain_normalize hplain)]
  exact Path.lastPart_normalize (Path.isName_lastPart_of_split? hplain hsplit)

/-- A key and its normal form are keys for the same section. -/
theorem Registry.DeclaresAlike.sameKey (h : r.DeclaresAlike key) (hplain : key.Plain)
    (hsplit : (EffectKey.split? key).isSome) :
    r.SameKey (fun _ => True) key (Path.normalize key) := by
  have hname := Path.isName_lastPart_of_split? hplain hsplit
  have hlast := Path.lastPart_normalize hname
  have htidy := EffectKey.tidy_of_plain hplain
  have htidy' := EffectKey.tidy_of_plain (Path.plain_normalize hplain)
  apply Registry.sameKey_of_tidy
  · rw [htidy, htidy', hlast]
  · rw [htidy, htidy']
    exact Path.normalize_directory_congr (Path.normalize_normalize key) hlast hname
  · exact h
  · trivial
  · trivial

/-- With the same sources, keys are spelled differently only in the directories they are relative
to. -/
theorem Registry.respelled_self (r : Registry) :
    r.Respelled r.reader (fun _ => True) Eq where
  has _ := rfl
  read {name file file'} _ hplace := by
    have hlines : ∀ lines : List Text, List.Forall₂ (Include.Respelled Eq) lines lines := by
      intro lines
      refine List.forall₂_same.mpr fun line _ => ?_
      cases hkey : Include.key? line with
      | none => exact .kept hkey
      | some key => exact .included hkey hkey rfl
    have hread : Agree Eq (r.read file) (r.read file') := hplace.read rfl
    generalize r.read file = result at hread ⊢
    generalize r.read file' = result' at hread ⊢
    cases hread with
    | error hsame => exact .error hsame
    | ok htext =>
      subst htext
      exact .ok (List.forall₂_same.mpr fun block _ => ⟨rfl, rfl, hlines block.body⟩)
  keys {dir dir' key key'} _ _ hdir hkey := by
    subst hkey
    have hsame : Include.relativeTo dir' key = Include.relativeTo dir key :=
      Path.normalize_join_congr_left hdir key
    rw [hsame]
    exact Registry.sameKey_of_tidy_eq rfl trivial

end

/-! ## Forwarding effects -/

/-- The line that includes a key in double quotes. -/
def Include.quoting (key : Text) : Text := keyword ++ ' ' :: '"' :: (key ++ ['"'])

/-- The line that includes a key in quotes has this key, unless it is empty or has a quote in it. -/
theorem Include.key?_quoting {key : Text} (hne : key ≠ []) (hquote : '"' ∉ key) :
    key? (quoting key) = some key := by
  have hstrip : Text.stripStart (' ' :: '"' :: (key ++ ['"'])) = '"' :: (key ++ ['"']) := by
    have hspace : Text.isBlank ' ' = true := by decide
    have hmark : ¬ Text.isBlank '"' = true := by decide
    unfold Text.stripStart
    rw [List.dropWhile_cons_of_pos hspace, List.dropWhile_cons_of_neg hmark]
  have henclosed : enclosed? '"' (key ++ ['"']) = some key := by
    have hkey : ∀ c ∈ key, decide (c ≠ '"') = true := by
      intro c hc
      exact decide_eq_true fun hmark => hquote (hmark ▸ hc)
    unfold enclosed?
    rw [List.takeWhile_append_of_pos hkey, List.dropWhile_append_of_pos hkey]
    obtain ⟨c, rest, rfl⟩ := List.exists_cons_of_ne_nil hne
    simp
  unfold key? quoting
  rw [Text.dropStart?_append]
  dsimp only
  rw [hstrip]
  dsimp only
  rw [if_pos (by decide)]
  show some ((enclosed? '"' (key ++ ['"'])).getD _) = some key
  rw [henclosed, Option.getD_some]

/-- An effect in the base directory, under a name that is not declared, whose only section includes
a key and has no other lines. -/
structure Forwarder (r : Registry) (key : Text) where
  name : Text
  text : Text
  found : Section
  number : Nat
  flat : '/' ∉ name
  undeclared : r.findDeclaration name = none
  read : r.read (r.fileAt name (r.defaultLocation name)) = .ok text
  sections : (Effect.parse text (r.fileAt name (r.defaultLocation name)).identity none).sections =
    [found]
  lines : found.lines = [(number, Include.quoting key)]

namespace Forwarder

variable {r : Registry} {key : Text}

/-- The source file of the effect in front. -/
def file (w : Forwarder r key) : SourceFile := r.fileAt w.name (r.defaultLocation w.name)

/-- The effect as it is parsed. -/
def effect (w : Forwarder r key) : Effect :=
  Effect.parse w.text w.file.identity (some w.file)

/-- The state in which the effect has been begun, and nothing else. -/
def head (w : Forwarder r key) (m : Memory) : Expansion :=
  ⟨m, [w.found.id], [(w.file.identity, 0)], [w.file], []⟩

/-- The section of the effect in front is one of its source file. -/
theorem identity_found (w : Forwarder r key) : w.found.id.1 = w.file.identity := by
  have hmem := List.mem_singleton_self w.found
  rw [← w.sections] at hmem
  obtain ⟨block, -, hblock⟩ := Effect.mem_sections_parse hmem
  rw [hblock]
  rfl

/-- The name of the effect in front resolves to its source file. -/
theorem resolve (w : Forwarder r key) (hclean : '\\' ∉ w.name) : r.resolve w.name = .ok w.file := by
  unfold Registry.resolve
  rw [Text.replaceChar_of_notMem hclean]
  dsimp only
  rw [w.undeclared]
  dsimp only
  rw [Registry.firstExisting_singleton, if_pos (Registry.has_of_read w.read)]
  rfl

/-- A key for the section of a forwarding effect leads there. -/
theorem locate (w : Forwarder r key) {outer sectionKey : Text}
    (houter : EffectKey.split? outer = some ⟨w.name, sectionKey⟩)
    (hsection : w.found.isFor sectionKey = true) :
    ∃ m', ShaderCompose.locate r outer ⟨.empty, [], []⟩ =
        (.ok ⟨w.name, w.file, w.effect, w.found⟩, m') ∧
      m'.cache = Cache.empty.insert w.file.identity w.effect := by
  have hresolve := w.resolve (EffectKey.backslash_notMem_source houter)
  have hread : r.read w.file = .ok w.text := w.read
  have hsections : w.effect.sections = [w.found] := by
    rw [← w.sections]
    exact Effect.sections_parse_origin _ _ _
  have hbest : w.effect.bestSection sectionKey = some w.found := by
    simp [Effect.bestSection, hsections, hsection, Section.better]
  have hget : Cache.empty.get? w.file.identity = none := rfl
  unfold effect at hbest
  unfold ShaderCompose.locate EffectKey.split Memory.load Memory.read
  simp only [houter, hresolve, hget, hread, hbest]
  exact ⟨_, rfl, rfl⟩

/-- What comes of a forwarding effect is what comes of the normal form of the key behind the effect
as a head start. -/
theorem runs (w : Forwarder r key) (hne : key ≠ []) (hquote : '"' ∉ key) {outer sectionKey : Text}
    (houter : EffectKey.split? outer = some ⟨w.name, sectionKey⟩)
    (hsection : w.found.isFor sectionKey = true) :
    ∃ m' : Memory, m'.cache = Cache.empty.insert w.file.identity w.effect ∧
      ∀ result t,
        Runs r (.request [(w.found.id, outer)] (Path.normalize key)) (w.head m') result t →
        Runs r (.request [] outer) (.start ⟨.empty, [], []⟩) result t := by
  obtain ⟨m', hlocate, hcache⟩ := w.locate houter hsection
  have hkey := Include.key?_quoting hne hquote
  have hdir : Include.relativeTo (Path.directory w.name) key = Path.normalize key := by
    have hjoin : Path.join [] key = key := by
      unfold Path.join
      simp
    rw [Path.directory_of_notMem w.flat, Include.relativeTo, hjoin]
  have hbegin : ((Expansion.start ⟨.empty, [], []⟩).withMemory m').begin
      ⟨w.name, w.file, w.effect, w.found⟩ = (0, w.head m') := by
    rw [Expansion.begin_of_lookup_none rfl]
    simp [effect, head, Expansion.start, Expansion.withMemory]
  refine ⟨m', hcache, ?_⟩
  intro result t hruns
  refine .unfolded hlocate (by simp) (by simp [Expansion.start]) ?_
  rw [hbegin, w.lines]
  rw [← hdir] at hruns
  cases result with
  | error e => exact .refused hkey hruns
  | ok inner =>
    have hincluded : Runs r (.copy [(w.found.id, outer)] (Path.directory w.name) 0
        [(w.number, Include.quoting key)] true) (w.head m') _ t := .included hkey hruns .ended
    simpa [Except.map] using hincluded

end Forwarder

/-- The expansion of a key and that of an effect in front of it: the same code with file indices
that are one higher, and the file of the effect in front of files with the same identities. -/
def Expanded.Forwarded (file : SourceFile) (near far : Expanded) : Prop :=
  far.code = near.code.map (CodeLine.raise 1) ∧ ∃ more, far.files = file :: more ∧
    more.map SourceFile.identity = near.files.map SourceFile.identity

/-- Let an effect in the base directory, under a name that is not declared, have one section with
one line, which includes a key, and let no request of the expansion of the key lead to the effect.
If no declaration tells the key from its normal form, the effect and the key both expand, to the
same code with file indices that are one higher and to files with the same identities behind that of
the effect, or both fail with an error of the same class.  No declaration tells them apart if the
key is in normal form, or if only names without directories are declared. -/
theorem expand_forwarded (r : Registry) (key : Text) (hplain : key.Plain) (hquote : '"' ∉ key)
    (hkey : (EffectKey.split? key).isSome) (w : Forwarder r key) (outer sectionKey : Text)
    (houter : EffectKey.split? outer = some ⟨w.name, sectionKey⟩)
    (hsection : w.found.isFor sectionKey = true)
    (haway : ∀ call ∈ calls r key ⟨.empty, [], []⟩, r.KeepsOff [w.file.identity] call.key) :
    (r.DeclaresAlike key →
      Agree (Expanded.Forwarded w.file) (expand r key ⟨.empty, [], []⟩).1
        (expand r outer ⟨.empty, [], []⟩).1) ∧
    (Path.normalize key = key ∨ r.Undivided → r.DeclaresAlike key) := by
  constructor
  · intro halike
    have hne : key ≠ [] := by
      rintro rfl
      exact absurd hkey (by decide)
    obtain ⟨m', hcache, hforward⟩ := w.runs hne hquote houter hsection
    obtain ⟨result, s, htraced, hexpand⟩ := expand_traced r key ⟨.empty, [], []⟩
    -- the effect in front is the head start: its section is all that has been begun
    have hstart : (w.head m').Ahead Eq (.start ⟨.empty, [], []⟩) (w.head m') := by
      refine ⟨?_, Cache.parsed_of_entries_eq_nil rfl, rfl, rfl, rfl⟩
      intro identity hidentity
      have hother : identity ≠ w.file.identity := by
        simpa [Expansion.indexed, Forwarder.head] using hidentity
      show Option.Rel _ (Cache.empty.get? identity) (m'.cache.get? identity)
      rw [hcache, Cache.get?_insert, if_neg hother]
      exact .none
    have hlead : ∀ id ∈ (w.head m').expanded, id.1 ∈ (w.head m').indexed := by
      intro id hid
      obtain rfl : id = w.found.id := List.mem_singleton.mp hid
      exact List.mem_singleton.mpr w.identity_found
    have hjobs : Job.Ahead r (fun _ => True) Eq (w.head m') (.request [] key)
        (.request [(w.found.id, outer)] (Path.normalize key)) :=
      .request rfl (halike.sameKey hplain hkey)
    obtain ⟨result', t, hruns, hresults, hs⟩ :=
      htraced.follow (r.respelled_self.sideBySide hlead) haway hjobs hstart
    rw [hexpand, expand_eq_of_runs (hforward _ _ hruns)]
    refine hresults.agree.map ?_
    rintro code _ rfl
    obtain ⟨more, hmore⟩ : [w.file] <+: t.files := hruns.files_grow
    refine ⟨rfl, more, hmore.symm, ?_⟩
    -- behind the file of the head start, the identities are those of the other expansion
    have hfiles := hs.files
    rw [← hmore, List.map_append] at hfiles
    exact List.append_cancel_left hfiles
  · rintro (hnormal | hundivided)
    · intro parts parts' hparts hparts'
      rw [hnormal] at hparts'
      rw [Option.some.inj (hparts.symm.trans hparts')]
    · exact hundivided.declaresAlike hplain hkey

/-- A key that is not in normal form, an effect in front of it, and a source that is declared under
its name alone. -/
def quayScene : Registry :=
  ⟨[⟨"noise".toList, some "decl/noise.glsl".toList, none⟩], "fx".toList, "glsl".toList,
    .table [("fx/pier.glsl".toList, .text "-- X\n#include \"./lib//tide.rise\"\n".toList),
      ("fx/lib/tide.glsl".toList, .text "-- rise\n#include \"../noise.hash\"\nt\n".toList),
      ("decl/noise.glsl".toList, .text "-- hash\nn\n".toList)], "/work".toList⟩

/-- A key that is not in normal form. -/
def quayKey : Text := "./lib//tide.rise".toList

/-- The pier of the quay stands in front of its key. -/
def quayForwarder : Forwarder quayScene quayKey where
  name := "pier".toList
  text := "-- X\n#include \"./lib//tide.rise\"\n".toList
  found := ⟨"/work/fx/pier.glsl".toList, "X".toList, "#include \"./lib//tide.rise\"\n".toList, 2⟩
  number := 2
  flat := by decide
  undeclared := by decide +kernel
  read := by decide +kernel
  sections := by decide +kernel
  lines := by decide +kernel

/-- The key and the pier expand to the same code, with file indices that are one higher for the
pier. -/
theorem expand_forwarded_quay :
    ∃ near far, (expand quayScene quayKey ⟨.empty, [], []⟩).1 = .ok near ∧
      (expand quayScene "pier.X".toList ⟨.empty, [], []⟩).1 = .ok far ∧
      near.files.length = 2 ∧ near.code.length = 4 ∧
      Expanded.Forwarded quayForwarder.file near far := by
  have hundivided : quayScene.Undivided := by
    unfold Registry.Undivided
    decide
  obtain ⟨hforwarded, hdeclared⟩ := expand_forwarded quayScene quayKey (by decide +kernel)
    (by decide) (by decide +kernel) quayForwarder "pier.X".toList "X".toList (by decide +kernel)
    (by decide +kernel) (by decide +kernel)
  obtain ⟨near, far, hnear, hfar, htest, hsame⟩ :=
    (hforwarded (hdeclared (Or.inr hundivided))).exists_of_any
      (fun near => near.files.length == 2 && near.code.length == 4) (by decide +kernel)
  obtain ⟨hfiles, hcode⟩ := Bool.and_eq_true_iff.mp htest
  exact ⟨near, far, hnear, hfar, beq_iff_eq.mp hfiles, beq_iff_eq.mp hcode, hsame⟩

/-- A source that is declared under a name with a directory, and a key that spells the directory in
another way. -/
def dockScene : Registry :=
  ⟨[⟨"lib/noise".toList, some "decl/noise.glsl".toList, none⟩], "fx".toList, "glsl".toList,
    .table [("fx/pier.glsl".toList, .text "-- X\n#include \"./lib/noise.hash\"\n".toList),
      ("decl/noise.glsl".toList, .text "-- hash\nn\n".toList)], "/work".toList⟩

/-- The key that spells the directory in another way. -/
def dockKey : Text := "./lib/noise.hash".toList

/-- The pier of the dock stands in front of its key. -/
def dockForwarder : Forwarder dockScene dockKey where
  name := "pier".toList
  text := "-- X\n#include \"./lib/noise.hash\"\n".toList
  found := ⟨"/work/fx/pier.glsl".toList, "X".toList, "#include \"./lib/noise.hash\"\n".toList, 2⟩
  number := 2
  flat := by decide
  undeclared := by decide +kernel
  read := by decide +kernel
  sections := by decide +kernel
  lines := by decide +kernel

/-- An effect in front of a key can expand although the key by itself does not. -/
theorem not_forall_forwarded :
    ¬ ∀ (r : Registry) (key : Text), key.Plain → '"' ∉ key → (EffectKey.split? key).isSome →
      ∀ (w : Forwarder r key) (outer sectionKey : Text),
        EffectKey.split? outer = some ⟨w.name, sectionKey⟩ → w.found.isFor sectionKey = true →
        (∀ call ∈ calls r key ⟨.empty, [], []⟩, r.KeepsOff [w.file.identity] call.key) →
          Agree (Expanded.Forwarded w.file) (expand r key ⟨.empty, [], []⟩).1
            (expand r outer ⟨.empty, [], []⟩).1 := by
  intro hall
  have hsame := (hall dockScene dockKey (by decide +kernel) (by decide) (by decide +kernel)
    dockForwarder "pier.X".toList "X".toList (by decide +kernel) (by decide +kernel)
    (by decide +kernel)).isSome_toOption
  have hnear : (expand dockScene dockKey ⟨.empty, [], []⟩).1.toOption.isSome = false := by
    decide +kernel
  have hfar : (expand dockScene "pier.X".toList ⟨.empty, [], []⟩).1.toOption.isSome = true := by
    decide +kernel
  rw [hnear, hfar] at hsame
  exact absurd hsame (by decide)

end ShaderCompose
