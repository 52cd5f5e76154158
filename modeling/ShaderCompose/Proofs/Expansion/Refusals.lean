import ShaderCompose.Proofs.Expansion.Depth
import ShaderCompose.Proofs.Relocation.Keys

/-!
# Why requests fail

With a reader that gives nothing but text, bytes or the answer that there is no such source, and
packages that are texts, a request can fail by itself in few ways: its key cannot be taken apart,
its source is not found or cannot be read, the effect has no section for the key, or the section is
being expanded.  Each of them is looked for only if the ones before did not occur, and the error has
the key, the name, the file or the identity of that request.
-/

set_option autoImplicit false

namespace ShaderCompose

/-- Text, bytes, or no content, but neither a fault nor a value of another kind. -/
def ReadOutcome.Ordinary : ReadOutcome → Prop
  | .text _ => True
  | .bytes _ => True
  | .missing => True
  | .other _ => False
  | .failed _ => False

/-- Packages are texts, and what is read is ordinary. -/
structure Registry.Ordinary (r : Registry) : Prop where
  packages {d : Declaration} {package : Value} :
    d ∈ r.declarations → d.package = some package → ∃ owner, package = .text owner
  content (file : SourceFile) : (r.reader.read file).Ordinary

/-- A table of texts, bytes and missing sources makes a registry ordinary if all declared packages
are texts. -/
theorem Registry.ordinary_of_table {r : Registry} {shelf : Shelf}
    (hreader : r.reader = .table shelf)
    (hshelf : ∀ entry ∈ shelf, entry.2.Ordinary)
    (hpackages : ∀ d ∈ r.declarations, ∀ package, d.package = some package →
      ∃ owner, package = .text owner) : r.Ordinary where
  packages hd hpackage := hpackages _ hd _ hpackage
  content file := by
    rw [hreader]
    unfold Reader.read
    dsimp only
    cases hlookup : shelf.lookup file.location with
    | none => trivial
    | some content =>
      obtain ⟨before, after, rfl, -⟩ := List.lookup_eq_some_iff.mp hlookup
      exact hshelf (file.location, content) (by simp)

namespace Registry.Ordinary

variable {r : Registry}

/-- A name resolves to a file that is called by it, or is not found. -/
theorem resolve_cases (hr : r.Ordinary) (name : Text) :
    (∃ file, r.resolve name = .ok file ∧
        file.logicalName = Text.replaceChar '\\' '/' name) ∨
      ∃ detail, r.resolve name =
        .error (.effect (.sourceNotFound (Text.replaceChar '\\' '/' name) (some detail))) := by
  rcases r.resolve_forms name with ⟨d, package, hd, hpackage, hform⟩ | ⟨locations, detail, hform⟩
  · obtain ⟨owner, rfl⟩ := hr.packages hd hpackage
    exact Or.inl ⟨_, hform, rfl⟩
  · rw [hform]
    rcases r.firstExisting_cases (Text.replaceChar '\\' '/' name) detail locations with
      ⟨location, -, hok⟩ | herror
    · exact Or.inl ⟨_, hok, rfl⟩
    · exact Or.inr ⟨detail, herror⟩

/-- A source is not read because there is none, or because its bytes are no text. -/
theorem read_eq_error (hr : r.Ordinary) {file : SourceFile} {e : Failure}
    (h : r.read file = .error e) :
    (r.reader.read file = .missing ∧ file.package = none ∧
        e = .effect (.sourceNotFound file.logicalName
          (some ("no source at '".toList ++ file.location ++ ['\''])))) ∨
      (∃ package, r.reader.read file = .missing ∧ file.package = some package ∧
        e = .effect (.sourceUnavailable file
          ("resource not found in package '".toList ++ package ++ ['\'']) none)) ∨
      ∃ data invalid, r.reader.read file = .bytes data ∧
        Text.Utf8.decode (Text.Utf8.dropMark data) = .error invalid ∧
        e = .effect (.sourceUnavailable file "not valid utf-8".toList (some .undecodable)) := by
  -- the contents that are not ordinary are the other two ways to fail
  have hcontent := hr.content file
  unfold read at h
  rw [Reader.sourceReader_read] at h
  cases hread : r.reader.read file with
  | text t => simp [hread, ReadOutcome.decode] at h
  | bytes data =>
    rw [hread] at h
    dsimp only [ReadOutcome.decode] at h
    cases hdecode : Text.Utf8.decode (Text.Utf8.dropMark data) with
    | ok t => simp [hdecode] at h
    | error invalid =>
      rw [hdecode] at h
      exact Or.inr (Or.inr ⟨data, invalid, rfl, hdecode, (Except.error.inj h).symm⟩)
  | missing =>
    rw [hread] at h
    cases hpackage : file.package with
    | none =>
      rw [hpackage] at h
      exact Or.inl ⟨rfl, rfl, (Except.error.inj h).symm⟩
    | some package =>
      rw [hpackage] at h
      exact Or.inr (Or.inl ⟨package, rfl, rfl, (Except.error.inj h).symm⟩)
  | other kind => exact (hread ▸ hcontent).elim
  | failed f => exact (hread ▸ hcontent).elim

end Registry.Ordinary

/-! ## Refused requests -/

/-- The source of the key of a request, taken apart from the section, resolves to a file. -/
structure Call.Resolves (r : Registry) (call : Call) (parts : EffectKey) (file : SourceFile) :
    Prop where
  split : EffectKey.split? call.key = some parts
  resolve : r.resolve parts.source = .ok file

/-- The file of a request has to be read, since its effect is not in the cache. -/
structure Call.Reads (r : Registry) (call : Call) (parts : EffectKey) (file : SourceFile) : Prop
    extends call.Resolves r parts file where
  unloaded : call.before.memory.cache.get? file.identity = none

/-- The error with which a request fails by itself, for each reason that it can have. -/
inductive Call.Refused (r : Registry) (call : Call) : EffectError → Prop
  | invalidKey : EffectKey.split? call.key = none → Refused r call (.invalidKey call.key)
  | unresolved {parts : EffectKey} {detail : Text} :
      EffectKey.split? call.key = some parts →
      r.resolve parts.source = .error (.effect (.sourceNotFound parts.source (some detail))) →
        Refused r call (.sourceNotFound parts.source (some detail))
  | missing {parts : EffectKey} {file : SourceFile} :
      call.Reads r parts file → r.reader.read file = .missing → file.package = none →
        Refused r call (.sourceNotFound parts.source
          (some ("no source at '".toList ++ file.location ++ ['\''])))
  | resourceMissing {parts : EffectKey} {file : SourceFile} {package : Text} :
      call.Reads r parts file → r.reader.read file = .missing → file.package = some package →
        Refused r call (.sourceUnavailable file
          ("resource not found in package '".toList ++ package ++ ['\'']) none)
  | undecodable {parts : EffectKey} {file : SourceFile} {data : List UInt8}
      {invalid : Text.Utf8.Invalid} :
      call.Reads r parts file → r.reader.read file = .bytes data →
      Text.Utf8.decode (Text.Utf8.dropMark data) = .error invalid →
        Refused r call (.sourceUnavailable file "not valid utf-8".toList (some .undecodable))
  | unmatched {parts : EffectKey} {file : SourceFile} {loaded : Loaded} {m : Memory} :
      call.Resolves r parts file → call.before.memory.load r file = (.ok loaded, m) →
      (∀ found ∈ loaded.effect.sections, found.isFor parts.sectionKey = false) →
        Refused r call (.sectionNotFound file.identity parts.sectionKey (some call.key))
  | cyclic {target : Target} {m : Memory} :
      locate r call.key call.before.memory = (.ok target, m) →
      target.found.id ∈ call.chain.map Prod.fst →
        Refused r call (.cyclicInclude (call.chain.map Prod.snd ++ [call.key]))

section

variable {r : Registry} {call : Call}

/-- The file that a request resolves to has the logical name by which it was asked for. -/
theorem Call.Resolves.logicalName {parts : EffectKey} {file : SourceFile}
    (h : call.Resolves r parts file) (hr : r.Ordinary) : file.logicalName = parts.source := by
  rcases hr.resolve_cases parts.source with ⟨other, hother, hname⟩ | ⟨detail, hdetail⟩
  · rw [h.resolve] at hother
    rw [Except.ok.inj hother, hname, EffectKey.replaceChar_of_split? h.split]
  · simp [h.resolve] at hdetail

/-- A request that fails by itself is refused for one of the reasons. -/
theorem Call.Fails.refused {e : Failure} (h : call.Fails r e) (hr : r.Ordinary)
    (hparsed : call.before.memory.cache.Parsed) :
    ∃ cause, e = .effect cause ∧ call.Refused r cause := by
  rcases h with ⟨m, hlocate⟩ | ⟨target, m, hlocate, hchain, rfl⟩
  · rcases locate_eq_error hlocate with ⟨hsplit, rfl⟩ | ⟨parts, hsplit, hfails⟩
    · exact ⟨_, rfl, .invalidKey hsplit⟩
    rcases hfails with herror | ⟨file, hfile, ⟨hnone, herror⟩ | ⟨loaded, hload, hbest, rfl⟩⟩
    · rcases hr.resolve_cases parts.source with ⟨file, hfile, -⟩ | ⟨detail, hdetail⟩
      · simp [hfile] at herror
      · rw [EffectKey.replaceChar_of_split? hsplit] at hdetail
        rw [hdetail] at herror
        exact ⟨_, (Except.error.inj herror).symm, .unresolved hsplit hdetail⟩
    · have hreads : call.Reads r parts file := ⟨⟨hsplit, hfile⟩, hnone⟩
      rcases hr.read_eq_error herror with ⟨hmissing, hpackage, rfl⟩ |
        ⟨package, hmissing, hpackage, rfl⟩ | ⟨data, invalid, hdata, hinvalid, rfl⟩
      · refine ⟨_, ?_, .missing hreads hmissing hpackage⟩
        rw [hreads.logicalName hr]
      · exact ⟨_, rfl, .resourceMissing hreads hmissing hpackage⟩
      · exact ⟨_, rfl, .undecodable hreads hdata hinvalid⟩
    · refine ⟨_, ?_, .unmatched ⟨hsplit, hfile⟩ hload (Effect.bestSection_eq_none_iff.mp hbest)⟩
      rw [hparsed.load hload]
  · exact ⟨_, rfl, .cyclic hlocate hchain⟩

/-- A request whose file cannot be read fails with the error of reading it. -/
theorem Call.Reads.fails {parts : EffectKey} {file : SourceFile} {e : Failure}
    (h : call.Reads r parts file) (hread : r.read file = .error e) : call.Fails r e := by
  refine Or.inl ⟨(call.before.memory.read r file).2, ?_⟩
  simp [locate, EffectKey.split, h.split, h.resolve, Memory.load, h.unloaded, Memory.read, hread]

/-- A request that is refused fails by itself with this error. -/
theorem Call.Refused.fails {cause : EffectError} (h : call.Refused r cause) (hr : r.Ordinary)
    (hparsed : call.before.memory.cache.Parsed) : call.Fails r (.effect cause) := by
  cases h with
  | invalidKey hsplit =>
    exact Or.inl ⟨call.before.memory, by simp [locate, EffectKey.split, hsplit]⟩
  | unresolved hsplit hresolve =>
    exact Or.inl ⟨call.before.memory, by simp [locate, EffectKey.split, hsplit, hresolve]⟩
  | missing hreads hmissing hpackage =>
    apply hreads.fails
    rw [← hreads.logicalName hr]
    simp [Registry.read, hmissing, hpackage]
  | resourceMissing hreads hmissing hpackage =>
    exact hreads.fails (by simp [Registry.read, hmissing, hpackage])
  | undecodable hreads hdata hinvalid =>
    exact hreads.fails (by simp [Registry.read, hdata, ReadOutcome.decode, hinvalid])
  | @unmatched parts file loaded m hresolves hload hnone =>
    refine Or.inl ⟨m, ?_⟩
    have hbest := Effect.bestSection_eq_none_iff.mpr hnone
    simp [locate, EffectKey.split, hresolves.split, hresolves.resolve, hload, hbest,
      hparsed.load hload]
  | cyclic hlocate hchain => exact Or.inr ⟨_, _, hlocate, hchain, rfl⟩

end

end ShaderCompose
