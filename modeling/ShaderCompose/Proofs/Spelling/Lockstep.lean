import Mathlib.Data.List.Forall2
import ShaderCompose.Proofs.Spelling.Names

/-!
# Expansions in lockstep

Two expansions are compared whose sources differ in nothing but the spelling of the keys on include
lines.  As long as the keys that both come to stand for the same section, they locate the same
sections, begin them in the same order, and give the same code or fail in the same way.

One of the two may have a head start: sections that it has begun before, of effects that the other
one does not come to.  Its file indices are then behind those of the head start, and everything else
is as before.  `Registry.Respelled.sideBySide` compares the single steps, and `expand_lockstep` two
expansions without a head start.
-/

set_option autoImplicit false

namespace ShaderCompose

/-! ## Sources with keys in another spelling -/

/-- A line that is kept, or an include line with another spelling of its key. -/
inductive Include.Respelled (respells : Text → Text → Prop) : Text → Text → Prop
  | kept {line : Text} : key? line = none → Respelled respells line line
  | included {line line' key key' : Text} : key? line = some key → key? line' = some key' →
      respells key key' → Respelled respells line line'

/-- A block with the same key in the same place, and keys on its lines in another spelling. -/
structure Block.Respelled (respells : Text → Text → Prop) (block other : Block) : Prop where
  key : other.key = block.key
  line : other.line = block.line
  body : List.Forall₂ (Include.Respelled respells) block.body other.body

/-- Numbered lines with keys in another spelling. -/
def RespelledLines (respells : Text → Text → Prop) (lines others : List (Nat × Text)) : Prop :=
  List.Forall₂ (fun entry other => other.1 = entry.1 ∧
    Include.Respelled respells entry.2 other.2) lines others

/-- A section with the same key in the same effect, and keys on its lines in another spelling. -/
structure Section.Respelled (respells : Text → Text → Prop) (found other : Section) : Prop where
  id : other.id = found.id
  lines : RespelledLines respells found.lines other.lines

/-- An effect with the same identity, and keys on the lines of its sections in another spelling. -/
structure Effect.Respelled (respells : Text → Text → Prop) (effect other : Effect) : Prop where
  identity : other.identity = effect.identity
  sections : List.Forall₂ (Section.Respelled respells) effect.sections other.sections

section

variable {respells : Text → Text → Prop}

/-- Lines with keys in another spelling have the same numbers. -/
theorem RespelledLines.numberLines {lines others : List Text}
    (h : List.Forall₂ (Include.Respelled respells) lines others) (first : Nat) :
    RespelledLines respells (Text.numberLines first lines) (Text.numberLines first others) := by
  induction h generalizing first with
  | nil => exact .nil
  | cons hline _ ih => exact .cons ⟨rfl, hline⟩ (ih (first + 1))

/-- Lines with an include line in front correspond to lines with one in front. -/
theorem RespelledLines.exists_cons {number : Nat} {line key : Text}
    {rest others : List (Nat × Text)}
    (h : RespelledLines respells ((number, line) :: rest) others)
    (hkey : Include.key? line = some key) :
    ∃ key' line' rest', Include.key? line' = some key' ∧ respells key key' ∧
      others = (number, line') :: rest' ∧ RespelledLines respells rest rest' := by
  cases h with
  | @cons _ entry' _ rest' hline hrest =>
    obtain ⟨number', line'⟩ := entry'
    obtain ⟨rfl, hline⟩ := hline
    cases hline with
    | kept hnone => simp [hkey] at hnone
    | included hown hother hspelled =>
      obtain rfl : key = _ := Option.some.inj (hkey.symm.trans hown)
      exact ⟨_, line', rest', hother, hspelled, rfl, hrest⟩

/-- Blocks with keys in another spelling make such sections. -/
theorem Block.Respelled.toSection {block other : Block} (h : block.Respelled respells other)
    {text text' : Text} (hblock : block ∈ blocksOf text) (hother : other ∈ blocksOf text')
    (identity : Text) :
    (block.toSection identity).Respelled respells (other.toSection identity) := by
  refine ⟨?_, ?_⟩
  · show (identity, other.key) = (identity, block.key)
    rw [h.key]
  · rw [lines_toSection hblock, lines_toSection hother, h.line]
    exact .numberLines h.body _

/-- Storing such sections among such sections keeps them so. -/
theorem storeSection_respelled {sections others : List Section}
    (h : List.Forall₂ (Section.Respelled respells) sections others) {found other : Section}
    (hfound : found.Respelled respells other) :
    List.Forall₂ (Section.Respelled respells) (storeSection sections found)
      (storeSection others other) := by
  have hkeys : ∀ {a b : Section}, a.Respelled respells b → b.key = a.key :=
    fun hab => congrArg Prod.snd hab.id
  have hany : others.any (·.key == other.key) = sections.any (·.key == found.key) := by
    induction h with
    | nil => rfl
    | cons hab _ ih => rw [List.any_cons, List.any_cons, ih, hkeys hab, hkeys hfound]
  unfold storeSection
  rw [hany]
  split
  · next hheld =>
    clear hany hheld
    induction h with
    | nil => exact .nil
    | cons hab _ ih =>
      refine .cons ?_ ih
      dsimp only
      rw [hkeys hab, hkeys hfound]
      split
      · exact hfound
      · exact hab
  · exact List.rel_append h (.cons hfound .nil)

/-- Blocks with keys in another spelling make such effects, whatever their origin is. -/
theorem Effect.parse_respelled {text other : Text}
    (h : List.Forall₂ (Block.Respelled respells) (blocksOf text) (blocksOf other))
    (identity : Text) (origin origin' : Option SourceFile) :
    (parse text identity origin).Respelled respells (parse other identity origin') := by
  have hfold : ∀ blocks others, List.Forall₂ (Block.Respelled respells) blocks others →
      blocks ⊆ blocksOf text → others ⊆ blocksOf other →
      ∀ effect effect' : Effect, effect.Respelled respells effect' →
        (blocks.foldl addBlock effect).Respelled respells (others.foldl addBlock effect') := by
    intro blocks others hrel hin hin'
    induction hrel with
    | nil => exact fun effect effect' heffect => heffect
    | cons hblock _ ih =>
      intro effect effect' heffect
      obtain ⟨hfirst, hrest⟩ := List.cons_subset.mp hin
      obtain ⟨hfirst', hrest'⟩ := List.cons_subset.mp hin'
      apply ih hrest hrest'
      refine ⟨heffect.identity, storeSection_respelled heffect.sections ?_⟩
      rw [heffect.identity]
      exact hblock.toSection hfirst hfirst' effect.identity
  exact hfold _ _ h (List.Subset.refl _) (List.Subset.refl _) _ _ ⟨rfl, .nil⟩

/-- Effects with keys in another spelling select such sections for every request. -/
theorem Effect.SelectAlike.respelled (respells : Text → Text → Prop) :
    SelectAlike (Effect.Respelled respells) (Section.Respelled respells) where
  identity h := h.identity
  bestSection h := Effect.bestSection_rel (fun hab => congrArg Prod.snd hab.id) h.sections

end

/-! ## Registries with keys in another spelling -/

/-- Another reader has the same sources as that of a registry, and where names resolve to the keys
on include lines are in another spelling.  From directories of the given kind, spelled in any way,
both spellings are keys for the same section. -/
structure Registry.Respelled (r : Registry) (other : Reader) (usable : Text → Prop)
    (respells : Text → Text → Prop) : Prop where
  has (file : SourceFile) : other.has file = r.reader.has file
  read {name : Text} {file file' : SourceFile} : r.resolve name = .ok file →
    file.SamePlace file' →
      Agree (fun text text' => List.Forall₂ (Block.Respelled respells) (blocksOf text)
        (blocksOf text')) (r.read file) (({ r with reader := other } : Registry).read file')
  keys {dir dir' key key' : Text} : usable dir → usable dir' →
    Path.normalize dir' = Path.normalize dir → respells key key' →
      r.SameKey usable (Include.relativeTo dir key) (Include.relativeTo dir' key')

/-- Caches that hold respelled effects, apart from those with the given identities. -/
def Cache.Respelled (respells : Text → Text → Prop) (apart : List Text) (cache other : Cache) :
    Prop :=
  ∀ identity ∉ apart, Option.Rel
    (fun loaded loaded' => loaded.effect.Respelled respells loaded'.effect)
    (cache.get? identity) (other.get? identity)

/-- Targets in the same place, whose sections have keys in another spelling. -/
structure Target.Respelled (usable : Text → Prop) (respells : Text → Text → Prop)
    (target other : Target) : Prop where
  near : usable (Path.directory target.name)
  far : usable (Path.directory other.name)
  directory : Path.normalize (Path.directory other.name) =
    Path.normalize (Path.directory target.name)
  place : target.file.SamePlace other.file
  identity : other.effect.identity = target.effect.identity
  found : target.found.Respelled respells other.found

/-- Names for the same source, with the files in the same place that they resolve to. -/
structure Registry.SameFiles (r : Registry) (usable : Text → Prop) (apart : List Text)
    (name other : Text) (file file' : SourceFile) : Prop where
  names : r.SameSource name other
  near : usable (Path.directory name)
  far : usable (Path.directory other)
  resolve : r.resolve name = .ok file
  place : file.SamePlace file'
  off : file.identity ∉ apart

/-- The source of a key, if it resolves, has none of the given identities. -/
def Registry.KeepsOff (r : Registry) (apart : List Text) (key : Text) : Prop :=
  ∀ parts ∈ EffectKey.split? key, ∀ file ∈ (r.resolve parts.source).toOption,
    file.identity ∉ apart

instance (r : Registry) (apart : List Text) (key : Text) : Decidable (r.KeepsOff apart key) :=
  inferInstanceAs (Decidable (∀ parts ∈ EffectKey.split? key,
    ∀ file ∈ (r.resolve parts.source).toOption, file.identity ∉ apart))

section

variable {r : Registry} {other : Reader} {usable : Text → Prop} {respells : Text → Text → Prop}
variable {apart : List Text} {m n : Memory}

/-- A key that keeps off some identities is located outside of them. -/
theorem Registry.KeepsOff.target {key : Text} (h : r.KeepsOff apart key) (hm : m.cache.Parsed)
    {target : Target} {m' : Memory} (hlocate : locate r key m = (.ok target, m')) :
    target.effect.identity ∉ apart ∧ target.found.id.1 ∉ apart := by
  obtain ⟨parts, -, hsplit, hresolve, -⟩ := locate_eq_ok hlocate
  obtain ⟨hidentity, hfound⟩ := hm.identity hlocate
  rw [hidentity, hfound]
  have hoff := h parts (EffectKey.split?_of_split hsplit) target.file (by rw [hresolve]; rfl)
  exact ⟨hoff, hoff⟩

/-- Caches stay respelled when respelled effects are put in under one identity. -/
theorem Cache.Respelled.insert {cache cache' : Cache} (h : cache.Respelled respells apart cache')
    {effect effect' : Effect} (heffect : effect.Respelled respells effect') (identity : Text) :
    (cache.insert identity effect).Respelled respells apart (cache'.insert identity effect') := by
  intro key hkey
  rw [Cache.get?_insert, Cache.get?_insert]
  split
  · exact .some heffect
  · exact h key hkey

/-- Loading files in the same place gives respelled effects, or failures of the same class. -/
theorem Registry.Respelled.load (h : r.Respelled other usable respells)
    (hcache : m.cache.Respelled respells apart n.cache) {name : Text} {file file' : SourceFile}
    (hresolve : r.resolve name = .ok file) (hplace : file.SamePlace file')
    (hapart : file.identity ∉ apart) :
    PairedAnswers Failure.SameClass
      (fun loaded loaded' => loaded.effect.Respelled respells loaded'.effect)
      (Cache.Respelled respells apart) (m.load r file)
      (n.load { r with reader := other } file') := by
  have hparsed := (h.read hresolve hplace).paired.mono fun _ _ hblocks =>
    Effect.parse_respelled hblocks file.identity (some file) (some file')
  exact Memory.load_paired hplace.identity hcache (hcache file.identity hapart) hparsed
    fun heffect => hcache.insert heffect file.identity

/-- Keys for the same section have targets in the same place, or fail in the same way. -/
theorem Registry.Respelled.locate (h : r.Respelled other usable respells)
    (hcache : m.cache.Respelled respells apart n.cache) {key key' : Text}
    (hkeys : r.SameKey usable key key') (hapart : r.KeepsOff apart key) :
    PairedAnswers Failure.SameClass (Target.Respelled usable respells)
      (Cache.Respelled respells apart) (locate r key m)
      (locate { r with reader := other } key' n) := by
  have hsource : Paired Failure.SameClass
      (fun parts parts' => parts'.sectionKey = parts.sectionKey ∧
        Paired Failure.SameClass (r.SameFiles usable apart parts.source parts'.source)
          (r.resolve parts.source) (({ r with reader := other } : Registry).resolve parts'.source))
      (EffectKey.split key) (EffectKey.split key') := by
    unfold EffectKey.split
    rcases hkeys with ⟨hsplit, hsplit'⟩ |
      ⟨name, name', sectionKey, hsplit, hsplit', hnames, husable, husable'⟩
    · rw [hsplit, hsplit']
      exact .error (.effect rfl)
    · have hresolve := hnames.resolve h.has
      have hoff := hapart _ hsplit
      rw [hsplit, hsplit']
      refine .ok ⟨rfl, ?_⟩
      dsimp only at hoff ⊢
      generalize hnear : r.resolve name = near at hresolve hoff
      generalize ({ r with reader := other } : Registry).resolve name' = far at hresolve
      cases hresolve with
      | error hsame => exact .error hsame
      | ok hplace => exact .ok ⟨hnames, husable, husable', hnear, hplace, hoff _ rfl⟩
  refine (locate_paired (.respelled respells) hcache hsource ?_ fun _ _ => .effect rfl).mono ?_
  · intro name name' file file' hfiles
    exact h.load hcache hfiles.resolve hfiles.place hfiles.off
  · rintro target target' ⟨hfiles, heffect, hfound⟩
    exact ⟨hfiles.near, hfiles.far, hfiles.names.directory, hfiles.place, heffect.identity, hfound⟩

/-- If a key is located, then so is a key for the same section with the other reader, and the
targets are respelled. -/
theorem Registry.Respelled.locate_ok (h : r.Respelled other usable respells)
    (hcache : m.cache.Respelled respells apart n.cache) {key key' : Text}
    (hkeys : r.SameKey usable key key') (hapart : r.KeepsOff apart key) {target : Target}
    {m' : Memory} (hlocate : ShaderCompose.locate r key m = (.ok target, m')) :
    ∃ target' n', ShaderCompose.locate { r with reader := other } key' n = (.ok target', n') ∧
      target.Respelled usable respells target' ∧ m'.cache.Respelled respells apart n'.cache := by
  have hanswers := h.locate hcache hkeys hapart
  rw [hlocate] at hanswers
  exact hanswers.of_ok

/-- If a key is not located, then neither is the other key with the other reader, and the failures
are of the same class. -/
theorem Registry.Respelled.locate_error (h : r.Respelled other usable respells)
    (hcache : m.cache.Respelled respells apart n.cache) {key key' : Text}
    (hkeys : r.SameKey usable key key') (hapart : r.KeepsOff apart key) {e : Failure}
    {m' : Memory} (hlocate : ShaderCompose.locate r key m = (.error e, m')) :
    ∃ f n', ShaderCompose.locate { r with reader := other } key' n = (.error f, n') ∧
      e.SameClass f ∧ m'.cache.Respelled respells apart n'.cache := by
  have hanswers := h.locate hcache hkeys hapart
  rw [hlocate] at hanswers
  exact hanswers.of_error

end

/-! ## States with a head start -/

/-- A line of code with a file index that is raised by some number. -/
def CodeLine.raise (count : Nat) : CodeLine → CodeLine
  | .marker line file => .marker line (file + count)
  | .copied text => .copied text

/-- Raising file indices by nothing leaves code as it is. -/
theorem CodeLine.map_raise_zero (code : List CodeLine) : code.map (CodeLine.raise 0) = code := by
  have hraise : CodeLine.raise 0 = fun line => line := by
    funext line
    cases line with
    | marker number file => rfl
    | copied text => rfl
  rw [hraise, List.map_id']

/-- The identities of the effects that have a file index. -/
def Expansion.indexed (s : Expansion) : List Text := s.indices.map Prod.fst

/-- States of two expansions of which the second one has a head start. -/
structure Expansion.Ahead (respells : Text → Text → Prop) (lead s t : Expansion) : Prop where
  cache : s.memory.cache.Respelled respells lead.indexed t.memory.cache
  parsed : s.memory.cache.Parsed
  expanded : t.expanded = lead.expanded ++ s.expanded
  indices : t.indices =
    lead.indices ++ s.indices.map fun entry => (entry.1, entry.2 + lead.files.length)
  files : t.files.map SourceFile.identity =
    lead.files.map SourceFile.identity ++ s.files.map SourceFile.identity

/-- A marker with raised file index is the marker for the raised index. -/
theorem map_raise_markerFor (count : Nat) (pending : Bool) (number index : Nat) (line : Text) :
    (markerFor pending number index line).map (CodeLine.raise count) =
      markerFor pending number (index + count) line := by
  unfold markerFor
  split
  · rfl
  · rfl

/-- Jobs of two expansions of which the second one has a head start, whose sections are still being
expanded. -/
inductive Job.Ahead (r : Registry) (usable : Text → Prop) (respells : Text → Text → Prop)
    (lead : Expansion) : Job → Job → Prop
  | request {chain chain' : Chain} {key key' : Text} :
      chain'.map Prod.fst = lead.expanded ++ chain.map Prod.fst → r.SameKey usable key key' →
        Job.Ahead r usable respells lead (.request chain key) (.request chain' key')
  | copy {chain chain' : Chain} {dir dir' : Text} {index : Nat} {lines lines' : List (Nat × Text)}
      {pending : Bool} :
      chain'.map Prod.fst = lead.expanded ++ chain.map Prod.fst → usable dir → usable dir' →
      Path.normalize dir' = Path.normalize dir → RespelledLines respells lines lines' →
        Job.Ahead r usable respells lead (.copy chain dir index lines pending)
          (.copy chain' dir' (index + lead.files.length) lines' pending)

section

variable {r : Registry} {other : Reader} {usable : Text → Prop} {respells : Text → Text → Prop}
variable {lead s t : Expansion} {m n : Memory} {target target' : Target}

/-- An expansion stays ahead when both memories are replaced and the new caches are respelled. -/
theorem Expansion.Ahead.withMemory (h : lead.Ahead respells s t) (hparsed : m.cache.Parsed)
    (hcache : m.cache.Respelled respells lead.indexed n.cache) :
    lead.Ahead respells (s.withMemory m) (t.withMemory n) :=
  ⟨hcache, hparsed, h.expanded, h.indices, h.files⟩

/-- An expansion stays ahead when both note a repeated request. -/
theorem Expansion.Ahead.warn (h : lead.Ahead respells s t) (key key' : Text) :
    lead.Ahead respells (s.warn target key) (t.warn target' key') :=
  ⟨h.cache, h.parsed, h.expanded, h.indices, h.files⟩

/-- A section is begun with a file index that is raised by the number of files of the head start. -/
theorem Expansion.Ahead.begin (h : lead.Ahead respells s t)
    (htarget : target.Respelled usable respells target')
    (hapart : target.effect.identity ∉ lead.indexed) :
    (t.begin target').1 = (s.begin target).1 + lead.files.length ∧
      lead.Ahead respells (s.begin target).2 (t.begin target').2 := by
  have hlead : lead.indices.lookup target.effect.identity = none := by
    rw [List.lookup_eq_none_iff]
    intro entry hentry
    have hne : target.effect.identity ≠ entry.1 := by
      intro hsame
      exact hapart (hsame ▸ List.mem_map_of_mem hentry)
    simpa using hne
  have hlookup : t.indices.lookup target'.effect.identity =
      (s.indices.lookup target.effect.identity).map (· + lead.files.length) := by
    rw [h.indices, htarget.identity, List.lookup_append, hlead, Option.none_or,
      lookup_map_snd (· + lead.files.length)]
  have hexpanded : t.expanded ++ [target'.found.id] =
      lead.expanded ++ (s.expanded ++ [target.found.id]) := by
    rw [h.expanded, htarget.found.id, List.append_assoc]
  cases hindex : s.indices.lookup target.effect.identity with
  | some index =>
    rw [hindex, Option.map_some] at hlookup
    rw [Expansion.begin_of_lookup hindex, Expansion.begin_of_lookup hlookup]
    exact ⟨rfl, h.cache, h.parsed, hexpanded, h.indices, h.files⟩
  | none =>
    have hlength : t.files.length = s.files.length + lead.files.length := by
      have := congrArg List.length h.files
      simp only [List.length_map, List.length_append] at this
      omega
    rw [hindex, Option.map_none] at hlookup
    rw [Expansion.begin_of_lookup_none hindex, Expansion.begin_of_lookup_none hlookup]
    refine ⟨hlength, h.cache, h.parsed, hexpanded, ?_, ?_⟩
    · simp [h.indices, htarget.identity, hlength]
    · simp [h.files, htarget.place.identity]

/-! ## Jobs in lockstep -/

/-- A section of an effect that the head start did not come to is being expanded, or has been begun,
exactly if it is so without the head start. -/
theorem mem_ahead_iff {ids ids' : List SectionId} {found found' : Section}
    (hlead : ∀ id ∈ lead.expanded, id.1 ∈ lead.indexed) (hids : ids' = lead.expanded ++ ids)
    (hfound : found.Respelled respells found') (hapart : found.id.1 ∉ lead.indexed) :
    found'.id ∈ ids' ↔ found.id ∈ ids := by
  rw [hids, hfound.id, List.mem_append]
  constructor
  · rintro (hmem | hmem)
    · exact absurd (hlead _ hmem) hapart
    · exact hmem
  · exact Or.inr

/-- An expansion with keys in another spelling and with a head start goes side by side with one
without, and gives the same code up to the file indices, if no request comes to an effect of the
head start. -/
theorem Registry.Respelled.sideBySide (hr : r.Respelled other usable respells)
    (hlead : ∀ id ∈ lead.expanded, id.1 ∈ lead.indexed) :
    SideBySide r { r with reader := other } (r.KeepsOff lead.indexed)
      (Job.Ahead r usable respells lead) (lead.Ahead respells) Failure.SameClass
      (fun code code' => code' = code.map (CodeLine.raise lead.files.length)) where
  fails hjob hs hoff hlocate := by
    cases hjob with
    | request hchain hkeys =>
      obtain ⟨f, n', hlocate', hsame, hcaches⟩ := hr.locate_error hs.cache hkeys hoff hlocate
      exact ⟨_, _, f, n', rfl, hlocate', hsame,
        hs.withMemory (hs.parsed.locate hlocate) hcaches⟩
  finds hjob hs hoff hlocate := by
    cases hjob with
    | request hchain hkeys =>
      obtain ⟨target', n', hlocate', htarget, hcaches⟩ := hr.locate_ok hs.cache hkeys hoff hlocate
      obtain ⟨heffect, hfound⟩ := hoff.target hs.parsed hlocate
      have hlooked := hs.withMemory (hs.parsed.locate hlocate) hcaches
      -- no index of the head start is for this effect, so it is new to both states or to none
      obtain ⟨hindex, hbegun⟩ := hlooked.begin htarget heffect
      refine ⟨_, _, target', n', rfl, hlocate', ?_⟩
      constructor
      case current => exact mem_ahead_iff hlead hchain htarget.found hfound
      case begun => exact mem_ahead_iff hlead hlooked.expanded htarget.found hfound
      case looked => exact hlooked
      case refused => exact .effect rfl
      case warned => exact hlooked.warn _ _
      case entered => exact hbegun
      case copied =>
        rw [hindex]
        refine .copy ?_ htarget.near htarget.far htarget.directory htarget.found.lines
        rw [List.map_append, List.map_append, hchain, List.append_assoc]
        simp [htarget.found.id]
  ends hjob := by
    cases hjob with
    | copy hchain husable husable' hdir hlines =>
      cases hlines
      exact ⟨_, _, _, _, rfl⟩
  includes hjob hkey := by
    cases hjob with
    | copy hchain husable husable' hdir hlines =>
      obtain ⟨key', line', rest', hkey', hspelled, rfl, hrest⟩ := hlines.exists_cons hkey
      exact ⟨_, _, _, _, line', rest', _, key', rfl, hkey',
        .request hchain (hr.keys husable husable' hdir hspelled),
        .copy hchain husable husable' hdir hrest⟩
  copies hjob hkey := by
    cases hjob with
    | copy hchain husable husable' hdir hlines =>
      cases hlines with
      | @cons _ entry' _ rest' hline hlater =>
        obtain ⟨number', line'⟩ := entry'
        obtain ⟨rfl, hline⟩ := hline
        cases hline with
        | included hkey' _ _ => simp [hkey] at hkey'
        | kept _ =>
          refine ⟨_, _, _, _, _, rest', _, rfl, hkey, .copy hchain husable husable' hdir hlater, ?_⟩
          rintro tail _ rfl
          rw [List.map_append, List.map_cons, map_raise_markerFor]
          rfl
  nil := rfl
  append := by
    rintro inner _ tail _ rfl rfl
    rw [List.map_append]

/-- Keys for the same section expand to the same code and to source files with the same identities,
or fail in the same way. -/
theorem expand_lockstep (hr : r.Respelled other usable respells) (hm : m.cache.Parsed)
    (hcache : m.cache.Respelled respells [] n.cache) {key key' : Text}
    (hkeys : r.SameKey usable key key') :
    Agree (fun near far : Expanded => far.code = near.code ∧
        far.files.map SourceFile.identity = near.files.map SourceFile.identity)
      (expand r key m).1 (expand { r with reader := other } key' n).1 := by
  obtain ⟨result, s, htraced, hexpand⟩ := expand_traced r key m
  have hstart : (Expansion.start m).Ahead respells (.start m) (.start n) :=
    ⟨hcache, hm, rfl, rfl, rfl⟩
  have hlead : ∀ id ∈ (Expansion.start m).expanded, id.1 ∈ (Expansion.start m).indexed := by
    simp [Expansion.start]
  have hmade : ∀ call ∈ calls r key m, r.KeepsOff (Expansion.start m).indexed call.key := by
    intro call _ parts _ file _
    simp [Expansion.start, Expansion.indexed]
  obtain ⟨result', t, hruns, hresults, hs⟩ :=
    htraced.follow (hr.sideBySide hlead) hmade (.request rfl hkeys) hstart
  rw [hexpand, expand_eq_of_runs hruns]
  refine hresults.agree.map ?_
  rintro code _ rfl
  exact ⟨CodeLine.map_raise_zero code, hs.files⟩

end

end ShaderCompose
