import ShaderCompose.Effect.Parser
import ShaderCompose.Source.Registry

/-!
# The cache of parsed effects

Effects are kept by the identity of their source.  A source is read and parsed once; a failure to
read it leaves nothing behind.
-/

set_option autoImplicit false

namespace ShaderCompose

/-- A parsed effect, told apart from other parses of the same source by a serial number. -/
structure Loaded where
  effect : Effect
  serial : Nat
deriving DecidableEq, Repr

/-- The parsed effects by identity, and how many parses there have been. -/
structure Cache where
  entries : List (Text × Loaded)
  parses : Nat
deriving DecidableEq, Repr

namespace Cache

/-- A cache that holds nothing. -/
def empty : Cache := ⟨[], 0⟩

/-- The effect with an identity. -/
def get? (cache : Cache) (identity : Text) : Option Loaded := cache.entries.lookup identity

/-- How many effects a cache holds. -/
def size (cache : Cache) : Nat := cache.entries.length

/-- The cache with one more parse counted. -/
def countParse (cache : Cache) : Cache := { cache with parses := cache.parses + 1 }

/-- The cache with a parsed effect in place of any other with its identity. -/
def publish (cache : Cache) (identity : Text) (loaded : Loaded) : Cache :=
  { cache with
    entries := (cache.entries.filter fun entry => entry.1 != identity) ++ [(identity, loaded)] }

/-- The cache with a newly parsed effect. -/
def insert (cache : Cache) (identity : Text) (effect : Effect) : Cache :=
  cache.countParse.publish identity ⟨effect, cache.parses⟩

/-- The cache without its effects. -/
def clear (cache : Cache) : Cache := { cache with entries := [] }

/-- A cache as it is shown to people. -/
def summary (cache : Cache) : Text :=
  "<EffectCache with ".toList ++ Text.ofNat cache.size ++ " effects>".toList

end Cache

/-- What is kept between operations: the cache, the locations that were read, and the reports. -/
structure Memory where
  cache : Cache
  reads : List Text
  journal : Journal
deriving Repr

namespace Memory

variable {ρ : Type} [SourceReader ρ]

/-- The memory with further reports. -/
def report (m : Memory) (records : Journal) : Memory := { m with journal := m.journal ++ records }

/-- Reads a source. -/
def read (m : Memory) (r : Registry ρ) (file : SourceFile) : Except Failure Text × Memory :=
  (r.read file,
    { m with
      reads := m.reads ++ SourceReader.touched r.reader file
      journal := m.journal ++ r.readJournal file })

/-- The effect of a source: from the cache, or else read, parsed and put there. -/
def load (m : Memory) (r : Registry ρ) (file : SourceFile) : Except Failure Loaded × Memory :=
  match m.cache.get? file.identity with
  | some loaded => (.ok loaded, m)
  | none =>
    match m.read r file with
    | (.error e, m) => (.error e, m)
    | (.ok text, m) =>
      let effect := Effect.parse text file.identity (some file)
      (.ok ⟨effect, m.cache.parses⟩,
        { m with
          cache := m.cache.insert file.identity effect
          journal := m.journal ++ effect.parseJournal ++
            [⟨.debug, "Loaded effect ".toList ++ Text.quoted file.identity⟩] })

end Memory

end ShaderCompose
