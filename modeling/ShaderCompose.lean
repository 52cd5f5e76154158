import ShaderCompose.Effect.Checked
import ShaderCompose.Flight
import ShaderCompose.FrozenDict
import ShaderCompose.Notice
import ShaderCompose.Session
import ShaderCompose.Version
import ShaderCompose.Proofs.Lists
import ShaderCompose.Proofs.Expansion.Attribution
import ShaderCompose.Proofs.Expansion.Cycles
import ShaderCompose.Proofs.Expansion.Flattening
import ShaderCompose.Proofs.Flight.Turns
import ShaderCompose.Proofs.Sessions
import ShaderCompose.Proofs.Flight.Ownership
import ShaderCompose.Proofs.Flight.Sharing
import ShaderCompose.Proofs.Flight.Agreement
import ShaderCompose.Proofs.Path.Resolution
import ShaderCompose.Proofs.Relocation.Keys
import ShaderCompose.Proofs.Expansion.Dependencies
import ShaderCompose.Proofs.Relocation.Composition
import ShaderCompose.Proofs.Expansion.Bounds
import ShaderCompose.Proofs.Expansion.Recomposition
import ShaderCompose.Proofs.Expansion.Indices
import ShaderCompose.Proofs.Expansion.Refusals
import ShaderCompose.Proofs.Expansion.Edits
import ShaderCompose.Proofs.Expansion.Exactness
import ShaderCompose.Proofs.Text.Breaks
import ShaderCompose.Proofs.Effect.Separators
import ShaderCompose.Proofs.Effect.Parsing
import ShaderCompose.Proofs.Effect.Writing
import ShaderCompose.Proofs.Expansion.LineBreaks
import ShaderCompose.Proofs.Effect.Matching
import ShaderCompose.Proofs.Expansion.Chains
import ShaderCompose.Proofs.Expansion.Markers
import ShaderCompose.Proofs.Spelling.Names
import ShaderCompose.Proofs.Spelling.Lockstep
import ShaderCompose.Proofs.Spelling.Forwarding
import ShaderCompose.Proofs.Spelling.Slashes
import ShaderCompose.Proofs.Spelling.Backslashes
import ShaderCompose.Proofs.Spelling.IncludeForms
import ShaderCompose.Proofs.CompilerLog.References
import ShaderCompose.Proofs.CompilerLog.Translation
import ShaderCompose.Proofs.EffectKey
import ShaderCompose.Proofs.Source.BaseNames
import ShaderCompose.Proofs.Source.Identities
import ShaderCompose.Proofs.Template.TagFree
import ShaderCompose.Proofs.Source.Decoding
import ShaderCompose.Proofs.Effect.Bodies
import ShaderCompose.Proofs.Template.LinesInPlace
import ShaderCompose.Proofs.Template.SoleVariable
import ShaderCompose.Proofs.FrozenDict.Hashing
