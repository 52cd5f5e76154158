import ShaderCompose.Effect.Basic
import ShaderCompose.Failure

/-!
# Notices

Errors and warnings that callers make themselves.  Their parts may be values of any kind: they are
kept as they are passed, and the description shows them.
-/

set_option autoImplicit false

namespace ShaderCompose

/-- The errors and warnings that can be made. -/
inductive NoticeKind where
  | effectError
  | templateError
  | warning
  | sourceNotFound
  | sourceUnavailable
  | sectionNotFound
  | cyclicInclude
  | invalidKey
  | duplicateSection
  | duplicateInclude
deriving DecidableEq, Repr

/-- The name of a kind of notices. -/
def NoticeKind.name : NoticeKind → String
  | .effectError => "EffectError"
  | .templateError => "TemplateError"
  | .warning => "CompositionWarning"
  | .sourceNotFound => "SourceNotFound"
  | .sourceUnavailable => "SourceUnavailable"
  | .sectionNotFound => "SectionNotFound"
  | .cyclicInclude => "CyclicInclude"
  | .invalidKey => "InvalidEffectKey"
  | .duplicateSection => "DuplicateSectionKey"
  | .duplicateInclude => "DuplicateInclude"

/-- Whether notices of a kind are only remarks. -/
def NoticeKind.isWarning : NoticeKind → Bool
  | .warning | .duplicateSection | .duplicateInclude => true
  | _ => false

/-- The parameters of the notices of a kind and how many of the last ones may be left out, or
nothing if any number of parts is taken. -/
def NoticeKind.parameters? : NoticeKind → Option (List String × Nat)
  | .effectError | .templateError | .warning => none
  | .sourceNotFound => some (["requested", "detail"], 1)
  | .sourceUnavailable => some (["source_file", "reason"], 0)
  | .sectionNotFound => some (["effect_identity", "section_key", "effect_key"], 1)
  | .cyclicInclude => some (["chain"], 0)
  | .invalidKey => some (["key"], 0)
  | .duplicateSection => some (["effect_identity", "key", "first_line", "line"], 0)
  | .duplicateInclude => some (["effect_identity", "key", "effect_key"], 0)

/-- A part of a notice: a value, or a source file. -/
inductive NoticePart where
  | value (v : Value)
  | file (f : SourceFile)

namespace NoticePart

/-- A part as it is printed. -/
def display : NoticePart → Text
  | .value v => v.display
  | .file f => f.location

/-- A part as it is shown inside a collection. -/
def inspect : NoticePart → Text
  | .value v => v.inspect
  | .file f => f.summary

/-- A part as it is printed, unless it counts as false. -/
def displayIfTrue : NoticePart → Option Text
  | .value v => if v.truth then some v.display else none
  | .file f => some f.location

end NoticePart

/-- An error or warning with its description, and its parts by name. -/
structure Notice where
  kind : NoticeKind
  message : Text
  parts : List (String × NoticePart)

namespace Notice

/-- The description of a notice that takes any parts. -/
def plainMessage : List NoticePart → Text
  | [] => []
  | [part] => part.display
  | parts => '(' :: (Text.joinWith ", ".toList (parts.map NoticePart.inspect) ++ [')'])

/-- The members of a chain, whatever it is kept in. -/
def chainOf : NoticePart → Except Failure (List Value)
  | .value (.list items) => .ok items
  | .value (.text t) => .ok (t.map fun c => .text [c])
  | .value (.bytes data) => .ok (data.map fun byte => .int byte.toNat)
  | .value (.dict entries) => .ok (entries.map Prod.fst)
  | .value v => .error (.evaluation (.notIterable v.kindName))
  | .file _ => .error (.evaluation (.notIterable "SourceFile".toList))

/-- The texts of a chain, the first of whose members is at the given place. -/
def chainTexts : Nat → List Value → Except Failure (List Text)
  | _, [] => .ok []
  | place, .text t :: rest => (chainTexts (place + 1) rest).map (t :: ·)
  | place, v :: _ => .error (.evaluation (.itemNeedsText place v.kindName))

/-- The notice of a kind with the given parts, one for each parameter. -/
def assemble (kind : NoticeKind) (parts : List NoticePart) : Except Failure Notice :=
  match kind, parts with
  | .sourceNotFound, [requested, detail] =>
    .ok ⟨kind, Wording.sourceNotFound requested.display detail.displayIfTrue,
      [("requested", requested)]⟩
  | .sourceUnavailable, [.file f, reason] =>
    .ok ⟨kind, Wording.sourceUnavailable f reason.display, [("source_file", .file f)]⟩
  | .sourceUnavailable, .value v :: _ =>
    .error (.misuse (.lacksMember v.kindName "identity".toList))
  | .sectionNotFound, [identity, sectionKey, effectKey] =>
    .ok ⟨kind,
      Wording.sectionNotFound identity.inspect sectionKey.display effectKey.displayIfTrue,
      [("effect_identity", identity), ("section_key", sectionKey), ("effect_key", effectKey)]⟩
  | .cyclicInclude, [chain] => do
    let members ← chainOf chain
    let texts ← chainTexts 0 members
    pure ⟨kind, Wording.cyclicInclude texts, [("chain", .value (.list members))]⟩
  | .invalidKey, [key] => .ok ⟨kind, Wording.invalidKey key.display, [("key", key)]⟩
  | .duplicateSection, [identity, key, firstLine, line] =>
    .ok ⟨kind,
      Wording.duplicateSection identity.inspect key.display firstLine.display line.display,
      [("effect_identity", identity), ("key", key), ("first_line", firstLine), ("line", line)]⟩
  | .duplicateInclude, [identity, key, effectKey] =>
    .ok ⟨kind, Wording.duplicateInclude effectKey.display,
      [("effect_identity", identity), ("key", key), ("effect_key", effectKey)]⟩
  | _, _ => .ok ⟨kind, plainMessage parts, []⟩

/-- The notice of a kind that some arguments make. -/
def make (kind : NoticeKind) (args : List NoticePart) : Except Failure Notice :=
  match kind.parameters? with
  | none => assemble kind args
  | some (parameters, optional) =>
    let signature := Signature.ofParts kind.name parameters optional
    match signature.bind (.value .none :: args) [] with
    | .error e => .error (.misuse (.call e))
    | .ok bound => assemble kind ((bound.drop 1).map fun part => part.getD (.value .none))

end Notice

end ShaderCompose
