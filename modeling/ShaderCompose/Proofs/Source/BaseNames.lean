import ShaderCompose.Proofs.Source.Candidates
import ShaderCompose.Proofs.Spelling.Names

/-!
# Declarations under base names

A declaration under a name without a directory is for that name in every directory: letters are
lowered one part of a path at a time, so neither what stands in front of a slash nor the slash
itself makes a difference to the last part.  A source that is declared with a place is in that place
under all of these names (`resolve_in_directory`).  The name that counts is the one with slashes for
backslashes, which is what resolving looks for.
-/

set_option autoImplicit false

namespace ShaderCompose

namespace Registry

/-- A declaration under a base name is for that name in every directory.  With such declarations
only, the directory in front of a name makes no difference to the declaration that is found, nor to
the place of the source if that declaration says where it is. -/
theorem resolve_in_directory (dir name : Text) :
    (∀ d : Declaration, '/' ∉ d.logicalName → d.isFor (dir ++ '/' :: name) = d.isFor name) ∧
    ∀ r : Registry, r.Undivided →
      r.findDeclaration (dir ++ '/' :: name) = r.findDeclaration name ∧
      r.findDeclaration (Text.slashed (dir ++ '/' :: name)) =
        r.findDeclaration (Text.slashed name) ∧
      ∀ d, r.findDeclaration (Text.slashed name) = some d → d.Placed →
        Agree SourceFile.SamePlace (r.resolve name) (r.resolve (dir ++ '/' :: name)) := by
  have hlast : ∀ dir name : Text, Path.lastPart (dir ++ '/' :: name) = Path.lastPart name :=
    fun dir name => Path.lastPart_append dir name
  have hslashed : Text.slashed (dir ++ '/' :: name) =
      Text.slashed dir ++ '/' :: Text.slashed name := Text.slashed_append dir _
  refine ⟨fun d hd => ?_, fun r hundivided => ?_⟩
  · rw [Declaration.isFor_of_notMem hd, Declaration.isFor_of_notMem hd, hlast]
  · have hsame : r.findDeclaration (Text.slashed (dir ++ '/' :: name)) =
        r.findDeclaration (Text.slashed name) :=
      hundivided.findDeclaration (by rw [hslashed, hlast])
    refine ⟨hundivided.findDeclaration (hlast dir name), hsame, fun d hfind hplaced => ?_⟩
    refine resolve_samePlace (fun _ => rfl) hsame fun hunplaced => ?_
    obtain ⟨hpackage, hlocation⟩ := hunplaced d hfind
    rcases hplaced with hembedded | hlocated
    · simp [Declaration.embedded, hpackage] at hembedded
    · exact absurd hlocation hlocated

/-- A source that is declared under a name in capitals with a sigma at its end. -/
def lagunaScene : Registry :=
  ⟨[⟨"ΚΎΜΑΣ".toList, some "wave.glsl".toList, none⟩], "fx".toList, "glsl".toList,
    .table [("fx/wave.glsl".toList, .text "-- swell\nw\n".toList)], "/work".toList⟩

/-- The source is found in the place of its declaration by its name in lower case, in a directory
and without one, although the last sigma of the name has another form. -/
theorem resolve_in_directory_laguna :
    (∀ d ∈ lagunaScene.declarations, d.isFor ("ΑΣ".toList ++ '/' :: "κύμας".toList) = true) ∧
    ∃ near far, lagunaScene.resolve "κύμας".toList = .ok near ∧
      lagunaScene.resolve ("ΑΣ".toList ++ '/' :: "κύμας".toList) = .ok far ∧
      near.location = "fx/wave.glsl".toList ∧ near.SamePlace far := by
  have hundivided : lagunaScene.Undivided := by
    unfold Undivided
    decide
  have hplaced : ∀ d ∈ lagunaScene.declarations, d.Placed := by
    simp [lagunaScene, Declaration.Placed]
  obtain ⟨d, hfind⟩ := Option.isSome_iff_exists.mp
    (show (lagunaScene.findDeclaration (Text.slashed "κύμας".toList)).isSome = true by
      decide +kernel)
  have hnames : ∀ d ∈ lagunaScene.declarations, d.isFor "κύμας".toList = true := by
    decide +kernel
  obtain ⟨hisFor, hresolve⟩ := resolve_in_directory "ΑΣ".toList "κύμας".toList
  have hagree := (hresolve lagunaScene hundivided).2.2 d hfind
    (hplaced d (List.mem_of_find?_eq_some hfind))
  obtain ⟨near, far, hnear, hfar, hlocation, hsame⟩ := hagree.exists_of_any
    (fun near => near.location == "fx/wave.glsl".toList) (by decide +kernel)
  exact ⟨fun d hd => (hisFor d (hundivided d hd)).trans (hnames d hd),
    near, far, hnear, hfar, beq_iff_eq.mp hlocation, hsame⟩

/-- A source that is declared under a name with a backslash, and a file at the default location of
the name with a slash. -/
def weirScene : Registry :=
  ⟨[⟨"a\\b".toList, some "decl.glsl".toList, none⟩], "fx".toList, "glsl".toList,
    .table [("decl.glsl".toList, .text "-- main\nd\n".toList),
      ("fx/a/b.glsl".toList, .text "-- main\nb\n".toList)], "/work".toList⟩

/-- The declaration for the names as they are written need not be the one that they resolve by. -/
theorem not_forall_resolve_in_directory :
    ¬ ∀ (r : Registry) (dir name : Text), r.Undivided → '/' ∉ name →
      ∀ d, r.findDeclaration name = some d → d.Placed →
        Agree SourceFile.SamePlace (r.resolve name) (r.resolve (dir ++ '/' :: name)) := by
  intro hall
  have hundivided : weirScene.Undivided := by
    unfold Undivided
    decide
  have hplaced : ∀ d ∈ weirScene.declarations, d.Placed := by
    simp [weirScene, Declaration.Placed]
  obtain ⟨d, hfind⟩ := Option.isSome_iff_exists.mp
    (show (weirScene.findDeclaration "a\\b".toList).isSome = true by decide +kernel)
  have hsame := (hall weirScene "p".toList "a\\b".toList hundivided (by decide) d hfind
    (hplaced d (List.mem_of_find?_eq_some hfind))).isSome_toOption
  have hnear : (weirScene.resolve "a\\b".toList).toOption.isSome = true := by
    decide +kernel
  have hfar : (weirScene.resolve "p/a\\b".toList).toOption.isSome = false := by
    decide +kernel
  rw [hnear] at hsame
  exact absurd (hfar.symm.trans hsame) (by decide)

end Registry

end ShaderCompose
