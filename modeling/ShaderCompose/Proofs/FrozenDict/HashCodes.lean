import Mathlib.Data.Int.ModEq
import Mathlib.Data.Nat.ModEq
import Mathlib.Tactic.Ring
import ShaderCompose.Proofs.FrozenDict.Entries

/-!
# Codes of equal values

A dictionary is hashed by codes of its values.  Any codes will do that texts have and that are equal
for equal values (`LawfulCodes`), and the hash codes are such (`HashCode.lawful`).  The point is
that numbers of different kinds can be equal.  Two to the power of 61 counts as one in a residue, so
that fractions with powers of two below them have equal residues if they are equal, and truth
values, integers and doubles all have the residue of their exact value.
-/

set_option autoImplicit false

namespace ShaderCompose

/-- Codes that dictionaries can be hashed by: texts have one, and equal values have equal ones. -/
structure LawfulCodes {Code : Type} (codeOf? : Value → Option Code) : Prop where
  text (t : Text) : (codeOf? (.text t)).isSome
  equal {a b : Value} {x y : Code} :
    a.EqualItems b → codeOf? a = some x → codeOf? b = some y → x = y

namespace HashCode

open Value (Magnitude)

/-! ## Residues -/

/-- A power of two whose exponent is a multiple of 61 counts as one. -/
theorem two_pow_modEq_one (n : Nat) : 2 ^ (61 * n) ≡ 1 [MOD modulus] := by
  have hperiod : 2 ^ 61 ≡ 1 [MOD modulus] := by decide
  rw [pow_mul]
  simpa using hperiod.pow n

/-- The factor that a residue has for a power of two is inverse to it. -/
theorem inverse_modEq_one (shift : Nat) :
    2 ^ (61 - shift % 61) * 2 ^ shift ≡ 1 [MOD modulus] := by
  have hexponent : 61 - shift % 61 + shift = 61 * (shift / 61 + 1) := by omega
  rw [← pow_add, hexponent]
  exact two_pow_modEq_one _

/-- Equal fractions have equal residues. -/
theorem residue_eq {num num' shift shift' : Nat} (h : num * 2 ^ shift' = num' * 2 ^ shift) :
    residue num shift = residue num' shift' := by
  have hleft : num * 2 ^ (61 - shift % 61) * (2 ^ (61 - shift' % 61) * 2 ^ shift') ≡
      num * 2 ^ (61 - shift % 61) [MOD modulus] := by
    simpa using (inverse_modEq_one shift').mul_left (num * 2 ^ (61 - shift % 61))
  have hright : num' * 2 ^ (61 - shift' % 61) * (2 ^ (61 - shift % 61) * 2 ^ shift) ≡
      num' * 2 ^ (61 - shift' % 61) [MOD modulus] := by
    simpa using (inverse_modEq_one shift).mul_left (num' * 2 ^ (61 - shift' % 61))
  have hmiddle : num * 2 ^ (61 - shift % 61) * (2 ^ (61 - shift' % 61) * 2 ^ shift') =
      num' * 2 ^ (61 - shift' % 61) * (2 ^ (61 - shift % 61) * 2 ^ shift) := by
    calc num * 2 ^ (61 - shift % 61) * (2 ^ (61 - shift' % 61) * 2 ^ shift')
        = num * 2 ^ shift' * (2 ^ (61 - shift % 61) * 2 ^ (61 - shift' % 61)) := by ring
      _ = num' * 2 ^ shift * (2 ^ (61 - shift % 61) * 2 ^ (61 - shift' % 61)) := by rw [h]
      _ = num' * 2 ^ (61 - shift' % 61) * (2 ^ (61 - shift % 61) * 2 ^ shift) := by ring
  exact hleft.symm.trans (hmiddle ▸ hright)

/-! ## Numbers -/

/-- The code that an exact value has.  The sign of zero does not matter. -/
inductive Coded : Magnitude → HashCode → Prop
  | fraction {num : Int} {shift : Nat} {negative : Bool} :
      (num ≠ 0 → negative = decide (num < 0)) →
        Coded (.fraction num (2 ^ shift)) (.number (signed negative (residue num.natAbs shift)))
  | infinite {negative : Bool} :
      Coded (.infinite negative) (.number (if negative then -314159 else 314159))
  | undefined : Coded .undefined .none

/-- Equal fractions have equal residues, with their signs. -/
theorem signed_residue_eq {num num' : Int} {shift shift' : Nat} {negative negative' : Bool}
    (hsign : num ≠ 0 → negative = decide (num < 0))
    (hsign' : num' ≠ 0 → negative' = decide (num' < 0))
    (h : num * (2 ^ shift' : Nat) = num' * (2 ^ shift : Nat)) :
    signed negative (residue num.natAbs shift) =
      signed negative' (residue num'.natAbs shift') := by
  have hpos : (0 : Int) < (2 ^ shift : Nat) := Int.natCast_pos.mpr (Nat.two_pow_pos shift)
  have hpos' : (0 : Int) < (2 ^ shift' : Nat) := Int.natCast_pos.mpr (Nat.two_pow_pos shift')
  have habs : num.natAbs * 2 ^ shift' = num'.natAbs * 2 ^ shift := by
    simpa [Int.natAbs_mul] using congrArg Int.natAbs h
  rw [residue_eq habs]
  -- zero has one residue whatever its sign; other equal fractions have the same sign
  by_cases hzero : num' = 0
  · have hresidue : residue num'.natAbs shift' = 0 := by simp [hzero, residue]
    rw [hresidue]
    cases negative <;> cases negative' <;> rfl
  · have hne : num ≠ 0 := by
      rintro rfl
      rw [zero_mul] at h
      exact (mul_ne_zero hzero hpos.ne') h.symm
    have hsame : num.sign = num'.sign := by
      have hproducts := congrArg Int.sign h
      rwa [Int.sign_mul, Int.sign_mul, Int.sign_eq_one_of_pos hpos, Int.sign_eq_one_of_pos hpos',
        mul_one, mul_one] at hproducts
    have hiff : num < 0 ↔ num' < 0 := by
      rw [← Int.sign_eq_neg_one_iff_neg, hsame, Int.sign_eq_neg_one_iff_neg]
    rw [hsign hne, hsign' hzero, decide_eq_decide.mpr hiff]

/-- A fraction is equal to no infinity. -/
theorem not_equal_infinite {num : Int} {den : Nat} {negative : Bool} :
    (Magnitude.fraction num den).equal (.infinite negative) = false ∧
      (Magnitude.infinite negative).equal (.fraction num den) = false := by
  cases negative <;> exact ⟨rfl, rfl⟩

/-- Equal exact values have one code. -/
theorem Coded.eq_of_equal {m n : Magnitude} {x y : HashCode} (hm : Coded m x) (hn : Coded n y)
    (h : m.equal n = true) : x = y := by
  cases hm with
  | fraction hsign =>
    cases hn with
    | fraction hsign' =>
      refine congrArg _ (signed_residue_eq hsign hsign' ?_)
      simpa [Magnitude.equal, Magnitude.order?, compare_eq_iff_eq] using h
    | infinite => cases not_equal_infinite.1.symm.trans h
    | undefined => cases h
  | @infinite negative =>
    cases hn with
    | fraction => cases not_equal_infinite.2.symm.trans h
    | @infinite negative' =>
      have hsame : negative = negative' := by
        cases negative <;> cases negative' <;> first | rfl | cases h
      rw [hsame]
    | undefined => cases h
  | undefined => cases h

/-- A truth value has the code of one or zero. -/
theorem coded_bool (b : Bool) :
    Coded (.fraction (if b then 1 else 0) 1) (.number (if b then 1 else 0)) := by
  cases b with
  | false => exact @Coded.fraction 0 0 false (by simp)
  | true => exact @Coded.fraction 1 0 false (by simp)

/-- An integer has the code of its residue, with its sign. -/
theorem coded_int (n : Int) :
    Coded (.fraction n 1) (.number (signed (decide (n < 0)) (residue n.natAbs 0))) :=
  @Coded.fraction n 0 _ fun _ => rfl

/-- A fraction that is given by its sign and its absolute value has the code of its residue, with
this sign. -/
theorem coded_signed (negative : Bool) (n shift : Nat) :
    Coded (.fraction (if negative then -(n : Int) else n) (2 ^ shift))
      (.number (signed negative (residue n shift))) := by
  have habs : (if negative then -(n : Int) else n).natAbs = n := by
    cases negative <;> simp
  have hsign : (if negative then -(n : Int) else n) ≠ 0 →
      negative = decide ((if negative then -(n : Int) else n) < 0) := by
    intro h
    cases negative with
    | false => simp
    | true =>
      have hn : n ≠ 0 := by simpa using h
      simpa using Nat.pos_of_ne_zero hn
  have hcoded := @Coded.fraction _ shift negative hsign
  rwa [habs] at hcoded

/-- A double has the code of its exact value. -/
theorem coded_float (x : Float) : Coded (.ofFloat x) (ofFloat x) := by
  unfold Magnitude.ofFloat ofFloat
  cases Decimal.Binary.ofFloat x with
  | undefined => exact .undefined
  | infinite negative => exact .infinite
  | finite negative mantissa exponent =>
    simp only [Decimal.scaled]
    by_cases h : 0 ≤ exponent
    · simp only [h, if_true]
      exact coded_signed negative _ 0
    · simp only [h, if_false]
      exact coded_signed negative mantissa _

/-- A number has the code of its exact value. -/
theorem coded_of_magnitude? {v : Value} {m : Magnitude} {x : HashCode}
    (hm : v.magnitude? = some m) (hx : of? v = some x) : Coded m x := by
  cases v with
  | bool b =>
    obtain rfl := Option.some.inj hm
    obtain rfl := Option.some.inj hx
    exact coded_bool b
  | int n =>
    obtain rfl := Option.some.inj hm
    obtain rfl := Option.some.inj hx
    exact coded_int n
  | float f =>
    obtain rfl := Option.some.inj hm
    obtain rfl := Option.some.inj hx
    exact coded_float f
  | _ => cases hm

/-- A number has no imaginary part. -/
theorem parts?_of_magnitude? {v : Value} {m : Magnitude} (h : v.magnitude? = some m) :
    v.parts? = some (m, .fraction 0 1) := by
  have hparts : v.parts? = v.magnitude?.map fun m => (m, .fraction 0 1) := by
    cases v with
    | complex => cases h
    | _ => rfl
  rw [hparts, h, Option.map_some]

/-- What has a code and is equal to a number is a number. -/
theorem exists_magnitude? {a b : Value} {y : HashCode} (hy : of? b = some y)
    (h : Value.equalNumbers a b = true) : ∃ n, b.magnitude? = some n := by
  cases b with
  | bool | int | float => exact ⟨_, rfl⟩
  | complex => cases hy
  | _ =>
    unfold Value.equalNumbers at h
    split at h
    · rename_i hparts
      cases hparts
    · cases h

/-- A number is compared with what has a code by its exact value. -/
theorem equal_of_magnitude? {a b : Value} {m : Magnitude} {y : HashCode}
    (hm : a.magnitude? = some m) (hy : of? b = some y) :
    Value.equal a b = .ok (Value.equalNumbers a b) := by
  cases a with
  | bool | int | float =>
    cases b with
    | gap => cases hy
    | _ => rfl
  | _ => cases hm

/-- What is equal to a number has its code. -/
theorem eq_of_equal_number {a b : Value} {m : Magnitude} {x y : HashCode}
    (hm : a.magnitude? = some m) (hx : of? a = some x) (hy : of? b = some y)
    (h : Value.equal a b = .ok true) : x = y := by
  rw [equal_of_magnitude? hm hy, Except.ok.injEq] at h
  obtain ⟨n, hn⟩ := exists_magnitude? hy h
  rw [Value.equalNumbers, parts?_of_magnitude? hm, parts?_of_magnitude? hn, Bool.and_eq_true] at h
  exact (coded_of_magnitude? hm hx).eq_of_equal (coded_of_magnitude? hn hy) h.1

/-! ## Values of all kinds -/

section

open Float.Model (Format)
open Float.Model.UnpackedFloat (unpack unpackExponent unpackMantissa)

/-- Bits are unpacked as a number that differs from itself if their exponent is the greatest and
their mantissa is not zero. -/
theorem of_isNaN_unpack {spec : Format} {bits : BitVec spec.numBits}
    (h : (unpack spec bits).isNaN = true) :
    unpackExponent bits = -1#_ ∧ unpackMantissa bits ≠ 0#_ := by
  by_cases hexponent : unpackExponent bits = -1#_
  · refine ⟨hexponent, fun hmantissa => ?_⟩
    have hinfinite : unpack spec bits = .infinity _ := (if_pos hexponent).trans (if_pos hmantissa)
    rw [hinfinite] at h
    cases h
  · have hfinite : unpack spec bits = _ := if_neg hexponent
    rw [hfinite] at h
    by_cases hzero : unpackExponent bits = 0#_
    · rw [if_pos hzero] at h
      by_cases hmantissa : unpackMantissa bits = 0#_
      · rw [dif_pos hmantissa] at h
        cases h
      · rw [dif_neg hmantissa] at h
        cases h
    · rw [if_neg hzero] at h
      cases h

/-- There is only one number that differs from itself. -/
theorem eq_of_isNaN {x y : Float} (hx : x.isNaN = true) (hy : y.isNaN = true) : x = y := by
  obtain ⟨⟨bits, hvalid⟩⟩ := x
  obtain ⟨⟨bits', hvalid'⟩⟩ := y
  obtain ⟨hexponent, hmantissa⟩ := of_isNaN_unpack hx
  obtain ⟨hexponent', hmantissa'⟩ := of_isNaN_unpack hy
  have hsame : bits.toBitVec = bits'.toBitVec :=
    (hvalid.eq_packedNaN hexponent hmantissa).trans
      (hvalid'.eq_packedNaN hexponent' hmantissa').symm
  obtain rfl := UInt64.eq_of_toBitVec_eq hsame
  rfl

end

/-- The one value that is no number is a double. -/
theorem exists_of_isUndefinedNumber {v : Value} (h : v.isUndefinedNumber = true) :
    ∃ f, v = .float f ∧ f.isNaN = true := by
  cases v with
  | float f => exact ⟨f, rfl, h⟩
  | _ => cases h

/-- Equal values have one code. -/
theorem eq_of_equal {a b : Value} {x y : HashCode} (hx : of? a = some x) (hy : of? b = some y)
    (h : Value.equal a b = .ok true) : x = y := by
  cases a with
  | bool | int | float => exact eq_of_equal_number rfl hx hy h
  | none =>
    cases b with
    | none => exact Option.some.inj (hx.symm.trans hy)
    | gap => cases hy
    | _ => cases h
  | text s =>
    cases b with
    | text t =>
      have hsame : s = t := by simpa [Value.equal] using h
      subst hsame
      exact Option.some.inj (hx.symm.trans hy)
    | gap => cases hy
    | _ => cases h
  | bytes data =>
    cases b with
    | bytes data' =>
      have hsame : data = data' := by simpa [Value.equal] using h
      subst hsame
      exact Option.some.inj (hx.symm.trans hy)
    | gap => cases hy
    | _ => cases h
  | _ => cases hx

/-- The hash codes are codes that dictionaries can be hashed by. -/
theorem lawful : LawfulCodes HashCode.of? where
  text _ := rfl
  equal := by
    intro a b x y h hx hy
    unfold Value.EqualItems Value.equalItem at h
    rw [Value.equalItems] at h
    split at h
    · rename_i hundefined
      rw [Bool.and_eq_true] at hundefined
      obtain ⟨f, rfl, hf⟩ := exists_of_isUndefinedNumber hundefined.1
      obtain ⟨g, rfl, hg⟩ := exists_of_isUndefinedNumber hundefined.2
      rw [eq_of_isNaN hf hg] at hx
      exact Option.some.inj (hx.symm.trans hy)
    · split at h
      · rename_i hequal
        exact eq_of_equal hx hy hequal
      · exact eq_of_equal hx hy h

end HashCode

end ShaderCompose
