import Mathlib.Algebra.Ring.Nat
import NumberPattern.Proofs.Double.Sign

/-! The one form in which a double holds a finite value: a mantissa of 53 bits, or of fewer at the least
exponent. Packing a value in this form loses nothing. -/

namespace NumberPattern.Double
open Float.Model (UnpackedFloat Format)
open Float.Model.UnpackedFloat (Sign)

structure Canonical (mantissa : Nat) (exponent : Int) : Prop where
  bits : mantissa < 2 ^ 53
  least : -1074 ≤ exponent
  full : 2 ^ 52 ≤ mantissa ∨ exponent = -1074

/-- A value as the bits of a double can hold it. -/
def IsStored : UnpackedFloat → Prop
  | .finite _ mantissa exponent _ => Canonical mantissa exponent ∧ exponent ≤ 971
  | _ => True

section Packing

variable {sign : Sign} {mantissa : Nat} {exponent : Int} {positive : 0 < mantissa}

theorem finite_eq {mantissa' : Nat} {exponent' : Int} {positive' : 0 < mantissa'} (same : mantissa = mantissa')
    (same' : exponent = exponent') :
    UnpackedFloat.finite sign mantissa exponent positive = .finite sign mantissa' exponent' positive' := by
  cases same
  cases same'
  rfl

theorem toNat_implicit (bits : BitVec 52) : (1#1 ++ bits).toNat = 2 ^ 52 + bits.toNat := by
  rw [BitVec.toNat_append, ← Nat.shiftLeft_add_eq_or_of_lt bits.isLt]
  rfl

theorem implicit_ofNat (bits : mantissa < 2 ^ 53) (full : 2 ^ 52 ≤ mantissa) :
    (1#1 ++ BitVec.ofNat 52 mantissa).toNat = mantissa := by
  rw [toNat_implicit, BitVec.toNat_ofNat]
  omega

theorem isStored_unpack (bits : BitVec Format.binary64.numBits) :
    IsStored (UnpackedFloat.unpack Format.binary64 bits) := by
  have few : (UnpackedFloat.unpackMantissa bits).toNat < 2 ^ 52 := (UnpackedFloat.unpackMantissa bits).isLt
  have small : (UnpackedFloat.unpackExponent bits).toNat < 2 ^ 11 := (UnpackedFloat.unpackExponent bits).isLt
  have bias : (Format.binary64.exponentBias : Int) + 52 = 1075 := rfl
  unfold UnpackedFloat.unpack
  dsimp only
  by_cases top : UnpackedFloat.unpackExponent bits = -1#11
  · rw [if_pos top]
    by_cases none : UnpackedFloat.unpackMantissa bits = 0#52
    · rw [if_pos none]
      trivial
    · rw [if_neg none]
      trivial
  rw [if_neg top]
  have below : (UnpackedFloat.unpackExponent bits).toNat ≠ 2047 := by
    intro same
    exact top (BitVec.eq_of_toNat_eq same)
  by_cases least : UnpackedFloat.unpackExponent bits = 0#11
  · rw [if_pos least]
    by_cases none : UnpackedFloat.unpackMantissa bits = 0#52
    · rw [dif_pos none]
      trivial
    · have zero : (UnpackedFloat.unpackExponent bits).toNat = 0 := congrArg BitVec.toNat least
      rw [dif_neg none]
      exact ⟨⟨by omega, by omega, Or.inr (by omega)⟩, by omega⟩
  · rw [if_neg least]
    have above : (UnpackedFloat.unpackExponent bits).toNat ≠ 0 := by
      intro zero
      exact least (BitVec.eq_of_toNat_eq zero)
    refine ⟨⟨?_, ?_, Or.inl ?_⟩, ?_⟩
    · rw [toNat_implicit]; omega
    · omega
    · rw [toNat_implicit]; omega
    · omega

theorem isStored_parts (value : Float) : IsStored (parts value) := isStored_unpack _

theorem unpack_of_normal {word : BitVec Format.binary64.numBits} {bits : BitVec 52} {stored : BitVec 11}
    (signed : Sign.ofBitVec (UnpackedFloat.unpackSign word) = sign) (found : UnpackedFloat.unpackMantissa word = bits)
    (found' : UnpackedFloat.unpackExponent word = stored) (top : stored ≠ -1#11) (least : stored ≠ 0#11)
    (full : 0 < (1#1 ++ bits).toNat) :
    UnpackedFloat.unpack Format.binary64 word =
      .finite sign (1#1 ++ bits).toNat (stored.toNat - 1075) full := by
  cases signed
  cases found
  cases found'
  unfold UnpackedFloat.unpack
  dsimp only
  rw [if_neg top, if_neg least]
  rfl

theorem unpack_of_subnormal {word : BitVec Format.binary64.numBits} {bits : BitVec 52}
    (signed : Sign.ofBitVec (UnpackedFloat.unpackSign word) = sign) (found : UnpackedFloat.unpackMantissa word = bits)
    (least : UnpackedFloat.unpackExponent word = 0#11) (some_ : 0 < bits.toNat) :
    UnpackedFloat.unpack Format.binary64 word = .finite sign bits.toNat (-1074) some_ := by
  cases signed
  cases found
  have filled : UnpackedFloat.unpackMantissa word ≠ 0#52 := by
    intro none
    rw [none] at some_
    exact absurd some_ (Nat.lt_irrefl 0)
  unfold UnpackedFloat.unpack
  dsimp only
  rw [if_neg (by rw [least]; decide), if_pos least, dif_neg filled]
  apply finite_eq rfl
  rw [least]
  rfl

theorem unpack_normal (sign : Sign) (bits : BitVec 52) {biased : Nat} (above : 0 < biased) (below : biased < 2047)
    (full : 0 < (1#1 ++ bits).toNat) :
    UnpackedFloat.unpack Format.binary64
        (UnpackedFloat.packComponents Format.binary64 sign (BitVec.ofNat 11 biased) bits) =
      .finite sign (1#1 ++ bits).toNat (biased - 1075) full := by
  have kept : (BitVec.ofNat 11 biased).toNat = biased := by
    rw [BitVec.toNat_ofNat]
    omega
  have top : BitVec.ofNat 11 biased ≠ -1#11 := by
    intro same
    have same : (BitVec.ofNat 11 biased).toNat = 2047 := congrArg BitVec.toNat same
    omega
  have least : BitVec.ofNat 11 biased ≠ 0#11 := by
    intro same
    have same : (BitVec.ofNat 11 biased).toNat = 0 := congrArg BitVec.toNat same
    omega
  calc
    UnpackedFloat.unpack Format.binary64 _
    _ = .finite sign (1#1 ++ bits).toNat ((BitVec.ofNat 11 biased).toNat - 1075) full :=
      unpack_of_normal (unpackSign_packComponents ..) UnpackedFloat.unpackMantissa_packComponents
        UnpackedFloat.unpackExponent_packComponents top least full
    _ = .finite sign (1#1 ++ bits).toNat (biased - 1075) full := finite_eq rfl (by rw [kept])

theorem unpack_subnormal (sign : Sign) {bits : BitVec 52} (some_ : 0 < bits.toNat) :
    UnpackedFloat.unpack Format.binary64 (UnpackedFloat.packComponents Format.binary64 sign 0#11 bits) =
      .finite sign bits.toNat (-1074) some_ :=
  unpack_of_subnormal (unpackSign_packComponents ..) UnpackedFloat.unpackMantissa_packComponents
    UnpackedFloat.unpackExponent_packComponents some_

/-- What is packed of a finite value, by the exponent that is stored and the length of the mantissa. -/
theorem pack_finite (least : -1074 ≤ exponent) :
    UnpackedFloat.pack Format.binary64 (.finite sign mantissa exponent positive) =
      if 971 < exponent then UnpackedFloat.packedInfinity Format.binary64 sign
      else if mantissa.log2 = 52 then
        UnpackedFloat.packComponents Format.binary64 sign (BitVec.ofNat 11 (exponent + 1075).toNat)
          (BitVec.ofNat 52 mantissa)
      else UnpackedFloat.packComponents Format.binary64 sign 0#11 (BitVec.ofNat 52 mantissa) := by
  have biased : (exponent + (Format.binary64.exponentBias : Int) +
      (Format.binary64.mantissaBitsWithoutImplicit : Int)).toNat = (exponent + 1075).toNat := by
    change (exponent + 1023 + 52).toNat = _
    omega
  have top : 2 ^ Format.binary64.exponentBits ≤ (exponent + 1075).toNat + 1 ↔ 971 < exponent := by
    change 2048 ≤ _ ↔ _
    omega
  have width : mantissa.log2 + 1 = Format.binary64.mantissaBits ↔ mantissa.log2 = 52 := by
    change _ = 53 ↔ _
    omega
  unfold UnpackedFloat.pack
  simp only [biased, top, width]

/-- A value in this form is stored as it is, unless it is too large. -/
theorem stored_finite (canonical : Canonical mantissa exponent) :
    stored (.finite sign mantissa exponent positive) =
      if 971 < exponent then .infinity sign else .finite sign mantissa exponent positive := by
  obtain ⟨bits, least, full⟩ := canonical
  change UnpackedFloat.unpack _ (UnpackedFloat.pack _ _) = _
  rw [pack_finite least]
  by_cases beyond : 971 < exponent
  · rw [if_pos beyond, if_pos beyond]
    cases sign <;> rfl
  · rw [if_neg beyond, if_neg beyond]
    by_cases long : 2 ^ 52 ≤ mantissa
    · have normal : mantissa.log2 = 52 := (Nat.log2_eq_iff (by omega)).mpr ⟨long, bits⟩
      have whole := implicit_ofNat bits long
      rw [if_pos normal, unpack_normal sign _ (by omega) (by omega) (by omega)]
      exact finite_eq whole (by omega)
    · have short : mantissa.log2 ≠ 52 := by
        intro normal
        exact long ((Nat.log2_eq_iff (by omega)).mp normal).1
      have kept : (BitVec.ofNat 52 mantissa).toNat = mantissa := by
        rw [BitVec.toNat_ofNat]
        omega
      obtain rfl : exponent = -1074 := full.resolve_left long
      rw [if_neg short, unpack_subnormal sign (by omega)]
      exact finite_eq kept rfl

theorem stored_eq {value : UnpackedFloat} (fits : IsStored value) : stored value = value := by
  cases value with
  | notANumber => rfl
  | infinity sign | zero sign => cases sign <;> rfl
  | finite sign mantissa exponent positive => rw [stored_finite fits.1, if_neg (Int.not_lt.mpr fits.2)]

end Packing

end NumberPattern.Double
