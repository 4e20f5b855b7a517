import Mathlib

/-!
The exact value of a double. Negation turns the sign and nothing else, so that
it commutes with packing and with the rounding of a product. Main statement:
negating a factor negates the exact value of the rounded product.
-/

namespace HingeField.Doubles

open Float.Model
open Float.Model.UnpackedFloat (Sign packComponents unpackSign)

/-- The rational number that an unpacked finite double stands for; zero for the others. -/
def unpackedValue : UnpackedFloat → Rat
  | .finite sign mantissa exponent _ => (sign.apply mantissa : Rat) * (2 : Rat) ^ exponent
  | _ => 0

/-- The rational number that a finite double stands for; zero for the others. -/
def exactValue (x : Float) : Rat :=
  unpackedValue x.toModel.unpack

section Components

variable (format : Format) (sign : Sign) (exponent : BitVec format.exponentBits)
  (mantissa : BitVec format.mantissaBitsWithoutImplicit)

private theorem unpackSign_packComponents :
    unpackSign (packComponents format sign exponent mantissa) = sign.toBitVec := by
  ext place inside
  have first : place = 0 := by omega
  subst first
  simp [unpackSign, packComponents, BitVec.getLsbD_append, BitVec.getLsbD_eq_getElem,
    BitVec.getElem_append]

private theorem ofBitVec_toBitVec : Sign.ofBitVec sign.toBitVec = sign := by
  cases sign with
  | negative => rfl
  | positive => rfl

private theorem unpack_neg_packComponents :
    UnpackedFloat.unpack format (packComponents format (-sign) exponent mantissa) =
      (UnpackedFloat.unpack format (packComponents format sign exponent mantissa)).neg := by
  unfold UnpackedFloat.unpack
  simp only [UnpackedFloat.unpackMantissa_packComponents,
    UnpackedFloat.unpackExponent_packComponents, unpackSign_packComponents, ofBitVec_toBitVec]
  split
  · split
    · rfl
    · rfl
  · split
    · split
      · rfl
      · rfl
    · rfl

end Components

section Packing

variable (sign : Sign) (exponent : BitVec 11) (mantissa : BitVec 52)

private theorem toNat_implicitBit : (1#1 ++ mantissa).toNat = 2 ^ 52 + mantissa.toNat := by
  have disjoint := Nat.two_pow_add_eq_or_of_lt mantissa.isLt 1
  rw [BitVec.toNat_append, Nat.shiftLeft_eq, show (1#1).toNat * 2 ^ 52 = 2 ^ 52 * 1 from rfl,
    ← disjoint, Nat.mul_one]

/-- The double whose parts are given. -/
private theorem unpack_packComponents :
    UnpackedFloat.unpack Format.binary64
        (packComponents Format.binary64 sign exponent mantissa) =
      if exponent = -1#_ then if mantissa = 0#_ then .infinity sign else .notANumber
      else if exponent = 0#_ then
        if filled : mantissa = 0#_ then .zero sign
        else .finite sign mantissa.toNat (exponent.toNat - (1023 + 52 : Nat) + 1)
          (by simpa [BitVec.toNat_pos, BitVec.pos_iff_ne_zero])
      else .finite sign (1#1 ++ mantissa).toNat (exponent.toNat - (1023 + 52 : Nat))
        (by rw [toNat_implicitBit]; omega) := by
  unfold UnpackedFloat.unpack
  simp only [UnpackedFloat.unpackMantissa_packComponents,
    UnpackedFloat.unpackExponent_packComponents, unpackSign_packComponents, ofBitVec_toBitVec]
  rfl

private theorem pack_subnormal (filled : 0 < mantissa.toNat) :
    UnpackedFloat.pack Format.binary64
        (.finite sign mantissa.toNat ((0 : Nat) - (1023 + 52 : Nat) + 1) filled) =
      packComponents Format.binary64 sign 0#_ mantissa := by
  have short : mantissa.toNat.log2 < 52 := (Nat.log2_lt (by omega)).mpr mantissa.isLt
  have shape : ¬mantissa.toNat.log2 + 1 = Format.binary64.mantissaBits := by
    change ¬mantissa.toNat.log2 + 1 = 1 + 52
    omega
  have finite : ¬2 ^ Format.binary64.exponentBits ≤
      (((0 : Nat) - (1023 + 52 : Nat) + 1 : Int) + Format.binary64.exponentBias +
        Format.binary64.mantissaBitsWithoutImplicit).toNat + 1 := by
    decide
  unfold UnpackedFloat.pack
  simp only [if_neg finite, if_neg shape, BitVec.ofNat_toNat, BitVec.setWidth_eq]

private theorem pack_normal (bounded : exponent ≠ -1#_)
    (filled : 0 < (1#1 ++ mantissa).toNat) :
    UnpackedFloat.pack Format.binary64
        (.finite sign (1#1 ++ mantissa).toNat (exponent.toNat - (1023 + 52 : Nat)) filled) =
      packComponents Format.binary64 sign exponent mantissa := by
  have below := mantissa.isLt
  have size := toNat_implicitBit mantissa
  have full : (1#1 ++ mantissa).toNat.log2 + 1 = Format.binary64.mantissaBits := by
    change _ = 1 + 52
    rw [(Nat.log2_eq_iff (by omega)).mpr ⟨show 2 ^ 52 ≤ _ by omega, by omega⟩]
  have small : exponent.toNat < 2047 := by
    have width := exponent.isLt
    have different : exponent.toNat ≠ 2047 := fun same =>
      bounded (BitVec.eq_of_toNat_eq same)
    omega
  have unbiased : ((exponent.toNat : Int) - (1023 + 52 : Nat) + Format.binary64.exponentBias +
      Format.binary64.mantissaBitsWithoutImplicit).toNat = exponent.toNat := by
    change ((exponent.toNat : Int) - (1023 + 52 : Nat) + (1023 : Nat) + (52 : Nat)).toNat = _
    omega
  have finite : ¬2 ^ Format.binary64.exponentBits ≤ exponent.toNat + 1 := by
    change ¬2048 ≤ exponent.toNat + 1
    omega
  have lowBits : BitVec.ofNat 52 (1#1 ++ mantissa).toNat = mantissa := by
    apply BitVec.eq_of_toNat_eq
    rw [BitVec.toNat_ofNat, size]
    omega
  unfold UnpackedFloat.pack
  simp only [unbiased, if_neg finite, if_pos full, BitVec.ofNat_toNat, BitVec.setWidth_eq]
  exact congrArg (packComponents Format.binary64 sign exponent) lowBits

private theorem unpack_pack_unpack_packComponents :
    UnpackedFloat.unpack Format.binary64
        (UnpackedFloat.pack Format.binary64
          (UnpackedFloat.unpack Format.binary64
            (packComponents Format.binary64 sign exponent mantissa))) =
      UnpackedFloat.unpack Format.binary64
        (packComponents Format.binary64 sign exponent mantissa) := by
  rw [unpack_packComponents sign exponent mantissa]
  split
  · split
    · exact unpack_packComponents sign _ _
    · rfl
  · rename_i bounded
    split
    · rename_i zeroExponent
      subst zeroExponent
      split
      · exact unpack_packComponents sign _ _
      · rename_i filled
        have positive : 0 < mantissa.toNat := by
          simpa [BitVec.toNat_pos, BitVec.pos_iff_ne_zero]
        refine (congrArg _ (pack_subnormal sign mantissa positive)).trans ?_
        refine (unpack_packComponents sign _ _).trans ?_
        rw [if_neg bounded, if_pos rfl, dif_neg filled]
    · rename_i nonzero
      rw [pack_normal sign exponent mantissa bounded, unpack_packComponents,
        if_neg bounded, if_neg nonzero]

end Packing

private theorem toBitVec_ofBitVec (bit : BitVec 1) : (Sign.ofBitVec bit).toBitVec = bit := by
  revert bit
  decide

/-- A double is put together from its parts. -/
theorem exists_components (x : Float.Model) :
    ∃ (sign : Sign) (exponent : BitVec 11) (mantissa : BitVec 52),
      x.toBits.toBitVec = packComponents Format.binary64 sign exponent mantissa := by
  refine ⟨Sign.ofBitVec (@unpackSign Format.binary64 x.toBits.toBitVec),
    @UnpackedFloat.unpackExponent Format.binary64 x.toBits.toBitVec,
    @UnpackedFloat.unpackMantissa Format.binary64 x.toBits.toBitVec, ?_⟩
  unfold packComponents
  rw [toBitVec_ofBitVec]
  apply BitVec.eq_of_getLsbD_eq
  intro place inside
  unfold unpackSign UnpackedFloat.unpackExponent UnpackedFloat.unpackMantissa
  simp only [BitVec.getLsbD_append, BitVec.getLsbD_cast, BitVec.getLsbD_extractLsb]
  by_cases low : place < 52
  · simp [low]
  · by_cases middle : place - 52 < 11
    · simp [low, middle, show 52 + (place - 52) = place by omega]
    · obtain rfl : place = 63 := by omega
      rw [BitVec.getLsbD_eq_getElem inside]
      rfl

/-- Packing what was unpacked keeps its value. -/
theorem unpack_pack_unpack (x : Float.Model) : (Float.Model.pack x.unpack).unpack = x.unpack := by
  obtain ⟨sign, exponent, mantissa, parts⟩ := exists_components x
  unfold Float.Model.unpack
  rw [parts]
  exact unpack_pack_unpack_packComponents sign exponent mantissa

/-- Packing a number that was unpacked gives back the double. -/
theorem pack_unpack {x : Float.Model} (number : x.unpack ≠ .notANumber) :
    Float.Model.pack x.unpack = x := by
  obtain ⟨sign, exponent, mantissa, parts⟩ := exists_components x
  have sameBits : UnpackedFloat.pack Format.binary64 x.unpack = x.toBits.toBitVec := by
    unfold Float.Model.unpack at number ⊢
    rw [parts, unpack_packComponents] at number ⊢
    split
    · rename_i highest
      subst highest
      split
      · rename_i empty
        subst empty
        rfl
      · rename_i filled
        rw [if_pos rfl, if_neg filled] at number
        exact absurd rfl number
    · rename_i bounded
      split
      · rename_i lowest
        subst lowest
        split
        · rename_i empty
          subst empty
          rfl
        · rename_i filled
          exact pack_subnormal sign mantissa (by simpa [BitVec.toNat_pos, BitVec.pos_iff_ne_zero])
      · exact pack_normal sign exponent mantissa bounded _
  obtain ⟨bits, valid⟩ := x
  unfold Float.Model.pack
  congr 1
  exact UInt64.toBitVec_inj.mp sameBits

/-- What the significand and the exponent of a finite double can be. -/
theorem bounds_of_unpack {x : Float.Model} {sign : Sign} {significand : Nat} {exponent : Int}
    {filled : 0 < significand} (unpacked : x.unpack = .finite sign significand exponent filled) :
    significand < 2 ^ 53 ∧ -1074 ≤ exponent ∧ exponent ≤ 971 ∧
      (-1074 < exponent → 2 ^ 52 ≤ significand) := by
  obtain ⟨side, biased, mantissa, parts⟩ := exists_components x
  unfold Float.Model.unpack at unpacked
  rw [parts, unpack_packComponents] at unpacked
  have below := mantissa.isLt
  have width := biased.isLt
  split at unpacked
  · split at unpacked <;> cases unpacked
  · rename_i bounded
    have small : biased.toNat ≠ 2047 := fun same => bounded (BitVec.eq_of_toNat_eq same)
    split at unpacked
    · rename_i subnormal
      split at unpacked
      · cases unpacked
      · cases unpacked
        have zero : biased.toNat = 0 := congrArg BitVec.toNat subnormal
        omega
    · rename_i normal
      have nonzero : biased.toNat ≠ 0 := fun same => normal (BitVec.eq_of_toNat_eq same)
      have size := toNat_implicitBit mantissa
      cases unpacked
      omega

/-- Unpacking what was packed gives back a number in the range of the doubles. -/
theorem unpack_pack_finite (sign : Sign) {significand : Nat} {exponent : Int}
    (filled : 0 < significand) (bounded : significand < 2 ^ 53) (least : -1074 ≤ exponent)
    (small : exponent ≤ 971) (normal : -1074 < exponent → 2 ^ 52 ≤ significand) :
    (Float.Model.pack (.finite sign significand exponent filled)).unpack =
      .finite sign significand exponent filled := by
  change UnpackedFloat.unpack Format.binary64 (UnpackedFloat.pack Format.binary64 _) = _
  by_cases full : 2 ^ 52 ≤ significand
  · obtain ⟨mantissa, rfl⟩ : ∃ mantissa : BitVec 52, significand = (1#1 ++ mantissa).toNat :=
      ⟨BitVec.ofNat 52 significand, by rw [toNat_implicitBit, BitVec.toNat_ofNat]; omega⟩
    obtain ⟨biased, rfl⟩ : ∃ biased : BitVec 11,
        exponent = (biased.toNat : Int) - (1023 + 52 : Nat) :=
      ⟨BitVec.ofNat 11 (exponent + 1075).toNat, by rw [BitVec.toNat_ofNat]; omega⟩
    have nonzero : biased ≠ 0#_ := by
      rintro rfl
      change -1074 ≤ (0 : Int) - (1023 + 52 : Nat) at least
      omega
    have finite : biased ≠ -1#_ := by
      rintro rfl
      change (2047 : Int) - (1023 + 52 : Nat) ≤ 971 at small
      omega
    rw [pack_normal sign biased mantissa finite filled, unpack_packComponents, if_neg finite,
      if_neg nonzero]
  · obtain rfl : exponent = (0 : Nat) - (1023 + 52 : Nat) + 1 := by omega
    obtain ⟨mantissa, rfl⟩ : ∃ mantissa : BitVec 52, significand = mantissa.toNat :=
      ⟨BitVec.ofNat 52 significand, by rw [BitVec.toNat_ofNat]; omega⟩
    have nonzero : mantissa ≠ 0#_ := by
      rintro rfl
      exact Nat.lt_irrefl 0 filled
    rw [pack_subnormal sign mantissa filled, unpack_packComponents, if_neg (by decide),
      if_pos rfl, dif_neg nonzero]
    rfl

theorem unpack_pack_zero (sign : Sign) :
    (Float.Model.pack (.zero sign)).unpack = .zero sign :=
  unpack_packComponents sign 0#11 0#52

theorem unpack_pack_infinity (sign : Sign) :
    (Float.Model.pack (.infinity sign)).unpack = .infinity sign :=
  unpack_packComponents sign (-1#11) 0#52

theorem unpack_pack_notANumber : (Float.Model.pack .notANumber).unpack = .notANumber :=
  rfl

/-- A number beyond the range of the doubles is stored as an infinity. -/
theorem unpack_pack_large (sign : Sign) {significand : Nat} {exponent : Int}
    (filled : 0 < significand) (large : 971 < exponent) :
    (Float.Model.pack (.finite sign significand exponent filled)).unpack = .infinity sign := by
  have beyond : 2 ^ Format.binary64.exponentBits ≤
      (exponent + Format.binary64.exponentBias +
        Format.binary64.mantissaBitsWithoutImplicit).toNat + 1 := by
    change 2048 ≤ (exponent + (1023 : Nat) + (52 : Nat)).toNat + 1
    omega
  change UnpackedFloat.unpack Format.binary64 (UnpackedFloat.pack Format.binary64 _) = _
  unfold UnpackedFloat.pack
  simp only [if_pos beyond]
  exact unpack_packComponents sign (-1#11) 0#52

theorem unpack_pack_neg (unpacked : UnpackedFloat) :
    (Float.Model.pack unpacked.neg).unpack = (Float.Model.pack unpacked).unpack.neg := by
  change UnpackedFloat.unpack Format.binary64 (UnpackedFloat.pack Format.binary64 _) =
    (UnpackedFloat.unpack Format.binary64 (UnpackedFloat.pack Format.binary64 _)).neg
  cases unpacked with
  | notANumber => rfl
  | infinity sign => exact unpack_neg_packComponents _ sign _ _
  | zero sign => exact unpack_neg_packComponents _ sign _ _
  | finite sign mantissa exponent filled =>
      unfold UnpackedFloat.neg UnpackedFloat.pack
      simp only
      split
      · exact unpack_neg_packComponents _ sign _ _
      · split
        · exact unpack_neg_packComponents _ sign _ _
        · exact unpack_neg_packComponents _ sign _ _

theorem unpackedValue_neg (unpacked : UnpackedFloat) :
    unpackedValue unpacked.neg = -unpackedValue unpacked := by
  cases unpacked with
  | notANumber => rfl
  | infinity sign => rfl
  | zero sign => rfl
  | finite sign mantissa exponent filled =>
      have turned : (-sign).apply mantissa = -sign.apply mantissa := by
        cases sign with
        | negative => exact (Int.neg_neg _).symm
        | positive => rfl
      change ((-sign).apply mantissa : Rat) * _ = -((sign.apply mantissa : Rat) * _)
      rw [turned, Rat.intCast_neg, Rat.neg_mul]

/-- The rounding of a product does not depend on the sign of its factors. -/
theorem mul_neg (format : Format) (first second : UnpackedFloat) :
    UnpackedFloat.mul format first.neg second = (UnpackedFloat.mul format first second).neg := by
  have turned (sign other : Sign) : -sign * other = -(sign * other) := by
    cases sign <;> cases other <;> rfl
  cases first <;> cases second <;>
    simp only [UnpackedFloat.neg, UnpackedFloat.mul, turned]
  unfold UnpackedFloat.roundWithAccuracy
  simp only
  split
  · rfl
  · rfl

theorem unpack_neg_mul (x y : Float) :
    (-x * y).toModel.unpack = (x * y).toModel.unpack.neg := by
  have negated : (Float.Model.pack x.toModel.unpack.neg).unpack = x.toModel.unpack.neg := by
    rw [unpack_pack_neg, unpack_pack_unpack]
  change (Float.Model.pack (UnpackedFloat.mul Format.binary64
    (Float.Model.pack x.toModel.unpack.neg).unpack y.toModel.unpack)).unpack =
    (Float.Model.pack (UnpackedFloat.mul Format.binary64
      x.toModel.unpack y.toModel.unpack)).unpack.neg
  rw [negated, mul_neg, unpack_pack_neg]

/-- Negating a factor negates the exact value of the product. -/
theorem exactValue_neg_mul (x y : Float) : exactValue (-x * y) = -exactValue (x * y) := by
  unfold exactValue
  rw [unpack_neg_mul, unpackedValue_neg]

end HingeField.Doubles
