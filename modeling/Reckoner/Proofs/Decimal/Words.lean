import Reckoner.Proofs.Decimal.Midpoints

/-!
# The words of doubles

A finite double is its sign and its magnitude (`eq_of_magnitude`). Other than zero it is unpacked
into these (`unpack_of_ofFloat`), and each sign and dyadic number of canonical form is packed into
the double that has them (`ofFloat_toFloat`, `sign_toFloat`).
-/

namespace Reckoner

open Float.Model Float.Model.UnpackedFloat

/-! ## Words as numbers -/

/-- The word of a dyadic number of canonical form, without the sign: below the hidden bit it is the
significand, and from there on the exponent stands in front of the other bits. -/
def Dyadic.word (x : Dyadic) : ℕ :=
  if x.significand < 2 ^ 52 then x.significand
  else (x.exponent + 1075).toNat * 2 ^ 52 + (x.significand - 2 ^ 52)

theorem Dyadic.Canonical.word_lt {x : Dyadic} (canonical : x.Canonical) :
    x.word < 2047 * 2 ^ 52 := by
  have bits := canonical.significand
  have least := canonical.least
  have greatest := canonical.greatest
  rw [word]
  split
  · omega
  · omega

namespace Magnitude

/-- The sign of a double. -/
def sign (x : Float) : Sign := if isNegative x then .negative else .positive

theorem toBits_of_ofFloat {x : Float} {value : Dyadic} (finite : ofFloat x = .finite value) :
    x.toBits.toNat % 2 ^ 63 = value.word := by
  have size : x.toBits.toNat < 2 ^ 64 := x.toBits.toNat_lt
  have hidden : Dyadic.hiddenBit = 2 ^ 52 := rfl
  have width : Nat.pow 2 11 = 2 ^ 11 := rfl
  rw [ofFloat, hidden, width] at finite
  split at finite
  · split at finite <;> cases finite
  · split at finite
    · cases finite
      rw [Dyadic.word]
      dsimp only
      rw [if_pos (by omega)]
      omega
    · cases finite
      rw [Dyadic.word, Dyadic.leastExponent]
      dsimp only
      rw [if_neg (by omega)]
      omega

theorem ofFloat_of_toBits {x : Float} {value : Dyadic} (canonical : value.Canonical)
    (word : x.toBits.toNat % 2 ^ 63 = value.word) : ofFloat x = .finite value := by
  have size : x.toBits.toNat < 2 ^ 64 := x.toBits.toNat_lt
  have bits := canonical.significand
  have least := canonical.least
  have greatest := canonical.greatest
  have hidden : Dyadic.hiddenBit = 2 ^ 52 := rfl
  have width : Nat.pow 2 11 = 2 ^ 11 := rfl
  obtain ⟨significand, exponent⟩ := value
  rw [Dyadic.word] at word
  rw [ofFloat, hidden, width, Dyadic.leastExponent]
  dsimp only at *
  split at word
  · have exact := canonical.normal.resolve_left (by simp; omega)
    dsimp only at exact
    rw [if_neg (by omega), if_pos (by omega)]
    congr 2
    · omega
    · omega
  · rw [if_neg (by omega), if_neg (by omega)]
    congr 2
    · omega
    · omega

end Magnitude

/-- **A finite double is its sign and its magnitude.** -/
theorem eq_of_magnitude {x y : Float} {value : Dyadic}
    (first : Magnitude.ofFloat x = .finite value) (second : Magnitude.ofFloat y = .finite value)
    (same : Magnitude.sign x = Magnitude.sign y) : x = y := by
  apply eq_of_toBits
  have size : x.toBits.toNat < 2 ^ 64 := x.toBits.toNat_lt
  have other : y.toBits.toNat < 2 ^ 64 := y.toBits.toNat_lt
  have word := (Magnitude.toBits_of_ofFloat first).trans (Magnitude.toBits_of_ofFloat second).symm
  have top : Nat.pow 2 63 = 2 ^ 63 := rfl
  rw [Magnitude.sign, Magnitude.sign, Magnitude.isNegative, Magnitude.isNegative, top] at same
  simp only [decide_eq_true_eq] at same
  have both : x.toBits.toNat / 2 ^ 63 = 1 ↔ y.toBits.toNat / 2 ^ 63 = 1 := by
    constructor
    · intro negative
      by_contra positive
      rw [if_pos negative, if_neg positive] at same
      cases same
    · intro negative
      by_contra positive
      rw [if_neg positive, if_pos negative] at same
      cases same
  omega

/-! ## Unpacking -/

namespace Magnitude

section Word

variable (word : BitVec Format.binary64.numBits)

theorem toNat_unpackSign : (unpackSign word).toNat = word.toNat / 2 ^ 63 := by
  have size : word.toNat < 2 ^ 64 := word.isLt
  delta unpackSign
  rw [BitVec.toNat_cast, BitVec.extractLsb_toNat, Nat.shiftRight_eq_div_pow]
  show word.toNat / 2 ^ 63 % 2 = _
  omega

theorem ofBitVec_unpackSign :
    Sign.ofBitVec (unpackSign word) = if word.toNat / 2 ^ 63 = 1 then .negative else .positive := by
  have size : word.toNat < 2 ^ 64 := word.isLt
  have bit := toNat_unpackSign word
  rw [Sign.ofBitVec]
  split
  · rename_i positive
    rw [positive] at bit
    rw [if_neg (by rw [← bit]; decide)]
  · rename_i negative
    have other : (unpackSign word).toNat ≠ 0 := fun zero => negative (BitVec.eq_of_toNat_eq zero)
    rw [if_pos (by omega)]

/-- The parts of a finite word other than zero. -/
theorem unpack_word {value : Dyadic} (canonical : value.Canonical)
    (nonzero : 0 < value.significand) (same : word.toNat % 2 ^ 63 = value.word) :
    UnpackedFloat.unpack .binary64 word =
      .finite (if word.toNat / 2 ^ 63 = 1 then .negative else .positive) value.significand
        value.exponent nonzero := by
  have bits := canonical.significand
  have least := canonical.least
  have greatest := canonical.greatest
  have exponent := toNat_unpackExponent word
  have mantissa := toNat_unpackMantissa word
  have hidden : Dyadic.hiddenBit = 2 ^ 52 := rfl
  have width : Nat.pow 2 11 = 2 ^ 11 := rfl
  have bias : (Format.binary64.exponentBias + Format.binary64.mantissaBitsWithoutImplicit : ℤ) =
    1075 := rfl
  rw [hidden] at exponent mantissa
  rw [width] at exponent
  rw [Dyadic.word] at same
  have finite : unpackExponent word ≠ -1#_ := by
    rw [Ne, unpackExponent_eq_top_iff, hidden, width]
    split at same
    · omega
    · omega
  delta UnpackedFloat.unpack
  dsimp only
  rw [if_neg finite, bias, ofBitVec_unpackSign]
  split at same
  · have exact := canonical.normal.resolve_left (by omega)
    have zero : unpackExponent word = 0#_ := by
      rw [← BitVec.toNat_inj, exponent]
      show _ = 0
      omega
    have fraction : unpackMantissa word ≠ 0#_ := by
      rw [Ne, unpackMantissa_eq_zero_iff, hidden]
      omega
    rw [if_pos zero, dif_neg fraction, UnpackedFloat.finite.injEq]
    refine ⟨rfl, ?_, ?_⟩
    · omega
    · omega
  · have normal : unpackExponent word ≠ 0#_ := by
      rw [Ne, ← BitVec.toNat_inj, exponent]
      show ¬ _ = 0
      omega
    rw [if_neg normal, UnpackedFloat.finite.injEq]
    refine ⟨rfl, ?_, ?_⟩
    · have short : (unpackMantissa word).toNat < 2 ^ 52 := (unpackMantissa word).isLt
      rw [BitVec.toNat_append, ← Nat.shiftLeft_add_eq_or_of_lt short, Nat.shiftLeft_eq]
      show 1 * 2 ^ 52 + _ = _
      omega
    · omega

end Word

/-- **A finite double other than zero is unpacked into its sign and its magnitude.** -/
theorem unpack_of_ofFloat {x : Float} {value : Dyadic} (finite : ofFloat x = .finite value)
    (nonzero : 0 < value.significand) :
    x.toModel.unpack = .finite (sign x) value.significand value.exponent nonzero := by
  have parts := unpack_word x.toModel.toBits.toBitVec (Dyadic.canonical_of_ofFloat finite) nonzero
    (toBits_of_ofFloat finite)
  have marked : sign x =
      if x.toModel.toBits.toBitVec.toNat / 2 ^ 63 = 1 then .negative else .positive := by
    rw [sign, isNegative]
    simp only [decide_eq_true_eq]
    rfl
  rw [Float.Model.unpack, parts, marked]

/-! ## Packing -/

theorem toNat_packComponents (sign : Sign) (exponent : BitVec Format.binary64.exponentBits)
    (mantissa : BitVec Format.binary64.mantissaBitsWithoutImplicit) :
    (packComponents .binary64 sign exponent mantissa).toNat =
      sign.toBitVec.toNat * 2 ^ 63 + exponent.toNat * 2 ^ 52 + mantissa.toNat := by
  have small : exponent.toNat < 2 ^ 11 := exponent.isLt
  have short : mantissa.toNat < 2 ^ 52 := mantissa.isLt
  rw [packComponents, BitVec.toNat_append, BitVec.toNat_append,
    ← Nat.shiftLeft_add_eq_or_of_lt small, ← Nat.shiftLeft_add_eq_or_of_lt short,
    Nat.shiftLeft_eq, Nat.shiftLeft_eq]
  omega

/-- A sign and a dyadic number of canonical form are packed side by side. -/
theorem toNat_pack {value : Dyadic} (canonical : value.Canonical)
    (nonzero : 0 < value.significand) (sign : Sign) :
    (UnpackedFloat.pack .binary64
      (.finite sign value.significand value.exponent nonzero)).toNat =
        sign.toBitVec.toNat * 2 ^ 63 + value.word := by
  have bits := canonical.significand
  have least := canonical.least
  have greatest := canonical.greatest
  have bias : (value.exponent + Format.binary64.exponentBias +
      Format.binary64.mantissaBitsWithoutImplicit : ℤ) = value.exponent + 1075 := by
    show value.exponent + 1023 + 52 = _
    omega
  have power : 2 ^ Format.binary64.exponentBits = 2048 := rfl
  have total : Format.binary64.mantissaBits = 53 := rfl
  delta UnpackedFloat.pack
  dsimp only
  rw [bias, power, total, if_neg (by omega), Dyadic.word]
  by_cases normal : value.significand < 2 ^ 52
  · have exact := canonical.normal.resolve_left (by omega)
    have short := (Nat.log2_lt (Nat.ne_of_gt nonzero)).mpr normal
    rw [if_neg (by omega), if_pos normal, toNat_packComponents]
    show _ + 0 * 2 ^ 52 + value.significand % 2 ^ 52 = _
    omega
  · have long := (Nat.le_log2 (Nat.ne_of_gt nonzero)).mpr (Nat.not_lt.mp normal)
    have short := (Nat.log2_lt (Nat.ne_of_gt nonzero)).mpr bits
    rw [if_pos (by omega), if_neg normal, toNat_packComponents]
    show _ + (value.exponent + 1075).toNat % 2 ^ 11 * 2 ^ 52 + value.significand % 2 ^ 52 = _
    omega

end Magnitude

/-- The double with the given sign and magnitude. -/
def Dyadic.toFloat (sign : Sign) (value : Dyadic) (nonzero : 0 < value.significand) : Float :=
  .ofModel (Float.Model.pack (.finite sign value.significand value.exponent nonzero))

section Parts

variable {value : Dyadic} (canonical : value.Canonical) (nonzero : 0 < value.significand)
  (sign : Sign)

include canonical

theorem toBits_toFloat :
    (value.toFloat sign nonzero).toBits.toNat = sign.toBitVec.toNat * 2 ^ 63 + value.word :=
  Magnitude.toNat_pack canonical nonzero sign

theorem ofFloat_toFloat : Magnitude.ofFloat (value.toFloat sign nonzero) = .finite value := by
  apply Magnitude.ofFloat_of_toBits canonical
  rw [toBits_toFloat canonical nonzero sign]
  have small := canonical.word_lt
  omega

theorem sign_toFloat : Magnitude.sign (value.toFloat sign nonzero) = sign := by
  have small := canonical.word_lt
  rw [Magnitude.sign, Magnitude.isNegative, toBits_toFloat canonical nonzero sign]
  cases sign with
  | negative =>
      rw [if_pos]
      rw [decide_eq_true_eq]
      show (1 * 2 ^ 63 + value.word) / 2 ^ 63 = 1
      omega
  | positive =>
      rw [if_neg]
      rw [decide_eq_true_eq]
      show ¬(0 * 2 ^ 63 + value.word) / 2 ^ 63 = 1
      omega

/-- **Nothing is lost by packing.** -/
theorem unpack_toFloat :
    (value.toFloat sign nonzero).toModel.unpack =
      .finite sign value.significand value.exponent nonzero := by
  rw [Magnitude.unpack_of_ofFloat (ofFloat_toFloat canonical nonzero sign) nonzero,
    sign_toFloat canonical nonzero sign]

end Parts

end Reckoner
