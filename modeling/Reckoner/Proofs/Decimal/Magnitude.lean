import Reckoner.Decimal.Binary

/-!
# Kinds of doubles

The magnitude that is read off the bits of a double says of which kind it is
(`Magnitude.describes_ofFloat`). Sums keep to these kinds: two finite doubles never add up to an
undefined one (`add_of_isFinite`), and an infinite double stays what it is, whatever finite double
is added (`add_of_isInf`).
-/

namespace Reckoner

open Float.Model Float.Model.UnpackedFloat

namespace Magnitude

/-! ## The kind of a double -/

/-- What a magnitude says of the parts of a double. -/
def Describes : Magnitude → UnpackedFloat → Prop
  | .finite _, value => value.isFinite = true
  | .infinite, value => value.isInf = true
  | .undefined, value => value.isNaN = true

section Word

variable (word : BitVec Format.binary64.numBits)

theorem toNat_unpackExponent :
    (unpackExponent word).toNat = word.toNat / Dyadic.hiddenBit % Nat.pow 2 11 := by
  rw [unpackExponent, BitVec.toNat_cast, BitVec.extractLsb_toNat, Nat.shiftRight_eq_div_pow]
  rfl

theorem toNat_unpackMantissa : (unpackMantissa word).toNat = word.toNat % Dyadic.hiddenBit := by
  rw [unpackMantissa, BitVec.toNat_cast, BitVec.extractLsb_toNat, Nat.shiftRight_zero]
  rfl

/-- The greatest exponent is that of infinity and of what is undefined. -/
theorem unpackExponent_eq_top_iff :
    unpackExponent word = -1#_ ↔ word.toNat / Dyadic.hiddenBit % Nat.pow 2 11 = 2047 := by
  rw [← toNat_unpackExponent, ← BitVec.toNat_inj]
  rfl

theorem unpackMantissa_eq_zero_iff :
    unpackMantissa word = 0#_ ↔ word.toNat % Dyadic.hiddenBit = 0 := by
  rw [← toNat_unpackMantissa, ← BitVec.toNat_inj]
  rfl

/-- Below the greatest exponent a double is finite. -/
theorem isFinite_unpack (small : unpackExponent word ≠ -1#_) :
    (UnpackedFloat.unpack .binary64 word).isFinite = true := by
  delta UnpackedFloat.unpack
  dsimp only
  rw [if_neg small]
  by_cases least : unpackExponent word = 0#_
  · rw [if_pos least]
    by_cases zero : unpackMantissa word = 0#_
    · rw [dif_pos zero]
      rfl
    · rw [dif_neg zero]
      rfl
  · rw [if_neg least]
    rfl

theorem describes_word :
    Describes (if word.toNat / Dyadic.hiddenBit % Nat.pow 2 11 = 2047 then
        if word.toNat % Dyadic.hiddenBit = 0 then .infinite else .undefined
      else .finite ⟨0, 0⟩) (UnpackedFloat.unpack .binary64 word) := by
  simp only [← unpackExponent_eq_top_iff, ← unpackMantissa_eq_zero_iff]
  split
  · rename_i top
    delta UnpackedFloat.unpack
    dsimp only
    rw [if_pos top]
    split
    · rfl
    · rfl
  · exact isFinite_unpack word ‹_›

end Word

/-- **The magnitude of a double says of which kind it is.** -/
theorem describes_ofFloat (x : Float) : (ofFloat x).Describes x.toModel.unpack := by
  have kind := describes_word x.toModel.toBits.toBitVec
  rw [ofFloat]
  change Describes (if x.toModel.toBits.toBitVec.toNat / _ % _ = 2047 then
    if x.toModel.toBits.toBitVec.toNat % _ = 0 then _ else _ else _) _
  split at kind
  · rename_i top
    rw [if_pos top]
    exact kind
  · rename_i small
    rw [if_neg small]
    split
    · exact kind
    · exact kind

theorem isFinite_eq (value : UnpackedFloat) :
    value.isFinite = (!value.isInf && !value.isNaN) := by
  cases value <;> rfl

theorem isInf_eq (value : UnpackedFloat) :
    value.isInf = (!value.isFinite && !value.isNaN) := by
  cases value <;> rfl

theorem ofFloat_of_isFinite {x : Float} (finite : x.isFinite = true) :
    ∃ value, ofFloat x = .finite value := by
  replace finite : x.toModel.unpack.isFinite = true := finite
  rw [isFinite_eq, Bool.and_eq_true, Bool.not_eq_true', Bool.not_eq_true'] at finite
  have kind := describes_ofFloat x
  cases magnitude : ofFloat x with
  | finite value => exact ⟨value, rfl⟩
  | infinite =>
      rw [magnitude, Describes, finite.1] at kind
      cases kind
  | undefined =>
      rw [magnitude, Describes, finite.2] at kind
      cases kind

theorem ofFloat_of_isInf {x : Float} (infinite : x.isInf = true) : ofFloat x = .infinite := by
  replace infinite : x.toModel.unpack.isInf = true := infinite
  rw [isInf_eq, Bool.and_eq_true, Bool.not_eq_true', Bool.not_eq_true'] at infinite
  have kind := describes_ofFloat x
  cases magnitude : ofFloat x with
  | infinite => rfl
  | finite value =>
      rw [magnitude, Describes, infinite.1] at kind
      cases kind
  | undefined =>
      rw [magnitude, Describes, infinite.2] at kind
      cases kind

end Magnitude

theorem isInf_of_isFinite {x : Float} (finite : x.isFinite = true) : x.isInf = false := by
  replace finite : x.toModel.unpack.isFinite = true := finite
  rw [Magnitude.isFinite_eq, Bool.and_eq_true, Bool.not_eq_true'] at finite
  exact finite.1

/-! ## Infinity -/

/-- The double above all others. -/
def infinity : Float := 1.0 / 0.0

theorem eq_of_toBits {x y : Float} (same : x.toBits.toNat = y.toBits.toNat) : x = y := by
  obtain ⟨⟨first, _⟩⟩ := x
  obtain ⟨⟨second, _⟩⟩ := y
  obtain rfl : first = second := UInt64.toNat_inj.mp same
  rfl

/-- There are two infinite doubles. -/
theorem eq_infinity_of_isInf {x : Float} (infinite : x.isInf = true) :
    x = infinity ∨ x = -infinity := by
  have magnitude := Magnitude.ofFloat_of_isInf infinite
  rw [Magnitude.ofFloat] at magnitude
  have size : x.toBits.toNat < 2 ^ 64 := x.toBits.toNat_lt
  have hidden : Dyadic.hiddenBit = 2 ^ 52 := rfl
  have width : Nat.pow 2 11 = 2 ^ 11 := rfl
  rw [hidden, width] at magnitude
  have above : infinity.toBits.toNat = 2047 * 2 ^ 52 := by decide
  have below : (-infinity).toBits.toNat = 2 ^ 63 + 2047 * 2 ^ 52 := by decide
  split at magnitude
  · split at magnitude
    · have either : x.toBits.toNat = 2047 * 2 ^ 52 ∨ x.toBits.toNat = 2 ^ 63 + 2047 * 2 ^ 52 := by
        omega
      rcases either with same | same
      · exact .inl (eq_of_toBits (same.trans above.symm))
      · exact .inr (eq_of_toBits (same.trans below.symm))
    · cases magnitude
  · split at magnitude
    · cases magnitude
    · cases magnitude

/-! ## Negation -/

/-- Only finite doubles have finite negations. -/
theorem isFinite_of_neg {x : Float} (finite : (-x).isFinite = true) : x.isFinite = true := by
  replace finite : (Float.Model.pack x.toModel.unpack.neg).unpack.isFinite = true := finite
  show x.toModel.unpack.isFinite = true
  cases unpacked : x.toModel.unpack with
  | notANumber =>
      rw [unpacked] at finite
      cases finite
  | infinity sign =>
      rw [unpacked] at finite
      cases sign <;> cases finite
  | zero sign => rfl
  | finite sign mantissa exponent positive => rfl

/-! ## Sums -/

theorem isNaN_normalize (mantissa exponent : Int) (zeroSign : Sign) :
    (UnpackedFloat.normalize .binary64 mantissa exponent zeroSign).isNaN = false := by
  have rounded (sign : Sign) (mantissa : Nat) :
      (UnpackedFloat.round .binary64 sign mantissa exponent).isNaN = false := by
    rw [UnpackedFloat.round]
    dsimp only
    rw [roundWithAccuracy]
    dsimp only
    rw [apply_dite UnpackedFloat.isNaN]
    exact ite_self false
  rw [UnpackedFloat.normalize]
  split
  · exact rounded _ _
  · rfl
  · exact rounded _ _

/-- Finite numbers add up to a finite or to an infinite one before the sum is packed. -/
theorem isNaN_add_unpacked {a b : UnpackedFloat} (first : a.isFinite = true)
    (second : b.isFinite = true) : (UnpackedFloat.add .binary64 a b).isNaN = false := by
  cases a with
  | notANumber => cases first
  | infinity sign => cases first
  | zero sign =>
      cases b with
      | notANumber => cases second
      | infinity other => cases second
      | zero other => cases sign <;> cases other <;> rfl
      | finite other mantissa exponent positive => rfl
  | finite sign mantissa exponent positive =>
      cases b with
      | notANumber => cases second
      | infinity other => cases second
      | zero other => rfl
      | finite other count power large => exact isNaN_normalize _ _ _

/-- Packing makes nothing undefined: the greatest exponent is given to infinity alone. -/
theorem isNaN_unpack_pack {value : UnpackedFloat} (defined : value.isNaN = false) :
    (Float.Model.pack value).unpack.isNaN = false := by
  have small {sign : Sign} {exponent : BitVec Format.binary64.exponentBits}
      {mantissa : BitVec Format.binary64.mantissaBitsWithoutImplicit} (low : exponent ≠ -1#_) :
      (UnpackedFloat.unpack .binary64
        (packComponents .binary64 sign exponent mantissa)).isNaN = false := by
    have finite := Magnitude.isFinite_unpack (packComponents .binary64 sign exponent mantissa)
      (by rwa [unpackExponent_packComponents])
    rw [Magnitude.isFinite_eq, Bool.and_eq_true, Bool.not_eq_true', Bool.not_eq_true'] at finite
    exact finite.2
  show (UnpackedFloat.unpack .binary64 (UnpackedFloat.pack .binary64 value)).isNaN = false
  cases value with
  | notANumber => cases defined
  | infinity sign => cases sign <;> rfl
  | zero sign => cases sign <;> rfl
  | finite sign mantissa exponent positive =>
      delta UnpackedFloat.pack
      dsimp only
      split
      · cases sign <;> rfl
      · rename_i fits
        split
        · apply small
          intro same
          have greatest := (congrArg BitVec.toNat same).trans (rfl : _ = 2047)
          rw [BitVec.toNat_ofNat, Nat.mod_eq_of_lt (by omega)] at greatest
          have count : 2 ^ Format.binary64.exponentBits = 2048 := rfl
          omega
        · exact small (by decide)

/-- **Two finite doubles add up to a finite or an infinite one.** -/
theorem add_of_isFinite {x y : Float} (first : x.isFinite = true) (second : y.isFinite = true) :
    (x + y).isFinite = true ∨ (x + y).isInf = true := by
  have defined : (x + y).toModel.unpack.isNaN = false :=
    isNaN_unpack_pack (isNaN_add_unpacked first second)
  show (x + y).toModel.unpack.isFinite = true ∨ (x + y).toModel.unpack.isInf = true
  rw [Magnitude.isInf_eq, defined]
  cases (x + y).toModel.unpack.isFinite with
  | true => exact .inl rfl
  | false => exact .inr rfl

/-- **An infinite double stays what it is** when a finite one is added. -/
theorem add_of_isInf {x y : Float} (infinite : x.isInf = true) (finite : y.isFinite = true) :
    x + y = x := by
  replace finite : y.toModel.unpack.isFinite = true := finite
  have absorbs (sign : Sign) :
      UnpackedFloat.add .binary64 (.infinity sign) y.toModel.unpack = .infinity sign := by
    cases unpacked : y.toModel.unpack with
    | notANumber =>
        rw [unpacked] at finite
        cases finite
    | infinity other =>
        rw [unpacked] at finite
        cases finite
    | zero other => rfl
    | finite other mantissa exponent positive => rfl
  rcases eq_infinity_of_isInf infinite with rfl | rfl
  · show Float.ofModel (Float.Model.pack (UnpackedFloat.add .binary64 (.infinity .positive) _)) = _
    rw [absorbs]
    rfl
  · show Float.ofModel (Float.Model.pack (UnpackedFloat.add .binary64 (.infinity .negative) _)) = _
    rw [absorbs]
    rfl

end Reckoner
