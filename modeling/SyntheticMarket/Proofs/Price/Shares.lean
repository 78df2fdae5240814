import SyntheticMarket.Proofs.Price.Binary64

/-! Drawn shares as machine floats. A word has at most 32 binary places and the word range is a power
of two, so nothing is rounded: the share is exactly the word divided by the word range. -/

namespace SyntheticMarket

namespace Binary64

open Float.Model (Format UnpackedFloat)
open Float.Model.UnpackedFloat (ExtendedMantissa Sign packComponents)

/-- The rational that a float stands for, unless it is infinite or not a number. -/
def rational? : UnpackedFloat → Option Rat
  | .zero _ => some 0
  | .finite .positive mantissa exponent _ => some (mantissa * 2 ^ exponent)
  | .finite .negative mantissa exponent _ => some (-(mantissa * 2 ^ exponent))
  | _ => none

def value? (price : Float) : Option Rat := rational? (parts price)

variable {mantissa places : Nat} {exponent : Int}

theorem log2_shiftLeft (pos : 0 < mantissa) (places : Nat) :
    (mantissa <<< places).log2 = mantissa.log2 + places := by
  induction places with
  | zero => rfl
  | succ places ih =>
    have some := shiftLeft_pos pos places
    rw [Nat.shiftLeft_succ, Nat.log2_two_mul some.ne', ih, Nat.add_assoc]

/-- What is read back from three fields of a normal number. -/
theorem read_normal (sign : Sign) {exponent : BitVec 11} (mantissa : BitVec 52)
    (regular : exponent ≠ -1#11) (normal : exponent ≠ 0#11)
    (pos : 0 < (1#1 ++ mantissa).toNat) :
    UnpackedFloat.unpack .binary64 (packComponents .binary64 sign exponent mantissa) =
      .finite sign (1#1 ++ mantissa).toNat (exponent.toNat - 1075) pos := by
  have bias : (Format.exponentBias .binary64 : Int) = 1023 := rfl
  simp only [UnpackedFloat.unpack, unpackSign_packComponents,
    UnpackedFloat.unpackExponent_packComponents, UnpackedFloat.unpackMantissa_packComponents, bias,
    if_neg regular, if_neg normal]
  rfl

/-- The leading place is not stored, and comes back. -/
theorem restored_mantissa (full : mantissa.log2 = 52) :
    (1#1 ++ BitVec.ofNat 52 mantissa).toNat = mantissa := by
  have pos : mantissa ≠ 0 := by
    rintro rfl
    cases full
  obtain ⟨least, most⟩ := (Nat.log2_eq_iff pos).mp full
  rw [BitVec.toNat_append, ← Nat.shiftLeft_add_eq_or_of_lt (BitVec.isLt _), BitVec.toNat_ofNat,
    BitVec.toNat_ofNat, Nat.shiftLeft_eq]
  omega

theorem stored_normal (sign : Sign) (pos : 0 < mantissa) (full : mantissa.log2 = 52)
    (low : -1074 ≤ exponent) (high : exponent ≤ 971) :
    stored (.finite sign mantissa exponent pos) = .finite sign mantissa exponent pos := by
  have bias : exponent + Format.exponentBias .binary64 + (52 : Nat) = exponent + 1075 := by
    have bias : (Format.exponentBias .binary64 : Int) = 1023 := rfl
    omega
  have width : Format.mantissaBits .binary64 = 53 := rfl
  have field : (BitVec.ofNat 11 (exponent + 1075).toNat).toNat = (exponent + 1075).toNat :=
    Nat.mod_eq_of_lt (by omega)
  have regular : BitVec.ofNat 11 (exponent + 1075).toNat ≠ -1#11 := by
    intro same
    have top := congrArg BitVec.toNat same
    rw [field, show (-1#11).toNat = 2047 from rfl] at top
    omega
  have normal : BitVec.ofNat 11 (exponent + 1075).toNat ≠ 0#11 := by
    intro same
    have bottom := congrArg BitVec.toNat same
    rw [field, BitVec.toNat_zero] at bottom
    omega
  have read := read_normal sign (BitVec.ofNat 52 mantissa) regular normal
    ((restored_mantissa full).symm ▸ pos)
  simp only [stored, UnpackedFloat.pack, bias, width, full,
    if_neg (show ¬ 2 ^ 11 ≤ (exponent + 1075).toNat + 1 by omega), if_true, read,
    restored_mantissa full, field, UnpackedFloat.finite.injEq, true_and]
  omega

/-- Places that were put on are cut off again without a remainder. -/
theorem shiftLeft_shiftRight (mantissa places : Nat) :
    (ExtendedMantissa.mk (mantissa <<< places) false false) >>> places =
      ⟨mantissa, false, false⟩ := by
  induction places generalizing mantissa with
  | zero => rfl
  | succ places ih =>
    have step : (ExtendedMantissa.mk (mantissa <<< (places + 1)) false false) >>> (places + 1) =
        ((ExtendedMantissa.mk (mantissa <<< (places + 1)) false false) >>> places).shiftRightOne :=
      rfl
    have longer : mantissa <<< (places + 1) = (2 * mantissa) <<< places := by
      rw [Nat.shiftLeft_eq, Nat.shiftLeft_eq, Nat.pow_succ]
      ring
    rw [step, longer, ih, ExtendedMantissa.shiftRightOne]
    simp

theorem surplus_shiftLeft (pos : 0 < mantissa) (full : mantissa.log2 = 52)
    (low : -1074 ≤ exponent + places) : surplus (mantissa <<< places) exponent = places := by
  rw [surplus, log2_shiftLeft pos, full]
  omega

theorem rounded_normal (sign : Sign) (pos : 0 < mantissa) (full : mantissa.log2 = 52)
    (low : -1074 ≤ exponent + places) :
    UnpackedFloat.roundWithAccuracy .binary64 sign (mantissa <<< places) exponent .exact =
      .finite sign mantissa (exponent + places) pos := by
  have again : surplus mantissa (exponent + places) = 0 := by
    rw [surplus, full]
    omega
  have exact (mantissa : Nat) :
      ExtendedMantissa.ofMantissaAndAccuracy mantissa .exact = ⟨mantissa, false, false⟩ := rfl
  have kept : (ExtendedMantissa.mk mantissa false false).roundedMantissa = mantissa := rfl
  have whole : (ExtendedMantissa.mk mantissa false false) >>> 0 = ⟨mantissa, false, false⟩ := rfl
  simp only [UnpackedFloat.roundWithAccuracy, shiftToTargetExponent_eq,
    surplus_shiftLeft pos full low, exact, shiftLeft_shiftRight, kept, again, whole,
    dif_neg pos.ne', Nat.cast_zero, add_zero]

/-- A number of at most full length is moved up to it. -/
theorem round_short (sign : Sign) (pos : 0 < mantissa) (short : mantissa.log2 ≤ 52)
    (low : -1074 ≤ exponent - (52 - mantissa.log2 : Nat)) :
    UnpackedFloat.round .binary64 sign mantissa exponent =
      .finite sign (mantissa <<< (52 - mantissa.log2)) (exponent - (52 - mantissa.log2 : Nat))
        (shiftLeft_pos pos _) := by
  have lift : (exponent - max (mantissa.log2 + exponent - 52) (-1074)).toNat =
      52 - mantissa.log2 := by
    omega
  have full : (mantissa <<< (52 - mantissa.log2)).log2 = 52 := by
    rw [log2_shiftLeft pos]
    omega
  simp only [UnpackedFloat.round, UnpackedFloat.decreaseExponent, targetExponent_eq, lift]
  have rounded := rounded_normal sign (shiftLeft_pos pos _) full
    (show -1074 ≤ exponent - (52 - mantissa.log2 : Nat) + (0 : Nat) by omega)
  simpa only [Nat.shiftLeft_zero, Nat.cast_zero, add_zero] using rounded

def lifted (word : UInt32) : Nat := word.toNat <<< (52 - word.toNat.log2)

variable {word : UInt32}

theorem log2_word (word : UInt32) : word.toNat.log2 ≤ 31 := log2_le_of_lt word.toNat_lt

theorem lifted_pos (pos : 0 < word.toNat) : 0 < lifted word := shiftLeft_pos pos _

theorem log2_lifted (pos : 0 < word.toNat) : (lifted word).log2 = 52 := by
  have short := log2_word word
  rw [lifted, log2_shiftLeft pos]
  omega

theorem parts_word (pos : 0 < word.toNat) :
    parts word.toFloat =
      .finite .positive (lifted word) (word.toNat.log2 - 52) (lifted_pos pos) := by
  have short := log2_word word
  have read : parts word.toFloat = stored (.normalize .binary64 (word.toNat : Nat) 0 .positive) :=
    rfl
  have exponent : (0 : Int) - (52 - word.toNat.log2 : Nat) = word.toNat.log2 - 52 := by omega
  rw [read, normalize_natCast pos, round_short .positive pos (by omega) (by omega)]
  simp only [exponent]
  exact stored_normal .positive (lifted_pos pos) (log2_lifted pos) (by omega) (by omega)

/-- Dividing by the word range leaves no remainder. -/
theorem divCore_range (pos : 0 < word.toNat) :
    UnpackedFloat.divCore .binary64 (lifted word) (word.toNat.log2 - 52) (2 ^ 52) (-20) =
      (lifted word <<< 1, (word.toNat.log2 : Int) - 85, .exact) := by
  have short := log2_word word
  have full := log2_lifted pos
  have least : Format.minExponent .binary64 = -1074 := rfl
  have width : (Format.mantissaBits .binary64 : Int) = 53 := rfl
  have target : min ((word.toNat.log2 : Int) - 52 - -20)
      (Format.targetExponent .binary64
        (Float.Model.totalExponent (lifted word) (word.toNat.log2 - 52) -
          Float.Model.totalExponent (2 ^ 52) (-20))) = word.toNat.log2 - 85 := by
    simp only [Format.targetExponent, Float.Model.totalExponent, full, least, width,
      Nat.log2_two_pow]
    omega
  have places : ((word.toNat.log2 : Int) - 52 - -20 - (word.toNat.log2 - 85)).toNat = 53 := by omega
  have whole : lifted word <<< 53 = lifted word <<< 1 * 2 ^ 52 := by
    rw [Nat.shiftLeft_eq, Nat.shiftLeft_eq, Nat.mul_assoc, ← Nat.pow_add]
  simp only [UnpackedFloat.divCore, target, places, whole,
    Nat.mul_div_cancel _ (Nat.two_pow_pos 52), Nat.mul_mod_left]
  rfl

theorem parts_fraction (pos : 0 < word.toNat) :
    parts (PriceScale.fraction word) =
      .finite .positive (lifted word) (word.toNat.log2 - 84) (lifted_pos pos) := by
  have short := log2_word word
  have range : parts 4294967296.0 = .finite .positive (2 ^ 52) (-20) (by decide) := rfl
  have share : PriceScale.fraction word = word.toFloat / 4294967296.0 := rfl
  have exponent : (word.toNat.log2 : Int) - 85 + (1 : Nat) = word.toNat.log2 - 84 := by omega
  rw [share, parts_div, range, parts_word pos]
  simp only [UnpackedFloat.div, divCore_range pos]
  rw [rounded_normal _ (lifted_pos pos) (log2_lifted pos) (by omega)]
  simp only [exponent]
  exact stored_normal .positive (lifted_pos pos) (log2_lifted pos) (by omega) (by omega)

theorem fraction_zero : parts (PriceScale.fraction 0) = .zero .positive := rfl

/-- A drawn share is the word divided by the word range, to the last place. -/
theorem value?_fraction (word : UInt32) :
    value? (PriceScale.fraction word) = some ((word.toNat : Rat) / 2 ^ 32) := by
  rcases Nat.eq_zero_or_pos word.toNat with zero | pos
  · obtain rfl : word = 0 := UInt32.toNat_inj.mp zero
    rw [value?, fraction_zero]
    simp [rational?]
  · have short := log2_word word
    have lift : ((52 - word.toNat.log2 : Nat) : Int) + (word.toNat.log2 - 84) = -32 := by omega
    rw [value?, parts_fraction pos, rational?, lifted, Nat.shiftLeft_eq, Nat.cast_mul, Nat.cast_pow,
      Nat.cast_ofNat, mul_assoc, ← zpow_natCast, ← zpow_add₀ (by norm_num), lift, zpow_neg,
      div_eq_mul_inv]
    norm_num

theorem zero_le_fraction (word : UInt32) : 0.0 ≤ (PriceScale.fraction word : Float) :=
  (zero_le_iff _).mpr (fraction_slight word).amount

theorem fraction_lt_one (word : UInt32) : (PriceScale.fraction word : Float) < 1.0 := by
  have one : rank (parts 1.0) = some (toLex (1, toLex (-52, 4503599627370496))) := rfl
  rcases Nat.eq_zero_or_pos word.toNat with zero | pos
  · obtain rfl : word = 0 := UInt32.toNat_inj.mp zero
    decide +kernel
  · have short := log2_word word
    refine (lt_iff _ _).mpr ⟨_, congrArg rank (parts_fraction pos), _, one, ?_⟩
    refine Prod.Lex.toLex_lt_toLex.mpr (.inr ⟨rfl, Prod.Lex.toLex_lt_toLex.mpr (.inl ?_)⟩)
    change (word.toNat.log2 : Int) - 84 < -52
    omega

end Binary64

end SyntheticMarket
