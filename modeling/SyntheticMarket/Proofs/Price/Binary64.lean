import Mathlib
import SyntheticMarket.Proofs.Price.Order

/-! Machine floats as prices. Whatever the comparisons tell apart is ordered, and the volumes of a
candle never turn negative or undefined: a drawn share is a moderate number, so the sums and products
made of it cannot overflow, and rounding never crosses zero. -/

namespace SyntheticMarket

namespace Binary64

open Float.Model (Format UnpackedFloat)
open Float.Model.UnpackedFloat (Accuracy ExtendedMantissa Sign packComponents)

/-- A float taken apart into sign, mantissa and exponent. -/
def parts (price : Float) : UnpackedFloat := price.toModel.unpack

def stored (result : UnpackedFloat) : UnpackedFloat :=
  UnpackedFloat.unpack .binary64 (UnpackedFloat.pack .binary64 result)

theorem parts_add (first second : Float) :
    parts (first + second) = stored (.add .binary64 (parts first) (parts second)) := rfl

theorem parts_mul (first second : Float) :
    parts (first * second) = stored (.mul .binary64 (parts first) (parts second)) := rfl

theorem parts_div (first second : Float) :
    parts (first / second) = stored (.div .binary64 (parts first) (parts second)) := rfl

/-- Numbers in the order of the comparisons: by sign and kind, then exponent, then mantissa. -/
def rank : UnpackedFloat → Option (Int ×ₗ Int ×ₗ Int)
  | .notANumber => none
  | .infinity .negative => some (toLex (-2, toLex (0, 0)))
  | .finite .negative mantissa exponent _ => some (toLex (-1, toLex (-exponent, -mantissa)))
  | .zero _ => some (toLex (0, toLex (0, 0)))
  | .finite .positive mantissa exponent _ => some (toLex (1, toLex (exponent, mantissa)))
  | .infinity .positive => some (toLex (2, toLex (0, 0)))

private theorem compare_natCast (first second : Nat) :
    compare (first : Int) second = compare first second := by
  simp [Int.compare_eq_ite_lt, Nat.compare_eq_ite_lt]

private theorem compare_neg (first second : Int) :
    compare (-first) (-second) = compare second first := by
  simp [Int.compare_eq_ite_lt]

theorem compare_eq (first second : UnpackedFloat) :
    first.compare second = (do return compare (← rank first) (← rank second)) := by
  -- Only two finite numbers of one sign need more than their kinds.
  rcases first with ⟨_ | _⟩ | _ | _ | ⟨_ | _, mantissa, exponent, _⟩ <;>
    rcases second with ⟨_ | _⟩ | _ | _ | ⟨_ | _, mantissa', exponent', _⟩ <;> try rfl
  · change some _ = some ((compare (-exponent) (-exponent')).then
      (compare (-(mantissa : Int)) (-(mantissa' : Int))))
    rw [compare_neg, compare_neg, compare_natCast, Ordering.swap_then, Int.compare_swap,
      Nat.compare_swap]
  · change some _ = some ((compare exponent exponent').then (compare (mantissa : Int) mantissa'))
    rw [compare_natCast]

theorem le_iff (first second : Float) :
    first ≤ second ↔ ∃ a ∈ rank (parts first), ∃ b ∈ rank (parts second), a ≤ b := by
  have comparison : first ≤ second ↔ (parts first).le (parts second) = true := decide_eq_true_iff
  rw [comparison, UnpackedFloat.le, compare_eq]
  cases rank (parts first) <;> cases rank (parts second) <;>
    simp [Ordering.isLE_iff_ne_gt, compare_le_iff_le]

theorem lt_iff (first second : Float) :
    first < second ↔ ∃ a ∈ rank (parts first), ∃ b ∈ rank (parts second), a < b := by
  have comparison : first < second ↔ (parts first).lt (parts second) = true := decide_eq_true_iff
  rw [comparison, UnpackedFloat.lt, compare_eq]
  cases rank (parts first) <;> cases rank (parts second) <;> simp [compare_lt_iff_lt]

theorem defined_iff (price : Float) : Price.Defined price ↔ ∃ a, a ∈ rank (parts price) := by
  constructor
  · intro self
    obtain ⟨a, present, _⟩ := (le_iff price price).mp self
    exact ⟨a, present⟩
  · rintro ⟨a, present⟩
    exact (le_iff price price).mpr ⟨a, present, a, present, le_refl a⟩

/-- Only a float that is not a number is undefined. -/
theorem defined_iff_isNaN (price : Float) : Price.Defined price ↔ price.isNaN = false := by
  have test : price.isNaN = (parts price).isNaN := rfl
  rw [defined_iff, test]
  rcases parts price with ⟨_ | _⟩ | _ | _ | ⟨_ | _, _, _, _⟩ <;>
    simp [rank, UnpackedFloat.isNaN]

instance ordered : PriceScale.Ordered Float where
  left_defined := by
    intro first second below
    obtain ⟨a, present, _⟩ := (le_iff first second).mp below
    exact (defined_iff first).mpr ⟨a, present⟩
  right_defined := by
    intro first second below
    obtain ⟨_, _, b, present, _⟩ := (le_iff first second).mp below
    exact (defined_iff second).mpr ⟨b, present⟩
  le_total := by
    intro first second left right
    obtain ⟨a, left⟩ := (defined_iff first).mp left
    obtain ⟨b, right⟩ := (defined_iff second).mp right
    rcases le_total a b with below | above
    · exact .inl ((le_iff first second).mpr ⟨a, left, b, right, below⟩)
    · exact .inr ((le_iff second first).mpr ⟨b, right, a, left, above⟩)
  le_trans := by
    intro first second third below upTo
    obtain ⟨a, left, b, middle, below⟩ := (le_iff first second).mp below
    obtain ⟨b', same, c, right, upTo⟩ := (le_iff second third).mp upTo
    obtain rfl := Option.mem_unique middle same
    exact (le_iff first third).mpr ⟨a, left, c, right, below.trans upTo⟩
  lt_iff := by
    intro first second
    apply (lt_iff first second).trans
    constructor
    · rintro ⟨a, left, b, right, below⟩
      refine ⟨(le_iff first second).mpr ⟨a, left, b, right, below.le⟩, ?_⟩
      intro back
      obtain ⟨b', right', a', left', back⟩ := (le_iff second first).mp back
      obtain rfl := Option.mem_unique left left'
      obtain rfl := Option.mem_unique right right'
      exact absurd below back.not_gt
    · rintro ⟨below, strict⟩
      obtain ⟨a, left, b, right, _⟩ := (le_iff first second).mp below
      refine ⟨a, left, b, right, ?_⟩
      by_contra above
      exact strict ((le_iff second first).mpr ⟨b, right, a, left, not_lt.mp above⟩)

/-- A finite number that the format holds as it is, with an exponent up to the limit. -/
def Moderate (sign : Sign) (limit : Int) (number : UnpackedFloat) : Prop :=
  ∃ mantissa exponent pos, number = .finite sign mantissa exponent pos ∧
    mantissa < 2 ^ 53 ∧ -1074 ≤ exponent ∧ exponent ≤ limit

theorem Moderate.mono {sign : Sign} {limit wider : Int} {number : UnpackedFloat}
    (moderate : Moderate sign limit number) (within : limit ≤ wider) :
    Moderate sign wider number := by
  obtain ⟨mantissa, exponent, pos, same, narrow, low, high⟩ := moderate
  exact ⟨mantissa, exponent, pos, same, narrow, low, Int.le_trans high within⟩

def Slight (limit : Int) (number : UnpackedFloat) : Prop :=
  number = .zero .positive ∨ Moderate .positive limit number

theorem unpackSign_packComponents (sign : Sign) (exponent : BitVec 11)
    (mantissa : BitVec 52) :
    Sign.ofBitVec (UnpackedFloat.unpackSign (packComponents .binary64 sign exponent mantissa)) =
      sign := by
  have read : UnpackedFloat.unpackSign (packComponents .binary64 sign exponent mantissa) =
      (sign.toBitVec ++ exponent ++ mantissa).extractLsb' 63 1 := rfl
  rw [read, BitVec.extractLsb'_append_eq_of_le (by decide),
    BitVec.extractLsb'_append_eq_of_le (by decide)]
  cases sign <;> rfl

/-- What is read back from three fields, unless the exponent is the one kept for exceptions. -/
private theorem read_spec (sign : Sign) (exponent : BitVec 11) (mantissa : BitVec 52)
    (regular : exponent ≠ -1#11) :
    let read := UnpackedFloat.unpack .binary64 (packComponents .binary64 sign exponent mantissa)
    (exponent = 0#11 ∧ mantissa = 0#52 ∧ read = .zero sign) ∨
      Moderate sign (max (exponent.toNat - 1075) (-1074)) read := by
  have bias : (Format.exponentBias .binary64 : Int) = 1023 := rfl
  simp only [UnpackedFloat.unpack, unpackSign_packComponents,
    UnpackedFloat.unpackExponent_packComponents, UnpackedFloat.unpackMantissa_packComponents, bias,
    if_neg regular]
  by_cases least : exponent = 0#11
  · rw [if_pos least]
    by_cases blank : mantissa = 0#52
    · rw [dif_pos blank]
      exact .inl ⟨least, blank, rfl⟩
    · rw [dif_neg blank]
      subst least
      refine .inr ⟨_, _, _, rfl, ?_, by decide, by decide⟩
      exact Nat.lt_trans mantissa.isLt (by decide)
  · rw [if_neg least]
    have positive : exponent.toNat ≠ 0 := fun zero => least (BitVec.eq_of_toNat_eq zero)
    refine .inr ⟨_, _, _, rfl, (1#1 ++ mantissa).isLt, ?_, ?_⟩ <;> omega

theorem stored_zero (sign : Sign) : stored (.zero sign) = .zero sign := by
  cases sign <;> rfl

theorem stored_infinity (sign : Sign) : stored (.infinity sign) = .infinity sign := by
  cases sign <;> rfl

/-- A stored finite number overflows, or underflows, or is a finite number still. -/
theorem stored_finite (sign : Sign) (mantissa : Nat) (exponent : Int) (pos : 0 < mantissa) :
    let kept := stored (.finite sign mantissa exponent pos)
    (kept = .infinity sign ∧ 971 < exponent) ∨
      (kept = .zero sign ∧ ¬ (mantissa < 2 ^ 53 ∧ -1074 ≤ exponent)) ∨
      Moderate sign (max exponent (-1074)) kept := by
  intro kept
  have bias : exponent + Format.exponentBias .binary64 + (52 : Nat) = exponent + 1075 := by
    have bias : (Format.exponentBias .binary64 : Int) = 1023 := rfl
    omega
  have width : Format.mantissaBits .binary64 = 53 := rfl
  simp only [kept, stored, UnpackedFloat.pack, bias, width]
  by_cases wide : 2 ^ 11 ≤ (exponent + 1075).toNat + 1
  · rw [if_pos wide]
    exact .inl ⟨stored_infinity sign, by omega⟩
  rw [if_neg wide]
  have value : (BitVec.ofNat 11 (exponent + 1075).toNat).toNat = (exponent + 1075).toNat :=
    Nat.mod_eq_of_lt (by omega)
  by_cases normal : mantissa.log2 + 1 = 53
  · rw [if_pos normal]
    have regular : BitVec.ofNat 11 (exponent + 1075).toNat ≠ -1#11 := by
      intro same
      have top := congrArg BitVec.toNat same
      rw [value, show (-1#11).toNat = 2047 from rfl] at top
      omega
    obtain ⟨least, _, read⟩ | moderate := read_spec sign _ (BitVec.ofNat 52 mantissa) regular
    · have bottom := congrArg BitVec.toNat least
      rw [value, BitVec.toNat_zero] at bottom
      exact .inr (.inl ⟨read, by omega⟩)
    · rw [value] at moderate
      exact .inr (.inr (moderate.mono (by omega)))
  · rw [if_neg normal]
    obtain ⟨_, blank, read⟩ | moderate :=
      read_spec sign 0#11 (BitVec.ofNat 52 mantissa) (by decide)
    · refine .inr (.inl ⟨read, ?_⟩)
      rintro ⟨narrow, _⟩
      have digits : mantissa.log2 < 53 := (Nat.log2_lt pos.ne').mpr narrow
      have least : mantissa < 2 ^ 52 := (Nat.log2_lt pos.ne').mp (by omega)
      have bottom := congrArg BitVec.toNat blank
      rw [BitVec.toNat_ofNat, Nat.mod_eq_of_lt least, BitVec.toNat_zero] at bottom
      omega
    · exact .inr (.inr (moderate.mono (Int.le_max_right _ _)))

theorem Moderate.stored {sign : Sign} {limit : Int} {number : UnpackedFloat}
    (moderate : Moderate sign limit number) (high : limit ≤ 971) :
    Moderate sign limit (stored number) := by
  obtain ⟨mantissa, exponent, pos, rfl, narrow, low, upTo⟩ := moderate
  obtain ⟨_, beyond⟩ | ⟨_, under⟩ | kept := stored_finite sign mantissa exponent pos
  · omega
  · exact absurd ⟨narrow, low⟩ under
  · exact kept.mono (by omega)

theorem Slight.stored {limit : Int} {number : UnpackedFloat} (slight : Slight limit number)
    (high : limit ≤ 971) : Slight limit (stored number) := by
  rcases slight with rfl | moderate
  · exact .inl (stored_zero .positive)
  · exact .inr (moderate.stored high)

private theorem mantissa_shiftRight (extended : ExtendedMantissa) (places : Nat) :
    (extended >>> places).mantissa = extended.mantissa / 2 ^ places := by
  induction places with
  | zero => exact (Nat.div_one _).symm
  | succ places ih =>
    have step : extended >>> (places + 1) = (extended >>> places).shiftRightOne := rfl
    rw [step, ExtendedMantissa.shiftRightOne, ih, Nat.div_div_eq_div_mul, Nat.pow_succ]

private theorem roundedMantissa_near (extended : ExtendedMantissa) :
    extended.mantissa ≤ extended.roundedMantissa ∧
      extended.roundedMantissa ≤ extended.mantissa + 1 := by
  obtain ⟨mantissa, _ | _, _ | _⟩ := extended <;>
    simp only [ExtendedMantissa.roundedMantissa, ExtendedMantissa.accuracy,
      Accuracy.roundToNearestEven] <;> omega

private theorem mantissa_ofMantissaAndAccuracy (mantissa : Nat) (accuracy : Accuracy) :
    (ExtendedMantissa.ofMantissaAndAccuracy mantissa accuracy).mantissa = mantissa := by
  rcases accuracy with _ | ⟨_ | _ | _⟩ <;> rfl

/-- How many binary places are cut off to bring a number into the format. -/
def surplus (mantissa : Nat) (exponent : Int) : Nat :=
  (max (mantissa.log2 + exponent - 52) (-1074) - exponent).toNat

theorem targetExponent_eq (mantissa : Nat) (exponent : Int) :
    Format.targetExponent .binary64 (Float.Model.totalExponent mantissa exponent) =
      max (mantissa.log2 + exponent - 52) (-1074) := by
  have least : Format.minExponent .binary64 = -1074 := rfl
  have width : (Format.mantissaBits .binary64 : Int) = 53 := rfl
  rw [Format.targetExponent, Float.Model.totalExponent, least, width]
  omega

theorem shiftToTargetExponent_eq (mantissa : Nat) (exponent : Int) (accuracy : Accuracy) :
    UnpackedFloat.shiftToTargetExponent .binary64 mantissa exponent accuracy =
      (ExtendedMantissa.ofMantissaAndAccuracy mantissa accuracy >>> surplus mantissa exponent,
        exponent + surplus mantissa exponent) := by
  rw [UnpackedFloat.shiftToTargetExponent, UnpackedFloat.shiftToExponent, targetExponent_eq,
    surplus]

/-- Rounding cuts off the surplus, may count up by one, and then cuts off once more. -/
private theorem roundWithAccuracy_spec (sign : Sign) (mantissa : Nat) (exponent : Int)
    (accuracy : Accuracy) :
    let rounded := UnpackedFloat.roundWithAccuracy .binary64 sign mantissa exponent accuracy
    let cut := mantissa / 2 ^ surplus mantissa exponent
    let raised := exponent + surplus mantissa exponent
    ∃ near, cut ≤ near ∧ near ≤ cut + 1 ∧
      ((rounded = .zero sign ∧ near / 2 ^ surplus near raised = 0) ∨
        ∃ pos, rounded = .finite sign (near / 2 ^ surplus near raised)
          (raised + surplus near raised) pos) := by
  have near := roundedMantissa_near
    (ExtendedMantissa.ofMantissaAndAccuracy mantissa accuracy >>> surplus mantissa exponent)
  rw [mantissa_shiftRight, mantissa_ofMantissaAndAccuracy] at near
  refine ⟨_, near.1, near.2, ?_⟩
  simp only [UnpackedFloat.roundWithAccuracy, shiftToTargetExponent_eq, mantissa_shiftRight,
    mantissa_ofMantissaAndAccuracy]
  split
  · rename_i gone
    exact .inl ⟨rfl, gone⟩
  · rename_i some
    exact .inr ⟨Nat.pos_of_ne_zero some, rfl⟩

theorem log2_le_of_lt {mantissa bits : Nat} (short : mantissa < 2 ^ (bits + 1)) :
    mantissa.log2 ≤ bits := by
  by_cases zero : mantissa = 0
  · rw [zero, Nat.log2_zero]
    exact Nat.zero_le bits
  · exact Nat.le_of_lt_succ ((Nat.log2_lt zero).mpr short)

private theorem shiftLeft_lt {mantissa places bits total : Nat} (short : mantissa < 2 ^ bits)
    (within : bits + places ≤ total) : mantissa <<< places < 2 ^ total := by
  have longer : mantissa * 2 ^ places < 2 ^ bits * 2 ^ places :=
    Nat.mul_lt_mul_of_pos_right short (Nat.two_pow_pos places)
  rw [← Nat.pow_add] at longer
  rw [Nat.shiftLeft_eq]
  exact Nat.lt_of_lt_of_le longer (Nat.pow_le_pow_right (by decide) within)

private theorem cut_lt {mantissa places bits : Nat} (short : mantissa.log2 < places + bits) :
    mantissa / 2 ^ places < 2 ^ bits := by
  apply Nat.div_lt_of_lt_mul
  apply Nat.lt_of_lt_of_le Nat.lt_log2_self
  rw [← Nat.pow_add]
  exact Nat.pow_le_pow_right (by decide) short

private theorem cut_pos {mantissa places : Nat} (pos : 0 < mantissa)
    (few : places ≤ mantissa.log2) : 0 < mantissa / 2 ^ places := by
  apply Nat.div_pos _ (Nat.two_pow_pos places)
  exact Nat.le_trans (Nat.pow_le_pow_right (by decide) few) (Nat.log2_self_le pos.ne')

/-- Counting up after a cut makes a number at most one place longer. -/
private theorem log2_near_le {mantissa places near : Nat}
    (up : near ≤ mantissa / 2 ^ places + 1) : near.log2 ≤ mantissa.log2 + 1 - places := by
  have short : mantissa / 2 ^ places < 2 ^ (mantissa.log2 + 1 - places) := cut_lt (by omega)
  have room := Nat.two_pow_pos (mantissa.log2 + 1 - places)
  apply log2_le_of_lt
  rw [Nat.pow_succ]
  omega

/-- A number below `2 ^ (limit + 52)` rounds to a moderate one, or it is so fine that it is lost. -/
theorem rounded_cases (sign : Sign) (mantissa : Nat) (exponent : Int) (accuracy : Accuracy)
    {limit : Int} (least : -1074 ≤ limit) (fine : exponent ≤ limit)
    (small : mantissa.log2 + exponent ≤ limit + 51) :
    let rounded := UnpackedFloat.roundWithAccuracy .binary64 sign mantissa exponent accuracy
    (rounded = .zero sign ∧ ¬ (0 < mantissa ∧ -1074 ≤ exponent)) ∨ Moderate sign limit rounded := by
  intro rounded
  obtain ⟨near, low, up, ⟨zero, gone⟩ | ⟨pos, finite⟩⟩ :=
    roundWithAccuracy_spec sign mantissa exponent accuracy
  · refine .inl ⟨zero, ?_⟩
    rintro ⟨pos, regular⟩
    have kept : 0 < mantissa / 2 ^ surplus mantissa exponent :=
      cut_pos pos (by rw [surplus]; omega)
    have still : 0 < near / 2 ^ surplus near (exponent + surplus mantissa exponent) :=
      cut_pos (by omega) (by simp only [surplus]; omega)
    omega
  · have longer := log2_near_le up
    refine .inr ⟨_, _, pos, finite, cut_lt ?_, ?_, ?_⟩ <;> simp only [surplus] at * <;> omega

theorem rounded_slight (mantissa : Nat) (exponent : Int) (accuracy : Accuracy) {limit : Int}
    (least : -1074 ≤ limit) (fine : exponent ≤ limit)
    (small : mantissa.log2 + exponent ≤ limit + 51) :
    Slight limit (.roundWithAccuracy .binary64 .positive mantissa exponent accuracy) := by
  obtain ⟨zero, _⟩ | moderate :=
    rounded_cases .positive mantissa exponent accuracy least fine small
  · exact .inl zero
  · exact .inr moderate

/-- From the least exponent of the format on nothing is lost. -/
theorem round_moderate (sign : Sign) {mantissa : Nat} {exponent limit : Int} (pos : 0 < mantissa)
    (least : -1074 ≤ exponent) (fine : exponent ≤ limit)
    (small : mantissa.log2 + exponent ≤ limit + 51) :
    Moderate sign limit (UnpackedFloat.round .binary64 sign mantissa exponent) := by
  simp only [UnpackedFloat.round, UnpackedFloat.decreaseExponent, targetExponent_eq]
  generalize room : (exponent - max (mantissa.log2 + exponent - 52) (-1074)).toNat = places
  have wider : 0 < mantissa <<< places := by
    rw [Nat.shiftLeft_eq]
    exact Nat.mul_pos pos (Nat.two_pow_pos places)
  have longer : (mantissa <<< places).log2 ≤ mantissa.log2 + places := by
    apply log2_le_of_lt
    exact shiftLeft_lt Nat.lt_log2_self (by omega)
  obtain ⟨_, lost⟩ | moderate := rounded_cases sign (mantissa <<< places) (exponent - places) .exact
    (by omega : -1074 ≤ limit) (by omega) (by omega)
  · exact absurd ⟨wider, by omega⟩ lost
  · exact moderate

theorem shiftLeft_pos {mantissa : Nat} (pos : 0 < mantissa) (places : Nat) :
    0 < mantissa <<< places := by
  rw [Nat.shiftLeft_eq]
  exact Nat.mul_pos pos (Nat.two_pow_pos places)

theorem normalize_natCast {mantissa : Nat} (pos : 0 < mantissa) (exponent : Int)
    (zeroSign : Sign) :
    UnpackedFloat.normalize .binary64 mantissa exponent zeroSign =
      UnpackedFloat.round .binary64 .positive mantissa exponent := by
  have above : compare (mantissa : Int) 0 = .gt := Int.compare_eq_gt.mpr (by omega)
  rw [UnpackedFloat.normalize, above]
  rfl

theorem add_moderate {limit : Int} {first second : UnpackedFloat}
    (left : Moderate .positive limit first) (right : Moderate .positive limit second) :
    Moderate .positive (limit + 2) (.add .binary64 first second) := by
  obtain ⟨mantissa, exponent, pos, rfl, narrow, low, high⟩ := left
  obtain ⟨mantissa', exponent', _, rfl, narrow', low', high'⟩ := right
  simp only [UnpackedFloat.add, UnpackedFloat.decreaseExponent, Sign.apply, ← Int.natCast_add]
  generalize gap : (exponent - min exponent exponent').toNat = places
  generalize gap' : (exponent' - min exponent exponent').toNat = places'
  have summed : (mantissa <<< places + mantissa' <<< places').log2 ≤ 53 + max places places' := by
    have aligned : mantissa <<< places < 2 ^ (53 + max places places') :=
      shiftLeft_lt narrow (by omega)
    have aligned' : mantissa' <<< places' < 2 ^ (53 + max places places') :=
      shiftLeft_lt narrow' (by omega)
    apply log2_le_of_lt
    rw [Nat.pow_succ]
    omega
  have some := Nat.add_pos_left (shiftLeft_pos pos places) (mantissa' <<< places')
  rw [normalize_natCast some]
  exact round_moderate .positive some (by omega) (by omega) (by omega)

theorem add_slight {limit : Int} {first second : UnpackedFloat}
    (left : Moderate .positive limit first) (right : Slight limit second) :
    Moderate .positive (limit + 2) (.add .binary64 first second) := by
  rcases right with rfl | right
  · have unchanged : UnpackedFloat.add .binary64 first (.zero .positive) = first := by
      obtain ⟨_, _, _, rfl, _⟩ := left
      rfl
    rw [unchanged]
    exact left.mono (by omega)
  · exact add_moderate left right

theorem mul_slight {limit limit' : Int} {first second : UnpackedFloat} (left : Slight limit first)
    (right : Moderate .positive limit' second) (least : -1128 ≤ limit + limit') :
    Slight (limit + limit' + 54) (.mul .binary64 first second) := by
  obtain ⟨mantissa', exponent', _, rfl, narrow', _, high'⟩ := right
  rcases left with rfl | ⟨mantissa, exponent, _, rfl, narrow, _, high⟩
  · exact .inl rfl
  · have short : mantissa * mantissa' < 2 ^ 53 * 2 ^ 53 := Nat.mul_lt_mul'' narrow narrow'
    rw [← Nat.pow_add] at short
    have length := log2_le_of_lt short
    exact rounded_slight (mantissa * mantissa') (exponent + exponent') .exact
      (by omega) (by omega) (by omega)

theorem div_slight {limit : Int} {first : UnpackedFloat} (left : Slight limit first)
    (mantissa : Nat) (exponent : Int) (pos : 0 < mantissa) (least : exponent ≤ limit + 1075) :
    Slight (limit - exponent + 1)
      (.div .binary64 first (.finite .positive mantissa exponent pos)) := by
  rcases left with rfl | ⟨mantissa', exponent', _, rfl, narrow, _, high⟩
  · exact .inl rfl
  · simp only [UnpackedFloat.div, UnpackedFloat.divCore]
    generalize target : min (exponent' - exponent) _ = lowest
    generalize gap : (exponent' - exponent - lowest).toNat = places
    generalize UnpackedFloat.accuracyOfFraction _ _ = accuracy
    have length : (mantissa' <<< places / mantissa).log2 ≤ 52 + places := by
      apply log2_le_of_lt
      apply Nat.lt_of_le_of_lt (Nat.div_le_self _ mantissa)
      exact shiftLeft_lt narrow (by omega)
    exact rounded_slight (mantissa' <<< places / mantissa) lowest accuracy
      (by omega) (by omega) (by omega)

/-- What a volume may be: nothing, some, or too much. -/
inductive Amount : UnpackedFloat → Prop
  | zero (sign : Sign) : Amount (.zero sign)
  | finite (mantissa : Nat) (exponent : Int) (pos : 0 < mantissa) :
      Amount (.finite .positive mantissa exponent pos)
  | infinity : Amount (.infinity .positive)

theorem zero_le_iff (volume : Float) : 0.0 ≤ volume ↔ Amount (parts volume) := by
  have comparison : 0.0 ≤ volume ↔ UnpackedFloat.le (.zero .positive) (parts volume) = true :=
    decide_eq_true_iff
  rw [comparison]
  generalize parts volume = number
  constructor
  · intro above
    rcases number with ⟨_ | _⟩ | _ | sign | ⟨_ | _, mantissa, exponent, pos⟩
    · cases above
    · exact .infinity
    · cases above
    · exact .zero sign
    · cases above
    · exact .finite mantissa exponent pos
  · rintro (_ | _ | _) <;> rfl

theorem Moderate.amount {limit : Int} {number : UnpackedFloat}
    (moderate : Moderate .positive limit number) : Amount number := by
  obtain ⟨_, _, _, rfl, _⟩ := moderate
  exact .finite _ _ _

theorem Slight.amount {limit : Int} {number : UnpackedFloat} (slight : Slight limit number) :
    Amount number := by
  rcases slight with rfl | moderate
  · exact .zero _
  · exact moderate.amount

theorem Amount.stored {number : UnpackedFloat} (amount : Amount number) :
    Amount (stored number) := by
  cases amount with
  | zero sign =>
    rw [stored_zero]
    exact .zero sign
  | infinity =>
    rw [stored_infinity]
    exact .infinity
  | finite mantissa exponent pos =>
    obtain ⟨beyond, _⟩ | ⟨under, _⟩ | kept := stored_finite .positive mantissa exponent pos
    · rw [beyond]
      exact .infinity
    · rw [under]
      exact .zero _
    · exact kept.amount

theorem rounded_amount (mantissa : Nat) (exponent : Int) (accuracy : Accuracy) :
    Amount (.roundWithAccuracy .binary64 .positive mantissa exponent accuracy) := by
  have slight := rounded_slight mantissa exponent accuracy
    (by omega : -1074 ≤ max (max exponent (-1074)) (mantissa.log2 + exponent)) (by omega) (by omega)
  exact slight.amount

theorem normalize_amount (mantissa : Nat) (exponent : Int) :
    Amount (.normalize .binary64 mantissa exponent .positive) := by
  by_cases zero : mantissa = 0
  · subst zero
    exact .zero _
  · rw [normalize_natCast (Nat.pos_of_ne_zero zero)]
    exact rounded_amount _ _ _

theorem add_amount {first second : UnpackedFloat} (left : Amount first) (right : Amount second) :
    Amount (.add .binary64 first second) := by
  cases left with
  | infinity => cases right <;> exact .infinity
  | zero sign =>
    cases right with
    | infinity => exact .infinity
    | finite mantissa exponent pos => exact .finite mantissa exponent pos
    | zero sign' => cases sign <;> cases sign' <;> exact .zero _
  | finite mantissa exponent pos =>
    cases right with
    | infinity => exact .infinity
    | zero => exact .finite mantissa exponent pos
    | finite mantissa' exponent' pos' =>
      simp only [UnpackedFloat.add, UnpackedFloat.decreaseExponent, Sign.apply, ← Int.natCast_add]
      exact normalize_amount _ _

theorem mul_amount {limit : Int} {first second : UnpackedFloat} (left : Amount first)
    (right : Moderate .positive limit second) : Amount (.mul .binary64 first second) := by
  obtain ⟨_, _, _, rfl, _⟩ := right
  cases left with
  | infinity => exact .infinity
  | zero => exact .zero _
  | finite => exact rounded_amount _ _ _

theorem word_slight (word : UInt32) : Slight 0 (parts word.toFloat) := by
  have read : parts word.toFloat = stored (.normalize .binary64 (word.toNat : Nat) 0 .positive) :=
    rfl
  rw [read]
  apply Slight.stored _ (by decide)
  by_cases zero : word.toNat = 0
  · rw [zero]
    exact .inl rfl
  · have pos := Nat.pos_of_ne_zero zero
    have length : word.toNat.log2 ≤ 31 := log2_le_of_lt word.toNat_lt
    rw [normalize_natCast pos]
    exact .inr (round_moderate .positive pos (by decide) (by decide) (by omega))

theorem fraction_slight (word : UInt32) : Slight 21 (parts (PriceScale.fraction word)) := by
  have range : parts 4294967296.0 = .finite .positive 4503599627370496 (-20) (by decide) := rfl
  have share : PriceScale.fraction word = word.toFloat / 4294967296.0 := rfl
  rw [share, parts_div, range]
  exact (div_slight (word_slight word) _ _ _ (by decide)).stored (by decide)

theorem factor_moderate (word : UInt32) :
    Moderate .positive 22 (parts (0.9 + PriceScale.fraction word * 0.2)) := by
  have base : Moderate .positive 20 (parts 0.9) :=
    ⟨8106479329266893, -53, by decide, rfl, by decide, by decide, by decide⟩
  have scale : Moderate .positive (-55) (parts 0.2) :=
    ⟨7205759403792794, -55, by decide, rfl, by decide, by decide, by decide⟩
  have scaled := (mul_slight (fraction_slight word) scale (by decide)).stored (by decide)
  rw [parts_add, parts_mul]
  exact (add_slight base scaled).stored (by decide)

theorem traded_amount (word : UInt32) : Amount (parts (0.2 + PriceScale.fraction word * 0.8)) := by
  have base : Amount (parts 0.2) := (zero_le_iff 0.2).mp (by decide +kernel)
  have scale : Moderate .positive (-53) (parts 0.8) :=
    ⟨7205759403792794, -53, by decide, rfl, by decide, by decide, by decide⟩
  have scaled := (mul_amount (fraction_slight word).amount scale).stored
  rw [parts_add, parts_mul]
  exact (add_amount base scaled).stored

instance lawful : PriceScale.Lawful Float where
  zero_lt_floor := by decide +kernel
  zero_le_fifty := by decide +kernel
  zero_le_add := by
    intro volume word sound
    have amount := (zero_le_iff volume).mp sound
    exact (zero_le_iff _).mpr (add_amount amount (traded_amount word)).stored
  zero_le_mul := by
    intro volume word sound
    have amount := (zero_le_iff volume).mp sound
    exact (zero_le_iff _).mpr (mul_amount amount (factor_moderate word)).stored

theorem zero_lt_of_moderate {limit : Int} {volume : Float}
    (moderate : Moderate .positive limit (parts volume)) : 0.0 < volume := by
  obtain ⟨mantissa, exponent, pos, same, _⟩ := moderate
  refine (lt_iff 0.0 volume).mpr ⟨_, rfl, _, congrArg rank same, ?_⟩
  exact Prod.Lex.toLex_lt_toLex.mpr (.inl Int.zero_lt_one)

instance brisk : PriceScale.Brisk Float where
  zero_lt_drawn := by
    intro word
    have base : Moderate .positive 29 (parts 10.0) :=
      ⟨5629499534213120, -49, by decide, rfl, by decide, by decide, by decide⟩
    have scale : Moderate .positive (-46) (parts 90.0) :=
      ⟨6333186975989760, -46, by decide, rfl, by decide, by decide, by decide⟩
    have scaled := (mul_slight (fraction_slight word) scale (by decide)).stored (by decide)
    have drawn : Moderate .positive 31 (parts (10.0 + PriceScale.fraction word * 90.0)) := by
      rw [parts_add, parts_mul]
      exact (add_slight base scaled).stored (by decide)
    exact zero_lt_of_moderate drawn

end Binary64

end SyntheticMarket
