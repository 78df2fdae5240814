import Mathlib.Algebra.Order.Ring.Rat
import Mathlib.Tactic.Linarith
import Mathlib.Tactic.NormNum
import Mathlib.Tactic.Positivity
import SyntheticMarket.Proofs.Price.Order

/-! Exact prices. Over the rationals the operations on prices are those of the ordered field:
nothing is undefined, and a drawn share is never negative. -/

namespace SyntheticMarket

namespace Exact

open Price

theorem floor_eq : (floor : Rat) = 1 / 10000 := by
  unfold floor
  norm_num

theorem floor_pos : (0 : Rat) < floor := by
  rw [floor_eq]
  norm_num

theorem magnitude_eq_abs (price : Rat) : PriceScale.magnitude price = |price| := by
  change (if price < 0 then -price else price) = |price|
  split
  · rename_i negative
    exact (abs_of_neg negative).symm
  · rename_i least
    exact (abs_of_nonneg (not_lt.mp least)).symm

theorem fraction_eq (word : UInt32) :
    (PriceScale.fraction word : Rat) = (word.toNat : Rat) / 4294967296 := rfl

theorem fraction_nonneg (word : UInt32) : (0 : Rat) ≤ PriceScale.fraction word := by
  rw [fraction_eq]
  positivity

theorem fraction_lt_one (word : UInt32) : PriceScale.fraction word < (1 : Rat) := by
  have below : (word.toNat : Rat) < 4294967296 := by exact_mod_cast word.toNat_lt
  rw [fraction_eq]
  linarith

theorem higher_eq_max (first second : Rat) : higher first second = max first second := by
  obtain ⟨below, same⟩ | ⟨least, same⟩ := higher_cases first second
  · rw [same, max_eq_right below.le]
  · rw [same, max_eq_left (not_lt.mp least)]

theorem lower_eq_min (first second : Rat) : lower first second = min first second := by
  obtain ⟨below, same⟩ | ⟨least, same⟩ := lower_cases first second
  · rw [same, min_eq_right below.le]
  · rw [same, min_eq_left (not_lt.mp least)]

theorem raise_eq_max (price : Rat) : raise price = max floor price := higher_eq_max floor price

instance lawful : PriceScale.Lawful Rat where
  left_defined _ := le_refl _
  right_defined _ := le_refl _
  le_total _ _ := le_total _ _
  le_trans := le_trans
  lt_iff := lt_iff_le_not_ge
  zero_lt_floor := by
    have positive := floor_pos
    norm_num at positive ⊢
    exact positive
  zero_le_fifty := by norm_num
  zero_le_add volume word nonneg := by
    have share := fraction_nonneg word
    norm_num at nonneg ⊢
    positivity
  zero_le_mul volume word nonneg := by
    have share := fraction_nonneg word
    norm_num at nonneg ⊢
    positivity

instance brisk : PriceScale.Brisk Rat where
  zero_lt_drawn word := by
    have share := fraction_nonneg word
    norm_num
    positivity

end Exact

end SyntheticMarket
