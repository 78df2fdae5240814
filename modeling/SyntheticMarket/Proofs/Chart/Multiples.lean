import Mathlib
import SyntheticMarket.Span

/-! Multiples of a width in a range. Listed one by one they are an arithmetic progression that ends
at the largest one within the range; the count of bucket starts between two moments is its length.
-/

namespace SyntheticMarket

/-- The multiples of a width from `first` to `last`, both included, in ascending order. -/
def multiples (width first last : Int) : List Int :=
  ((List.range (last + 1 - first).toNat).map fun offset : Nat => first + (offset : Int)).filter
    (width ∣ ·)

/-- Consecutive multiples of a width, as many as `count`, up to the largest one that is not above
`last`. -/
def lastMultiples (width last : Int) (count : Nat) : List Int :=
  (List.range count).map fun index : Nat => width * (last.fdiv width - ((count : Int) - 1 - index))

variable {width first last moment : Int} {count : Nat}

theorem mem_multiples :
    moment ∈ multiples width first last ↔ width ∣ moment ∧ first ≤ moment ∧ moment ≤ last := by
  simp only [multiples, List.mem_filter, List.mem_map, List.mem_range, decide_eq_true_eq]
  constructor
  · rintro ⟨⟨offset, below, rfl⟩, divides⟩
    exact ⟨divides, by omega, by omega⟩
  · rintro ⟨divides, above, below⟩
    exact ⟨⟨(moment - first).toNat, by omega, by omega⟩, divides⟩

theorem multiples_sorted (width first last : Int) : (multiples width first last).SortedLT := by
  apply List.Pairwise.sortedLT
  apply List.Pairwise.filter
  apply List.pairwise_map.mpr
  apply List.pairwise_lt_range.imp
  intro offset later below
  omega

theorem multiples_append (width : Int) {first middle last : Int} (after : first ≤ middle + 1)
    (before : middle ≤ last) :
    multiples width first middle ++ multiples width (middle + 1) last =
      multiples width first last := by
  have count : (last + 1 - first).toNat =
      (middle + 1 - first).toNat + (last + 1 - (middle + 1)).toNat := by
    omega
  have offset : ((middle + 1 - first).toNat : Int) = middle + 1 - first := by
    omega
  rw [multiples, multiples, multiples, ← List.filter_append, count, List.range_add,
    List.map_append, List.map_map]
  congr 3
  funext later
  simp only [Function.comp_apply, Int.natCast_add, offset]
  omega

/-- The multiples of a positive width up to `last` are those of its multiples by the numbers up to a
floored quotient. -/
private theorem mul_le_iff (positive : 0 < width) (factor : Int) :
    width * factor ≤ last ↔ factor ≤ last.fdiv width := by
  rw [Int.fdiv_eq_ediv_of_nonneg _ (Int.le_of_lt positive), Int.le_ediv_iff_mul_le positive,
    Int.mul_comm]

theorem fdiv_eq {factor : Int} (positive : 0 < width) (lower : width * factor ≤ moment)
    (upper : moment < width * factor + width) : moment.fdiv width = factor := by
  apply Int.le_antisymm
  · have least := (mul_le_iff positive (moment.fdiv width)).mpr (Int.le_refl _)
    have below : width * moment.fdiv width < width * (factor + 1) := by
      rw [Int.mul_add]
      omega
    exact Int.le_of_lt_add_one (Int.lt_of_mul_lt_mul_left below (Int.le_of_lt positive))
  · exact (mul_le_iff positive factor).mp lower

theorem mem_lastMultiples :
    moment ∈ lastMultiples width last count ↔
      ∃ factor, moment = width * factor ∧ last.fdiv width - count < factor ∧
        factor ≤ last.fdiv width := by
  simp only [lastMultiples, List.mem_map, List.mem_range]
  constructor
  · rintro ⟨index, below, rfl⟩
    exact ⟨_, rfl, by omega, by omega⟩
  · rintro ⟨factor, rfl, above, below⟩
    exact ⟨(factor - (last.fdiv width - count) - 1).toNat, by omega, by congr 1; omega⟩

theorem lastMultiples_sorted (positive : 0 < width) (last : Int) (count : Nat) :
    (lastMultiples width last count).SortedLT := by
  apply List.Pairwise.sortedLT
  apply List.pairwise_map.mpr
  apply List.pairwise_lt_range.imp
  intro index later below
  apply Int.mul_lt_mul_of_pos_left _ positive
  omega

@[simp] theorem length_lastMultiples (width last : Int) (count : Nat) :
    (lastMultiples width last count).length = count := by
  simp [lastMultiples]

/-- The progression that the multiples in a range are: its length is the floored quotient of `last`
less the raised one of `first`, both included. -/
theorem multiples_eq (positive : 0 < width) (first last : Int) :
    multiples width first last =
      lastMultiples width last (last.fdiv width + (-first).fdiv width + 1).toNat := by
  apply (multiples_sorted width first last).eq_of_mem_iff (lastMultiples_sorted positive last _)
  intro moment
  rw [mem_multiples, mem_lastMultiples]
  have fromFirst (factor : Int) : first ≤ width * factor ↔ -factor ≤ (-first).fdiv width := by
    rw [← mul_le_iff positive, Int.mul_neg]
    omega
  constructor
  · rintro ⟨⟨factor, rfl⟩, above, below⟩
    have := (fromFirst factor).mp above
    have := (mul_le_iff positive factor).mp below
    exact ⟨factor, rfl, by omega, by omega⟩
  · rintro ⟨factor, rfl, above, below⟩
    exact ⟨⟨factor, rfl⟩, (fromFirst factor).mpr (by omega),
      (mul_le_iff positive factor).mpr below⟩

/-- The last of consecutive multiples are consecutive multiples up to the same one. -/
theorem rtake_lastMultiples (width last : Int) (count limit : Nat) :
    (lastMultiples width last count).rtake limit = lastMultiples width last (min count limit) := by
  apply List.ext_getElem
  · simp only [List.rtake, List.length_drop, length_lastMultiples]
    omega
  · intro index inside inside'
    simp only [List.rtake, lastMultiples, List.getElem_drop, List.getElem_map, List.getElem_range,
      List.length_map, List.length_range] at inside' ⊢
    congr 1
    omega

theorem length_multiples (positive : 0 < width) (first last : Int) :
    (multiples width first last).length = (last.fdiv width + (-first).fdiv width + 1).toNat := by
  rw [multiples_eq positive, length_lastMultiples]

/-- A range of whole units holds as many multiples of a width in units as in their fractions. -/
theorem length_multiples_mul {unit : Int} (unit_pos : 0 < unit) (positive : 0 < width)
    (first last : Int) :
    (multiples (width * unit) (first * unit) (last * unit)).length =
      (multiples width first last).length := by
  rw [length_multiples (Int.mul_pos positive unit_pos), length_multiples positive,
    ← Int.neg_mul, Int.mul_fdiv_mul_of_pos_left _ _ unit_pos,
    Int.mul_fdiv_mul_of_pos_left _ _ unit_pos]

namespace Span

theorem align_eq (span : Span) (moment : Int) :
    span.align moment = span.ms * moment.fdiv span.ms := by
  have := Int.mul_fdiv_add_fmod moment span.ms
  unfold align
  omega

/-- The bucket start at a moment or, if there is none, the one after it. -/
theorem raised_eq (span : Span) (moment : Int) :
    (if span.align moment < moment then span.align moment + span.ms else span.align moment) =
      span.ms * -(-moment).fdiv span.ms := by
  have below := span.align_le moment
  have within := span.lt_align_add moment
  rw [align_eq] at below within ⊢
  generalize moment.fdiv span.ms = factor at below within ⊢
  split
  · rename_i inside
    have raised : (-moment).fdiv span.ms = -factor - 1 := by
      apply fdiv_eq span.positive
      · rw [Int.mul_sub, Int.mul_neg]
        omega
      · rw [Int.mul_sub, Int.mul_neg]
        omega
    rw [raised, Int.neg_sub, Int.sub_neg, Int.mul_add]
    omega
  · rename_i outside
    have exact_ : (-moment).fdiv span.ms = -factor := by
      apply fdiv_eq span.positive
      · rw [Int.mul_neg]
        omega
      · rw [Int.mul_neg]
        omega
    rw [exact_, Int.neg_neg]

/-- The count of bucket starts between two moments is that of the multiples of the span. -/
theorem startsWithin_eq (span : Span) (first last : Int) :
    span.startsWithin first last = ((multiples span.ms first last).length : Int) := by
  have positive := span.positive
  simp only [startsWithin]
  rw [raised_eq, align_eq, length_multiples positive]
  split
  · rename_i inverted
    have := Int.lt_of_mul_lt_mul_left inverted (Int.le_of_lt positive)
    omega
  · rename_i ordered
    have := Int.le_of_mul_le_mul_left (Int.not_lt.mp ordered) positive
    rw [← Int.mul_sub, Int.mul_fdiv_cancel_left _ (Int.ne_of_gt positive)]
    omega

end Span

end SyntheticMarket
