import SyntheticMarket.Proofs.Resumption
import SyntheticMarket.Proofs.Session.AtRest

/-! The geometry of a generated walk, in exact prices. How far a candle may move, and how long its
wicks may be, is known from the price it opens at. A walk that stands at the floor or above never
leaves it, so this holds of every candle, however large the volatility. -/

namespace SyntheticMarket

open Price

/-- How far a candle of some volatility reaches: the close from the opening, the extremes from the
body, and the volume. -/
structure Candle.Shaped (volatility : Rat) (candle : Candle Rat) : Prop where
  closing_ge : max floor (candle.opening * (1 - 20 * volatility)) ≤ candle.closing
  closing_le : candle.closing ≤ max floor (candle.opening * (1 + 20 * volatility))
  upper_ge : 1 / 5 * |candle.closing - candle.opening| ≤
    candle.high - max candle.opening candle.closing
  upper_le : candle.high - max candle.opening candle.closing ≤ |candle.closing - candle.opening|
  low_ge : max floor (min candle.opening candle.closing - |candle.closing - candle.opening|) ≤
    candle.low
  low_le : candle.low ≤
    max floor (min candle.opening candle.closing - 1 / 5 * |candle.closing - candle.opening|)
  low_enclosed : candle.low ≤ min candle.opening candle.closing
  volume : ∃ volume, candle.volume = some volume ∧ 10 ≤ volume ∧ volume < 100

namespace Walk

variable {volatility opening base : Rat} {walk : Walk Rat}

/-- The close before it is raised to the floor. -/
private theorem drift_bounds (level : 0 ≤ opening) (nonneg : 0 ≤ volatility) (word : UInt32) :
    let drifted := opening * (1.0 + (PriceScale.fraction word - 0.5) * 2.0 * volatility * 20.0)
    opening * (1 - 20 * volatility) ≤ drifted ∧ drifted ≤ opening * (1 + 20 * volatility) := by
  have least := Exact.fraction_nonneg word
  have most := Exact.fraction_lt_one word
  have reach : 0 ≤ opening * volatility := mul_nonneg level nonneg
  norm_num
  constructor <;> nlinarith

/-- A wick is between a fifth of the body and the whole of it. -/
private theorem wick_bounds (body : Rat) (word : UInt32) :
    let wick := PriceScale.magnitude body * (0.2 + PriceScale.fraction word * 0.8)
    1 / 5 * |body| ≤ wick ∧ wick ≤ |body| := by
  have least := Exact.fraction_nonneg word
  have most := Exact.fraction_lt_one word
  have length := abs_nonneg body
  rw [Exact.magnitude_eq_abs]
  norm_num
  constructor <;> nlinarith

private theorem traded_bounds (word : UInt32) :
    let traded : Rat := 10.0 + PriceScale.fraction word * 90.0
    10 ≤ traded ∧ traded < 100 := by
  have least := Exact.fraction_nonneg word
  have most := Exact.fraction_lt_one word
  norm_num
  constructor <;> linarith

theorem candle_shaped (level : floor ≤ opening) (nonneg : 0 ≤ volatility) (time : Int)
    (noise : Noise) : (candle volatility time opening noise).1.Shaped volatility := by
  generalize entered : (candle volatility time opening noise).1 = bar
  obtain rfl : bar.opening = opening := entered ▸ rfl
  obtain ⟨drifted, closed, fall, rise⟩ : ∃ drifted, bar.closing = max floor drifted ∧
      bar.opening * (1 - 20 * volatility) ≤ drifted ∧
      drifted ≤ bar.opening * (1 + 20 * volatility) := by
    refine ⟨_, ?_, drift_bounds (Exact.floor_pos.le.trans level) nonneg noise.next.1⟩
    rw [← Exact.raise_eq_max, ← entered]
    rfl
  obtain ⟨upper, high, shortest, longest⟩ : ∃ wick,
      bar.high = max bar.opening bar.closing + wick ∧
      1 / 5 * |bar.closing - bar.opening| ≤ wick ∧ wick ≤ |bar.closing - bar.opening| := by
    refine ⟨_, ?_, wick_bounds _ noise.next.2.next.1⟩
    rw [← Exact.higher_eq_max, ← entered]
    rfl
  obtain ⟨lower, low, shortest', longest'⟩ : ∃ wick,
      bar.low = max floor (min bar.opening bar.closing - wick) ∧
      1 / 5 * |bar.closing - bar.opening| ≤ wick ∧ wick ≤ |bar.closing - bar.opening| := by
    refine ⟨_, ?_, wick_bounds _ noise.next.2.next.2.next.1⟩
    rw [← Exact.lower_eq_min, ← Exact.raise_eq_max, ← entered]
    rfl
  have floored : floor ≤ min bar.opening bar.closing :=
    le_min level (closed ▸ le_max_left floor drifted)
  have body := abs_nonneg (bar.closing - bar.opening)
  constructor
  · rw [closed]
    exact max_le_max_left floor fall
  · rw [closed]
    exact max_le_max_left floor rise
  · linarith
  · linarith
  · rw [low]
    exact max_le_max_left floor (by linarith)
  · rw [low]
    exact max_le_max_left floor (by linarith)
  · rw [low]
    exact max_le floored (by linarith)
  · exact ⟨_, entered ▸ rfl, traded_bounds noise.next.2.next.2.next.2.next.1⟩

/-- A walk at the floor or above. Each candle opened at the close before it, the first one at the
base price, and the walk stands at the last close. -/
structure Regular (volatility base : Rat) (walk : Walk Rat) : Prop where
  level : floor ≤ walk.price
  shaped : ∀ bar ∈ walk.tape.toList, bar.Shaped volatility
  joined : base :: walk.tape.toList.map Candle.closing =
    walk.tape.toList.map Candle.opening ++ [walk.price]

theorem Regular.step (regular : walk.Regular volatility base) (nonneg : 0 ≤ volatility)
    (span : Span) : (Walk.step volatility span walk).Regular volatility base := by
  have entered := candle_shaped regular.level nonneg (secondOf walk.bucketStart) walk.noise
  refine ⟨floor_le_raise _, ?_, ?_⟩
  · intro bar member
    rw [toList_step] at member
    rcases List.mem_append.mp member with old | new
    · exact regular.shaped bar old
    · obtain rfl := List.mem_singleton.mp new
      exact entered
  · rw [toList_step, List.map_append, ← List.cons_append, regular.joined, List.map_append]
    rfl

theorem Regular.extend (regular : walk.Regular volatility base) (nonneg : 0 ≤ volatility)
    (span : Span) (count : Nat) :
    (Walk.extend volatility span count walk).Regular volatility base := by
  induction count generalizing walk with
  | zero => exact regular
  | succ count ih => exact ih (regular.step nonneg span)

theorem history_regular (noise : Noise) (now : Int) (span : Span) (count : Nat)
    (nonneg : 0 ≤ volatility) {startPrice : Option Rat}
    (asked : ∀ price ∈ startPrice, floor ≤ price) :
    (history noise now span count volatility startPrice).Regular volatility
      (basePrice noise startPrice).1 := by
  refine Regular.extend ⟨floor_le_basePrice noise asked, by simp, ?_⟩ nonneg span count
  cases startPrice <;> rfl

/-- A base price that was not asked for is at most twenty away from one hundred. -/
theorem basePrice_bounds (noise : Noise) :
    80 ≤ (basePrice noise none : Rat × Noise).1 ∧ (basePrice noise none : Rat × Noise).1 < 120 := by
  have least := Exact.fraction_nonneg noise.next.1
  have most := Exact.fraction_lt_one noise.next.1
  have drawn : (basePrice noise none : Rat × Noise).1 =
      100.0 + (PriceScale.fraction noise.next.1 - 0.5) * 40.0 := rfl
  rw [drawn]
  norm_num
  constructor <;> linarith

/-- Whatever the source and the volatility, a history of any length from a base price at the floor or
above is made of candles of bounded shape, each of which opens at the close before it. -/
theorem history_shaped (noise : Noise) (now : Int) (span : Span) (count : Nat)
    (nonneg : 0 ≤ volatility) {startPrice : Option Rat}
    (asked : ∀ price ∈ startPrice, floor ≤ price) :
    ∃ (walk : Walk Rat) (base : Rat),
      history? noise now span.ms count volatility startPrice = .ok walk ∧
      walk.tape.size = count ∧ walk.Regular volatility base ∧
      (∀ price ∈ startPrice, base = price) ∧ (startPrice = none → 80 ≤ base ∧ base < 120) := by
  refine ⟨_, (basePrice noise startPrice).1,
    history?_eq noise now span count volatility startPrice, size_history ..,
    history_regular noise now span count nonneg asked, ?_, ?_⟩
  · rintro price rfl
    rfl
  · rintro rfl
    exact basePrice_bounds noise

/-- Three candles from the floor on, of a volatility at which prices would fall far below zero. -/
theorem wild_shaped :
    (0 : Rat) ≤ 1000 ∧ (∀ price ∈ some (floor : Rat), floor ≤ price) ∧
      ∃ walk : Walk Rat,
        history? (Noise.ofSeed (-7)) 1700000000000 60000 3 1000 (some floor) = .ok walk ∧
        walk.tape.size = 3 ∧ walk.Regular 1000 floor := by
  have nonneg : (0 : Rat) ≤ 1000 := by norm_num
  have asked : ∀ price ∈ some (floor : Rat), floor ≤ price := by
    intro price asked
    exact (Option.some.inj asked).le
  obtain ⟨walk, base, made, size, regular, opened, -⟩ := history_shaped (Noise.ofSeed (-7))
    1700000000000 ⟨60000, Session.minute_positive⟩ 3 nonneg asked
  obtain rfl : base = floor := opened floor rfl
  exact ⟨nonneg, asked, walk, made, size, regular⟩

end Walk

end SyntheticMarket
