import SyntheticMarket.Proofs.History
import SyntheticMarket.Proofs.Price.Exact
import SyntheticMarket.Proofs.Session.Consistency

/-! Candles at rest, in exact prices. A walk that stands at the floor or above stays there, and
every bucket that it enters gives a consistent candle. What a history is worth therefore hangs on
the price it opens at: a drawn one is far above the floor, one that was asked for is taken as it is.
-/

namespace SyntheticMarket

open Price PriceScale.Ordered PriceScale.Lawful

structure Candle.Floored {α : Type} [PriceScale α] (candle : Candle α) : Prop where
  opening : floor ≤ candle.opening
  high : floor ≤ candle.high
  low : floor ≤ candle.low
  closing : floor ≤ candle.closing

/-- Prices at the floor or above whose extremes enclose opening and close make a sound candle. -/
theorem Candle.sound_of_enclosing {α : Type} [PriceScale α] [PriceScale.Lawful α]
    {candle : Candle α} (opening : floor ≤ candle.opening) (low : floor ≤ candle.low)
    (closing : floor ≤ candle.closing)
    (top : higher candle.opening candle.closing ≤ candle.high)
    (bottom : candle.low ≤ lower candle.opening candle.closing)
    (volume : ∀ volume, candle.volume = some volume → 0.0 ≤ volume) :
    candle.consistent ∧ candle.Floored := by
  have high := left_le_of_higher_le top
  have enclosed : candle.Enclosed :=
    ⟨zero_lt_of_floor_le low, le_left_of_le_lower bottom, high, volume⟩
  have lowest := le_trans bottom (lower_le_right (right_defined opening) (right_defined closing))
  have highest := le_trans (right_le_higher (right_defined opening) (right_defined closing)) top
  exact ⟨consistent_of_enclosed enclosed lowest highest,
    ⟨opening, le_trans opening high, low, closing⟩⟩

namespace Walk

variable {α : Type} [PriceScale α] {span : Span} {walk : Walk Rat}

/-- A wick is a share of the body's length, so it is never negative. -/
private theorem wick_nonneg (body : Rat) (word : UInt32) :
    0 ≤ PriceScale.magnitude body * (0.2 + PriceScale.fraction word * 0.8) := by
  have share := Exact.fraction_nonneg word
  rw [Exact.magnitude_eq_abs]
  norm_num
  positivity

private theorem traded_nonneg (word : UInt32) :
    (0.0 : Rat) ≤ 10.0 + PriceScale.fraction word * 90.0 := by
  have share := Exact.fraction_nonneg word
  norm_num
  positivity

/-- The candle of a bucket that is entered at the floor or above. -/
theorem candle_sound {opening : Rat} (level : floor ≤ opening) (volatility : Rat) (time : Int)
    (noise : Noise) :
    (candle volatility time opening noise).1.consistent ∧
      (candle volatility time opening noise).1.Floored := by
  have closing : floor ≤ (candle volatility time opening noise).1.closing := floor_le_raise _
  apply Candle.sound_of_enclosing level (floor_le_raise _) closing
  · exact le_add_of_nonneg_right (wick_nonneg _ _)
  · exact higher_le (le_lower level closing) (sub_le_self _ (wick_nonneg _ _))
  · intro volume traded
    obtain rfl := Option.some.inj traded
    exact traded_nonneg _

theorem mem_extend {walk : Walk α} {bar : Candle α} (member : bar ∈ walk.tape.toList)
    (volatility : α) (span : Span) (count : Nat) :
    bar ∈ (extend volatility span count walk).tape.toList := by
  induction count generalizing walk with
  | zero => exact member
  | succ count ih =>
    apply ih
    rw [toList_step]
    exact List.mem_append_left _ member

/-- A walk at the floor or above, with nothing but sound candles behind it. -/
structure Sound (walk : Walk Rat) : Prop where
  level : floor ≤ walk.price
  candles : ∀ bar ∈ walk.tape.toList, bar.consistent ∧ bar.Floored

theorem Sound.step (sound : walk.Sound) (volatility : Rat) (span : Span) :
    (Walk.step volatility span walk).Sound := by
  have entered := candle_sound sound.level volatility (secondOf walk.bucketStart) walk.noise
  refine ⟨entered.2.closing, ?_⟩
  intro bar member
  rw [toList_step] at member
  rcases List.mem_append.mp member with old | new
  · exact sound.candles bar old
  · obtain rfl := List.mem_singleton.mp new
    exact entered

theorem Sound.extend (sound : walk.Sound) (volatility : Rat) (span : Span) (count : Nat) :
    (Walk.extend volatility span count walk).Sound := by
  induction count generalizing walk with
  | zero => exact sound
  | succ count ih => exact ih (sound.step volatility span)

private theorem floor_le_drawn (word : UInt32) :
    (floor : Rat) ≤ 100.0 + (PriceScale.fraction word - 0.5) * 40.0 := by
  have share := Exact.fraction_nonneg word
  rw [Exact.floor_eq]
  norm_num
  linarith

theorem floor_le_basePrice (noise : Noise) {startPrice : Option Rat}
    (asked : ∀ price ∈ startPrice, floor ≤ price) : floor ≤ (basePrice noise startPrice).1 := by
  cases startPrice with
  | some price => exact asked price rfl
  | none => exact floor_le_drawn _

theorem history_sound (noise : Noise) (now : Int) (span : Span) (count : Nat) (volatility : Rat)
    {startPrice : Option Rat} (asked : ∀ price ∈ startPrice, floor ≤ price) :
    (history noise now span count volatility startPrice).Sound :=
  Sound.extend ⟨floor_le_basePrice noise asked, by simp⟩ volatility span count

/-- The first candle opens at the price that the walk stands at, while its low is floored. -/
theorem extend_opens [PriceScale.Lawful α] (volatility : α) (span : Span) {count : Nat}
    (positive : 0 < count) (walk : Walk α) :
    ∃ bar ∈ (extend volatility span count walk).tape.toList,
      bar.opening = walk.price ∧ floor ≤ bar.low := by
  obtain ⟨count, rfl⟩ := Nat.exists_eq_succ_of_ne_zero (Nat.ne_of_gt positive)
  have entered : (candle volatility (secondOf walk.bucketStart) walk.price walk.noise).1 ∈
      (step volatility span walk).tape.toList := by
    rw [toList_step]
    exact List.mem_append_right _ (List.mem_singleton_self _)
  exact ⟨_, mem_extend entered volatility span count, rfl, floor_le_raise _⟩

end Walk

namespace Session

/-- The candles of a fresh simulation are consistent, and their prices at the floor or above,
exactly when no start price below the floor was asked for. -/
theorem reset_sound_iff (config : Config Rat) (now : Int) :
    ((∀ bar ∈ (reset config now).candles, bar.consistent) ↔
        ∀ price ∈ config.startPrice, floor ≤ price) ∧
      ((∀ bar ∈ (reset config now).candles, bar.Floored) ↔
        ∀ price ∈ config.startPrice, floor ≤ price) := by
  have sound (asked : ∀ price ∈ config.startPrice, floor ≤ price) :
      ∀ bar ∈ (reset config now).candles, bar.consistent ∧ bar.Floored :=
    (Walk.history_sound _ now config.duration config.historyLength config.volatility asked).candles
  have opens (price : Rat) (asked : price ∈ config.startPrice) :
      ∃ bar ∈ (reset config now).candles, bar.opening = price ∧ floor ≤ bar.low := by
    rw [candles, reset, Option.mem_def.mp asked]
    exact Walk.extend_opens config.volatility config.duration config.historyLength_pos _
  refine ⟨⟨?_, fun asked bar member => (sound asked bar member).1⟩,
    ⟨?_, fun asked bar member => (sound asked bar member).2⟩⟩
  · intro consistent price asked
    obtain ⟨bar, member, opening, low⟩ := opens price asked
    have enclosed := Candle.enclosed_of_consistent (consistent bar member)
    exact opening ▸ low.trans enclosed.low_le
  · intro floored price asked
    obtain ⟨bar, member, opening, _⟩ := opens price asked
    exact opening ▸ (floored bar member).opening

theorem second_positive : (0 : Int) < 1000 := by decide

theorem minute_positive : (0 : Int) < 60000 := by decide

def slight : Config Rat where
  symbol := "TEST"
  duration := ⟨60000, minute_positive⟩
  historyLength := 1
  interval := ⟨1000, second_positive⟩
  volatility := 0.002
  startPrice := some 0.00005
  historyLength_pos := Nat.one_pos
  duration_seconds := by decide

theorem slight_inconsistent :
    (Config.ofParameters slight.parameters).toOption = some slight ∧
      ¬ ∀ bar ∈ (reset slight 1700000000000).candles, bar.consistent := by
  decide +kernel

end Session

end SyntheticMarket
