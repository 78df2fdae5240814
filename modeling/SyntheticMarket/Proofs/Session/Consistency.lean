import SyntheticMarket.Proofs.Price.Binary64
import SyntheticMarket.Proofs.Price.Order
import SyntheticMarket.Proofs.Session.Tick

/-! Consistent candles under ticks. Every price that a tick makes is at the floor or above, however
degenerate the numbers it comes from, so candles stay consistent. The one exception is a live candle
that was handed in with an undefined close and is closed before any move repaints it. -/

namespace SyntheticMarket

open Price PriceScale.Ordered PriceScale.Lawful

variable {α : Type} [PriceScale α]

namespace Candle

/-- What is left of consistency where nothing is known of the close. -/
structure Enclosed (candle : Candle α) : Prop where
  low_pos : 0.0 < candle.low
  low_le : candle.low ≤ candle.opening
  le_high : candle.opening ≤ candle.high
  volume_nonneg : ∀ volume, candle.volume = some volume → 0.0 ≤ volume

theorem consistent_iff (candle : Candle α) :
    candle.consistent ↔
      higher candle.opening candle.closing ≤ candle.high ∧
        candle.low ≤ lower candle.opening candle.closing ∧
        0.0 < lower (lower (lower candle.opening candle.high) candle.low) candle.closing ∧
        ∀ volume, candle.volume = some volume → 0.0 ≤ volume := by
  rw [consistent]
  cases candle.volume <;> simp [and_assoc]

theorem consistent_concat {bars : List (Candle α)} {newest : Candle α}
    (older : ∀ bar ∈ bars, bar.consistent) (consistent : newest.consistent) :
    ∀ bar ∈ bars ++ [newest], bar.consistent := by
  intro bar member
  rcases List.mem_append.mp member with old | new
  · exact older bar old
  · obtain rfl := List.mem_singleton.mp new
    exact consistent

variable [PriceScale.Lawful α] {candle : Candle α} {price : α}

theorem enclosed_of_consistent (consistent : candle.consistent) : candle.Enclosed := by
  obtain ⟨above, below, positive, volume⟩ := (consistent_iff candle).mp consistent
  have low : Defined candle.low := left_defined below
  exact ⟨lt_right_of_lt_lower low (lt_left_of_lt_lower positive), le_left_of_le_lower below,
    left_le_of_higher_le above, volume⟩

theorem consistent_of_enclosed (enclosed : candle.Enclosed) (low : candle.low ≤ candle.closing)
    (high : candle.closing ≤ candle.high) : candle.consistent := by
  have lowPos := enclosed.low_pos
  have opening := lt_of_lt_of_le lowPos enclosed.low_le
  have prices : (0.0 : α) < lower (lower (lower candle.opening candle.high) candle.low)
      candle.closing :=
    lt_lower (lt_lower (lt_lower opening (lt_of_lt_of_le opening enclosed.le_high)) lowPos)
      (lt_of_lt_of_le lowPos low)
  exact (consistent_iff candle).mpr
    ⟨higher_le enclosed.le_high high, le_lower enclosed.low_le low, prices, enclosed.volume_nonneg⟩

theorem closing_pos (consistent : candle.consistent) (defined : Defined candle.closing) :
    0.0 < candle.closing := by
  obtain ⟨_, _, positive, _⟩ := (consistent_iff candle).mp consistent
  exact lt_right_of_lt_lower defined positive

theorem zero_lt_of_floor_le (level : floor ≤ price) : 0.0 < price :=
  lt_of_lt_of_le zero_lt_floor level

theorem single_consistent (time : Int) (level : floor ≤ price) :
    ({ time, opening := price, high := price, low := price, closing := price,
       volume := some 0.0 } : Candle α).consistent := by
  have self : Defined price := right_defined level
  refine consistent_of_enclosed ⟨zero_lt_of_floor_le level, self, self, ?_⟩ self self
  intro volume same
  obtain rfl := Option.some.inj same
  exact zero_le_zero

/-- A move repaints the close, so the old one need not be defined. -/
theorem touch_consistent (enclosed : candle.Enclosed) (level : floor ≤ price) (word : UInt32) :
    (Session.touch candle price (PriceScale.fraction word)).consistent := by
  have self : Defined price := right_defined level
  have low : Defined candle.low := left_defined enclosed.low_le
  have high : Defined candle.high := right_defined enclosed.le_high
  refine consistent_of_enclosed ⟨?_, ?_, ?_, ?_⟩ ?_ ?_
  · exact lt_lower enclosed.low_pos (zero_lt_of_floor_le level)
  · exact le_trans (lower_le_left low price) enclosed.low_le
  · exact le_trans enclosed.le_high (left_le_higher high price)
  · intro volume same
    obtain rfl := Option.some.inj same
    exact zero_le_add _ word (zero_le_orZero enclosed.volume_nonneg)
  · exact lower_le_right low self
  · exact right_le_higher high self

/-- The next candle opens at the close of the closed one, so that one has to be defined. -/
theorem follow_consistent (consistent : candle.consistent) (defined : Defined candle.closing)
    (time : Int) (level : floor ≤ price) (word : UInt32) :
    (Session.follow candle time price (PriceScale.fraction word)).consistent := by
  have self : Defined price := right_defined level
  have enclosed := enclosed_of_consistent consistent
  refine consistent_of_enclosed ⟨?_, ?_, ?_, ?_⟩ ?_ ?_
  · exact lt_lower (closing_pos consistent defined) (zero_lt_of_floor_le level)
  · exact lower_le_left defined price
  · exact left_le_higher defined price
  · intro volume same
    obtain rfl := Option.some.inj same
    have before : (0.0 : α) ≤ candle.volume.getD Session.assumedVolume := by
      cases held : candle.volume with
      | none => exact zero_le_fifty
      | some amount => exact enclosed.volume_nonneg amount held
    exact zero_le_mul _ word before
  · exact lower_le_right defined self
  · exact right_le_higher defined self

end Candle

namespace Session

variable [PriceScale.Lawful α] {session : Session α} {now : Int}

/-- The last price is a price of the walk, and the live candle closes at it. -/
structure Priced (session : Session α) : Prop where
  defined : Defined session.lastPrice
  floor_le : floor ≤ session.lastPrice
  live : ∃ live, session.candles.getLast? = some live ∧ live.closing = session.lastPrice

/-- A tick at `now` would close a live candle whose close is undefined. -/
def ClosesUndefined (session : Session α) (now : Int) : Prop :=
  ∃ last, session.tape.last? = some last ∧ session.bucketEnd ≤ now ∧ ¬ Defined last.closing

/-- Whatever the last price, the volatility and the draw are, a move ends at the floor or above. -/
theorem floor_le_moved (session : Session α) : floor ≤ session.moved.lastPrice :=
  floor_le_raise _

theorem tick_consistent (sound : ∀ bar ∈ session.candles, bar.consistent)
    (calm : ¬ session.ClosesUndefined now) :
    ∀ bar ∈ (session.tick now).2.candles, bar.consistent := by
  have level := floor_le_moved session
  obtain ⟨_, ticked⟩ | ⟨last, live, _, ticked⟩ | ⟨last, live, late, ticked⟩ :=
    session.tick_cases now
  · rw [ticked, candles_openFirst]
    exact Candle.consistent_concat sound (Candle.single_consistent _ level)
  · have enclosed := Candle.enclosed_of_consistent (sound last (live_mem live))
    rw [ticked, candles_updateLive]
    apply Candle.consistent_concat _ (Candle.touch_consistent enclosed level _)
    intro bar old
    exact sound bar ((List.dropLast_sublist _).subset old)
  · have defined : Defined last.closing := by
      by_contra undefined
      exact calm ⟨last, live, late, undefined⟩
    rw [ticked, candles_rollOver]
    exact Candle.consistent_concat sound
      (Candle.follow_consistent (sound last (live_mem live)) defined _ level _)

theorem tick_priced (session : Session α) (now : Int) : (session.tick now).2.Priced := by
  have level := floor_le_moved session
  obtain ⟨newest, closing⟩ := session.tick_live now
  rw [Tape.last?_eq] at newest
  refine ⟨?_, ?_, _, newest, closing⟩ <;> rw [tick_lastPrice]
  · exact right_defined level
  · exact level

theorem not_closesUndefined_tick (session : Session α) (earlier later : Int) :
    ¬ (session.tick earlier).2.ClosesUndefined later := by
  rintro ⟨last, live, -, undefined⟩
  obtain ⟨newest, closing⟩ := session.tick_live earlier
  obtain rfl := Option.some.inj (newest.symm.trans live)
  rw [closing, tick_lastPrice] at undefined
  exact undefined (right_defined (floor_le_moved session))

theorem run_consistent (sound : ∀ bar ∈ session.candles, bar.consistent) {first : Int}
    (calm : ¬ session.ClosesUndefined first) (later : List Int) :
    ∀ bar ∈ (session.run (first :: later)).2.candles, bar.consistent := by
  induction later generalizing session first with
  | nil => exact tick_consistent sound calm
  | cons next rest ih =>
    exact ih (tick_consistent sound calm) (not_closesUndefined_tick session first next)

def OpensUndefined (session : Session α) : Prop :=
  ∃ bar ∈ session.candles, ¬ Defined bar.opening

omit [PriceScale.Lawful α] in
theorem tick_keeps_undefined (broken : session.OpensUndefined) (now : Int) :
    (session.tick now).2.OpensUndefined := by
  obtain ⟨bar, member, undefined⟩ := broken
  obtain ⟨_, ticked⟩ | ⟨last, live, _, ticked⟩ | ⟨last, live, _, ticked⟩ :=
    session.tick_cases now <;> rw [ticked, OpensUndefined]
  · rw [candles_openFirst]
    exact ⟨bar, List.mem_append_left _ member, undefined⟩
  · rw [candles_updateLive]
    rw [candles_eq live] at member
    rcases List.mem_append.mp member with old | newest
    · exact ⟨bar, List.mem_append_left _ old, undefined⟩
    · obtain rfl := List.mem_singleton.mp newest
      exact ⟨_, List.mem_append_right _ (List.mem_singleton_self _), undefined⟩
  · rw [candles_rollOver]
    exact ⟨bar, List.mem_append_left _ member, undefined⟩

omit [PriceScale.Lawful α] in
theorem tick_opens_undefined (closes : session.ClosesUndefined now) :
    (session.tick now).2.OpensUndefined := by
  obtain ⟨last, live, late, undefined⟩ := closes
  rw [tick_of_late live late, OpensUndefined, candles_rollOver]
  exact ⟨_, List.mem_append_right _ (List.mem_singleton_self _), undefined⟩

omit [PriceScale.Lawful α] in
theorem run_opens_undefined (closes : session.ClosesUndefined now) (later : List Int) :
    (session.run (now :: later)).2.OpensUndefined :=
  run_preserves OpensUndefined (fun _ now broken => tick_keeps_undefined broken now)
    (tick_opens_undefined closes) later

/-- From consistent candles, any last price and any volatility: every tick leaves a sound price, and
all candles stay consistent, unless the first tick closed a live candle with an undefined close. -/
theorem run_consistent_iff (session : Session α) (first : Int) (later : List Int)
    (sound : ∀ bar ∈ session.candles, bar.consistent) :
    let after := (session.run (first :: later)).2
    after.Priced ∧
      ((∀ bar ∈ after.candles, bar.consistent) ↔ ¬ session.ClosesUndefined first) := by
  intro after
  refine ⟨run_establishes Priced tick_priced session first later, ?_, ?_⟩
  · intro consistent closes
    obtain ⟨bar, member, undefined⟩ := run_opens_undefined closes later
    have enclosed := Candle.enclosed_of_consistent (consistent bar member)
    exact undefined (left_defined enclosed.le_high)
  · intro calm
    exact run_consistent sound calm later

def sample (volatility lastPrice closing : Float) : Session Float where
  config :=
    { symbol := "TEST", duration := ⟨5000, by decide⟩, historyLength := 1,
      interval := ⟨1000, by decide⟩, volatility, startPrice := none,
      historyLength_pos := by decide, duration_seconds := by decide }
  noise := Noise.ofSeed 7
  lastPrice
  bucketStart := 1700000040000
  tape := .ofList
    [{ time := 1700000040, opening := 100.0, high := 101.0, low := 99.0, closing, volume := none }]
  ticks := 0
  rollovers := 0

theorem sample_undefined_close :
    (∀ bar ∈ (sample 0.002 100.0 (0.0 / 0.0)).candles, bar.consistent) ∧
      ¬ ∀ bar ∈ ((sample 0.002 100.0 (0.0 / 0.0)).run [1700000045000]).2.candles, bar.consistent := by
  decide +kernel

/-- Neither an undefined volatility nor an infinite last price does any harm. -/
theorem sample_degenerate :
    (∀ bar ∈ (sample (0.0 / 0.0) (1.0 / 0.0) 100.0).candles, bar.consistent) ∧
      ∀ bar ∈ ((sample (0.0 / 0.0) (1.0 / 0.0) 100.0).run [1700000045000, 1700000041000]).2.candles,
        bar.consistent := by
  have sound : ∀ bar ∈ (sample (0.0 / 0.0) (1.0 / 0.0) 100.0).candles, bar.consistent := by
    decide +kernel
  obtain ⟨_, kept⟩ := run_consistent_iff (sample (0.0 / 0.0) (1.0 / 0.0) 100.0)
    1700000045000 [1700000041000] sound
  refine ⟨sound, kept.mpr ?_⟩
  rintro ⟨last, live, _, undefined⟩
  obtain rfl := Option.some.inj live
  exact undefined ((Binary64.defined_iff_isNaN _).mpr (by decide +kernel))

end Session

end SyntheticMarket
