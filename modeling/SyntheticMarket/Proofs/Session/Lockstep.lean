import SyntheticMarket.Proofs.Session.Timetable

/-! Prices and times do not know of each other. Whatever a tick does to the candles, it takes the
same draws in the same order, so the price of a simulation depends on how often it ticked and never
on when; and where its buckets begin and end depends on the clock and never on the price. -/

namespace SyntheticMarket

variable {α : Type}

def Candle.figures (candle : Candle α) : α × α × α × α × Option α :=
  (candle.opening, candle.high, candle.low, candle.closing, candle.volume)

variable [PriceScale α]

namespace Walk

variable {left right : Walk α}

/-- Two walks at one price with one noise behind the same figures, whatever their buckets. -/
structure Level (left right : Walk α) : Prop where
  price : left.price = right.price
  noise : left.noise = right.noise
  figures : left.tape.toList.map Candle.figures = right.tape.toList.map Candle.figures

theorem Level.step (level : Level left right) (volatility : α) (span span' : Span) :
    Level (Walk.step volatility span left) (Walk.step volatility span' right) := by
  obtain ⟨tape, price, start, noise⟩ := left
  obtain ⟨tape', price', start', noise'⟩ := right
  obtain ⟨rfl, rfl, figures⟩ := level
  constructor
  · rfl
  · rfl
  · rw [toList_step, toList_step, List.map_append, List.map_append, figures]
    rfl

theorem Level.extend (level : Level left right) (volatility : α) (span span' : Span)
    (count : Nat) :
    Level (Walk.extend volatility span count left) (Walk.extend volatility span' count right) := by
  induction count generalizing left right with
  | zero => exact level
  | succ count ih => exact ih (level.step volatility span span')

theorem history_level (noise : Noise) (now now' : Int) (span span' : Span) (count : Nat)
    (volatility : α) (startPrice : Option α) :
    Level (history noise now span count volatility startPrice)
      (history noise now' span' count volatility startPrice) := by
  apply Level.extend
  exact ⟨rfl, rfl, rfl⟩

/-- Two walks in the same bucket with candles at the same times, whatever their prices. -/
structure Abreast (left right : Walk α) : Prop where
  bucketStart : left.bucketStart = right.bucketStart
  times : left.tape.toList.map Candle.time = right.tape.toList.map Candle.time

theorem Abreast.step (abreast : Abreast left right) (volatility volatility' : α) (span : Span) :
    Abreast (Walk.step volatility span left) (Walk.step volatility' span right) := by
  constructor
  · exact congrArg (· + span.ms) abreast.bucketStart
  · rw [toList_step, toList_step, List.map_append, List.map_append, abreast.times]
    exact congrArg (fun start => _ ++ [secondOf start]) abreast.bucketStart

theorem Abreast.extend (abreast : Abreast left right) (volatility volatility' : α) (span : Span)
    (count : Nat) :
    Abreast (Walk.extend volatility span count left)
      (Walk.extend volatility' span count right) := by
  induction count generalizing left right with
  | zero => exact abreast
  | succ count ih => exact ih (abreast.step volatility volatility' span)

theorem history_abreast (noise noise' : Noise) (now : Int) (span : Span) (count : Nat)
    (volatility volatility' : α) (startPrice startPrice' : Option α) :
    Abreast (history noise now span count volatility startPrice)
      (history noise' now span count volatility' startPrice') := by
  apply Abreast.extend
  exact ⟨rfl, rfl⟩

end Walk

namespace Session

variable {left right session : Session α} {now now' : Int}

/-- Both sessions make the same next move from the same price. -/
structure Level (left right : Session α) : Prop where
  volatility : left.config.volatility = right.config.volatility
  price : left.lastPrice = right.lastPrice
  noise : left.noise = right.noise

/-- With a live candle every tick draws a move and a share, be the candle changed or closed. -/
theorem OnGrid.tick_noise (grid : session.OnGrid) (now : Int) :
    (session.tick now).2.noise = (session.moved.noise.draw (α := α)).2 := by
  obtain ⟨_, _, _, ⟨_, ticked⟩ | ⟨_, ticked⟩⟩ := grid.tick_cases now <;> rw [ticked] <;> rfl

theorem Level.tick (level : Level left right) (leftGrid : left.OnGrid) (rightGrid : right.OnGrid)
    (now now' : Int) : Level (left.tick now).2 (right.tick now').2 := by
  have drawn : left.moved.noise = right.moved.noise := by
    rw [moved, moved, level.noise]
  constructor
  · rw [tick_config, tick_config]
    exact level.volatility
  · rw [tick_lastPrice, tick_lastPrice, moved, moved, level.noise, level.price, level.volatility]
  · rw [leftGrid.tick_noise, rightGrid.tick_noise, drawn]

theorem Level.run (level : Level left right) (leftGrid : left.OnGrid) (rightGrid : right.OnGrid)
    (moments : List (Int × Int)) :
    Level (left.run (moments.map (·.1))).2 (right.run (moments.map (·.2))).2 := by
  induction moments generalizing left right with
  | nil => exact level
  | cons moment later ih =>
    exact ih (level.tick leftGrid rightGrid moment.1 moment.2) (leftGrid.tick _) (rightGrid.tick _)

/-- Both sessions are in the same bucket, behind candles at the same times. -/
structure Abreast (left right : Session α) : Prop where
  duration : left.config.duration = right.config.duration
  bucketStart : left.bucketStart = right.bucketStart
  times : left.candles.map Candle.time = right.candles.map Candle.time
  rollovers : left.rollovers = right.rollovers

/-- What a tick does to the buckets is decided by the clock and the bucket under construction. -/
theorem OnGrid.tick_buckets (grid : session.OnGrid) (now : Int) :
    (session.tick now).1.transition =
        (if session.bucketEnd ≤ now then Transition.rollover else Transition.update) ∧
      (session.tick now).2.bucketStart =
        (if session.bucketEnd ≤ now then session.bucketEnd else session.bucketStart) ∧
      (session.tick now).2.candles.map Candle.time = session.candles.map Candle.time ++
        (if session.bucketEnd ≤ now then [secondOf session.bucketEnd] else []) ∧
      (session.tick now).2.rollovers =
        session.rollovers + (if session.bucketEnd ≤ now then 1 else 0) := by
  obtain ⟨last, live, _, ⟨early, ticked⟩ | ⟨late, ticked⟩⟩ := grid.tick_cases now
  · have open_ : ¬ session.bucketEnd ≤ now := Int.not_le.mpr early
    rw [ticked, candles_updateLive, if_neg open_, if_neg open_, if_neg open_, if_neg open_,
      candles_eq live, List.dropLast_concat, List.append_nil, List.map_append, List.map_append]
    exact ⟨rfl, rfl, rfl, rfl⟩
  · rw [ticked, candles_rollOver, if_pos late, if_pos late, if_pos late, if_pos late,
      List.map_append]
    exact ⟨rfl, rfl, rfl, rfl⟩

theorem Abreast.tick (abreast : Abreast left right) (leftGrid : left.OnGrid)
    (rightGrid : right.OnGrid) (now : Int) :
    (left.tick now).1.transition = (right.tick now).1.transition ∧
      Abreast (left.tick now).2 (right.tick now).2 := by
  obtain ⟨transition, bucketStart, times, rollovers⟩ := leftGrid.tick_buckets now
  obtain ⟨transition', bucketStart', times', rollovers'⟩ := rightGrid.tick_buckets now
  have ends : left.bucketEnd = right.bucketEnd := by
    rw [bucketEnd_eq, bucketEnd_eq, abreast.bucketStart, abreast.duration]
  constructor
  · rw [transition, transition', ends]
  · constructor
    · rw [tick_config, tick_config]
      exact abreast.duration
    · rw [bucketStart, bucketStart', ends, abreast.bucketStart]
    · rw [times, times', ends, abreast.times]
    · rw [rollovers, rollovers', ends, abreast.rollovers]

theorem Abreast.run (abreast : Abreast left right) (leftGrid : left.OnGrid)
    (rightGrid : right.OnGrid) (times : List Int) :
    (left.run times).1.map (·.transition) = (right.run times).1.map (·.transition) ∧
      Abreast (left.run times).2 (right.run times).2 := by
  induction times generalizing left right with
  | nil => exact ⟨rfl, abreast⟩
  | cons now later ih =>
    obtain ⟨transition, ticked⟩ := abreast.tick leftGrid rightGrid now
    obtain ⟨transitions, after⟩ := ih ticked (leftGrid.tick now) (rightGrid.tick now)
    refine ⟨?_, after⟩
    rw [run_cons, run_cons, List.map_cons, List.map_cons, transition, transitions]

/-- Two simulations of one symbol that agree on volatility, start price and length of history have
the same figures in their histories and, tick by tick, the same price, the same live close and the
same draws, whatever their buckets and clocks. Two simulations that agree on the width of a bucket
and the length of history have, at the same clock readings, candles at the same times, the same
transitions and the same rollovers, whatever their prices. -/
theorem run_lockstep (left right : Config α) :
    (left.symbol = right.symbol → left.volatility = right.volatility →
      left.startPrice = right.startPrice → left.historyLength = right.historyLength →
      ∀ (now now' : Int) (moments : List (Int × Int)),
        (reset left now).candles.map Candle.figures =
            (reset right now').candles.map Candle.figures ∧
          let one := ((reset left now).run (moments.map (·.1))).2
          let other := ((reset right now').run (moments.map (·.2))).2
          one.lastPrice = other.lastPrice ∧
            (∃ live live', one.tape.last? = some live ∧ other.tape.last? = some live' ∧
              live.closing = live'.closing) ∧
            one.noise.draws = other.noise.draws) ∧
      (left.duration = right.duration → left.historyLength = right.historyLength →
        ∀ (now : Int) (times : List Int),
          let one := (reset left now).run times
          let other := (reset right now).run times
          one.2.candles.map Candle.time = other.2.candles.map Candle.time ∧
            one.1.map (·.transition) = other.1.map (·.transition) ∧
            one.2.rollovers = other.2.rollovers) := by
  constructor
  · intro symbol volatility startPrice historyLength now now' moments
    have leftGrid := reset_onGrid left now
    have rightGrid := reset_onGrid right now'
    have seeds : left.seed = right.seed := congrArg Symbol.seed symbol
    have past : Walk.Level _ _ := Walk.history_level (Noise.ofSeed left.seed.toNat) now now'
      left.duration right.duration left.historyLength left.volatility left.startPrice
    have level : Level (reset left now) (reset right now') := by
      refine ⟨volatility, ?_, ?_⟩
      · rw [reset, reset, ← seeds, ← volatility, ← startPrice, ← historyLength]
        exact past.price
      · rw [reset, reset, ← seeds, ← volatility, ← startPrice, ← historyLength]
        exact past.noise
    have after := level.run leftGrid rightGrid moments
    obtain ⟨live, held, _, priced⟩ := (leftGrid.run (moments.map (·.1))).live
    obtain ⟨live', held', _, priced'⟩ := (rightGrid.run (moments.map (·.2))).live
    refine ⟨?_, after.price, ⟨live, live', held, held', ?_⟩, congrArg Noise.draws after.noise⟩
    · rw [candles, candles, reset, reset, ← seeds, ← volatility, ← startPrice, ← historyLength]
      exact past.figures
    · rw [← priced, ← priced', after.price]
  · intro duration historyLength now times
    have past := Walk.history_abreast (Noise.ofSeed left.seed.toNat)
      (Noise.ofSeed right.seed.toNat) now left.duration left.historyLength left.volatility
      right.volatility left.startPrice right.startPrice
    have abreast : Abreast (reset left now) (reset right now) := by
      refine ⟨duration, ?_, ?_, rfl⟩
      · exact congrArg (Span.align · now) duration
      · rw [candles, candles, reset, reset, ← duration, ← historyLength]
        exact past.times
    obtain ⟨transitions, after⟩ :=
      abreast.run (reset_onGrid left now) (reset_onGrid right now) times
    exact ⟨after.times, transitions, after.rollovers⟩

def narrow : Config Float where
  symbol := "TEST"
  duration := ⟨10000, by decide⟩
  historyLength := 2
  interval := ⟨2000, by decide⟩
  volatility := 0.002
  startPrice := none
  historyLength_pos := by decide
  duration_seconds := by decide

def wide : Config Float :=
  { narrow with
    duration := ⟨7200000, by decide⟩, interval := ⟨250, by decide⟩, duration_seconds := by decide }

def restless : Config Float :=
  { narrow with symbol := "NOISE", volatility := 0.3, startPrice := some 7.0 }

/-- Two ticks that both close a candle of the narrow market leave the wide one in its bucket, at the
same price. The restless market closes its candles with the narrow one. -/
theorem narrow_lockstep :
    (narrow.symbol = wide.symbol ∧ narrow.volatility = wide.volatility ∧
        narrow.startPrice = wide.startPrice ∧ narrow.historyLength = wide.historyLength ∧
        let one := ((reset narrow 1700000000000).run [1700000010000, 1700000020000]).2
        let other := ((reset wide 1700000000000).run [1700000000250, 1699999999000]).2
        one.rollovers = 2 ∧ other.rollovers = 0 ∧ one.lastPrice = other.lastPrice) ∧
      narrow.duration = restless.duration ∧ narrow.historyLength = restless.historyLength ∧
        let one := ((reset narrow 1700000000000).run [1700000010000, 1700000020000]).2
        let other := ((reset restless 1700000000000).run [1700000010000, 1700000020000]).2
        one.lastPrice ≠ other.lastPrice ∧ one.rollovers = other.rollovers := by
  obtain ⟨_, prices, _, _⟩ := (run_lockstep narrow wide).1 rfl rfl rfl rfl 1700000000000
    1700000000000 [(1700000010000, 1700000000250), (1700000020000, 1699999999000)]
  obtain ⟨_, _, rollovers⟩ := (run_lockstep narrow restless).2 rfl rfl 1700000000000
    [1700000010000, 1700000020000]
  refine ⟨⟨rfl, rfl, rfl, rfl, ?_, ?_, prices⟩, rfl, rfl, ?_, rollovers⟩
  · decide +kernel
  · decide +kernel
  · decide +kernel

end Session

end SyntheticMarket
