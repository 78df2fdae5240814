import Mathlib.Data.List.Induction
import SyntheticMarket.Proofs.History
import SyntheticMarket.Proofs.Session.Tick

/-! The timetable of a simulation. From a reset on, whatever the clock reads at the ticks, the candles
lie on the grid of their duration, the live one is the bucket under construction, and the counters
account for every tick, rollover, candle and draw. -/

namespace SyntheticMarket

namespace Session

variable {α : Type} [PriceScale α] {session : Session α} {last : Candle α} {config : Config α}

/-- The candles are linked, and the newest one belongs to the current bucket and price. -/
structure OnGrid (session : Session α) : Prop where
  linked : session.tape.Linked session.config.duration
  live : ∃ last, session.tape.last? = some last ∧
    session.bucketStart = 1000 * last.time ∧ session.lastPrice = last.closing

theorem OnGrid.tick_cases (grid : session.OnGrid) (now : Int) :
    ∃ last, session.tape.last? = some last ∧ session.bucketStart = 1000 * last.time ∧
      (now < session.bucketEnd ∧ session.tick now = session.moved.updateLive last ∨
        session.bucketEnd ≤ now ∧ session.tick now = session.moved.rollOver last) := by
  obtain ⟨last, live, started, -⟩ := grid.live
  refine ⟨last, live, started, ?_⟩
  obtain ⟨empty, _⟩ | ⟨held, same, early, ticked⟩ | ⟨held, same, late, ticked⟩ :=
    session.tick_cases now
  · rw [live] at empty
    cases empty
  · obtain rfl := Option.some.inj (live.symm.trans same)
    exact .inl ⟨early, ticked⟩
  · obtain rfl := Option.some.inj (live.symm.trans same)
    exact .inr ⟨late, ticked⟩

/-- The bucket that a rollover opens starts one span after the closed candle. -/
theorem follow_succeeds (session : Session α) (started : session.bucketStart = 1000 * last.time)
    (price share : α) :
    (follow last (secondOf session.bucketEnd) price share).Succeeds session.config.duration last := by
  refine ⟨?_, rfl⟩
  have spaced := secondOf_add session.config.duration_seconds session.bucketStart
  have second : secondOf session.bucketStart = last.time := by
    rw [started, secondOf, Int.mul_fdiv_cancel_left _ (by decide)]
  rwa [second] at spaced

theorem OnGrid.tick (grid : session.OnGrid) (now : Int) : (session.tick now).2.OnGrid := by
  obtain ⟨last, live, started, ⟨_, ticked⟩ | ⟨_, ticked⟩⟩ := grid.tick_cases now
  · rw [ticked]
    exact ⟨grid.linked.replaceLast live rfl rfl, _, rfl, started, rfl⟩
  · rw [ticked]
    have next := follow_succeeds session started session.moved.lastPrice
      (session.moved.noise.draw (α := α)).1
    refine ⟨grid.linked.push ?_, _, rfl, ?_, rfl⟩
    · intro held same
      obtain rfl := Option.some.inj (live.symm.trans same)
      exact next
    · have spaced := next.time_eq
      have ended := session.bucketEnd_eq
      change session.bucketEnd = 1000 * secondOf session.bucketEnd
      change 1000 * (secondOf session.bucketEnd - last.time) = _ at spaced
      omega

/-- The move of the price and the volume are drawn at every tick. -/
theorem OnGrid.tick_draws (grid : session.OnGrid) (now : Int) :
    (session.tick now).2.noise.draws = session.noise.draws + 2 := by
  obtain ⟨_, _, _, ⟨_, ticked⟩ | ⟨_, ticked⟩⟩ := grid.tick_cases now <;> rw [ticked] <;> rfl

theorem OnGrid.tick_seedless (grid : session.OnGrid) (now : Int) :
    (session.tick now).1.transition ≠ .seed := by
  obtain ⟨_, _, _, ⟨_, ticked⟩ | ⟨_, ticked⟩⟩ := grid.tick_cases now <;> rw [ticked] <;> exact nofun

theorem reset_onGrid (config : Config α) (now : Int) : (reset config now).OnGrid := by
  have whole := config.duration_seconds
  let past := Walk.history (Noise.ofSeed config.seed.toNat) now config.duration
    config.historyLength config.volatility config.startPrice
  have course : past.OnCourse config.duration _ := Walk.history_onCourse _ now _ whole _ _ _
  have size : past.tape.size = config.historyLength := Walk.size_history ..
  have ended : past.bucketStart = config.duration.align now + config.duration.ms :=
    Walk.bucketStart_history _ now _ _ _ _
  -- A history is never empty, so it has a newest candle to be the live one.
  cases newest : past.tape.last? with
  | none =>
    have none : past.tape.size = 0 := by
      rw [← Tape.length_toList, Tape.toList_eq_nil newest, List.length_nil]
    have some := config.historyLength_pos
    omega
  | some last =>
    obtain ⟨time, closing⟩ := course.newest last newest
    refine ⟨course.linked, last, newest, ?_, closing.symm⟩
    rw [time, ended, Int.add_sub_cancel, secondOf_align whole]
    rfl

theorem OnGrid.run (grid : session.OnGrid) (times : List Int) : (session.run times).2.OnGrid :=
  run_preserves OnGrid (fun _ now grid => grid.tick now) grid times

/-- What the counters say of a simulation that was reset at `now` and ticked at `times`. -/
structure Accounts (config : Config α) (now : Int) (times : List Int)
    (updates : List (Update α)) (session : Session α) : Prop where
  bucketStart_eq :
    session.bucketStart = config.duration.align now + session.rollovers * config.duration.ms
  size_eq : session.candles.length = config.historyLength + session.rollovers
  ticks_eq : session.ticks = times.length
  draws_eq : session.noise.draws =
    (if config.startPrice.isSome then 0 else 1) + 4 * config.historyLength + 2 * times.length
  seedless : ∀ update ∈ updates, update.transition ≠ .seed
  punctual : ∃ moment ∈ now :: times, session.bucketStart ≤ moment

theorem reset_accounts (config : Config α) (now : Int) :
    Accounts config now [] [] (reset config now) where
  bucketStart_eq := by simp [reset]
  size_eq := by
    rw [candles, Tape.length_toList]
    exact Walk.size_history ..
  ticks_eq := rfl
  draws_eq := by
    have drawn := Walk.draws_history (Noise.ofSeed config.seed.toNat) now config.duration
      config.historyLength config.volatility config.startPrice
    have fresh : (Noise.ofSeed config.seed.toNat).draws = 0 := rfl
    rw [fresh, Nat.zero_add] at drawn
    exact drawn
  seedless := by simp
  punctual := ⟨now, by simp, config.duration.align_le now⟩

theorem Accounts.tick {now : Int} {times : List Int} {updates : List (Update α)}
    (accounts : Accounts config now times updates session) (grid : session.OnGrid)
    (same : session.config = config) (moment : Int) :
    Accounts config now (times ++ [moment]) (updates ++ [(session.tick moment).1])
      (session.tick moment).2 := by
  have size := accounts.size_eq
  rw [candles, Tape.length_toList] at size
  have ticks : (session.tick moment).2.ticks = (times ++ [moment]).length := by
    rw [tick_ticks, accounts.ticks_eq, List.length_append, List.length_singleton]
  have draws : (session.tick moment).2.noise.draws = (if config.startPrice.isSome then 0 else 1) +
      4 * config.historyLength + 2 * (times ++ [moment]).length := by
    rw [grid.tick_draws, accounts.draws_eq, List.length_append, List.length_singleton]
    omega
  have seedless : ∀ update ∈ updates ++ [(session.tick moment).1], update.transition ≠ .seed := by
    intro update member
    rcases List.mem_append.mp member with old | new
    · exact accounts.seedless update old
    · obtain rfl := List.mem_singleton.mp new
      exact grid.tick_seedless moment
  obtain ⟨last, live, -, ⟨_, ticked⟩ | ⟨late, ticked⟩⟩ := grid.tick_cases moment
  · refine ⟨?_, ?_, ticks, draws, seedless, ?_⟩ <;> rw [ticked]
    · exact accounts.bucketStart_eq
    · rw [candles, Tape.length_toList]
      exact (Tape.size_replaceLast live _).trans size
    · obtain ⟨earlier, seen, reached⟩ := accounts.punctual
      exact ⟨earlier, List.mem_append_left [moment] seen, reached⟩
  · refine ⟨?_, ?_, ticks, draws, seedless, ?_⟩ <;> rw [ticked]
    · change session.bucketEnd = _ + ((session.rollovers + 1 : Nat) : Int) * _
      rw [bucketEnd_eq, accounts.bucketStart_eq, same, Int.natCast_add, Int.add_mul,
        Int.natCast_one, Int.one_mul, Int.add_assoc]
    · rw [candles, Tape.length_toList]
      change session.tape.size + 1 = _ + (session.rollovers + 1)
      omega
    · exact ⟨moment, by simp, late⟩

theorem run_accounts (config : Config α) (now : Int) (times : List Int) :
    Accounts config now times ((reset config now).run times).1
      ((reset config now).run times).2 := by
  induction times using List.reverseRecOn with
  | nil => exact reset_accounts config now
  | append_singleton times moment ih =>
    have grid := (reset_onGrid config now).run times
    have step := ih.tick grid (run_config _ times) moment
    rwa [run_append]

/-- After any reset and any ticks, early, late or going backwards: every candle succeeds the one
before it on the grid, the last one is the bucket under construction at the current price, and the
counters add up. -/
theorem run_reset_timetable (config : Config α) (now : Int) (times : List Int) :
    ((reset config now).run times).2.candles.IsChain
        (fun earlier later => later.Succeeds config.duration earlier) ∧
      (∃ last, ((reset config now).run times).2.candles.getLast? = some last ∧
        ((reset config now).run times).2.bucketStart = 1000 * last.time ∧
        ((reset config now).run times).2.lastPrice = last.closing) ∧
      Accounts config now times ((reset config now).run times).1
        ((reset config now).run times).2 := by
  have grid := (reset_onGrid config now).run times
  have linked := grid.linked
  rw [run_config] at linked
  obtain ⟨last, live, started, priced⟩ := grid.live
  rw [Tape.last?_eq] at live
  exact ⟨linked, ⟨last, live, started, priced⟩, run_accounts config now times⟩

end Session

end SyntheticMarket
