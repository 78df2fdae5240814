import SyntheticMarket.Proofs.Tape
import SyntheticMarket.Session

/-! The cases of a tick and the shape of a run. Every fact about all runs follows from one about a
tick: `tick_cases` says what a tick can do, `run_preserves` carries an invariant along. -/

namespace SyntheticMarket

namespace Session

variable {α : Type} [PriceScale α] {session : Session α} {last : Candle α} {now : Int}

omit [PriceScale α] in
theorem bucketEnd_eq (session : Session α) :
    session.bucketEnd = session.bucketStart + session.config.duration.ms := rfl

theorem tick_of_empty (empty : session.tape.last? = none) :
    session.tick now = session.moved.openFirst := by
  rw [tick, empty]

theorem tick_of_early (live : session.tape.last? = some last) (early : now < session.bucketEnd) :
    session.tick now = session.moved.updateLive last := by
  rw [tick, live]
  exact if_neg (Int.not_le.mpr early)

theorem tick_of_late (live : session.tape.last? = some last) (late : session.bucketEnd ≤ now) :
    session.tick now = session.moved.rollOver last := by
  rw [tick, live]
  exact if_pos late

/-- A tick opens the first candle, changes the live one, or closes it once its bucket is over. -/
theorem tick_cases (session : Session α) (now : Int) :
    (session.tape.last? = none ∧ session.tick now = session.moved.openFirst) ∨
    (∃ last, session.tape.last? = some last ∧ now < session.bucketEnd ∧
      session.tick now = session.moved.updateLive last) ∨
    (∃ last, session.tape.last? = some last ∧ session.bucketEnd ≤ now ∧
      session.tick now = session.moved.rollOver last) := by
  cases held : session.tape.last? with
  | none => exact .inl ⟨rfl, tick_of_empty held⟩
  | some last =>
    by_cases late : session.bucketEnd ≤ now
    · exact .inr (.inr ⟨last, rfl, late, tick_of_late held late⟩)
    · have early : now < session.bucketEnd := Int.not_le.mp late
      exact .inr (.inl ⟨last, rfl, early, tick_of_early held early⟩)

@[simp] theorem tick_config (session : Session α) (now : Int) :
    (session.tick now).2.config = session.config := by
  obtain ⟨_, ticked⟩ | ⟨_, _, _, ticked⟩ | ⟨_, _, _, ticked⟩ := session.tick_cases now <;>
    rw [ticked] <;> rfl

@[simp] theorem tick_ticks (session : Session α) (now : Int) :
    (session.tick now).2.ticks = session.ticks + 1 := by
  obtain ⟨_, ticked⟩ | ⟨_, _, _, ticked⟩ | ⟨_, _, _, ticked⟩ := session.tick_cases now <;>
    rw [ticked] <;> rfl

/-- A tick leaves a live candle, and its close is the price that the next tick moves from. -/
theorem tick_live (session : Session α) (now : Int) :
    (session.tick now).2.tape.last? = some (session.tick now).1.bar ∧
      (session.tick now).1.bar.closing = (session.tick now).2.lastPrice := by
  obtain ⟨_, ticked⟩ | ⟨_, _, _, ticked⟩ | ⟨_, _, _, ticked⟩ := session.tick_cases now <;>
    rw [ticked] <;> exact ⟨rfl, rfl⟩

/-- The price after a tick is that of the one move that every tick makes. -/
theorem tick_lastPrice (session : Session α) (now : Int) :
    (session.tick now).2.lastPrice = session.moved.lastPrice := by
  obtain ⟨_, ticked⟩ | ⟨_, _, _, ticked⟩ | ⟨_, _, _, ticked⟩ := session.tick_cases now <;>
    rw [ticked] <;> rfl

omit [PriceScale α] in
theorem candles_eq (live : session.tape.last? = some last) :
    session.candles = session.candles.dropLast ++ [last] := by
  obtain ⟨older, same⟩ := Tape.eq_of_last? live
  rw [candles, same, List.dropLast_concat]

omit [PriceScale α] in
theorem live_mem (live : session.tape.last? = some last) : last ∈ session.candles := by
  rw [candles_eq live]
  exact List.mem_append_right _ (List.mem_singleton_self last)

theorem candles_openFirst (session : Session α) :
    session.moved.openFirst.2.candles = session.candles ++ [session.moved.openFirst.1.bar] :=
  Tape.toList_push session.tape _

theorem candles_updateLive (session : Session α) (last : Candle α) :
    (session.moved.updateLive last).2.candles =
      session.candles.dropLast ++ [(session.moved.updateLive last).1.bar] :=
  Tape.toList_replaceLast session.tape _

theorem candles_rollOver (session : Session α) (last : Candle α) :
    (session.moved.rollOver last).2.candles =
      session.candles ++ [(session.moved.rollOver last).1.bar] :=
  Tape.toList_push session.tape _

@[simp] theorem run_nil (session : Session α) : session.run [] = ([], session) := rfl

@[simp] theorem run_cons (session : Session α) (now : Int) (later : List Int) :
    session.run (now :: later) =
      ((session.tick now).1 :: ((session.tick now).2.run later).1,
        ((session.tick now).2.run later).2) := rfl

theorem run_append (session : Session α) (before after : List Int) :
    session.run (before ++ after) =
      ((session.run before).1 ++ ((session.run before).2.run after).1,
        ((session.run before).2.run after).2) := by
  induction before generalizing session with
  | nil => rfl
  | cons now later ih => simp [ih]

/-- What every tick preserves holds after every run. -/
theorem run_preserves (invariant : Session α → Prop)
    (step : ∀ session now, invariant session → invariant (session.tick now).2)
    (start : invariant session) (times : List Int) : invariant (session.run times).2 := by
  induction times generalizing session with
  | nil => exact start
  | cons now later ih => exact ih (step session now start)

/-- What every tick establishes holds after every run with a tick. -/
theorem run_establishes (settled : Session α → Prop)
    (step : ∀ (session : Session α) (now : Int), settled (session.tick now).2)
    (session : Session α) (first : Int) (later : List Int) :
    settled (session.run (first :: later)).2 := by
  induction later generalizing session first with
  | nil => exact step session first
  | cons next rest ih => exact ih (session.tick first).2 next

@[simp] theorem run_config (session : Session α) (times : List Int) :
    (session.run times).2.config = session.config := by
  induction times generalizing session with
  | nil => rfl
  | cons now later ih => simp [ih]

end Session

end SyntheticMarket
