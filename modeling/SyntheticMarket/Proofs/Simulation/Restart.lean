import SyntheticMarket.Proofs.Simulation.Machine

/-! A simulation forgets what it was before its last start. Only the number of its starts lives on,
and no operation reads that. -/

namespace SyntheticMarket

variable {α : Type}

namespace Simulation

/-- The two simulations differ in nothing but the number of their starts, by `gap`. -/
structure Renewed (gap : Nat) (one other : Simulation α) : Prop where
  run : one.run = other.run
  lastFailure : one.lastFailure = other.lastFailure
  resets : one.resets = gap + other.resets

open Machine (OutcomeAlike StretchAlike TurnAlike Bisimilar)

variable {gap : Nat} {one other : Simulation α}

theorem Renewed.session (renewed : Renewed gap one other) : one.session = other.session :=
  congrArg (·.map (·.session)) renewed.run

theorem Renewed.config (renewed : Renewed gap one other) : one.config = other.config :=
  congrArg (·.map (·.config)) renewed.session

theorem Renewed.candles (renewed : Renewed gap one other) : one.candles = other.candles := by
  rw [Simulation.candles, Simulation.candles, renewed.session]

theorem Renewed.isRunning (renewed : Renewed gap one other) : one.isRunning = other.isRunning := by
  rw [Simulation.isRunning, Simulation.isRunning, renewed.run]

theorem Renewed.withTimer (renewed : Renewed gap one other) (timer : Timer) :
    Renewed gap (one.withTimer timer) (other.withTimer timer) :=
  ⟨congrArg (Option.map _) renewed.run, renewed.lastFailure, renewed.resets⟩

theorem Renewed.stop (renewed : Renewed gap one other) (outage : Outage) :
    OutcomeAlike (Renewed gap) (one.stop outage) (other.stop outage) := by
  rw [Simulation.stop, Simulation.stop, renewed.run]
  split
  · exact ⟨renewed, rfl, rfl⟩
  · split
    · exact ⟨renewed, rfl, rfl⟩
    · exact .publish ⟨rfl, renewed.lastFailure, renewed.resets⟩ _ _ _

variable [PriceScale α]

theorem Renewed.tick (renewed : Renewed gap one other) (reading : Int) (outage : Outage) :
    OutcomeAlike (Renewed gap) (one.tick reading outage) (other.tick reading outage) := by
  rw [Simulation.tick, Simulation.tick, renewed.run]
  split
  · exact ⟨renewed, rfl, rfl⟩
  · exact .publish ⟨rfl, renewed.lastFailure, renewed.resets⟩ _ _ _

theorem Renewed.fire (renewed : Renewed gap one other) (interval : Span) (due : Int) (clock : Clock)
    (outage : Outage) :
    StretchAlike (Renewed gap) (one.fire interval due clock outage)
      (other.fire interval due clock outage) := by
  have ticked := renewed.tick (clock.offset + due) outage
  rw [Simulation.fire, Simulation.fire, ticked.answer]
  split
  · exact ⟨ticked.events, ticked.state.withTimer _⟩
  · have broken := ticked.state.withTimer .broken
    exact ⟨ticked.events, ⟨broken.run, rfl, broken.resets⟩⟩
  · exact ⟨ticked.events, ticked.state⟩

theorem Renewed.fireTimes (renewed : Renewed gap one other) (clock : Clock) (outage : Outage)
    (count : Nat) :
    StretchAlike (Renewed gap) (fireTimes clock outage count one)
      (fireTimes clock outage count other) := by
  induction count generalizing one other with
  | zero => exact ⟨rfl, renewed⟩
  | succ count ih =>
    rw [Simulation.fireTimes, Simulation.fireTimes, renewed.run]
    split
    · rename_i session due _
      have fired := renewed.fire session.config.interval due clock outage
      exact fired.prepend (ih fired.state) _
    · exact ⟨rfl, renewed⟩

theorem Renewed.pass (renewed : Renewed gap one other) (ms : Int) (clock : Clock)
    (outage : Outage) :
    StretchAlike (Renewed gap) (one.pass ms clock outage) (other.pass ms clock outage) := by
  have due : one.dueTicks (clock.passed + ms) = other.dueTicks (clock.passed + ms) := by
    rw [dueTicks, dueTicks, renewed.run]
  rw [Simulation.pass, Simulation.pass, due]
  exact renewed.fireTimes clock outage _

/-- All that can be told from a turn apart from the number of starts, which is ahead by `gap`. -/
structure Indistinct (gap : Nat) (one other : Machine.Turn (Simulation α) α) : Prop where
  events : one.events = other.events
  answer : one.answer = other.answer
  clock : one.scene.clock = other.scene.clock
  config : one.scene.subject.config = other.scene.subject.config
  candles : one.scene.subject.candles = other.scene.subject.candles
  running : one.scene.subject.isRunning = other.scene.subject.isRunning
  lastFailure : one.scene.subject.lastFailure = other.scene.subject.lastFailure
  summary :
    one.scene.subject.session.map (·.summary) = other.scene.subject.session.map (·.summary)
  resets : one.scene.subject.resets = gap + other.scene.subject.resets

omit [PriceScale α] in
theorem Indistinct.of_alike {one other : Machine.Turn (Simulation α) α}
    (alike : TurnAlike (Renewed gap) one other) : Indistinct gap one other := by
  have renewed := alike.scene.subject
  exact
    { events := alike.events
      answer := alike.answer
      clock := alike.scene.clock
      config := renewed.config
      candles := renewed.candles
      running := renewed.isRunning
      lastFailure := renewed.lastFailure
      summary := congrArg (Option.map _) renewed.session
      resets := renewed.resets }

end Simulation

end SyntheticMarket
