import SyntheticMarket.Session

/-! A simulation in time: a session that a timer drives. The timer ticks at a fixed interval from
the last start on, until it is stopped or a tick cannot be published. -/

namespace SyntheticMarket

/-- A clock that may be set: what it reads is the time that has passed, moved by an offset. -/
structure Clock where
  offset : Int
  passed : Int
deriving DecidableEq, Repr

namespace Clock

def reading (clock : Clock) : Int := clock.offset + clock.passed

def set (clock : Clock) (reading : Int) : Clock := { clock with offset := reading - clock.passed }

def pass (clock : Clock) (ms : Int) : Clock := { clock with passed := clock.passed + ms }

end Clock

structure Failure where
  kind : String
  text : String
deriving DecidableEq, Repr

def Failure.line (failure : Failure) : String := failure.kind ++ "('" ++ failure.text ++ "')"

/-- The topics that nothing can be published on, and the failure of trying to. -/
structure Outage where
  topics : List String
  failure : Failure
deriving DecidableEq, Repr

inductive Event (α : Type) where
  | ticked (update : Update α)
  | reset (config : Config α) (candles : Nat)
  | stopped (symbol : String)
deriving DecidableEq

namespace Event

def tickTopic : String := "ohlcv"

def resetTopic : String := "simulation_reset"

def stoppedTopic : String := "simulation_stopped"

def topic {α : Type} : Event α → String
  | ticked _ => tickTopic
  | reset _ _ => resetTopic
  | stopped _ => stoppedTopic

def symbol {α : Type} : Event α → String
  | ticked update => update.symbol
  | reset config _ => config.symbol
  | stopped symbol => symbol

end Event

inductive SimulationFault where
  | notStarted
  | untimeable
  | unpublished (failure : Failure)
deriving DecidableEq, Repr

structure Outcome (σ α ρ : Type) where
  state : σ
  events : List (Event α)
  answer : Except SimulationFault ρ

/-- The outcome of an operation that ends by publishing. The state stays as the operation left it,
also when nothing can be published. -/
def Outage.publish {σ α ρ : Type} (outage : Outage) (state : σ) (event : Event α) (answer : ρ) :
    Outcome σ α ρ :=
  if outage.topics.contains event.topic then
    { state, events := [], answer := .error (.unpublished outage.failure) }
  else { state, events := [event], answer := .ok answer }

/-- The timer of a started simulation: it was stopped, it ticks next when `due` has passed, or a
tick ended it. -/
inductive Timer where
  | stopped
  | running (due : Int)
  | broken
deriving DecidableEq, Repr

/-- The most seconds that a timer can wait for: the largest finite binary64 number. -/
def Timer.mostSeconds : Nat := (1 <<< 53 - 1) <<< 971

/-- Whether the interval, in seconds, rounds to a finite binary64 number. From halfway between the
largest one and the power of two above it on, it does not. -/
def Span.isTimeable (interval : Span) : Bool :=
  2 * interval.ms < 1000 * (Timer.mostSeconds + 1 <<< 1024 : Nat)

def Timer.set (interval : Span) (passed : Int) : Timer :=
  if interval.isTimeable then .running (passed + interval.ms) else .stopped

structure Run (α : Type) where
  session : Session α
  timer : Timer
deriving DecidableEq

/-- A simulation, started or not, with the number of its starts and the failure that ended its
timer. -/
structure Simulation (α : Type) where
  run : Option (Run α)
  resets : Nat
  lastFailure : Option Failure
deriving DecidableEq

namespace Simulation

variable {α : Type}

def fresh : Simulation α := { run := none, resets := 0, lastFailure := none }

def session (simulation : Simulation α) : Option (Session α) := simulation.run.map (·.session)

def config (simulation : Simulation α) : Option (Config α) := simulation.session.map (·.config)

def candles (simulation : Simulation α) : List (Candle α) :=
  match simulation.session with
  | none => []
  | some session => session.candles

def isRunning (simulation : Simulation α) : Bool :=
  match simulation.run with
  | some { timer := .running _, .. } => true
  | _ => false

variable [PriceScale α]

/-- Starts anew with the configuration: whatever ran before is gone, and the first tick is one
interval away. The answer is the history. The configuration is checked before, but not whether a
timer can be set to its interval: that fails only once the old timer is gone. -/
def start (simulation : Simulation α) (config : Config α) (clock : Clock) (outage : Outage) :
    Outcome (Simulation α) α (List (Candle α)) :=
  let session := Session.reset config clock.reading
  let renewed : Simulation α :=
    { run := some { session, timer := .set config.interval clock.passed }
      resets := simulation.resets + 1
      lastFailure := none }
  if config.interval.isTimeable then
    outage.publish renewed (.reset config session.tape.size) session.candles
  else { state := renewed, events := [], answer := .error .untimeable }

omit [PriceScale α] in
/-- Stops the timer. The answer is whether there was one, be it running or broken. -/
def stop (simulation : Simulation α) (outage : Outage) : Outcome (Simulation α) α Bool :=
  match simulation.run with
  | none => { state := simulation, events := [], answer := .ok false }
  | some run =>
    match run.timer with
    | .stopped => { state := simulation, events := [], answer := .ok false }
    | _ =>
      outage.publish { simulation with run := some { run with timer := .stopped } }
        (.stopped run.session.config.symbol) true

/-- One tick at a clock reading. The session has ticked also when the update cannot be published. -/
def tick (simulation : Simulation α) (reading : Int) (outage : Outage) :
    Outcome (Simulation α) α (Update α) :=
  match simulation.run with
  | none => { state := simulation, events := [], answer := .error .notStarted }
  | some run =>
    let ticked := run.session.tick reading
    outage.publish { simulation with run := some { run with session := ticked.2 } }
      (.ticked ticked.1) ticked.1

omit [PriceScale α] in
def withTimer (simulation : Simulation α) (timer : Timer) : Simulation α :=
  { simulation with run := simulation.run.map fun run => { run with timer } }

/-- The tick of the timer that is due; the next one is due an interval later. A tick that cannot be
published is the last one. -/
def fire (simulation : Simulation α) (interval : Span) (due : Int) (clock : Clock)
    (outage : Outage) : List (Event α) × Simulation α :=
  let ticked := simulation.tick (clock.offset + due) outage
  match ticked.answer with
  | .ok _ => (ticked.events, ticked.state.withTimer (.running (due + interval.ms)))
  | .error (.unpublished failure) =>
    (ticked.events, { ticked.state.withTimer .broken with lastFailure := some failure })
  | .error _ => (ticked.events, ticked.state)

def fireTimes (clock : Clock) (outage : Outage) :
    Nat → Simulation α → List (Int × Event α) × Simulation α
  | 0, simulation => ([], simulation)
  | count + 1, simulation =>
    match simulation.run with
    | some { session, timer := .running due } =>
      let fired := simulation.fire session.config.interval due clock outage
      let rest := fireTimes clock outage count fired.2
      (fired.1.map (due, ·) ++ rest.1, rest.2)
    | _ => ([], simulation)

/-- How many ticks are due when the time `final` has passed, as long as each can be published. -/
def dueTicks (simulation : Simulation α) (final : Int) : Nat :=
  match simulation.run with
  | some { session, timer := .running due } =>
    ((final - due).fdiv session.config.interval.ms + 1).toNat
  | _ => 0

def pass (simulation : Simulation α) (ms : Int) (clock : Clock) (outage : Outage) :
    List (Int × Event α) × Simulation α :=
  fireTimes clock outage (simulation.dueTicks (clock.passed + ms)) simulation

end Simulation

structure Scene (σ : Type) where
  clock : Clock
  outage : Outage
  subject : σ

namespace Scene

variable {σ : Type}

def setClock (scene : Scene σ) (reading : Int) : Scene σ :=
  { scene with clock := scene.clock.set reading }

def fail (scene : Scene σ) (topics : List String) : Scene σ :=
  { scene with outage := { scene.outage with topics } }

end Scene

end SyntheticMarket
