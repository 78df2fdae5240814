import Mathlib.Data.List.Forall2
import SyntheticMarket.Simulation

/-! Whatever can be started, stopped and ticked while time passes around it, and the steps that are
taken with it. Two such machines whose single operations cannot be told apart cannot be told apart
by any run of steps either. -/

namespace SyntheticMarket

/-- The operations on something that lives in time. Time passes by some milliseconds, and what is
published meanwhile stands with its time. -/
structure Machine (σ α : Type) where
  start : σ → Config α → Clock → Outage → Outcome σ α (List (Candle α))
  stop : σ → Outage → Outcome σ α Bool
  tick : σ → Int → Outage → Outcome σ α (Update α)
  pass : σ → Int → Clock → Outage → List (Int × Event α) × σ

def Simulation.machine {α : Type} [PriceScale α] : Machine (Simulation α) α :=
  { start := Simulation.start, stop := Simulation.stop, tick := Simulation.tick,
    pass := Simulation.pass }

namespace Machine

variable {σ τ α : Type}

inductive Step (α : Type) where
  | start (config : Config α)
  | reconfigure (config : Config α)
  | stop
  | tick
  | pass (ms : Nat)
  | setClock (reading : Int)
  | fail (topics : List String)

namespace Step

def starts : Step α → Bool
  | start _ | reconfigure _ => true
  | _ => false

def stops : Step α → Bool
  | stop => true
  | _ => false

def ticks : Step α → Bool
  | tick => true
  | _ => false

/-- The clock after the step. No operation of a machine touches it. -/
def clock (before : Clock) : Step α → Clock
  | pass ms => before.pass ms
  | setClock reading => before.set reading
  | _ => before

def outage (before : Outage) : Step α → Outage
  | fail topics => { before with topics }
  | _ => before

end Step

def opening (clock : Clock) (failure : Failure) (subject : σ) : Scene σ :=
  { clock, outage := { topics := [], failure }, subject }

inductive Answer (α : Type) where
  | started (history : Except SimulationFault (List (Candle α)))
  | stopped (found : Except SimulationFault Bool)
  | ticked (update : Except SimulationFault (Update α))
  | passed

/-- What comes of a step: what was published and when, its answer, and the scene after it. -/
structure Turn (σ α : Type) where
  events : List (Int × Event α)
  answer : Answer α
  scene : Scene σ

def conclude {ρ : Type} (scene : Scene σ) (outcome : Outcome σ α ρ)
    (answer : Except SimulationFault ρ → Answer α) : Turn σ α :=
  { events := outcome.events.map (scene.clock.passed, ·)
    answer := answer outcome.answer
    scene := { scene with subject := outcome.state } }

/-- One step of a machine in its scene. To reconfigure is to start. -/
def turn (machine : Machine σ α) (scene : Scene σ) : Step α → Turn σ α
  | .start config | .reconfigure config =>
    conclude scene (machine.start scene.subject config scene.clock scene.outage) .started
  | .stop => conclude scene (machine.stop scene.subject scene.outage) .stopped
  | .tick =>
    conclude scene (machine.tick scene.subject scene.clock.reading scene.outage) .ticked
  | .pass ms =>
    let passed := machine.pass scene.subject ms scene.clock scene.outage
    { events := passed.1
      answer := .passed
      scene := { scene with clock := scene.clock.pass ms, subject := passed.2 } }
  | .setClock reading => { events := [], answer := .passed, scene := scene.setClock reading }
  | .fail topics => { events := [], answer := .passed, scene := scene.fail topics }

def play (machine : Machine σ α) (scene : Scene σ) : List (Step α) → List (Turn σ α) × Scene σ
  | [] => ([], scene)
  | step :: later =>
    let taken := machine.turn scene step
    let rest := machine.play taken.scene later
    (taken :: rest.1, rest.2)

def published (turns : List (Turn σ α)) : List (Int × Event α) := turns.flatMap (·.events)

variable {machine : Machine σ α}

@[simp] theorem play_nil (scene : Scene σ) : machine.play scene [] = ([], scene) := rfl

@[simp] theorem play_cons (scene : Scene σ) (step : Step α) (later : List (Step α)) :
    machine.play scene (step :: later) =
      (machine.turn scene step :: (machine.play (machine.turn scene step).scene later).1,
        (machine.play (machine.turn scene step).scene later).2) := rfl

@[simp] theorem published_nil : published ([] : List (Turn σ α)) = [] := rfl

@[simp] theorem published_cons (turn : Turn σ α) (later : List (Turn σ α)) :
    published (turn :: later) = turn.events ++ published later := List.flatMap_cons

/-- The clock after a step does not depend on the machine. -/
theorem turn_clock (machine : Machine σ α) (scene : Scene σ) (step : Step α) :
    (machine.turn scene step).scene.clock = step.clock scene.clock := by
  cases step <;> rfl

theorem turn_outage (machine : Machine σ α) (scene : Scene σ) (step : Step α) :
    (machine.turn scene step).scene.outage = step.outage scene.outage := by
  cases step <;> rfl

/-- The scenes agree on all but their subjects, and these are related. -/
structure SceneAlike (related : σ → τ → Prop) (one : Scene σ) (other : Scene τ) : Prop where
  clock : one.clock = other.clock
  outage : one.outage = other.outage
  subject : related one.subject other.subject

/-- An operation published and answered the same, and left related states. -/
structure OutcomeAlike (related : σ → τ → Prop) {ρ : Type} (one : Outcome σ α ρ)
    (other : Outcome τ α ρ) : Prop where
  state : related one.state other.state
  events : one.events = other.events
  answer : one.answer = other.answer

/-- A stretch of time published the same and left related states. -/
structure StretchAlike (related : σ → τ → Prop) {ε : Type} (one : List ε × σ)
    (other : List ε × τ) : Prop where
  events : one.1 = other.1
  state : related one.2 other.2

/-- A step published the same at the same times, answered the same, and left related scenes. -/
structure TurnAlike (related : σ → τ → Prop) (one : Turn σ α) (other : Turn τ α) : Prop where
  events : one.events = other.events
  answer : one.answer = other.answer
  scene : SceneAlike related one.scene other.scene

/-- In related states every operation does the same on both machines. -/
structure Bisimilar (left : Machine σ α) (right : Machine τ α) (related : σ → τ → Prop) :
    Prop where
  start : ∀ {one other}, related one other → ∀ config clock outage,
    OutcomeAlike related (left.start one config clock outage)
      (right.start other config clock outage)
  stop : ∀ {one other}, related one other → ∀ outage,
    OutcomeAlike related (left.stop one outage) (right.stop other outage)
  tick : ∀ {one other}, related one other → ∀ reading outage,
    OutcomeAlike related (left.tick one reading outage) (right.tick other reading outage)
  pass : ∀ {one other}, related one other → ∀ ms clock outage,
    StretchAlike related (left.pass one ms clock outage) (right.pass other ms clock outage)

variable {left : Machine σ α} {right : Machine τ α} {related : σ → τ → Prop}
  {scene : Scene σ} {other : Scene τ}

theorem OutcomeAlike.publish {ρ : Type} {one : σ} {two : τ} (close : related one two)
    (outage : Outage) (event : Event α) (answer : ρ) :
    OutcomeAlike related (outage.publish one event answer) (outage.publish two event answer) := by
  rw [Outage.publish, Outage.publish]
  split
  · exact ⟨close, rfl, rfl⟩
  · exact ⟨close, rfl, rfl⟩

theorem StretchAlike.prepend {ε ε' : Type} {fired : List ε × σ} {fired' : List ε × τ}
    {rest : List ε' × σ} {rest' : List ε' × τ} (first : StretchAlike related fired fired')
    (later : StretchAlike related rest rest') (stamp : ε → ε') :
    StretchAlike related (fired.1.map stamp ++ rest.1, rest.2)
      (fired'.1.map stamp ++ rest'.1, rest'.2) :=
  ⟨congrArg₂ (· ++ ·) (congrArg (List.map stamp) first.events) later.events, later.state⟩

theorem OutcomeAlike.conclude {ρ : Type} {one : Outcome σ α ρ} {two : Outcome τ α ρ}
    (alike : OutcomeAlike related one two) (clock : scene.clock = other.clock)
    (outage : scene.outage = other.outage) (answer : Except SimulationFault ρ → Answer α) :
    TurnAlike related (Machine.conclude scene one answer) (Machine.conclude other two answer) := by
  refine ⟨?_, congrArg answer alike.answer, ⟨clock, outage, alike.state⟩⟩
  rw [Machine.conclude, Machine.conclude, alike.events, clock]

/-- What cannot be told apart by an operation cannot be told apart by a step. -/
theorem Bisimilar.turn (bisimilar : Bisimilar left right related)
    (close : SceneAlike related scene other) (step : Step α) :
    TurnAlike related (left.turn scene step) (right.turn other step) := by
  obtain ⟨clock, outage, subject⟩ := scene
  obtain ⟨_, _, subject'⟩ := other
  have ⟨sameClock, sameOutage, near⟩ := close
  obtain rfl : clock = _ := sameClock
  obtain rfl : outage = _ := sameOutage
  cases step with
  | start config => exact (bisimilar.start near config clock outage).conclude rfl rfl _
  | reconfigure config => exact (bisimilar.start near config clock outage).conclude rfl rfl _
  | stop => exact (bisimilar.stop near outage).conclude rfl rfl _
  | tick => exact (bisimilar.tick near clock.reading outage).conclude rfl rfl _
  | pass ms =>
    have passed := bisimilar.pass near ms clock outage
    exact ⟨passed.events, rfl, ⟨rfl, rfl, passed.state⟩⟩
  | setClock reading => exact ⟨rfl, rfl, ⟨rfl, rfl, near⟩⟩
  | fail topics => exact ⟨rfl, rfl, ⟨rfl, rfl, near⟩⟩

/-- Nor can it be told apart by a run of steps, turn by turn. -/
theorem Bisimilar.play (bisimilar : Bisimilar left right related)
    (close : SceneAlike related scene other) (steps : List (Step α)) :
    List.Forall₂ (TurnAlike related) (left.play scene steps).1 (right.play other steps).1 ∧
      SceneAlike related (left.play scene steps).2 (right.play other steps).2 := by
  induction steps generalizing scene other with
  | nil => exact ⟨.nil, close⟩
  | cons step later ih =>
    have taken := bisimilar.turn close step
    obtain ⟨turns, after⟩ := ih taken.scene
    exact ⟨.cons taken turns, after⟩

end Machine

namespace Span

/-- How many of the times `due` and every interval after it are not after `final`. -/
def timesTo (interval : Span) (due final : Int) : Nat :=
  ((final - due).fdiv interval.ms + 1).toNat

variable {due final : Int}

theorem timesTo_of_le (interval : Span) (early : due ≤ final) :
    interval.timesTo due final = interval.timesTo (due + interval.ms) final + 1 := by
  have positive := interval.positive
  have next : (final - (due + interval.ms)).fdiv interval.ms =
      (final - due).fdiv interval.ms - 1 := by
    rw [← Int.sub_sub, ← Int.sub_mul_fdiv_right _ 1 (Int.ne_of_gt positive), Int.one_mul]
  have whole : 0 ≤ (final - due).fdiv interval.ms := Int.fdiv_nonneg (by omega) (by omega)
  rw [Span.timesTo, Span.timesTo, next]
  omega

theorem timesTo_of_lt (interval : Span) (late : final < due) : interval.timesTo due final = 0 := by
  have negative : (final - due).fdiv interval.ms < 0 :=
    Int.fdiv_neg_of_neg_of_pos (by omega) interval.positive
  rw [Span.timesTo]
  omega

end Span

namespace Outage

variable {σ α ρ : Type} {outage : Outage}

@[simp] theorem publish_state (outage : Outage) (state : σ) (event : Event α) (answer : ρ) :
    (outage.publish state event answer).state = state := by
  rw [publish]
  split
  · rfl
  · rfl

theorem publish_open {event : Event α} (opened : outage.topics.contains event.topic = false)
    (state : σ) (answer : ρ) :
    outage.publish state event answer = { state, events := [event], answer := .ok answer } := by
  rw [publish, opened, if_neg Bool.false_ne_true]

theorem publish_blocked {event : Event α} (blocked : outage.topics.contains event.topic = true)
    (state : σ) (answer : ρ) :
    outage.publish state event answer =
      { state, events := [], answer := .error (.unpublished outage.failure) } := by
  rw [publish, if_pos blocked]

end Outage

namespace Timer

variable {interval : Span}

theorem set_timeable (timeable : interval.isTimeable = true) (passed : Int) :
    set interval passed = .running (passed + interval.ms) :=
  if_pos timeable

theorem set_untimeable (untimeable : interval.isTimeable = false) (passed : Int) :
    set interval passed = .stopped :=
  if_neg (Bool.eq_false_iff.mp untimeable)

end Timer

namespace Simulation

variable {α : Type} [PriceScale α] {session : Session α} {timer : Timer} {resets : Nat}
  {lastFailure : Option Failure} {clock : Clock} {outage : Outage}

/-- A start leaves the same behind, whether it can be published and whether it fails. -/
theorem start_state (simulation : Simulation α) (config : Config α) (clock : Clock)
    (outage : Outage) :
    (simulation.start config clock outage).state =
      { run := some
          { session := Session.reset config clock.reading
            timer := .set config.interval clock.passed }
        resets := simulation.resets + 1
        lastFailure := none } := by
  rw [start]
  split
  · exact Outage.publish_state ..
  · rfl

/-- A start that can be published answers the history, if its timer can be set. -/
theorem start_timeable {config : Config α} (timeable : config.interval.isTimeable = true)
    (opened : outage.topics.contains Event.resetTopic = false) (simulation : Simulation α)
    (clock : Clock) :
    (simulation.start config clock outage).answer =
      .ok (Session.reset config clock.reading).candles := by
  let event : Event α := .reset config (Session.reset config clock.reading).tape.size
  have free : outage.topics.contains event.topic = false := opened
  rw [start, if_pos timeable]
  exact congrArg Outcome.answer (Outage.publish_open free _ _)

/-- A start whose timer cannot be set fails and publishes nothing. -/
theorem start_untimeable {config : Config α} (untimeable : config.interval.isTimeable = false)
    (simulation : Simulation α) (clock : Clock) (outage : Outage) :
    (simulation.start config clock outage).events = [] ∧
      (simulation.start config clock outage).answer = .error .untimeable := by
  rw [start, if_neg (Bool.eq_false_iff.mp untimeable)]
  exact ⟨rfl, rfl⟩

theorem tick_open (opened : outage.topics.contains Event.tickTopic = false) (reading : Int) :
    tick { run := some { session, timer }, resets, lastFailure } reading outage =
      let ticked := session.tick reading
      { state := { run := some { session := ticked.2, timer }, resets, lastFailure }
        events := [.ticked ticked.1]
        answer := .ok ticked.1 } :=
  let event : Event α := .ticked (session.tick reading).1
  have free : outage.topics.contains event.topic = false := opened
  Outage.publish_open free _ _

theorem tick_blocked (blocked : outage.topics.contains Event.tickTopic = true) (reading : Int) :
    tick { run := some { session, timer }, resets, lastFailure } reading outage =
      { state := { run := some { session := (session.tick reading).2, timer }, resets, lastFailure }
        events := []
        answer := .error (.unpublished outage.failure) } :=
  let event : Event α := .ticked (session.tick reading).1
  have held : outage.topics.contains event.topic = true := blocked
  Outage.publish_blocked held _ _

/-- The session ticks, whatever can be published, and the timer stays as it is. -/
theorem tick_state (reading : Int) :
    (tick { run := some { session, timer }, resets, lastFailure } reading outage).state =
      { run := some { session := (session.tick reading).2, timer }, resets, lastFailure } :=
  Outage.publish_state outage _ _ _

/-- A tick of the timer that can be published sets the timer for the next one. -/
theorem fire_open (opened : outage.topics.contains Event.tickTopic = false) (interval : Span)
    (due : Int) :
    fire { run := some { session, timer }, resets, lastFailure } interval due clock outage =
      let ticked := session.tick (clock.offset + due)
      ([.ticked ticked.1],
        { run := some { session := ticked.2, timer := .running (due + interval.ms) }, resets,
          lastFailure }) := by
  rw [fire, tick_open opened]
  rfl

/-- A tick of the timer that cannot be published ends the timer. The session has ticked. -/
theorem fire_blocked (blocked : outage.topics.contains Event.tickTopic = true) (interval : Span)
    (due : Int) :
    fire { run := some { session, timer }, resets, lastFailure } interval due clock outage =
      ([],
        { run := some { session := (session.tick (clock.offset + due)).2, timer := .broken }
          resets
          lastFailure := some outage.failure }) := by
  rw [fire, tick_blocked blocked]
  rfl

omit [PriceScale α] in
theorem dueTicks_running (due final : Int) :
    dueTicks { run := some { session, timer := .running due }, resets, lastFailure } final =
      session.config.interval.timesTo due final := rfl

theorem fireTimes_running (due : Int) (count : Nat) :
    fireTimes clock outage (count + 1)
        { run := some { session, timer := .running due }, resets, lastFailure } =
      let fired := fire { run := some { session, timer := .running due }, resets, lastFailure }
        session.config.interval due clock outage
      let rest := fireTimes clock outage count fired.2
      (fired.1.map (due, ·) ++ rest.1, rest.2) := rfl

theorem fireTimes_broken (count : Nat) :
    fireTimes clock outage count
        { run := some { session, timer := .broken }, resets, lastFailure } =
      ([], { run := some { session, timer := .broken }, resets, lastFailure }) := by
  cases count <;> rfl

end Simulation

end SyntheticMarket
