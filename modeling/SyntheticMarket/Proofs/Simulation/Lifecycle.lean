import SyntheticMarket.Proofs.Simulation.Schedule
import SyntheticMarket.Proofs.Simulation.Tasks

/-! The life of a timer. It is the only one, it is on time from its start to its end, it does not
come back before the next start, callers who tick do not disturb it, and a stop tells whether there
was one to stop. -/

namespace SyntheticMarket

open Machine (SceneAlike OutcomeAlike TurnAlike occasions published opening)

variable {α : Type}

namespace Simulation

def timer (simulation : Simulation α) : Option Timer := simulation.run.map (·.timer)

/-- The two simulations were started alike and have the same timer, however often they ticked. -/
inductive SameTimer : Simulation α → Simulation α → Prop where
  | unstarted {resets : Nat} {lastFailure : Option Failure} :
      SameTimer { run := none, resets, lastFailure } { run := none, resets, lastFailure }
  | started {one other : Session α} {timer : Timer} {resets : Nat} {lastFailure : Option Failure}
      (config : one.config = other.config) :
      SameTimer { run := some { session := one, timer }, resets, lastFailure }
        { run := some { session := other, timer }, resets, lastFailure }

/-- When something was published, and on which topics. -/
def schedule (events : List (Int × Event α)) : List (Int × String) :=
  events.map fun event => (event.1, event.2.topic)

/-- The turns published on the same topics at the same times and left the same timer. -/
structure Undisturbed (one other : Machine.Turn (Simulation α) α) : Prop where
  schedule : schedule one.events = schedule other.events
  config : one.scene.subject.config = other.scene.subject.config
  timer : one.scene.subject.timer = other.scene.subject.timer
  lastFailure : one.scene.subject.lastFailure = other.scene.subject.lastFailure
  resets : one.scene.subject.resets = other.scene.subject.resets

variable [PriceScale α] {one other : Simulation α} {clock : Clock} {outage : Outage}

omit [PriceScale α] in
theorem SameTimer.refl (simulation : Simulation α) : SameTimer simulation simulation := by
  obtain ⟨run, resets, lastFailure⟩ := simulation
  cases run with
  | none => exact .unstarted
  | some run => exact .started rfl

omit [PriceScale α] in
theorem SameTimer.timer (same : SameTimer one other) : one.timer = other.timer := by
  cases same <;> rfl

/-- A tick on demand leaves the timer as it was, also when it cannot be published. -/
theorem SameTimer.tick (same : SameTimer one other) (reading : Int) (outage : Outage) :
    SameTimer (one.tick reading outage).state other := by
  cases same with
  | unstarted => exact .unstarted
  | started config =>
    rw [tick_state]
    exact .started ((Session.tick_config _ _).trans config)

theorem SameTimer.fireTimes (same : SameTimer one other) (clock : Clock) (outage : Outage)
    (count : Nat) :
    schedule (fireTimes clock outage count one).1 =
        schedule (fireTimes clock outage count other).1 ∧
      SameTimer (fireTimes clock outage count one).2 (fireTimes clock outage count other).2 := by
  induction count generalizing one other with
  | zero => exact ⟨rfl, same⟩
  | succ count ih =>
    cases same with
    | unstarted => exact ⟨rfl, .unstarted⟩
    | @started session session' timer resets lastFailure config =>
      cases timer with
      | stopped => exact ⟨rfl, .started config⟩
      | broken => exact ⟨rfl, .started config⟩
      | running due =>
        have ticked : (session.tick (clock.offset + due)).2.config =
            (session'.tick (clock.offset + due)).2.config := by
          rw [Session.tick_config, Session.tick_config, config]
        rw [fireTimes_running, fireTimes_running, config]
        cases blocked : outage.topics.contains Event.tickTopic with
        | true =>
          rw [fire_blocked blocked, fire_blocked blocked]
          exact ih (.started ticked)
        | false =>
          rw [fire_open blocked, fire_open blocked]
          obtain ⟨later, after⟩ := ih (.started ticked)
          exact ⟨congrArg ((due, Event.tickTopic) :: ·) later, after⟩

theorem SameTimer.pass (same : SameTimer one other) (ms : Int) (clock : Clock)
    (outage : Outage) :
    schedule (one.pass ms clock outage).1 = schedule (other.pass ms clock outage).1 ∧
      SameTimer (one.pass ms clock outage).2 (other.pass ms clock outage).2 := by
  have due : one.dueTicks (clock.passed + ms) = other.dueTicks (clock.passed + ms) := by
    cases same with
    | unstarted => rfl
    | @started _ _ timer _ _ config =>
      cases timer with
      | running due => rw [dueTicks_running, dueTicks_running, config]
      | _ => rfl
  rw [Simulation.pass, Simulation.pass, due]
  exact same.fireTimes clock outage _

omit [PriceScale α] in
/-- A timer that was not stopped yet is stopped, be it running or ended. -/
theorem stop_set {session : Session α} {timer : Timer} {resets : Nat}
    {lastFailure : Option Failure} (set : timer ≠ .stopped) (outage : Outage) :
    stop { run := some { session, timer }, resets, lastFailure } outage =
      outage.publish { run := some { session, timer := .stopped }, resets, lastFailure }
        (.stopped session.config.symbol) true := by
  cases timer with
  | stopped => exact absurd rfl set
  | running due => rfl
  | broken => rfl

omit [PriceScale α] in
theorem SameTimer.stop (same : SameTimer one other) (outage : Outage) :
    OutcomeAlike SameTimer (one.stop outage) (other.stop outage) := by
  cases same with
  | unstarted => exact ⟨.unstarted, rfl, rfl⟩
  | @started session session' timer resets lastFailure config =>
    by_cases stopped : timer = .stopped
    · rw [stopped]
      exact ⟨.started config, rfl, rfl⟩
    · rw [stop_set stopped, stop_set stopped, config]
      exact .publish (.started config) _ _ _

theorem SameTimer.start (same : SameTimer one other) (config : Config α) (clock : Clock)
    (outage : Outage) :
    OutcomeAlike SameTimer (one.start config clock outage) (other.start config clock outage) := by
  have counted : one.resets = other.resets := by
    cases same <;> rfl
  rw [Simulation.start, Simulation.start, counted]
  split
  · exact .publish (.refl _) outage _ _
  · exact ⟨.refl _, rfl, rfl⟩

/-- Any other step does the same to the timer. -/
theorem SameTimer.turn {scene scene' : Scene (Simulation α)}
    (same : SceneAlike SameTimer scene scene') {step : Machine.Step α}
    (other : step.ticks = false) :
    schedule (machine.turn scene step).events = schedule (machine.turn scene' step).events ∧
      SceneAlike SameTimer (machine.turn scene step).scene (machine.turn scene' step).scene := by
  obtain ⟨clock, outage, subject⟩ := scene
  obtain ⟨_, _, subject'⟩ := scene'
  have ⟨sameClock, sameOutage, near⟩ := same
  obtain rfl : clock = _ := sameClock
  obtain rfl : outage = _ := sameOutage
  cases step with
  | start config | reconfigure config =>
    have started : TurnAlike SameTimer (machine.turn { clock, outage, subject } (.start config))
        (machine.turn { clock, outage, subject := subject' } (.start config)) :=
      (near.start config clock outage).conclude rfl rfl _
    exact ⟨congrArg schedule started.events, started.scene⟩
  | stop =>
    have stopped : TurnAlike SameTimer (machine.turn { clock, outage, subject } .stop)
        (machine.turn { clock, outage, subject := subject' } .stop) :=
      (near.stop outage).conclude rfl rfl _
    exact ⟨congrArg schedule stopped.events, stopped.scene⟩
  | tick => cases other
  | pass ms =>
    obtain ⟨scheduled, after⟩ := near.pass ms clock outage
    exact ⟨scheduled, ⟨rfl, rfl, after⟩⟩
  | setClock reading => exact ⟨rfl, ⟨rfl, rfl, near⟩⟩
  | fail topics => exact ⟨rfl, ⟨rfl, rfl, near⟩⟩

omit [PriceScale α] in
theorem SameTimer.undisturbed {left right : Machine.Turn (Simulation α) α}
    (same : SameTimer left.scene.subject right.scene.subject)
    (scheduled : Simulation.schedule left.events = Simulation.schedule right.events) :
    Undisturbed left right := by
  obtain ⟨events, answer, clock, outage, subject⟩ := left
  obtain ⟨events', answer', clock', outage', subject'⟩ := right
  cases same with
  | unstarted => exact ⟨scheduled, rfl, rfl, rfl, rfl⟩
  | started config => exact ⟨scheduled, congrArg some config, rfl, rfl, rfl⟩

def others (steps : List (Machine.Step α)) (turns : List (Machine.Turn (Simulation α) α)) :
    List (Machine.Turn (Simulation α) α) :=
  ((steps.zip turns).filter (!·.1.ticks)).map (·.2)

omit [PriceScale α] in
theorem others_cons_tick {step : Machine.Step α} (ticks : step.ticks = true)
    (later : List (Machine.Step α)) (turn : Machine.Turn (Simulation α) α)
    (turns : List (Machine.Turn (Simulation α) α)) :
    others (step :: later) (turn :: turns) = others later turns := by
  simp [others, ticks]

omit [PriceScale α] in
theorem others_cons_other {step : Machine.Step α} (ticks : step.ticks = false)
    (later : List (Machine.Step α)) (turn : Machine.Turn (Simulation α) α)
    (turns : List (Machine.Turn (Simulation α) α)) :
    others (step :: later) (turn :: turns) = turn :: others later turns := by
  simp [others, ticks]

/-- Without the ticks on demand, all other steps do the same to the timer. -/
theorem SameTimer.play {scene scene' : Scene (Simulation α)}
    (same : SceneAlike SameTimer scene scene') (steps : List (Machine.Step α)) :
    let whole := machine.play scene steps
    let without := machine.play scene' (steps.filter (!·.ticks))
    List.Forall₂ Undisturbed (others steps whole.1) without.1 ∧
      SceneAlike SameTimer whole.2 without.2 := by
  -- The induction is on the whole run; the other scene stands still at a tick on demand.
  induction steps generalizing scene scene' with
  | nil => exact ⟨.nil, same⟩
  | cons step later ih =>
    dsimp only
    cases ticks : step.ticks with
    | true =>
      have still : SceneAlike SameTimer (machine.turn scene step).scene scene' := by
        cases step with
        | tick => exact ⟨same.clock, same.outage, same.subject.tick _ _⟩
        | _ => cases ticks
      rw [List.filter_cons_of_neg (by simp [ticks]), Machine.play_cons, others_cons_tick ticks]
      exact ih still
    | false =>
      obtain ⟨scheduled, after⟩ := SameTimer.turn same ticks
      obtain ⟨turns, final⟩ := ih after
      rw [List.filter_cons_of_pos (by simp [ticks]), Machine.play_cons, Machine.play_cons,
        others_cons_other ticks]
      exact ⟨.cons (after.subject.undisturbed scheduled) turns, final⟩

/-- The start that stands after a step: the last one, unless a stop came after it. -/
def standing (before : Option (Config α)) : Machine.Step α → Option (Config α)
  | .start config | .reconfigure config => some config
  | .stop => none
  | _ => before

/-- The start that set the timer: none if no timer could be set to its interval. -/
def timerSetBy (kept : Option (Config α)) : Option (Config α) := kept.filter (·.interval.isTimeable)

/-- A start with a configuration set the timer, and the timer is not stopped. -/
inductive Stands : Option (Config α) → Simulation α → Prop where
  | unstarted {resets : Nat} {lastFailure : Option Failure} :
      Stands none { run := none, resets, lastFailure }
  | stopped {session : Session α} {resets : Nat} {lastFailure : Option Failure} :
      Stands none { run := some { session, timer := .stopped }, resets, lastFailure }
  | set {config : Config α} {session : Session α} {timer : Timer} {resets : Nat}
      {lastFailure : Option Failure} (of : session.config = config) (set : timer ≠ .stopped) :
      Stands (some config) { run := some { session, timer }, resets, lastFailure }

variable {simulation : Simulation α} {kept : Option (Config α)}

theorem Stands.tick (stands : Stands kept simulation) (reading : Int) (outage : Outage) :
    Stands kept (simulation.tick reading outage).state := by
  cases stands with
  | unstarted => exact .unstarted
  | stopped =>
    rw [tick_state]
    exact .stopped
  | set of set =>
    rw [tick_state]
    exact .set ((Session.tick_config _ _).trans of) set

theorem Stands.fireTimes (stands : Stands kept simulation) (clock : Clock) (outage : Outage)
    (count : Nat) : Stands kept (fireTimes clock outage count simulation).2 := by
  induction count generalizing simulation with
  | zero => exact stands
  | succ count ih =>
    cases stands with
    | unstarted => exact .unstarted
    | stopped => exact .stopped
    | @set config session timer resets lastFailure of set =>
      cases timer with
      | stopped => exact absurd rfl set
      | broken => exact .set of set
      | running due =>
        have ticked : (session.tick (clock.offset + due)).2.config = config :=
          (session.tick_config _).trans of
        rw [fireTimes_running]
        apply ih
        cases blocked : outage.topics.contains Event.tickTopic with
        | true =>
          rw [fire_blocked blocked]
          exact .set ticked nofun
        | false =>
          rw [fire_open blocked]
          exact .set ticked nofun

omit [PriceScale α] in
theorem Stands.stop (stands : Stands kept simulation) (outage : Outage) :
    Stands none (simulation.stop outage).state := by
  cases stands with
  | unstarted => exact .unstarted
  | stopped => exact .stopped
  | set of set =>
    rw [stop_set set, Outage.publish_state]
    exact .stopped

theorem start_stands (simulation : Simulation α) (config : Config α) (clock : Clock)
    (outage : Outage) :
    Stands (timerSetBy (some config)) (simulation.start config clock outage).state := by
  rw [start_state]
  cases timeable : config.interval.isTimeable with
  | true =>
    have kept : timerSetBy (some config) = some config := by simp [timerSetBy, timeable]
    rw [kept, Timer.set_timeable timeable]
    exact .set rfl nofun
  | false =>
    have lost : timerSetBy (some config) = none := by simp [timerSetBy, timeable]
    rw [lost, Timer.set_untimeable timeable]
    exact .stopped

theorem Stands.turn {scene : Scene (Simulation α)} (stands : Stands (timerSetBy kept) scene.subject)
    (step : Machine.Step α) :
    Stands (timerSetBy (standing kept step)) (machine.turn scene step).scene.subject := by
  cases step with
  | start config => exact start_stands _ config _ _
  | reconfigure config => exact start_stands _ config _ _
  | stop => exact stands.stop _
  | tick => exact stands.tick _ _
  | pass ms => exact stands.fireTimes _ _ _
  | setClock reading => exact stands
  | fail topics => exact stands

theorem Stands.play {scene : Scene (Simulation α)} (stands : Stands (timerSetBy kept) scene.subject)
    (steps : List (Machine.Step α)) :
    Stands (timerSetBy (steps.foldl standing kept)) (machine.play scene steps).2.subject := by
  induction steps generalizing scene kept with
  | nil => exact stands
  | cons step later ih => exact ih (stands.turn step)

/-- What a stop publishes, and what it answers, while the start of `kept` stands. -/
def stopping (scene : Scene (Simulation α)) (kept : Option (Config α)) :
    List (Int × Event α) × Machine.Answer α :=
  match kept with
  | none => ([], .stopped (.ok false))
  | some config =>
    if scene.outage.topics.contains Event.stoppedTopic then
      ([], .stopped (.error (.unpublished scene.outage.failure)))
    else ([(scene.clock.passed, .stopped config.symbol)], .stopped (.ok true))

/-- A stop is true, and told once, exactly if a start set the timer; whether the timer still runs does
not matter. -/
theorem turn_stop {scene : Scene (Simulation α)} (stands : Stands kept scene.subject) :
    ((machine.turn scene .stop).events, (machine.turn scene .stop).answer) =
      stopping scene kept := by
  obtain ⟨clock, outage, subject⟩ := scene
  cases stands with
  | unstarted => rfl
  | stopped => rfl
  | set of set =>
    subst of
    change ((Simulation.stop _ outage).events.map (clock.passed, ·),
      Machine.Answer.stopped (Simulation.stop _ outage).answer) = _
    rw [stop_set set, stopping]
    cases blocked : outage.topics.contains Event.stoppedTopic with
    | true =>
      rw [Outage.publish_blocked blocked]
      rfl
    | false =>
      rw [Outage.publish_open blocked]
      rfl

/-- The tasks of a simulation show the same as the simulation, and while it is running one of them
is asleep, otherwise none. -/
structure OneTimer (tasks : Machine.Turn (Roster α) α) (seen : Machine.Turn (Simulation α) α) :
    Prop where
  events : tasks.events = seen.events
  answer : tasks.answer = seen.answer
  view : tasks.scene.subject.view = seen.scene.subject
  asleep : tasks.scene.subject.asleep.length = if seen.scene.subject.isRunning then 1 else 0

omit [PriceScale α] in
theorem OneTimer.of_alike {tasks : Machine.Turn (Roster α) α} {seen : Machine.Turn (Simulation α) α}
    (alike : TurnAlike Roster.Seen tasks seen) : OneTimer tasks seen := by
  have ⟨orderly, view⟩ := alike.scene.subject
  refine ⟨alike.events, alike.answer, view, ?_⟩
  rw [← view]
  exact orderly.length_asleep

/-- After a start the timer is due at whole intervals up to now. The session attends all occasions,
or, if there is a first at which the timer ticks and nothing can be published, all before it, that
one, and from there on those on which a caller ticks; every tick that can be published is one event,
and there are no others. -/
structure Punctual (session : Session α) (plan : Plan) (failure : Failure) (due : List Occasion)
    (played : List (Machine.Turn (Simulation α) α) × Scene (Simulation α)) : Prop where
  times : (due.filter (·.timed)).map (·.time) =
    plan.interval.times (plan.since + plan.interval.ms)
      ((played.2.clock.passed - plan.since).fdiv plan.interval.ms).toNat
  whole : due.any Occasion.ends = false → Occasion.heed due = due
  published : published played.1 = (session.attend (Occasion.heed due)).1
  session : played.2.subject.session = some (session.attend (Occasion.heed due)).2
  timer : played.2.subject.timer = some
    (if due.any Occasion.ends then .broken else .running (plan.next played.2.clock.passed))
  lastFailure : played.2.subject.lastFailure = if due.any Occasion.ends then some failure else none

/-- After a stop the session, if there is one, is left to those on whose demand it ticks. -/
structure Silent (session : Option (Session α)) (asked : List Occasion)
    (played : List (Machine.Turn (Simulation α) α) × Scene (Simulation α)) : Prop where
  untimed : asked.filter (·.timed) = []
  published : published played.1 = session.elim [] fun session => (session.attend asked).1
  session : played.2.subject.session = session.map fun session => (session.attend asked).2
  still : played.2.subject.isRunning = false

def calm (steps : List (Machine.Step α)) : List (Machine.Step α) := steps.takeWhile (!·.interrupts)

def quiet (steps : List (Machine.Step α)) : List (Machine.Step α) := steps.takeWhile (!·.starts)

omit [PriceScale α] in
theorem interrupts_of_mem_calm (steps : List (Machine.Step α)) :
    ∀ step ∈ calm steps, step.interrupts = false := by
  intro step member
  have passed := List.mem_takeWhile_imp member
  exact Bool.eq_false_iff.mpr (Bool.not_iff_not.mp passed)

omit [PriceScale α] in
theorem starts_of_mem_quiet (steps : List (Machine.Step α)) :
    ∀ step ∈ quiet steps, step.starts = false := by
  intro step member
  have passed := List.mem_takeWhile_imp member
  exact Bool.eq_false_iff.mpr (Bool.not_iff_not.mp passed)

theorem Punctual.of_attended {session : Session α} {plan : Plan} {resets : Nat} {failure : Failure}
    {due : List Occasion} {played : List (Machine.Turn (Simulation α) α) × Scene (Simulation α)}
    (times : (due.filter (·.timed)).map (·.time) =
      plan.interval.times (plan.since + plan.interval.ms)
        ((played.2.clock.passed - plan.since).fdiv plan.interval.ms).toNat)
    (lived : (Machine.published played.1, played.2.subject) =
      attended plan session resets none failure due played.2.clock.passed) :
    Punctual session plan failure due played := by
  obtain ⟨published, left⟩ := Prod.ext_iff.mp lived
  dsimp only at published left
  cases ended : due.any Occasion.ends with
  | true =>
    rw [attended_ended ended] at published left
    refine ⟨times, Occasion.heed_lasting, published, ?_, ?_, ?_⟩
    · rw [left]
      rfl
    · rw [left, ended]
      rfl
    · rw [left, ended]
      rfl
  | false =>
    rw [attended_lasting ended] at published left
    have whole := Occasion.heed_lasting ended
    refine ⟨times, fun _ => whole, ?_, ?_, ?_, ?_⟩
    · rw [published, whole]
    · rw [left, whole]
      rfl
    · rw [left, ended]
      rfl
    · rw [left, ended]
      rfl

theorem start_punctual (scene : Scene (Simulation α)) {config : Config α}
    (timeable : config.interval.isTimeable = true) (after : List (Machine.Step α)) :
    let plan : Plan := { since := scene.clock.passed, interval := config.interval }
    Punctual (Session.reset config scene.clock.reading) plan scene.outage.failure
      (occasions (some plan) scene.clock scene.outage (calm after))
      (machine.play (machine.turn scene (.start config)).scene (calm after)) := by
  intro plan
  have first : plan.next scene.clock.passed = scene.clock.passed + config.interval.ms :=
    plan.next_since
  have started : (machine.turn scene (.start config)).scene.subject =
      { run := some
          { session := Session.reset config scene.clock.reading
            timer := .running (plan.next scene.clock.passed) }
        resets := scene.subject.resets + 1
        lastFailure := none } := by
    rw [first, ← Timer.set_timeable timeable]
    exact start_state _ _ _ _
  apply Punctual.of_attended
  · have elapsed : (machine.play (machine.turn scene (.start config)).scene
        (calm after)).2.clock.passed - plan.since =
          (((calm after).map Machine.Step.elapsed).sum : Nat) := by
      rw [Machine.play_passed, Machine.turn_clock]
      exact add_sub_cancel_left scene.clock.passed _
    rw [elapsed, Machine.occasions_timed]
    exact plan.instants_since _
  · exact play_planned started rfl (interrupts_of_mem_calm after)

section Stopped

variable {scene : Scene (Simulation α)} {session : Session α} {resets : Nat}
  {lastFailure : Option Failure} {steps : List (Machine.Step α)}

/-- A stopped timer stays stopped until the next start. -/
theorem play_stopped
    (held : scene.subject = { run := some { session, timer := .stopped }, resets, lastFailure })
    (waiting : ∀ step ∈ steps, step.starts = false) :
    let played := machine.play scene steps
    let attended := session.attend (occasions none scene.clock scene.outage steps)
    (published played.1, played.2.subject) =
      (attended.1,
        { run := some { session := attended.2, timer := .stopped }, resets, lastFailure }) :=
  play_resting held fun step member => congrArg Bool.not (waiting step member)

omit [PriceScale α] in
theorem occasions_none_untimed (clock : Clock) (outage : Outage)
    (steps : List (Machine.Step α)) :
    (occasions none clock outage steps).filter (·.timed) = [] := by
  rw [← Machine.occasions_untimed none, List.filter_filter]
  simp

theorem stopped_silent
    (held : scene.subject = { run := some { session, timer := .stopped }, resets, lastFailure })
    (waiting : ∀ step ∈ steps, step.starts = false) :
    Silent (some session) (occasions none scene.clock scene.outage steps)
      (machine.play scene steps) := by
  obtain ⟨published, left⟩ := Prod.mk.inj (play_stopped held waiting)
  refine ⟨occasions_none_untimed scene.clock scene.outage steps, published, ?_, ?_⟩
  · rw [left]
    rfl
  · rw [left]
    rfl

theorem play_unstarted (held : scene.subject = { run := none, resets, lastFailure })
    (waiting : ∀ step ∈ steps, step.starts = false) :
    Machine.published (machine.play scene steps).1 = [] ∧
      (machine.play scene steps).2.subject = { run := none, resets, lastFailure } := by
  induction steps generalizing scene with
  | nil => exact ⟨rfl, held⟩
  | cons step later ih =>
    obtain ⟨first, others⟩ := List.forall_mem_cons.mp waiting
    have taken : (machine.turn scene step).events = [] ∧
        (machine.turn scene step).scene.subject = { run := none, resets, lastFailure } := by
      obtain ⟨clock, outage, _⟩ := scene
      obtain rfl := held
      cases step with
      | start config => cases first
      | reconfigure config => cases first
      | _ => exact ⟨rfl, rfl⟩
    obtain ⟨nothing, left⟩ := taken
    obtain ⟨silent, after⟩ := ih left others
    rw [Machine.play_cons, Machine.published_cons, nothing, silent]
    exact ⟨rfl, after⟩

end Stopped

theorem stop_silent (scene : Scene (Simulation α)) (after : List (Machine.Step α)) :
    Silent scene.subject.session (occasions none scene.clock scene.outage (quiet after))
      (machine.play (machine.turn scene .stop).scene (quiet after)) := by
  have waiting := starts_of_mem_quiet after
  obtain ⟨clock, outage, run, resets, lastFailure⟩ := scene
  cases run with
  | none =>
    have unstarted : (machine.turn
        { clock, outage, subject := ({ run := none, resets, lastFailure } : Simulation α) }
        .stop).scene.subject = { run := none, resets, lastFailure } := rfl
    obtain ⟨published, left⟩ := play_unstarted unstarted waiting
    refine ⟨occasions_none_untimed clock outage (quiet after), published, ?_, ?_⟩
    · rw [left]
      rfl
    · rw [left]
      rfl
  | some run =>
    obtain ⟨session, timer⟩ := run
    have stopped : (machine.turn
        { clock, outage, subject := { run := some { session, timer }, resets, lastFailure } }
        .stop).scene.subject =
          { run := some { session, timer := .stopped }, resets, lastFailure } := by
      by_cases before : timer = .stopped
      · rw [before]
        rfl
      · change (Simulation.stop _ outage).state = _
        rw [stop_set before, Outage.publish_state]
    exact stopped_silent stopped waiting

/-- A start that sets no timer. It fails and publishes nothing, and what it leaves does not tick. -/
structure Unset (session : Session α) (asked : List Occasion)
    (started : Machine.Turn (Simulation α) α)
    (played : List (Machine.Turn (Simulation α) α) × Scene (Simulation α)) : Prop where
  answer : started.answer = .started (.error .untimeable)
  events : started.events = []
  silent : Silent (some session) asked played

theorem start_subject_untimeable {config : Config α}
    (untimeable : config.interval.isTimeable = false) (scene : Scene (Simulation α)) :
    (machine.turn scene (.start config)).scene.subject =
      { run := some { session := Session.reset config scene.clock.reading, timer := .stopped }
        resets := scene.subject.resets + 1
        lastFailure := none } := by
  rw [← Timer.set_untimeable untimeable scene.clock.passed]
  exact start_state _ _ _ _

theorem start_unset {config : Config α} (untimeable : config.interval.isTimeable = false)
    (scene : Scene (Simulation α)) (after : List (Machine.Step α)) :
    Unset (Session.reset config scene.clock.reading)
      (occasions none scene.clock scene.outage (quiet after))
      (machine.turn scene (.start config))
      (machine.play (machine.turn scene (.start config)).scene (quiet after)) := by
  obtain ⟨events, answer⟩ :=
    start_untimeable untimeable scene.subject scene.clock scene.outage
  refine ⟨congrArg Machine.Answer.started answer, congrArg (List.map _) events, ?_⟩
  exact stopped_silent (start_subject_untimeable untimeable scene) (starts_of_mem_quiet after)

/-- The timer is on time after a start exactly if it can be set to the interval. -/
theorem start_punctual_iff (scene : Scene (Simulation α)) (config : Config α)
    (after : List (Machine.Step α)) :
    let plan : Plan := { since := scene.clock.passed, interval := config.interval }
    Punctual (Session.reset config scene.clock.reading) plan scene.outage.failure
        (occasions (some plan) scene.clock scene.outage (calm after))
        (machine.play (machine.turn scene (.start config)).scene (calm after)) ↔
      config.interval.isTimeable = true := by
  intro plan
  refine ⟨fun punctual => ?_, fun timeable => start_punctual scene timeable after⟩
  by_contra untimeable
  have held := start_subject_untimeable (Bool.eq_false_iff.mpr untimeable) scene
  have waiting : ∀ step ∈ calm after, step.starts = false := fun step member =>
    (Bool.or_eq_false_iff.mp (interrupts_of_mem_calm after step member)).1
  have timer := punctual.timer
  rw [(Prod.mk.inj (play_stopped held waiting)).2] at timer
  have same := Option.some.inj timer
  split at same <;> cases same

/-- The life of a timer, whatever the steps before and after.
- Of all the tasks that its starts created at most one is asleep, and that only while the simulation
  runs.
- From a start, or from reconfiguring, until the next start or stop it is due at whole intervals and
  ticks until one of its ticks cannot be published, exactly if a timer can be set to the interval. If
  not, the start fails, and until the next one there is no timer.
- From a stop until the next start it does not tick.
- Ticks on demand change nothing about it and about what other steps do to it.
- A stop is true and published exactly if a start came since the last stop or the creation, and the
  last one set a timer. -/
theorem timer_lifecycle_iff (clock : Clock) (failure : Failure)
    (before after : List (Machine.Step α)) :
    let lived := machine.play (opening clock failure fresh) before
    let scene := lived.2
    List.Forall₂ OneTimer (Roster.machine.play (opening clock failure .fresh) before).1 lived.1 ∧
      (∀ (config : Config α) (start : Machine.Step α),
        start = .start config ∨ start = .reconfigure config →
          let session := Session.reset config scene.clock.reading
          let plan : Plan := { since := scene.clock.passed, interval := config.interval }
          let started := machine.turn scene start
          (Punctual session plan scene.outage.failure
              (occasions (some plan) scene.clock scene.outage (calm after))
              (machine.play started.scene (calm after)) ↔
            config.interval.isTimeable = true) ∧
          (config.interval.isTimeable = false →
            Unset session (occasions none scene.clock scene.outage (quiet after)) started
              (machine.play started.scene (quiet after)))) ∧
      Silent scene.subject.session (occasions none scene.clock scene.outage (quiet after))
        (machine.play (machine.turn scene .stop).scene (quiet after)) ∧
      List.Forall₂ Undisturbed (others after (machine.play scene after).1)
        (machine.play scene (after.filter (!·.ticks))).1 ∧
      (machine.play scene after).2.subject.timer =
        (machine.play scene (after.filter (!·.ticks))).2.subject.timer ∧
      ((machine.turn scene .stop).events, (machine.turn scene .stop).answer) =
        stopping scene (timerSetBy (before.foldl standing none)) := by
  intro lived scene
  have undisturbed := SameTimer.play ⟨rfl, rfl, .refl scene.subject⟩ after
  refine ⟨?_, ?_, ?_, ?_, ?_, ?_⟩
  · have close : SceneAlike Roster.Seen (opening clock failure Roster.fresh : Scene (Roster α))
        (opening clock failure fresh) := ⟨rfl, rfl, Roster.fresh_seen⟩
    exact (Roster.seen_bisimilar.play close before).1.imp fun _ _ => OneTimer.of_alike
  · intro config start either
    have punctual := start_punctual_iff scene config after
    have unset (untimeable : config.interval.isTimeable = false) :=
      start_unset untimeable scene after
    -- To reconfigure is the same turn as to start.
    obtain rfl | rfl := either
    · exact ⟨punctual, unset⟩
    · exact ⟨punctual, unset⟩
  · exact stop_silent scene after
  · exact undisturbed.1
  · exact undisturbed.2.subject.timer
  · have unstarted : Stands (timerSetBy none) (opening clock failure (fresh : Simulation α)).subject :=
      .unstarted
    exact turn_stop (unstarted.play before)

/-- A simulation that ticks every second is reconfigured with an interval to which no timer can be
set. The start fails, but the old timer is gone, and a stop finds none. -/
theorem vast_interval_unstopped :
    let config (interval : Span) : Config Float :=
      { symbol := "DOT/USDT"
        duration := ⟨60000, by decide⟩
        historyLength := 1
        interval
        volatility := 0.002
        startPrice := none
        historyLength_pos := by decide
        duration_seconds := by decide }
    let second : Span := ⟨1000, by decide⟩
    let vast : Span := ⟨1000 * (1 <<< 1024 : Nat), by decide⟩
    let steps : List (Machine.Step Float) := [.start (config second), .reconfigure (config vast)]
    let lived := machine.play
      (opening { offset := 0, passed := 0 } { kind := "RuntimeError", text := "boom" } fresh) steps
    let stopped := machine.turn lived.2 .stop
    steps.foldl standing none = some (config vast) ∧
      lived.1.map (fun turn => turn.events.map (·.2.topic)) = [["simulation_reset"], []] ∧
      lived.1.map (·.scene.subject.isRunning) = [true, false] ∧
      stopped.events = [] ∧ stopped.answer = .stopped (.ok false) := by
  refine ⟨rfl, ?_, ?_, ?_, ?_⟩
  · decide +kernel
  · decide +kernel
  · rfl
  · rfl

end Simulation

end SyntheticMarket
