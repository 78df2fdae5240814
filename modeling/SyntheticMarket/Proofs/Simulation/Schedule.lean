import SyntheticMarket.Proofs.Chart.Multiples
import SyntheticMarket.Proofs.Session.Tick
import SyntheticMarket.Proofs.Simulation.Machine

/-! When a simulation ticks. The timer is due at whole intervals after the start, and callers tick
whenever they like; a tick of the timer that cannot be published is its last. From the steps alone
one can write down the occasions to tick, and the session does no more than attend them. -/

namespace SyntheticMarket

variable {α : Type}

/-- A moment to tick at: the time that has passed, the reading of the clock, whether it is the timer
that ticks, and whether the update can be published. -/
structure Occasion where
  time : Int
  reading : Int
  timed : Bool
  told : Bool
deriving DecidableEq

namespace Occasion

def under (clock : Clock) (outage : Outage) (timed : Bool) (time : Int) : Occasion :=
  { time, reading := clock.offset + time, timed,
    told := !outage.topics.contains Event.tickTopic }

def ends (occasion : Occasion) : Bool := occasion.timed && !occasion.told

/-- The occasions that are attended: all up to the first that ends the timer, and from there on
those that are not the timer's. -/
def heed : List Occasion → List Occasion
  | [] => []
  | occasion :: later =>
    occasion :: if occasion.ends then later.filter (!·.timed) else heed later

theorem heed_cons_ends {occasion : Occasion} (ends : occasion.ends = true)
    (later : List Occasion) :
    heed (occasion :: later) = occasion :: later.filter (!·.timed) := by
  rw [heed, if_pos ends]

theorem heed_append (first later : List Occasion) :
    heed (first ++ later) =
      heed first ++ if first.any ends then later.filter (!·.timed) else heed later := by
  induction first with
  | nil => rfl
  | cons occasion first ih =>
    rw [List.cons_append, heed, heed, List.any_cons, ih]
    cases occasion.ends with
    | true => simp
    | false => simp

theorem heed_lasting {occasions : List Occasion} (lasting : occasions.any ends = false) :
    heed occasions = occasions := by
  induction occasions with
  | nil => rfl
  | cons occasion later ih =>
    obtain ⟨goesOn, rest⟩ := Bool.or_eq_false_iff.mp lasting
    rw [heed, goesOn, ih rest]
    rfl

variable (clock : Clock) (outage : Outage) (times : List Int)

theorem ends_under (timed : Bool) (time : Int) :
    (under clock outage timed time).ends =
      (timed && outage.topics.contains Event.tickTopic) := by
  rw [ends, under, Bool.not_not]

theorem lasting_open (opened : outage.topics.contains Event.tickTopic = false) (timed : Bool) :
    (times.map (under clock outage timed)).any ends = false := by
  apply List.any_eq_false.mpr
  intro occasion member
  obtain ⟨time, _, rfl⟩ := List.mem_map.mp member
  rw [ends_under, opened, Bool.and_false]
  exact Bool.false_ne_true

theorem filter_timed : (times.map (under clock outage true)).filter (·.timed) =
    times.map (under clock outage true) :=
  List.filter_eq_self.mpr (List.forall_mem_map.mpr fun _ _ => rfl)

theorem filter_untimed : (times.map (under clock outage true)).filter (!·.timed) = [] := by
  apply List.filter_eq_nil_iff.mpr
  intro occasion member
  obtain ⟨time, _, rfl⟩ := List.mem_map.mp member
  exact Bool.false_ne_true

end Occasion

/-- Ticks on every occasion, each tick one update, and publishes those that can be published. -/
def Session.attend [PriceScale α] (session : Session α) :
    List Occasion → List (Int × Event α) × Session α
  | [] => ([], session)
  | occasion :: later =>
    let ticked := session.tick occasion.reading
    let rest := ticked.2.attend later
    ((if occasion.told then [(occasion.time, .ticked ticked.1)] else []) ++ rest.1, rest.2)

section Attend
variable [PriceScale α]

@[simp] theorem Session.attend_nil (session : Session α) : session.attend [] = ([], session) := rfl

theorem Session.attend_cons (session : Session α) (occasion : Occasion)
    (later : List Occasion) :
    session.attend (occasion :: later) =
      let ticked := session.tick occasion.reading
      let rest := ticked.2.attend later
      ((if occasion.told then [(occasion.time, .ticked ticked.1)] else []) ++ rest.1, rest.2) :=
  rfl

theorem Session.attend_open {outage : Outage}
    (opened : outage.topics.contains Event.tickTopic = false) (session : Session α) (clock : Clock)
    (timed : Bool) (time : Int) (later : List Occasion) :
    session.attend (.under clock outage timed time :: later) =
      let ticked := session.tick (clock.offset + time)
      let rest := ticked.2.attend later
      ((time, .ticked ticked.1) :: rest.1, rest.2) := by
  rw [attend_cons, Occasion.under, opened]
  rfl

theorem Session.attend_blocked {outage : Outage}
    (blocked : outage.topics.contains Event.tickTopic = true) (session : Session α) (clock : Clock)
    (timed : Bool) (time : Int) (later : List Occasion) :
    session.attend (.under clock outage timed time :: later) =
      (session.tick (clock.offset + time)).2.attend later := by
  rw [attend_cons, Occasion.under, blocked]
  rfl

theorem Session.attend_append (session : Session α) (first later : List Occasion) :
    session.attend (first ++ later) =
      ((session.attend first).1 ++ ((session.attend first).2.attend later).1,
        ((session.attend first).2.attend later).2) := by
  induction first generalizing session with
  | nil => rfl
  | cons occasion first ih => simp [Session.attend_cons, ih]

@[simp] theorem Session.attend_config (session : Session α) (occasions : List Occasion) :
    (session.attend occasions).2.config = session.config := by
  induction occasions generalizing session with
  | nil => rfl
  | cons occasion later ih => exact (ih _).trans (session.tick_config _)

/-- The session after some occasions is the one after a run of ticks at their clock readings. -/
theorem Session.attend_run (session : Session α) (occasions : List Occasion) :
    (session.attend occasions).2 = (session.run (occasions.map Occasion.reading)).2 := by
  induction occasions generalizing session with
  | nil => rfl
  | cons occasion later ih => exact ih _

end Attend

def Span.times (span : Span) (due : Int) (count : Nat) : List Int :=
  (List.range count).map fun index : Nat => due + span.ms * index

theorem Span.times_succ (span : Span) (due : Int) (count : Nat) :
    span.times due (count + 1) = due :: span.times (due + span.ms) count := by
  rw [times, List.range_succ_eq_map, List.map_cons, List.map_map, times]
  congr 1
  · simp
  · congr 1
    funext index
    simp only [Function.comp_apply, Nat.succ_eq_add_one, Int.natCast_add, Int.natCast_one,
      Int.mul_add, Int.mul_one]
    omega

structure Plan where
  since : Int
  interval : Span

namespace Plan

/-- The times at which the timer is due in the `ms` milliseconds after `passed`: those that are
whole intervals after it was set. -/
def instants (plan : Plan) (passed : Int) (ms : Nat) : List Int :=
  (multiples plan.interval.ms (passed + 1 - plan.since) (passed + ms - plan.since)).map
    (plan.since + ·)

/-- The first time after `passed` that is a whole interval after the timer was set. -/
def next (plan : Plan) (passed : Int) : Int :=
  plan.since + plan.interval.ms * ((passed - plan.since).fdiv plan.interval.ms + 1)

theorem next_since (plan : Plan) : plan.next plan.since = plan.since + plan.interval.ms := by
  simp [next]

theorem timesTo_next (plan : Plan) (passed : Int) (ms : Nat) :
    (plan.interval.timesTo (plan.next passed) (passed + ms) : Int) =
      (passed + ms - plan.since).fdiv plan.interval.ms -
        (passed - plan.since).fdiv plan.interval.ms := by
  have positive := plan.interval.positive
  have nonneg : 0 ≤ plan.interval.ms := Int.le_of_lt positive
  have monotone : (passed - plan.since).fdiv plan.interval.ms ≤
      (passed + ms - plan.since).fdiv plan.interval.ms := by
    rw [Int.fdiv_eq_ediv_of_nonneg _ nonneg, Int.fdiv_eq_ediv_of_nonneg _ nonneg]
    exact Int.ediv_le_ediv positive (by omega)
  have shifted : passed + ms - plan.next passed = passed + ms - plan.since -
      ((passed - plan.since).fdiv plan.interval.ms + 1) * plan.interval.ms := by
    rw [next, Int.mul_comm]
    omega
  rw [Span.timesTo, shifted, Int.sub_mul_fdiv_right _ _ (Int.ne_of_gt positive)]
  omega

theorem next_add (plan : Plan) (passed : Int) (ms : Nat) :
    plan.next passed +
        plan.interval.ms * (plan.interval.timesTo (plan.next passed) (passed + ms) : Int) =
      plan.next (passed + ms) := by
  rw [timesTo_next, next, next, Int.add_assoc, ← Int.mul_add]
  congr 2
  omega

/-- The times after `passed` start at the next one and are one interval apart. -/
theorem instants_eq (plan : Plan) (passed : Int) (ms : Nat) :
    plan.instants passed ms =
      plan.interval.times (plan.next passed)
        (plan.interval.timesTo (plan.next passed) (passed + ms)) := by
  have positive := plan.interval.positive
  have steps := timesTo_next plan passed ms
  have whole := Int.mul_fdiv_add_fmod (passed - plan.since) plan.interval.ms
  have rest := Int.fmod_nonneg_of_pos (passed - plan.since) positive
  have short := Int.fmod_lt_of_pos (passed - plan.since) positive
  have below : (-(passed + 1 - plan.since)).fdiv plan.interval.ms =
      -(passed - plan.since).fdiv plan.interval.ms - 1 := by
    apply fdiv_eq positive
    · rw [Int.mul_sub, Int.mul_neg]
      omega
    · rw [Int.mul_sub, Int.mul_neg]
      omega
  rw [instants, multiples_eq positive, below, lastMultiples, Span.times, List.map_map]
  generalize plan.interval.timesTo (plan.next passed) (passed + ms) = count at steps ⊢
  have counted : ((passed + ms - plan.since).fdiv plan.interval.ms +
      (-(passed - plan.since).fdiv plan.interval.ms - 1) + 1).toNat = count := by
    omega
  rw [counted]
  congr 1
  funext index
  rw [Function.comp_apply, next, Int.add_assoc, ← Int.mul_add]
  congr 2
  omega

@[simp] theorem instants_zero (plan : Plan) (passed : Int) : plan.instants passed 0 = [] := by
  have nothing : (passed + (0 : Nat) - plan.since + 1 - (passed + 1 - plan.since)).toNat = 0 := by
    omega
  rw [instants, multiples, nothing]
  rfl

theorem instants_append (plan : Plan) (passed : Int) (ms ms' : Nat) :
    plan.instants passed ms ++ plan.instants (passed + ms) ms' =
      plan.instants passed (ms + ms') := by
  have joined := multiples_append plan.interval.ms
    (show passed + 1 - plan.since ≤ passed + ms - plan.since + 1 by omega)
    (show passed + ms - plan.since ≤ passed + ((ms + ms' : Nat) : Int) - plan.since by omega)
  rw [instants, instants, instants, ← List.map_append, ← joined]
  congr 4
  · omega
  · omega

/-- From when the timer was set on, it is due after one interval, after two, and so on. -/
theorem instants_since (plan : Plan) (ms : Nat) :
    plan.instants plan.since ms =
      plan.interval.times (plan.since + plan.interval.ms)
        ((ms : Int).fdiv plan.interval.ms).toNat := by
  have steps := timesTo_next plan plan.since ms
  have elapsed : plan.since + (ms : Int) - plan.since = ms := by omega
  rw [next_since, elapsed, Int.sub_self, Int.zero_fdiv, Int.sub_zero] at steps
  rw [instants_eq, next_since, ← steps, Int.toNat_natCast]

end Plan

namespace Machine

/-- The occasions to tick that a step brings; with no plan there is no timer. -/
def Step.occasions (plan : Option Plan) (clock : Clock) (outage : Outage) :
    Step α → List Occasion
  | .tick => [.under clock outage false clock.passed]
  | .pass ms =>
    (plan.elim [] (·.instants clock.passed ms)).map (Occasion.under clock outage true)
  | _ => []

/-- The occasions that steps bring, one step after the other. -/
def occasions (plan : Option Plan) (clock : Clock) (outage : Outage) :
    List (Step α) → List Occasion
  | [] => []
  | step :: later =>
    step.occasions plan clock outage ++
      occasions plan (step.clock clock) (step.outage outage) later

/-- The step starts or stops a simulation. -/
def Step.interrupts (step : Step α) : Bool := step.starts || step.stops

/-- The step leaves the timer, which does not tick any more, as it is. An ended timer can still be
stopped. -/
def Step.spares (timer : Timer) (step : Step α) : Bool :=
  match timer with
  | .running _ => false
  | .stopped => !step.starts
  | .broken => !step.interrupts

def Step.elapsed : Step α → Nat
  | .pass ms => ms
  | _ => 0

theorem Step.occasions_untimed (plan : Option Plan) (clock : Clock) (outage : Outage)
    (step : Step α) :
    (step.occasions plan clock outage).filter (!·.timed) = step.occasions none clock outage := by
  cases step with
  | pass ms => exact Occasion.filter_untimed clock outage _
  | _ => rfl

/-- What is left without the timer is what there would be without any. -/
theorem occasions_untimed (plan : Option Plan) (clock : Clock) (outage : Outage)
    (steps : List (Step α)) :
    (occasions plan clock outage steps).filter (!·.timed) =
      occasions none clock outage steps := by
  induction steps generalizing clock outage with
  | nil => rfl
  | cons step later ih =>
    rw [occasions, occasions, List.filter_append, Step.occasions_untimed, ih]

@[simp] theorem Step.failure_outage (outage : Outage) (step : Step α) :
    (step.outage outage).failure = outage.failure := by
  cases step <;> rfl

theorem Step.passed_clock (clock : Clock) (step : Step α) :
    (step.clock clock).passed = clock.passed + step.elapsed := by
  cases step <;> simp [Step.clock, Step.elapsed, Clock.pass, Clock.set]

/-- The time that has passed after a run does not depend on the machine. -/
theorem play_passed {σ : Type} (machine : Machine σ α) (scene : Scene σ) (steps : List (Step α)) :
    (machine.play scene steps).2.clock.passed =
      scene.clock.passed + ((steps.map Step.elapsed).sum : Nat) := by
  induction steps generalizing scene with
  | nil => exact (Int.add_zero _).symm
  | cons step later ih =>
    rw [play_cons, ih, turn_clock, Step.passed_clock, List.map_cons, List.sum_cons,
      Int.natCast_add, Int.add_assoc]

theorem Step.occasions_timed (plan : Plan) (clock : Clock) (outage : Outage) (step : Step α) :
    ((step.occasions (some plan) clock outage).filter (·.timed)).map (·.time) =
      plan.instants clock.passed step.elapsed := by
  cases step with
  | pass ms =>
    rw [Step.occasions, Option.elim, Occasion.filter_timed, List.map_map]
    exact List.map_id _
  | _ => exact (plan.instants_zero clock.passed).symm

/-- The timer is due exactly at the whole intervals after it was set. -/
theorem occasions_timed (plan : Plan) (clock : Clock) (outage : Outage) (steps : List (Step α)) :
    ((occasions (some plan) clock outage steps).filter (·.timed)).map (·.time) =
      plan.instants clock.passed (steps.map Step.elapsed).sum := by
  induction steps generalizing clock outage with
  | nil => exact (plan.instants_zero clock.passed).symm
  | cons step later ih =>
    rw [occasions, List.filter_append, List.map_append, ih, Step.occasions_timed,
      Step.passed_clock, Plan.instants_append]
    rfl

end Machine

namespace Simulation

open Machine (occasions published)

variable [PriceScale α] {session : Session α} {resets : Nat} {lastFailure : Option Failure}
  {clock : Clock} {outage : Outage}

theorem fireTimes_open (opened : outage.topics.contains Event.tickTopic = false) (due : Int)
    (count : Nat) :
    fireTimes clock outage count
        { run := some { session, timer := .running due }, resets, lastFailure } =
      let attended := session.attend
        ((session.config.interval.times due count).map (Occasion.under clock outage true))
      (attended.1,
        { run := some
            { session := attended.2
              timer := .running (due + session.config.interval.ms * count) }
          resets
          lastFailure }) := by
  induction count generalizing session due with
  | zero => simp [fireTimes, Span.times]
  | succ count ih =>
    have next : due + session.config.interval.ms + session.config.interval.ms * count =
        due + session.config.interval.ms * (count + 1 : Nat) := by
      rw [Int.natCast_add, Int.mul_add]
      omega
    rw [Span.times_succ, List.map_cons, Session.attend_open opened, fireTimes_running,
      fire_open opened]
    dsimp only
    rw [ih, Session.tick_config, next]
    rfl

theorem fireTimes_blocked (blocked : outage.topics.contains Event.tickTopic = true) (due : Int)
    (count : Nat) :
    fireTimes clock outage (count + 1)
        { run := some { session, timer := .running due }, resets, lastFailure } =
      ([],
        { run := some { session := (session.tick (clock.offset + due)).2, timer := .broken }
          resets
          lastFailure := some outage.failure }) := by
  rw [fireTimes_running, fire_blocked blocked]
  dsimp only
  rw [fireTimes_broken]
  rfl

/-- What becomes of a simulation with a running timer on some occasions: what it publishes on them,
and how they leave it at the time `now`. -/
def attended (plan : Plan) (session : Session α) (resets : Nat)
    (lastFailure : Option Failure) (failure : Failure) (occasions : List Occasion) (now : Int) :
    List (Int × Event α) × Simulation α :=
  let attended := session.attend (Occasion.heed occasions)
  (attended.1,
    if occasions.any Occasion.ends then
      { run := some { session := attended.2, timer := .broken }, resets,
        lastFailure := some failure }
    else
      { run := some { session := attended.2, timer := .running (plan.next now) }, resets,
        lastFailure })

theorem attended_lasting {plan : Plan} {failure : Failure} {occasions : List Occasion}
    {now : Int} (lasting : occasions.any Occasion.ends = false) :
    attended plan session resets lastFailure failure occasions now =
      ((session.attend occasions).1,
        { run := some
            { session := (session.attend occasions).2, timer := .running (plan.next now) }
          resets
          lastFailure }) := by
  rw [attended, lasting, Occasion.heed_lasting lasting]
  rfl

theorem attended_ended {plan : Plan} {failure : Failure} {occasions : List Occasion}
    {now : Int} (ended : occasions.any Occasion.ends = true) :
    attended plan session resets lastFailure failure occasions now =
      ((session.attend (Occasion.heed occasions)).1,
        { run := some
            { session := (session.attend (Occasion.heed occasions)).2, timer := .broken }
          resets
          lastFailure := some failure }) := by
  rw [attended, ended]
  rfl

/-- While time passes, the timer ticks on its occasions. -/
theorem pass_planned (plan : Plan) (interval : session.config.interval = plan.interval)
    (ms : Nat) :
    pass
        { run := some { session, timer := .running (plan.next clock.passed) }, resets,
          lastFailure }
        ms clock outage =
      attended plan session resets lastFailure outage.failure
        ((plan.instants clock.passed ms).map (Occasion.under clock outage true))
        (clock.passed + ms) := by
  rw [pass, dueTicks_running, Plan.instants_eq, interval]
  have after := plan.next_add clock.passed ms
  generalize plan.interval.timesTo (plan.next clock.passed) (clock.passed + ms) = count at after ⊢
  cases blocked : outage.topics.contains Event.tickTopic with
  | false =>
    rw [fireTimes_open blocked, interval, after,
      attended_lasting (Occasion.lasting_open clock outage _ blocked true)]
  | true =>
    cases count with
    | zero =>
      rw [Int.natCast_zero, Int.mul_zero, Int.add_zero] at after
      rw [after]
      rfl
    | succ count =>
      have ends : (Occasion.under clock outage true (plan.next clock.passed)).ends = true := by
        rw [Occasion.ends_under, blocked, Bool.true_and]
      rw [fireTimes_blocked blocked, Span.times_succ, List.map_cons, attended,
        Occasion.heed_cons_ends ends, Occasion.filter_untimed, Session.attend_blocked blocked,
        List.any_cons, ends]
      rfl

theorem attended_append_lasting {plan : Plan} {failure : Failure} {first later : List Occasion}
    {now : Int} (lasting : first.any Occasion.ends = false) :
    attended plan session resets lastFailure failure (first ++ later) now =
      let before := session.attend first
      let rest := attended plan before.2 resets lastFailure failure later now
      (before.1 ++ rest.1, rest.2) := by
  rw [attended, Occasion.heed_append, Occasion.heed_lasting lasting, List.any_append, lasting,
    Session.attend_append]
  rfl

theorem attended_append_ended {plan : Plan} {failure : Failure} {first later : List Occasion}
    {now : Int} (ended : first.any Occasion.ends = true) :
    attended plan session resets lastFailure failure (first ++ later) now =
      let before := session.attend (Occasion.heed first)
      let rest := before.2.attend (later.filter (!·.timed))
      (before.1 ++ rest.1,
        { run := some { session := rest.2, timer := .broken }, resets,
          lastFailure := some failure }) := by
  rw [attended, Occasion.heed_append, List.any_append, ended, Session.attend_append]
  rfl

variable {scene : Scene (Simulation α)} {step : Machine.Step α} {steps : List (Machine.Step α)}
  {timer : Timer} {plan : Plan}

/-- A tick on demand is attended and leaves the timer alone. -/
theorem turn_tick (held : scene.subject = { run := some { session, timer }, resets, lastFailure }) :
    let taken := machine.turn scene .tick
    let attended := session.attend [.under scene.clock scene.outage false scene.clock.passed]
    (taken.events, taken.scene.subject) =
      (attended.1, { run := some { session := attended.2, timer }, resets, lastFailure }) := by
  obtain ⟨clock, outage, _⟩ := scene
  obtain rfl := held
  let simulation : Simulation α := { run := some { session, timer }, resets, lastFailure }
  change ((simulation.tick clock.reading outage).events.map (clock.passed, ·),
    (simulation.tick clock.reading outage).state) = _
  cases blocked : outage.topics.contains Event.tickTopic with
  | true =>
    rw [tick_blocked blocked, Session.attend_blocked blocked]
    rfl
  | false =>
    rw [tick_open blocked, Session.attend_open blocked]
    rfl

/-- A step that spares the timer is attended without it. -/
theorem turn_resting
    (held : scene.subject = { run := some { session, timer }, resets, lastFailure })
    (spared : step.spares timer = true) :
    let taken := machine.turn scene step
    let attended := session.attend (step.occasions none scene.clock scene.outage)
    (taken.events, taken.scene.subject) =
      (attended.1, { run := some { session := attended.2, timer }, resets, lastFailure }) := by
  cases step with
  | start config => cases timer <;> cases spared
  | reconfigure config => cases timer <;> cases spared
  | tick => exact turn_tick held
  | stop =>
    obtain ⟨clock, outage, _⟩ := scene
    obtain rfl := held
    cases timer with
    | stopped => rfl
    | running due => cases spared
    | broken => cases spared
  | pass ms =>
    obtain ⟨clock, outage, _⟩ := scene
    obtain rfl := held
    cases timer with
    | stopped => rfl
    | running due => cases spared
    | broken => rfl
  | setClock reading => exact Prod.ext rfl held
  | fail topics => exact Prod.ext rfl held

/-- A run that spares the timer is attended without it. -/
theorem play_resting
    (held : scene.subject = { run := some { session, timer }, resets, lastFailure })
    (spared : ∀ step ∈ steps, step.spares timer = true) :
    let played := machine.play scene steps
    let attended := session.attend (occasions none scene.clock scene.outage steps)
    (published played.1, played.2.subject) =
      (attended.1, { run := some { session := attended.2, timer }, resets, lastFailure }) := by
  induction steps generalizing scene session with
  | nil => exact Prod.ext rfl held
  | cons step later ih =>
    obtain ⟨first, others⟩ := List.forall_mem_cons.mp spared
    obtain ⟨events, left⟩ := Prod.mk.inj (turn_resting held first)
    obtain ⟨more, after⟩ := Prod.mk.inj (ih left others)
    dsimp only
    rw [Machine.play_cons, Machine.published_cons, events, more, after, Machine.turn_clock,
      Machine.turn_outage, occasions, Session.attend_append]

/-- While the timer runs, a step without a start or a stop is attended with it. -/
theorem turn_planned
    (held : scene.subject =
      { run := some { session, timer := .running (plan.next scene.clock.passed) }, resets,
        lastFailure })
    (interval : session.config.interval = plan.interval) (calm : step.interrupts = false) :
    let taken := machine.turn scene step
    (taken.events, taken.scene.subject) =
      attended plan session resets lastFailure scene.outage.failure
        (step.occasions (some plan) scene.clock scene.outage) (step.clock scene.clock).passed := by
  cases step with
  | start config => cases calm
  | reconfigure config => cases calm
  | stop => cases calm
  | tick =>
    have lasting : [Occasion.under scene.clock scene.outage false scene.clock.passed].any
        Occasion.ends = false := rfl
    rw [Machine.Step.occasions, attended_lasting lasting]
    exact turn_tick held
  | pass ms =>
    obtain ⟨clock, outage, _⟩ := scene
    dsimp only at held
    obtain rfl := held
    exact pass_planned plan interval ms
  | setClock reading => exact Prod.ext rfl held
  | fail topics => exact Prod.ext rfl held

/-- A run without a start or a stop is attended with the timer as long as that runs. -/
theorem play_planned
    (held : scene.subject =
      { run := some { session, timer := .running (plan.next scene.clock.passed) }, resets,
        lastFailure })
    (interval : session.config.interval = plan.interval)
    (calm : ∀ step ∈ steps, step.interrupts = false) :
    let played := machine.play scene steps
    (published played.1, played.2.subject) =
      attended plan session resets lastFailure scene.outage.failure
        (occasions (some plan) scene.clock scene.outage steps) played.2.clock.passed := by
  induction steps generalizing scene session with
  | nil => exact Prod.ext rfl held
  | cons step later ih =>
    obtain ⟨first, others⟩ := List.forall_mem_cons.mp calm
    have taken := turn_planned held interval first
    dsimp only
    cases ended : (step.occasions (some plan) scene.clock scene.outage).any Occasion.ends with
    | true =>
      rw [attended_ended ended] at taken
      obtain ⟨events, left⟩ := Prod.mk.inj taken
      have spared : ∀ step ∈ later, step.spares .broken = true :=
        fun step member => congrArg Bool.not (others step member)
      obtain ⟨more, after⟩ := Prod.mk.inj (play_resting left spared)
      rw [Machine.play_cons, Machine.published_cons, events, more, after, Machine.turn_clock,
        Machine.turn_outage, occasions, attended_append_ended ended, Machine.occasions_untimed]
    | false =>
      rw [attended_lasting ended, ← Machine.turn_clock machine scene step] at taken
      obtain ⟨events, left⟩ := Prod.mk.inj taken
      have kept : (session.attend
          (step.occasions (some plan) scene.clock scene.outage)).2.config.interval =
            plan.interval := by
        rw [Session.attend_config, interval]
      have rest := Prod.ext_iff.mp (ih left kept others)
      dsimp only at rest
      obtain ⟨more, after⟩ := rest
      rw [Machine.play_cons, Machine.published_cons, events, more, after, Machine.turn_clock,
        Machine.turn_outage, Machine.Step.failure_outage, occasions, attended_append_lasting ended]

end Simulation

end SyntheticMarket
