import Mathlib
import SyntheticMarket.Proofs.Session.Tick
import SyntheticMarket.Proofs.Simulation.Machine

/-! The timer of a simulation as the tasks that it is made of. Every start creates a task that
sleeps for an interval, ticks and sleeps again, until it is cancelled or its tick fails; a slot says
which task the next start or stop cancels. However many tasks there have been, at most one of them
is still asleep, and so all that can be seen is a simulation with one timer. -/

namespace SyntheticMarket

variable {α : Type}

/-- A task that ticks after each interval. It sleeps until `due`, or it has ended. -/
structure Task where
  interval : Span
  due : Option Int

namespace Task

def again (task : Task) : Task := { task with due := task.due.map (· + task.interval.ms) }

def ended (task : Task) : Task := { task with due := none }

def wakings (final : Int) (task : Task) : Nat :=
  match task.due with
  | none => 0
  | some due => task.interval.timesTo due final

end Task

structure Roster (α : Type) where
  session : Option (Session α)
  tasks : List Task
  slot : Option Nat
  resets : Nat
  lastFailure : Option Failure

namespace Roster

def fresh : Roster α :=
  { session := none, tasks := [], slot := none, resets := 0, lastFailure := none }

/-- The numbers of the tasks that are asleep, each with the time at which it wakes. -/
def asleep (roster : Roster α) : List (Nat × Int) :=
  roster.tasks.zipIdx.filterMap fun numbered => numbered.1.due.map (numbered.2, ·)

def change (roster : Roster α) (place : Nat) (how : Task → Task) : Roster α :=
  { roster with tasks := roster.tasks.modify place how }

/-- Ends the task in the slot and empties the slot. The answer is whether there was a task, be it
asleep or not. -/
def cancel (roster : Roster α) : Bool × Roster α :=
  match roster.slot with
  | none => (false, roster)
  | some place => (true, { roster.change place Task.ended with slot := none })

def stop (roster : Roster α) (outage : Outage) : Outcome (Roster α) α Bool :=
  let cancelled := roster.cancel
  match cancelled.1, roster.session with
  | true, some session => outage.publish cancelled.2 (.stopped session.config.symbol) true
  | found, _ => { state := cancelled.2, events := [], answer := .ok found }

variable [PriceScale α]

/-- Cancels the task in the slot, and puts a new one there. If none can sleep for the interval, the
slot stays empty. -/
def start (roster : Roster α) (config : Config α) (clock : Clock) (outage : Outage) :
    Outcome (Roster α) α (List (Candle α)) :=
  let session := Session.reset config clock.reading
  let cleared := roster.cancel.2
  let renewed : Roster α :=
    { session := some session
      tasks := cleared.tasks
      slot := none
      resets := cleared.resets + 1
      lastFailure := none }
  if config.interval.isTimeable then
    let task : Task :=
      { interval := config.interval, due := some (clock.passed + config.interval.ms) }
    outage.publish
      { renewed with tasks := cleared.tasks ++ [task], slot := some cleared.tasks.length }
      (.reset config session.tape.size) session.candles
  else { state := renewed, events := [], answer := .error .untimeable }

def tick (roster : Roster α) (reading : Int) (outage : Outage) :
    Outcome (Roster α) α (Update α) :=
  match roster.session with
  | none => { state := roster, events := [], answer := .error .notStarted }
  | some session =>
    let ticked := session.tick reading
    outage.publish { roster with session := some ticked.2 } (.ticked ticked.1) ticked.1

/-- A task that wakes ticks. It sleeps again, or ends if the tick fails. -/
def wake (roster : Roster α) (place : Nat) (due : Int) (clock : Clock) (outage : Outage) :
    List (Event α) × Roster α :=
  let ticked := roster.tick (clock.offset + due) outage
  match ticked.answer with
  | .ok _ => (ticked.events, ticked.state.change place Task.again)
  | .error (.unpublished failure) =>
    (ticked.events, { ticked.state.change place Task.ended with lastFailure := some failure })
  | .error _ => (ticked.events, ticked.state.change place Task.ended)

/-- The tasks that wake until the time `final` has passed, at most `count` of them, one after the
other and the earliest first. -/
def wakeTimes (clock : Clock) (outage : Outage) (final : Int) :
    Nat → Roster α → List (Int × Event α) × Roster α
  | 0, roster => ([], roster)
  | count + 1, roster =>
    match roster.asleep.minOn? (·.2) with
    | none => ([], roster)
    | some (place, due) =>
      if due ≤ final then
        let woken := roster.wake place due clock outage
        let rest := wakeTimes clock outage final count woken.2
        (woken.1.map (due, ·) ++ rest.1, rest.2)
      else ([], roster)

/-- With every waking there is one less to come. -/
def pass (roster : Roster α) (ms : Int) (clock : Clock) (outage : Outage) :
    List (Int × Event α) × Roster α :=
  let final := clock.passed + ms
  wakeTimes clock outage final (roster.tasks.map (·.wakings final)).sum roster

def machine : Machine (Roster α) α := { start, stop, tick, pass }

omit [PriceScale α]

def timer (due : Option Int) : Timer :=
  match due with
  | none => .broken
  | some due => .running due

def view (roster : Roster α) : Simulation α :=
  let timer :=
    match roster.slot with
    | none => .stopped
    | some place => timer (roster.tasks[place]?.bind (·.due))
  { run := roster.session.map fun session => { session, timer }
    resets := roster.resets
    lastFailure := roster.lastFailure }

/-- A roster with a task in its slot, the newest, which ticks at the interval of the session. -/
def holding (session : Session α) (old : List Task) (due : Option Int) (resets : Nat)
    (lastFailure : Option Failure) : Roster α :=
  { session := some session
    tasks := old ++ [{ interval := session.config.interval, due }]
    slot := some old.length
    resets
    lastFailure }

/-- No task is asleep but, at most, the newest one while it is in the slot. -/
inductive Orderly : Roster α → Prop where
  | idle {session : Option (Session α)} {tasks : List Task} {resets : Nat}
      {lastFailure : Option Failure} (ended : ∀ task ∈ tasks, task.due = none) :
      Orderly { session, tasks, slot := none, resets, lastFailure }
  | held {session : Session α} {old : List Task} {due : Option Int} {resets : Nat}
      {lastFailure : Option Failure} (ended : ∀ task ∈ old, task.due = none) :
      Orderly (holding session old due resets lastFailure)

/-- The roster is orderly and looks like the simulation. -/
structure Seen (roster : Roster α) (simulation : Simulation α) : Prop where
  orderly : roster.Orderly
  view : roster.view = simulation

open Machine (OutcomeAlike StretchAlike TurnAlike Bisimilar)

variable {roster : Roster α} {simulation : Simulation α} {session : Session α} {old : List Task}
  {due : Option Int} {resets : Nat} {lastFailure : Option Failure} {clock : Clock}
  {outage : Outage} {final : Int}

theorem view_holding :
    (holding session old due resets lastFailure).view =
      { run := some { session, timer := timer due }, resets, lastFailure } := by
  simp [view, holding]

theorem tick_holding [PriceScale α] (reading : Int) (outage : Outage) :
    (holding session old due resets lastFailure).tick reading outage =
      outage.publish (holding (session.tick reading).2 old due resets lastFailure)
        (.ticked (session.tick reading).1) (session.tick reading).1 := by
  rw [holding, holding, Session.tick_config]
  rfl

theorem modify_newest (old : List Task) (task : Task) (how : Task → Task) :
    (old ++ [task]).modify old.length how = old ++ [how task] :=
  List.modifyTailIdx_add _ 0 old [task]

theorem change_again :
    (holding session old due resets lastFailure).change old.length Task.again =
      holding session old (due.map (· + session.config.interval.ms)) resets lastFailure := by
  rw [change, holding, modify_newest]
  rfl

theorem change_ended :
    (holding session old due resets lastFailure).change old.length Task.ended =
      holding session old none resets lastFailure := by
  rw [change, holding, modify_newest]
  rfl

theorem asleep_ended {tasks : List Task} (ended : ∀ task ∈ tasks, task.due = none) :
    (tasks.zipIdx.filterMap fun numbered => numbered.1.due.map (numbered.2, ·)) = [] := by
  apply List.filterMap_eq_nil_iff.mpr
  rintro ⟨task, place⟩ numbered
  rw [ended task (List.fst_mem_of_mem_zipIdx numbered)]
  rfl

theorem asleep_holding (ended : ∀ task ∈ old, task.due = none) :
    (holding session old due resets lastFailure).asleep = (due.map (old.length, ·)).toList := by
  rw [asleep, holding, List.zipIdx_append, List.filterMap_append, asleep_ended ended]
  cases due <;> simp

theorem fresh_seen : Seen (fresh : Roster α) Simulation.fresh :=
  ⟨.idle fun _ absent => absurd absent List.not_mem_nil, rfl⟩

/-- While the simulation that is seen is running, one task is asleep, and otherwise none is. -/
theorem Orderly.length_asleep (orderly : roster.Orderly) :
    roster.asleep.length = if roster.view.isRunning then 1 else 0 := by
  cases orderly with
  | @idle session _ _ _ ended =>
    rw [asleep, asleep_ended ended]
    cases session <;> rfl
  | @held _ _ due _ _ ended =>
    rw [asleep_holding ended, view_holding]
    cases due <;> rfl

/-- Once the task in the slot is cancelled, no task is asleep. -/
theorem Orderly.cancel (orderly : roster.Orderly) :
    ∀ task ∈ roster.cancel.2.tasks, task.due = none := by
  cases orderly with
  | idle ended => exact ended
  | @held session old due resets lastFailure ended =>
    change ∀ task ∈
      ((holding session old due resets lastFailure).change old.length Task.ended).tasks, _
    rw [change_ended]
    intro task member
    obtain earlier | newest := List.mem_append.mp member
    · exact ended task earlier
    · rw [List.mem_singleton.mp newest]

theorem stop_state (roster : Roster α) (outage : Outage) :
    (roster.stop outage).state = roster.cancel.2 := by
  rw [stop]
  split
  · exact Outage.publish_state ..
  · rfl

theorem Seen.stop (seen : Seen roster simulation) (outage : Outage) :
    OutcomeAlike Seen (roster.stop outage) (simulation.stop outage) := by
  obtain ⟨orderly, rfl⟩ := seen
  have ended := orderly.cancel
  cases orderly with
  | @idle session tasks resets lastFailure _ =>
    cases session with
    | none => exact ⟨⟨.idle ended, rfl⟩, rfl, rfl⟩
    | some session => exact ⟨⟨.idle ended, rfl⟩, rfl, rfl⟩
  | @held session old due resets lastFailure _ =>
    rw [view_holding]
    cases due with
    | none => exact .publish ⟨.idle ended, rfl⟩ _ _ _
    | some due => exact .publish ⟨.idle ended, rfl⟩ _ _ _

variable [PriceScale α]

theorem Seen.start (seen : Seen roster simulation) (config : Config α) (clock : Clock)
    (outage : Outage) :
    OutcomeAlike Seen (roster.start config clock outage)
      (simulation.start config clock outage) := by
  obtain ⟨orderly, rfl⟩ := seen
  have ended := orderly.cancel
  have kept : roster.cancel.2.resets = roster.resets := by
    cases orderly <;> rfl
  rw [Roster.start, Simulation.start, kept]
  cases timeable : config.interval.isTimeable with
  | true =>
    rw [if_pos rfl, if_pos rfl, Timer.set_timeable timeable]
    exact .publish ⟨.held ended, view_holding⟩ _ _ _
  | false =>
    rw [if_neg Bool.false_ne_true, if_neg Bool.false_ne_true, Timer.set_untimeable timeable]
    exact ⟨⟨.idle ended, rfl⟩, rfl, rfl⟩

theorem Seen.tick (seen : Seen roster simulation) (reading : Int) (outage : Outage) :
    OutcomeAlike Seen (roster.tick reading outage) (simulation.tick reading outage) := by
  obtain ⟨orderly, rfl⟩ := seen
  cases orderly with
  | @idle session tasks resets lastFailure ended =>
    cases session with
    | none => exact ⟨⟨.idle ended, rfl⟩, rfl, rfl⟩
    | some session => exact .publish ⟨.idle ended, rfl⟩ _ _ _
  | @held session old due resets lastFailure ended =>
    rw [view_holding, tick_holding]
    exact .publish ⟨.held ended, view_holding⟩ _ _ _

/-- The task in the slot wakes as the timer ticks; it sleeps again unless the tick fails. -/
theorem wake_open (opened : outage.topics.contains Event.tickTopic = false) (due : Int) :
    (holding session old (some due) resets lastFailure).wake old.length due clock outage =
      let ticked := session.tick (clock.offset + due)
      ([.ticked ticked.1],
        holding ticked.2 old (some (due + session.config.interval.ms)) resets lastFailure) := by
  rw [Roster.wake, tick_holding, Outage.publish_open opened]
  dsimp only
  rw [change_again, Session.tick_config]
  rfl

theorem wake_blocked (blocked : outage.topics.contains Event.tickTopic = true) (due : Int) :
    (holding session old (some due) resets lastFailure).wake old.length due clock outage =
      ([],
        holding (session.tick (clock.offset + due)).2 old none resets (some outage.failure)) := by
  rw [Roster.wake, tick_holding, Outage.publish_blocked blocked]
  dsimp only
  rw [change_ended]
  rfl

theorem wake_seen (ended : ∀ task ∈ old, task.due = none) (due : Int) :
    StretchAlike Seen
      ((holding session old (some due) resets lastFailure).wake old.length due clock outage)
      (Simulation.fire { run := some { session, timer := .running due }, resets, lastFailure }
        session.config.interval due clock outage) := by
  cases blocked : outage.topics.contains Event.tickTopic with
  | true =>
    rw [wake_blocked blocked, Simulation.fire_blocked blocked]
    exact ⟨rfl, ⟨.held ended, view_holding⟩⟩
  | false =>
    rw [wake_open blocked, Simulation.fire_open blocked]
    exact ⟨rfl, ⟨.held ended, view_holding⟩⟩

theorem wakeTimes_of_ended (ended : ∀ task ∈ old, task.due = none) (count : Nat) :
    wakeTimes clock outage final count (holding session old none resets lastFailure) =
      ([], holding session old none resets lastFailure) := by
  cases count with
  | zero => rfl
  | succ count =>
    rw [wakeTimes, asleep_holding ended]
    rfl

theorem wakeTimes_of_asleep (ended : ∀ task ∈ old, task.due = none) {due : Int}
    (early : due ≤ final) (count : Nat) :
    wakeTimes clock outage final (count + 1)
        (holding session old (some due) resets lastFailure) =
      let woken := (holding session old (some due) resets lastFailure).wake old.length due clock
        outage
      let rest := wakeTimes clock outage final count woken.2
      (woken.1.map (due, ·) ++ rest.1, rest.2) := by
  rw [wakeTimes, asleep_holding ended]
  exact if_pos early

/-- As long as the timer ticks no more often than it is due, the tasks wake as it ticks. -/
theorem wakeTimes_seen (ended : ∀ task ∈ old, task.due = none) (count : Nat)
    (within : ∀ time, due = some time →
      count ≤ session.config.interval.timesTo time final) :
    StretchAlike Seen
      (wakeTimes clock outage final count (holding session old due resets lastFailure))
      (Simulation.fireTimes clock outage count
        { run := some { session, timer := timer due }, resets, lastFailure }) := by
  induction count generalizing session due lastFailure with
  | zero => exact ⟨rfl, ⟨.held ended, view_holding⟩⟩
  | succ count ih =>
    cases due with
    | none =>
      rw [wakeTimes_of_ended ended, timer, Simulation.fireTimes_broken]
      exact ⟨rfl, ⟨.held ended, view_holding⟩⟩
    | some due =>
      have room := within due rfl
      have early : due ≤ final := by
        by_contra late
        rw [Span.timesTo_of_lt _ (Int.not_le.mp late)] at room
        exact Nat.not_succ_le_zero count room
      rw [Span.timesTo_of_le _ early] at room
      rw [wakeTimes_of_asleep ended early, timer, Simulation.fireTimes_running]
      apply (wake_seen ended due).prepend
      cases blocked : outage.topics.contains Event.tickTopic with
      | true =>
        rw [wake_blocked blocked, Simulation.fire_blocked blocked]
        exact ih nofun
      | false =>
        rw [wake_open blocked, Simulation.fire_open blocked]
        apply ih
        intro time same
        cases same
        rw [Session.tick_config]
        exact Nat.le_of_succ_le_succ room

theorem wakings_ended (ended : ∀ task ∈ old, task.due = none) (final : Int) :
    (old.map (·.wakings final)).sum = 0 := by
  apply List.sum_eq_zero
  intro count member
  obtain ⟨task, among, rfl⟩ := List.mem_map.mp member
  rw [Task.wakings, ended task among]

/-- Where no task is asleep nothing happens in time. -/
theorem pass_ended (ended : ∀ task ∈ roster.tasks, task.due = none) (ms : Int) (clock : Clock)
    (outage : Outage) : roster.pass ms clock outage = ([], roster) := by
  rw [pass, wakings_ended ended]
  rfl

omit [PriceScale α] in
/-- The tasks wake as often as the timer that they are seen as is due. -/
theorem wakings_holding (ended : ∀ task ∈ old, task.due = none) (final : Int) :
    ((holding session old due resets lastFailure).tasks.map (·.wakings final)).sum =
      Simulation.dueTicks { run := some { session, timer := timer due }, resets, lastFailure }
        final := by
  rw [holding, List.map_append, List.sum_append, wakings_ended ended, Nat.zero_add]
  cases due with
  | none => rfl
  | some due => exact Nat.add_zero _

theorem Seen.pass (seen : Seen roster simulation) (ms : Int) (clock : Clock) (outage : Outage) :
    StretchAlike Seen (roster.pass ms clock outage) (simulation.pass ms clock outage) := by
  obtain ⟨orderly, rfl⟩ := seen
  cases orderly with
  | @idle session tasks resets lastFailure ended =>
    rw [Roster.pass, wakings_ended ended]
    cases session with
    | none => exact ⟨rfl, ⟨.idle ended, rfl⟩⟩
    | some session => exact ⟨rfl, ⟨.idle ended, rfl⟩⟩
  | @held session old due resets lastFailure ended =>
    rw [Roster.pass, Simulation.pass, wakings_holding ended, view_holding]
    apply wakeTimes_seen ended
    rintro time rfl
    exact Nat.le_refl _

/-- Nothing can be told from a simulation that could not be told from its tasks. -/
theorem seen_bisimilar :
    Bisimilar (machine : Machine (Roster α) α) Simulation.machine Seen where
  start seen config clock outage := seen.start config clock outage
  stop seen outage := seen.stop outage
  tick seen reading outage := seen.tick reading outage
  pass seen ms clock outage := seen.pass ms clock outage

end Roster

end SyntheticMarket
