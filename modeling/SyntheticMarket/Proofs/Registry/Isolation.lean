import SyntheticMarket.Proofs.Registry.Operations

/-! Markets do not disturb each other. To a symbol a run of the registry is the run of only those
steps that reach it: its own and those that are meant for all. -/

namespace SyntheticMarket

variable {α : Type}

inductive Step (α : Type) where
  | start (config : Config α)
  | stop (symbol : String)
  | stopAll
  | tick (symbol : String)
  | pass (ms : Int)
  | setClock (reading : Int)

namespace Step

/-- The symbol that the step is addressed to, unless it is meant for all. -/
def addressee? : Step α → Option String
  | start config => some config.symbol
  | stop symbol => some symbol
  | tick symbol => some symbol
  | _ => none

def reaches (symbol : String) (step : Step α) : Bool := step.addressee?.all (· == symbol)

theorem ne_addressee {symbol other : String} {step : Step α}
    (elsewhere : step.reaches symbol = false) (addressed : step.addressee? = some other) :
    symbol ≠ other := by
  rintro rfl
  simp [reaches, addressed] at elsewhere

end Step

inductive Answer (α : Type) where
  | started (history : Except SimulationFault (List (Candle α)))
  | stopped (found : Except SimulationFault Bool)
  | stoppedAll (done : Except SimulationFault Unit)
  | ticked (update : Except SimulationFault (Option (Update α)))
  | passed

structure Turn (α : Type) where
  events : List (Int × Event α)
  answer : Answer α
  scene : Scene (Registry α)

/-- What comes of a run. Each answer stands with its step. -/
structure Trail (α : Type) where
  events : List (Int × Event α)
  answers : List (Step α × Answer α)
  scene : Scene (Registry α)

namespace Registry

def conclude {ρ : Type} (scene : Scene (Registry α)) (outcome : Outcome (Registry α) α ρ)
    (answer : Except SimulationFault ρ → Answer α) : Turn α :=
  { events := outcome.events.map (scene.clock.passed, ·)
    answer := answer outcome.answer
    scene := { scene with subject := outcome.state } }

def answersTo (symbol : String) (answers : List (Step α × Answer α)) :
    List (Step α × Answer α) :=
  answers.filter (·.1.addressee? == some symbol)

def opening (clock : Clock) (failure : Failure) : Scene (Registry α) :=
  { clock, outage := { topics := [], failure }, subject := empty }

/-- Nothing hinders publishing, and the registry is in order. -/
structure Sound (scene : Scene (Registry α)) : Prop where
  healthy : scene.outage.topics = []
  tidy : scene.subject.Tidy

/-- The two scenes agree on the clock and on one symbol. -/
structure Alike (symbol : String) (left right : Scene (Registry α)) : Prop where
  clock : left.clock = right.clock
  outage : left.outage = right.outage
  found : left.subject.find? symbol = right.subject.find? symbol

variable {symbol : String} {left right : Scene (Registry α)}

theorem answersTo_cons_addressed {step : Step α} (addressed : step.addressee? = some symbol)
    (answer : Answer α) (later : List (Step α × Answer α)) :
    answersTo symbol ((step, answer) :: later) = (step, answer) :: answersTo symbol later :=
  List.filter_cons_of_pos (beq_iff_eq.mpr addressed)

theorem answersTo_cons_other {step : Step α} (missed : step.addressee? ≠ some symbol)
    (answer : Answer α) (later : List (Step α × Answer α)) :
    answersTo symbol ((step, answer) :: later) = answersTo symbol later :=
  List.filter_cons_of_neg (mt beq_iff_eq.mp missed)

theorem opening_sound (clock : Clock) (failure : Failure) :
    Sound (opening clock failure : Scene (Registry α)) :=
  ⟨rfl, empty_tidy⟩

theorem Agree.conclude {ρ : Type} {first second : Outcome (Registry α) α ρ}
    (agree : Agree symbol first second) (alike : Alike symbol left right)
    (answer : Except SimulationFault ρ → Answer α) :
    (Registry.conclude left first answer).events = (Registry.conclude right second answer).events ∧
      (Registry.conclude left first answer).answer =
        (Registry.conclude right second answer).answer ∧
      Alike symbol (Registry.conclude left first answer).scene
        (Registry.conclude right second answer).scene := by
  simp only [Registry.conclude]
  refine ⟨?_, ?_, ⟨alike.clock, alike.outage, agree.found⟩⟩
  · rw [alike.clock, agree.events]
  · rw [agree.answer]

variable [PriceScale α]

def turn (scene : Scene (Registry α)) : Step α → Turn α
  | .start config =>
    conclude scene (scene.subject.start config scene.clock scene.outage) .started
  | .stop symbol => conclude scene (scene.subject.stop symbol scene.outage) .stopped
  | .stopAll => conclude scene (scene.subject.stopAll scene.outage) .stoppedAll
  | .tick symbol => conclude scene (scene.subject.tick symbol scene.clock scene.outage) .ticked
  | .pass ms =>
    let passed := scene.subject.pass ms scene.clock scene.outage
    { events := passed.1
      answer := .passed
      scene := { scene with clock := scene.clock.pass ms, subject := passed.2 } }
  | .setClock reading => { events := [], answer := .passed, scene := scene.setClock reading }

def run (scene : Scene (Registry α)) : List (Step α) → Trail α
  | [] => { events := [], answers := [], scene }
  | step :: later =>
    let taken := turn scene step
    let rest := run taken.scene later
    { rest with
      events := taken.events ++ rest.events
      answers := (step, taken.answer) :: rest.answers }

theorem run_cons (scene : Scene (Registry α)) (step : Step α) (later : List (Step α)) :
    run scene (step :: later) =
      let taken := turn scene step
      let rest := run taken.scene later
      { rest with
        events := taken.events ++ rest.events
        answers := (step, taken.answer) :: rest.answers } := rfl

theorem Sound.turn (sound : Sound left) (step : Step α) : Sound (turn left step).scene := by
  refine ⟨?_, ?_⟩
  · cases step <;> exact sound.healthy
  · cases step with
    | start config => exact sound.tidy.start config _ _
    | stop symbol => exact sound.tidy.stop symbol _
    | stopAll => exact sound.tidy.stopEach _ _
    | tick symbol => exact sound.tidy.tick symbol _ _
    | pass ms => exact sound.tidy.pass ms _ _
    | setClock reading => exact sound.tidy

/-- A step addressed elsewhere passes a symbol by. -/
theorem turn_elsewhere (sound : Sound left) {step : Step α}
    (elsewhere : step.reaches symbol = false) :
    about symbol (turn left step).events = [] ∧ Alike symbol (turn left step).scene left := by
  cases step with
  | start config =>
    have distinct : symbol ≠ config.symbol := Step.ne_addressee elsewhere rfl
    refine ⟨about_other ?_ distinct, ⟨rfl, rfl, find?_start_other _ _ _ distinct⟩⟩
    exact List.forall_mem_map.mpr (start_own _ config _ _)
  | stop other =>
    have distinct : symbol ≠ other := Step.ne_addressee elsewhere rfl
    refine ⟨about_other ?_ distinct, ⟨rfl, rfl, find?_stop_other _ _ distinct⟩⟩
    exact List.forall_mem_map.mpr (sound.tidy.stop_own other _)
  | tick other =>
    have distinct : symbol ≠ other := Step.ne_addressee elsewhere rfl
    refine ⟨about_other ?_ distinct, ⟨rfl, rfl, find?_tick_other _ _ _ distinct⟩⟩
    exact List.forall_mem_map.mpr (sound.tidy.tick_own other _ _)
  | _ => cases elsewhere

/-- A step that reaches a symbol does the same to it wherever the symbol is the same. -/
theorem turn_alike (leftSound : Sound left) (rightSound : Sound right)
    (alike : Alike symbol left right) {step : Step α} (reached : step.reaches symbol = true) :
    about symbol (turn left step).events = about symbol (turn right step).events ∧
      (step.addressee? = some symbol → (turn left step).answer = (turn right step).answer) ∧
      Alike symbol (turn left step).scene (turn right step).scene := by
  obtain ⟨clock, outage, registry⟩ := left
  obtain ⟨_, _, other⟩ := right
  have ⟨sameClock, sameOutage, found⟩ := alike
  obtain rfl : clock = _ := sameClock
  obtain rfl : outage = _ := sameOutage
  cases step with
  | start config =>
    obtain rfl : config.symbol = symbol := beq_iff_eq.mp reached
    obtain ⟨events, answer, after⟩ := (start_agree found clock outage).conclude alike .started
    exact ⟨congrArg (about _) events, fun _ => answer, after⟩
  | stop name =>
    obtain rfl : name = symbol := beq_iff_eq.mp reached
    obtain ⟨events, answer, after⟩ := (stop_agree found outage).conclude alike .stopped
    exact ⟨congrArg (about _) events, fun _ => answer, after⟩
  | tick name =>
    obtain rfl : name = symbol := beq_iff_eq.mp reached
    obtain ⟨events, answer, after⟩ := (tick_agree found clock outage).conclude alike .ticked
    exact ⟨congrArg (about _) events, fun _ => answer, after⟩
  | stopAll =>
    have opened : outage.topics.contains Event.stoppedTopic = false := by
      rw [show outage.topics = [] from leftSound.healthy, List.contains_nil]
    refine ⟨?_, nofun, ⟨rfl, rfl, ?_⟩⟩
    · change about symbol ((registry.stopAll outage).events.map (clock.passed, ·)) =
        about symbol ((other.stopAll outage).events.map (clock.passed, ·))
      rw [about_stopAll opened leftSound.tidy, about_stopAll opened rightSound.tidy,
        (stop_agree found outage).events]
    · change (registry.stopAll outage).state.find? symbol =
        (other.stopAll outage).state.find? symbol
      rw [find?_stopAll opened, find?_stopAll opened]
  | pass ms =>
    refine ⟨?_, nofun, ⟨rfl, rfl, ?_⟩⟩
    · change about symbol (registry.pass ms clock outage).1 =
        about symbol (other.pass ms clock outage).1
      rw [about_pass leftSound.tidy, about_pass rightSound.tidy]
      exact congrArg (Option.elim · _ _) found
    · change (registry.pass ms clock outage).2.find? symbol =
        (other.pass ms clock outage).2.find? symbol
      rw [find?_pass, find?_pass]
      exact congrArg (Option.map _) found
  | setClock reading => exact ⟨rfl, nofun, ⟨rfl, rfl, found⟩⟩

/-- Scenes that agree on a symbol are still alike to it after a run in the one and what reaches the
symbol of that run in the other. -/
theorem run_alike (leftSound : Sound left) (rightSound : Sound right)
    (alike : Alike symbol left right) (steps : List (Step α)) :
    let whole := run left steps
    let alone := run right (steps.filter (·.reaches symbol))
    about symbol whole.events = about symbol alone.events ∧
      answersTo symbol whole.answers = answersTo symbol alone.answers ∧
      Alike symbol whole.scene alone.scene := by
  -- The induction is on the steps of the whole run; the other scene stands still at a step elsewhere.
  induction steps generalizing left right with
  | nil => exact ⟨rfl, rfl, alike⟩
  | cons step later ih =>
    cases reached : step.reaches symbol with
    | false =>
      obtain ⟨silent, passedBy⟩ := turn_elsewhere leftSound reached
      have still : Alike symbol (turn left step).scene right :=
        ⟨passedBy.clock.trans alike.clock, passedBy.outage.trans alike.outage,
          passedBy.found.trans alike.found⟩
      obtain ⟨events, answers, after⟩ := ih (leftSound.turn step) rightSound still
      have missed : step.addressee? ≠ some symbol :=
        fun addressed => Step.ne_addressee reached addressed rfl
      rw [List.filter_cons_of_neg (by simp [reached])]
      refine ⟨?_, ?_, after⟩
      · rw [run_cons, about_append, silent, List.nil_append, events]
      · rw [run_cons, answersTo_cons_other missed, answers]
    | true =>
      obtain ⟨events, answer, still⟩ := turn_alike leftSound rightSound alike reached
      obtain ⟨later, answers, after⟩ := ih (leftSound.turn step) (rightSound.turn step) still
      rw [List.filter_cons_of_pos reached]
      refine ⟨?_, ?_, after⟩
      · rw [run_cons, run_cons, about_append, about_append, events, later]
      · rw [run_cons, run_cons]
        by_cases addressed : step.addressee? = some symbol
        · rw [answersTo_cons_addressed addressed, answersTo_cons_addressed addressed,
            answer addressed, answers]
        · rw [answersTo_cons_other addressed, answersTo_cons_other addressed, answers]

/-- Markets do not disturb each other: to a symbol a run is the same as the run of only the steps
that reach it, in its events and their times, in the answers to its steps, and in what is left of
it. -/
theorem run_isolated (symbol : String) (clock : Clock) (failure : Failure)
    (steps : List (Step α)) :
    let whole := run (opening clock failure) steps
    let alone := run (opening clock failure) (steps.filter (·.reaches symbol))
    about symbol whole.events = about symbol alone.events ∧
      answersTo symbol whole.answers = answersTo symbol alone.answers ∧
      whole.scene.subject.find? symbol = alone.scene.subject.find? symbol ∧
      whole.scene.clock = alone.scene.clock := by
  have sound := (opening_sound clock failure : Sound (opening clock failure : Scene (Registry α)))
  obtain ⟨events, answers, after⟩ := run_alike sound sound ⟨rfl, rfl, rfl⟩ steps
  exact ⟨events, answers, after.found, after.clock⟩

end Registry

end SyntheticMarket
