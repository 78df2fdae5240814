import SyntheticMarket.Proofs.Registry.Listing
import SyntheticMarket.Proofs.Simulation.Tasks

/-! The registry with all tasks that were ever created for it, those of removed simulations too. No
task of a removed simulation is asleep, and so all that can be seen is a registry whose simulations
have one timer each. -/

namespace SyntheticMarket

open Machine (SceneAlike OutcomeAlike StretchAlike)

variable {α : Type}

/-- The tasks of the listed simulations by symbol, and those of all that are listed no longer. -/
structure Bureau (α : Type) where
  listed : List (String × Roster α)
  removed : List (Roster α)

namespace Bureau

def empty : Bureau α := { listed := [], removed := [] }

def find? (bureau : Bureau α) (symbol : String) : Option (Roster α) := bureau.listed.lookup symbol

def put (bureau : Bureau α) (symbol : String) (roster : Roster α) : Bureau α :=
  match bureau.find? symbol with
  | none => { bureau with listed := bureau.listed ++ [(symbol, roster)] }
  | some _ =>
    { bureau with
      listed := bureau.listed.map fun entry =>
        if entry.1 == symbol then (symbol, roster) else entry }

/-- Stops a simulation that is listed no longer. Its tasks are still there. -/
def stop (bureau : Bureau α) (symbol : String) (outage : Outage) : Outcome (Bureau α) α Bool :=
  match bureau.find? symbol with
  | none => { state := bureau, events := [], answer := .ok false }
  | some roster =>
    let stopped := roster.stop outage
    { state :=
        { listed := bureau.listed.filter (·.1 != symbol)
          removed := stopped.state :: bureau.removed }
      events := stopped.events
      answer := stopped.answer }

def stopEach (outage : Outage) : List String → Bureau α → Outcome (Bureau α) α Unit
  | [], bureau => { state := bureau, events := [], answer := .ok () }
  | symbol :: others, bureau =>
    let stopped := bureau.stop symbol outage
    match stopped.answer with
    | .error fault => { state := stopped.state, events := stopped.events, answer := .error fault }
    | .ok _ =>
      let rest := stopEach outage others stopped.state
      { rest with events := stopped.events ++ rest.events }

def stopAll (bureau : Bureau α) (outage : Outage) : Outcome (Bureau α) α Unit :=
  stopEach outage (bureau.listed.map (·.1)) bureau

def view (bureau : Bureau α) : Registry α := ⟨bureau.listed.map fun entry => (entry.1, entry.2.view)⟩

def conclude {ρ : Type} (scene : Scene (Bureau α)) (outcome : Outcome (Bureau α) α ρ)
    (answer : Except SimulationFault ρ → Answer α) : Echo α × Scene (Bureau α) :=
  ({ events := outcome.events.map (scene.clock.passed, ·), answer := answer outcome.answer },
    { scene with subject := outcome.state })

def opening (clock : Clock) (failure : Failure) : Scene (Bureau α) :=
  { clock, outage := { topics := [], failure }, subject := empty }

section Operations

variable [PriceScale α]

def start (bureau : Bureau α) (config : Config α) (clock : Clock) (outage : Outage) :
    Outcome (Bureau α) α (List (Candle α)) :=
  let started := ((bureau.find? config.symbol).getD .fresh).start config clock outage
  { state := bureau.put config.symbol started.state
    events := started.events
    answer := started.answer }

def tick (bureau : Bureau α) (symbol : String) (clock : Clock) (outage : Outage) :
    Outcome (Bureau α) α (Option (Update α)) :=
  match bureau.find? symbol with
  | none => { state := bureau, events := [], answer := .ok none }
  | some roster =>
    let ticked := roster.tick clock.reading outage
    { state := bureau.put symbol ticked.state
      events := ticked.events
      answer := ticked.answer.map some }

def pass (bureau : Bureau α) (ms : Int) (clock : Clock) (outage : Outage) :
    List (Int × Event α) × Bureau α :=
  let listed := bureau.listed.map fun entry => (entry.1, entry.2.pass ms clock outage)
  let removed := bureau.removed.map (·.pass ms clock outage)
  ((listed.flatMap (fun entry => entry.2.1) ++ removed.flatMap (·.1)).mergeSort Registry.notAfter,
    { listed := listed.map fun entry => (entry.1, entry.2.2), removed := removed.map (·.2) })

def act (scene : Scene (Bureau α)) : Deed α → Echo α × Scene (Bureau α)
  | .take (.start config) =>
    conclude scene (scene.subject.start config scene.clock scene.outage) .started
  | .take (.stop symbol) => conclude scene (scene.subject.stop symbol scene.outage) .stopped
  | .take .stopAll => conclude scene (scene.subject.stopAll scene.outage) .stoppedAll
  | .take (.tick symbol) =>
    conclude scene (scene.subject.tick symbol scene.clock scene.outage) .ticked
  | .take (.pass ms) =>
    let passed := scene.subject.pass ms scene.clock scene.outage
    ({ events := passed.1, answer := .passed },
      { scene with clock := scene.clock.pass ms, subject := passed.2 })
  | .take (.setClock reading) => ({ events := [], answer := .passed }, scene.setClock reading)
  | .fail topics => ({ events := [], answer := .passed }, scene.fail topics)

end Operations

/-- An entry of the registry shows the tasks under the same symbol. -/
structure Shown (mine : String × Roster α) (theirs : String × Simulation α) : Prop where
  symbol : mine.1 = theirs.1
  seen : Roster.Seen mine.2 theirs.2

/-- The registry shows the listed tasks, and of the others none is asleep. -/
structure Seen (bureau : Bureau α) (registry : Registry α) : Prop where
  listed : List.Forall₂ Shown bureau.listed registry.entries
  removed : ∀ roster ∈ bureau.removed, ∀ task ∈ roster.tasks, task.due = none

variable {bureau : Bureau α} {registry : Registry α} {roster : Roster α}
  {simulation : Simulation α}

theorem empty_seen : Seen (empty : Bureau α) Registry.empty :=
  ⟨.nil, fun _ absent => absurd absent List.not_mem_nil⟩

theorem Seen.view (seen : Seen bureau registry) : bureau.view = registry := by
  obtain ⟨entries⟩ := registry
  obtain ⟨listed, removed⟩ := bureau
  refine congrArg Registry.mk (List.forall₂_eq_eq_eq ▸ List.forall₂_map_left_iff.mpr ?_)
  exact seen.listed.imp fun mine theirs shown => Prod.ext shown.symbol shown.seen.view

theorem Seen.symbols (seen : Seen bureau registry) :
    bureau.listed.map (·.1) = registry.symbols := by
  rw [← seen.view, Registry.symbols, Bureau.view, List.map_map]
  rfl

theorem lookup_shown {mine : List (String × Roster α)} {theirs : List (String × Simulation α)}
    (shown : List.Forall₂ Shown mine theirs) (symbol : String) :
    Option.Rel Roster.Seen (mine.lookup symbol) (theirs.lookup symbol) := by
  induction shown with
  | nil => exact .none
  | @cons first first' _ _ here _ ih =>
    obtain ⟨name, roster⟩ := first
    obtain ⟨_, simulation⟩ := first'
    obtain rfl : name = _ := here.symbol
    rw [List.lookup_cons, List.lookup_cons]
    split
    · exact .some here.seen
    · exact ih

theorem Seen.find? (seen : Seen bureau registry) (symbol : String) :
    Option.Rel Roster.Seen (bureau.find? symbol) (registry.find? symbol) :=
  lookup_shown seen.listed symbol

theorem Seen.find?_eq_none (seen : Seen bureau registry) {symbol : String}
    (unlisted : symbol ∉ registry.symbols) : bureau.find? symbol = none := by
  have found := seen.find? symbol
  rw [Registry.find?_eq_none.mpr unlisted] at found
  generalize bureau.find? symbol = mine at found
  cases found
  rfl

theorem Seen.orderly (seen : Seen bureau registry) : ∀ entry ∈ bureau.listed, entry.2.Orderly := by
  have both := seen.listed.imp fun mine _ shown => And.intro shown.seen.orderly shown
  exact ((List.forall₂_and_left bureau.listed registry.entries).mp both).1

theorem Seen.put (seen : Seen bureau registry) (symbol : String)
    (near : Roster.Seen roster simulation) :
    Seen (bureau.put symbol roster) (registry.put symbol simulation) := by
  have new : Shown (symbol, roster) (symbol, simulation) := ⟨rfl, near⟩
  have found := seen.find? symbol
  rw [Bureau.put, Registry.put]
  generalize bureau.find? symbol = mine, registry.find? symbol = theirs at found
  cases found with
  | none => exact ⟨List.rel_append seen.listed (.cons new .nil), seen.removed⟩
  | some _ =>
    refine ⟨List.rel_map (fun mine theirs shown => ?_) seen.listed, seen.removed⟩
    rw [shown.symbol]
    split
    · exact new
    · exact shown

theorem Seen.stop (seen : Seen bureau registry) (symbol : String) (outage : Outage) :
    OutcomeAlike Seen (bureau.stop symbol outage) (registry.stop symbol outage) := by
  have found := seen.find? symbol
  rw [Bureau.stop, Registry.stop]
  generalize bureau.find? symbol = mine, registry.find? symbol = theirs at found
  cases found with
  | none => exact ⟨seen, rfl, rfl⟩
  | @some roster _ near =>
    have stopped := near.stop outage
    refine ⟨⟨?_, ?_⟩, stopped.events, stopped.answer⟩
    · refine List.rel_filter (fun mine theirs shown => ?_) seen.listed
      change (mine.1 != symbol) = true ↔ (theirs.1 != symbol) = true
      rw [shown.symbol]
    · refine List.forall_mem_cons.mpr ⟨?_, seen.removed⟩
      rw [Roster.stop_state]
      exact near.orderly.cancel

theorem Seen.stopEach (seen : Seen bureau registry) (outage : Outage) (list : List String) :
    OutcomeAlike Seen (stopEach outage list bureau) (Registry.stopEach outage list registry) := by
  induction list generalizing bureau registry with
  | nil => exact ⟨seen, rfl, rfl⟩
  | cons first others ih =>
    have stopped := seen.stop first outage
    rw [Bureau.stopEach, Registry.stopEach, stopped.answer]
    cases (registry.stop first outage).answer with
    | error fault => exact ⟨stopped.state, stopped.events, rfl⟩
    | ok _ =>
      have rest := ih stopped.state
      exact ⟨rest.state, congrArg₂ (· ++ ·) stopped.events rest.events, rest.answer⟩

theorem Seen.stopAll (seen : Seen bureau registry) (outage : Outage) :
    OutcomeAlike Seen (bureau.stopAll outage) (registry.stopAll outage) := by
  rw [Bureau.stopAll, seen.symbols]
  exact seen.stopEach outage registry.symbols

variable [PriceScale α]

theorem Seen.start (seen : Seen bureau registry) (config : Config α) (clock : Clock)
    (outage : Outage) :
    OutcomeAlike Seen (bureau.start config clock outage) (registry.start config clock outage) := by
  have near : Roster.Seen ((bureau.find? config.symbol).getD .fresh)
      ((registry.find? config.symbol).getD .fresh) := by
    have found := seen.find? config.symbol
    generalize bureau.find? config.symbol = mine, registry.find? config.symbol = theirs at found
    cases found with
    | none => exact Roster.fresh_seen
    | some near => exact near
  have started := near.start config clock outage
  exact ⟨seen.put config.symbol started.state, started.events, started.answer⟩

theorem Seen.tick (seen : Seen bureau registry) (symbol : String) (clock : Clock)
    (outage : Outage) :
    OutcomeAlike Seen (bureau.tick symbol clock outage) (registry.tick symbol clock outage) := by
  have found := seen.find? symbol
  rw [Bureau.tick, Registry.tick]
  generalize bureau.find? symbol = mine, registry.find? symbol = theirs at found
  cases found with
  | none => exact ⟨seen, rfl, rfl⟩
  | some near =>
    have ticked := near.tick clock.reading outage
    exact ⟨seen.put symbol ticked.state, ticked.events, congrArg (Except.map some) ticked.answer⟩

/-- The entries came through a stretch of time alike. -/
structure PassedAlike (mine : String × List (Int × Event α) × Roster α)
    (theirs : String × List (Int × Event α) × Simulation α) : Prop where
  symbol : mine.1 = theirs.1
  stretch : StretchAlike Roster.Seen mine.2 theirs.2

omit [PriceScale α] in
theorem flatMap_events {mine : List (String × List (Int × Event α) × Roster α)}
    {theirs : List (String × List (Int × Event α) × Simulation α)}
    (passed : List.Forall₂ PassedAlike mine theirs) :
    mine.flatMap (·.2.1) = theirs.flatMap (·.2.1) := by
  induction passed with
  | nil => rfl
  | cons here _ ih => rw [List.flatMap_cons, List.flatMap_cons, here.stretch.events, ih]

theorem Seen.pass (seen : Seen bureau registry) (ms : Int) (clock : Clock) (outage : Outage) :
    StretchAlike Seen (bureau.pass ms clock outage) (registry.pass ms clock outage) := by
  have passed : List.Forall₂ PassedAlike
      (bureau.listed.map fun entry => (entry.1, entry.2.pass ms clock outage))
      (registry.entries.map fun entry => (entry.1, entry.2.pass ms clock outage)) :=
    List.rel_map (fun _ _ shown => ⟨shown.symbol, shown.seen.pass ms clock outage⟩) seen.listed
  have still : bureau.removed.map (·.pass ms clock outage) = bureau.removed.map ([], ·) :=
    List.map_congr_left fun roster among =>
      Roster.pass_ended (seen.removed roster among) ms clock outage
  have silent : (bureau.removed.map fun roster => (([] : List (Int × Event α)), roster)).flatMap
      (·.1) = [] :=
    List.flatMap_eq_nil_iff.mpr (List.forall_mem_map.mpr fun _ _ => rfl)
  rw [Bureau.pass, Registry.pass, still, flatMap_events passed]
  refine ⟨?_, ⟨?_, ?_⟩⟩
  · rw [silent, List.append_nil]
  · exact List.rel_map (fun _ _ here => ⟨here.symbol, here.stretch.state⟩) passed
  · simpa using seen.removed

variable {scene : Scene (Bureau α)} {other : Scene (Registry α)}

omit [PriceScale α] in
theorem conclude_seen {ρ : Type} {one : Outcome (Bureau α) α ρ} {two : Outcome (Registry α) α ρ}
    (alike : OutcomeAlike Seen one two) (clock : scene.clock = other.clock)
    (outage : scene.outage = other.outage) (answer : Except SimulationFault ρ → Answer α) :
    (conclude scene one answer).1 = (Registry.conclude other two answer).echo ∧
      SceneAlike Seen (conclude scene one answer).2 (Registry.conclude other two answer).scene := by
  refine ⟨?_, ⟨clock, outage, alike.state⟩⟩
  rw [conclude, Registry.conclude, Turn.echo, clock, alike.events, alike.answer]

/-- A deed is heard the same of the tasks and of the registry, and leaves the tasks as shown. -/
theorem act_seen (seen : SceneAlike Seen scene other) (deed : Deed α) :
    (act scene deed).1 = (Registry.act other deed).1 ∧
      SceneAlike Seen (act scene deed).2 (Registry.act other deed).2 := by
  obtain ⟨clock, outage, bureau⟩ := scene
  obtain ⟨_, _, registry⟩ := other
  have ⟨sameClock, sameOutage, near⟩ := seen
  obtain rfl : clock = _ := sameClock
  obtain rfl : outage = _ := sameOutage
  cases deed with
  | take step =>
    cases step with
    | start config => exact conclude_seen (near.start config clock outage) rfl rfl .started
    | stop symbol => exact conclude_seen (near.stop symbol outage) rfl rfl .stopped
    | stopAll => exact conclude_seen (near.stopAll outage) rfl rfl .stoppedAll
    | tick symbol => exact conclude_seen (near.tick symbol clock outage) rfl rfl .ticked
    | pass ms =>
      have ⟨told, left⟩ := near.pass ms clock outage
      refine ⟨?_, ⟨rfl, rfl, left⟩⟩
      rw [act, told]
      rfl
    | setClock reading => exact ⟨rfl, ⟨rfl, rfl, near⟩⟩
  | fail topics => exact ⟨rfl, ⟨rfl, rfl, near⟩⟩

theorem live_seen (seen : SceneAlike Seen scene other) (deeds : List (Deed α)) :
    (live act scene deeds).1 = (live Registry.act other deeds).1 ∧
      SceneAlike Seen (live act scene deeds).2 (live Registry.act other deeds).2 := by
  induction deeds generalizing scene other with
  | nil => exact ⟨rfl, seen⟩
  | cons deed later ih =>
    obtain ⟨heard, next⟩ := act_seen seen deed
    obtain ⟨rest, left⟩ := ih next
    exact ⟨congrArg₂ List.cons heard rest, left⟩

theorem Seen.stop_unlisted (seen : Seen scene.subject registry) {symbol : String}
    (unlisted : symbol ∉ registry.symbols) :
    act scene (.take (.stop symbol)) =
      ({ events := [], answer := .stopped (.ok false) }, scene) := by
  rw [act, Bureau.stop, seen.find?_eq_none unlisted]
  rfl

end Bureau

namespace Registry

variable [PriceScale α]

/-- A registry, and all tasks that were ever created for it, after any run from the opening, whatever
failed in it.
- The tasks are heard and shown as the registry. Of a removed simulation no task is asleep; of a
  listed one a single task is while it is running, and otherwise none.
- Every symbol is listed once, and it is that of the current configuration of its simulation.
- All that tasks publish as time passes are ticks of listed symbols.
- The symbols stand in the order of their first starts since they were last removed, and to start a
  listed symbol again moves none.
- A stop of a symbol that is not listed is false; it changes nothing and publishes nothing. -/
theorem listing_kept (clock : Clock) (failure : Failure) (deeds : List (Deed α)) :
    let lived := live act (opening clock failure) deeds
    let behind := live Bureau.act (Bureau.opening clock failure) deeds
    let registry := lived.2.subject
    let bureau := behind.2.subject
    (behind.1 = lived.1 ∧ bureau.view = registry) ∧
      (∀ roster ∈ bureau.removed, roster.asleep = []) ∧
      (∀ entry ∈ bureau.listed,
        entry.2.asleep.length = if entry.2.view.isRunning then 1 else 0) ∧
      registry.symbols.Nodup ∧
      (∀ entry ∈ registry.entries, entry.2.config.map (·.symbol) = some entry.1) ∧
      (∀ ms, ∀ event ∈ (Bureau.act behind.2 (.take (.pass ms))).1.events,
        event.2.topic = Event.tickTopic ∧ event.2.symbol ∈ registry.symbols) ∧
      InOrder (marks (opening clock failure) deeds) registry.symbols ∧
      (∀ config, config.symbol ∈ registry.symbols →
        (act lived.2 (.take (.start config))).2.subject.symbols = registry.symbols) ∧
      ∀ symbol ∉ registry.symbols,
        Bureau.act behind.2 (.take (.stop symbol)) =
          ({ events := [], answer := .stopped (.ok false) }, behind.2) := by
  intro lived behind registry bureau
  have unlived : SceneAlike Bureau.Seen (Bureau.opening clock failure : Scene (Bureau α))
      (opening clock failure) := ⟨rfl, rfl, Bureau.empty_seen⟩
  obtain ⟨heard, alike⟩ := Bureau.live_seen unlived deeds
  have seen : Bureau.Seen bureau registry := alike.subject
  have start : (opening clock failure : Scene (Registry α)).subject.Staffed := empty_staffed
  obtain ⟨staffed, order⟩ := start.live InOrder.nil deeds
  refine ⟨⟨heard, seen.view⟩, ?_, ?_, staffed.distinct, staffed.symbol_config, ?_, order, ?_, ?_⟩
  · exact fun roster among => Roster.asleep_ended (seen.removed roster among)
  · exact fun entry listed => (seen.orderly entry listed).length_asleep
  · intro ms
    rw [(Bureau.act_seen alike _).1]
    exact staffed.pass_ticks ms _ _
  · exact fun config listed => (symbols_put ..).trans (if_pos listed)
  · exact fun symbol unlisted => seen.stop_unlisted unlisted

end Registry

end SyntheticMarket
