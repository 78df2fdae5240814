import SyntheticMarket.Proofs.Server.Course
import SyntheticMarket.Proofs.Server.Windows
import SyntheticMarket.Proofs.Simulation.Lifecycle

/-! Names of simulations. Under the name that the answer to an order tells, the simulation of the
order is shown and stopped, whatever happens meanwhile that is not a request. The order gives the
same name unless it gives an empty one: under that nothing is found. -/

namespace SyntheticMarket

variable {α : Type} [PriceScale α]

def Session.Follows (session opened : Session α) : Prop := ∃ times, session = (opened.run times).2

theorem Session.Follows.run {session opened : Session α} (follows : session.Follows opened)
    (times : List Int) : (session.run times).2.Follows opened := by
  obtain ⟨earlier, rfl⟩ := follows
  exact ⟨earlier ++ times, by rw [run_append]⟩

namespace Simulation

variable {simulation : Simulation α} {opened session : Session α} {outage : Outage}

/-- The session of the simulation follows the one that was opened, and its timer runs. -/
inductive GoesOn (opened : Session α) : Simulation α → Prop where
  | running {session : Session α} (follows : session.Follows opened) (due : Int) (resets : Nat)
      (lastFailure : Option Failure) :
      GoesOn opened { run := some { session, timer := .running due }, resets, lastFailure }

theorem start_goesOn {config : Config α} (timeable : config.interval.isTimeable = true)
    (simulation : Simulation α) (clock : Clock) (outage : Outage) :
    (simulation.start config clock outage).state.GoesOn (.reset config clock.reading) := by
  rw [start_state, Timer.set_timeable timeable]
  exact .running ⟨[], rfl⟩ _ _ _

theorem GoesOn.tick (goesOn : simulation.GoesOn opened) (reading : Int) (outage : Outage) :
    (simulation.tick reading outage).state.GoesOn opened := by
  obtain ⟨follows, due, resets, lastFailure⟩ := goesOn
  rw [tick_state]
  exact .running (follows.run [reading]) due resets lastFailure

/-- As long as ticks can be published, the timer goes on. -/
theorem GoesOn.pass (goesOn : simulation.GoesOn opened)
    (published : outage.topics.contains Event.tickTopic = false) (ms : Int) (clock : Clock) :
    (simulation.pass ms clock outage).2.GoesOn opened := by
  obtain ⟨follows, due, resets, lastFailure⟩ := goesOn
  rw [Simulation.pass, fireTimes_open published]
  dsimp only
  rw [Session.attend_run]
  exact .running (follows.run _) _ resets lastFailure

theorem GoesOn.shown (goesOn : simulation.GoesOn opened) :
    simulation.isRunning = true ∧
      ∃ session, simulation.session = some session ∧ session.Follows opened := by
  obtain ⟨follows, due, resets, lastFailure⟩ := goesOn
  exact ⟨rfl, _, rfl, follows⟩

theorem GoesOn.stop (goesOn : simulation.GoesOn opened)
    (published : outage.topics.contains Event.stoppedTopic = false) :
    (simulation.stop outage).answer = .ok true ∧
      (simulation.stop outage).events = [.stopped opened.config.symbol] ∧
      (simulation.stop outage).state.isRunning = false := by
  obtain ⟨⟨times, rfl⟩, due, resets, lastFailure⟩ := goesOn
  have set : Timer.running due ≠ .stopped := nofun
  rw [stop_set set, Outage.publish_open published, Session.run_config]
  exact ⟨rfl, rfl, rfl⟩

end Simulation

structure Request.Orders (request : Request) : Prop where
  method_eq : request.method = .post
  path_eq : request.path = "/api/simulations"

structure Request.AsksStop (request : Request) (name : String) : Prop where
  method_eq : request.method = .delete
  path_eq : request.path = "/api/simulations"
  name_eq : request.param? "symbol" = some name

namespace Server

variable {server : Server} {request : Request} {config : Config Float}
  {name symbol : String} {opened : Session Float} {count : Option Int}

/-- The response that tells whether there was a simulation to stop. -/
def tellStopped (name : String) (stopped : Bool) : Response :=
  .ok (.record [("symbol", .text name), ("stopped", .bool stopped)])

/-- The server is ready, and under the symbol a simulation goes on from the session. -/
structure Runs (symbol : String) (opened : Session Float) (server : Server) : Prop where
  ready : server.ready = true
  found : ∃ simulation, server.registry.find? symbol = some simulation ∧ simulation.GoesOn opened

/-- The server is ready, and there is no simulation under the symbol. -/
structure Lacks (symbol : String) (server : Server) : Prop where
  ready : server.ready = true
  tidy : server.registry.Tidy
  absent : server.registry.find? symbol = none

theorem calm_open (topic : String) : calm.topics.contains topic = false := rfl

theorem Runs.meet (runs : server.Runs symbol opened) (incident : Incident) :
    (server.meet incident).Runs symbol opened := by
  obtain ⟨ready, simulation, found, goesOn⟩ := runs
  refine ⟨(terms_meet server incident).2.trans ready, ?_⟩
  rw [registry_meet]
  cases incident with
  | pass ms => exact ⟨_, by rw [Registry.find?_pass, found]; rfl, goesOn.pass (calm_open _) ms _⟩
  | tick other =>
    by_cases same : symbol = other
    · subst same
      refine ⟨_, ?_, goesOn.tick server.clock.reading calm⟩
      simp only [Registry.tick, found]
      exact Registry.find?_put_self ..
    · exact ⟨simulation, (Registry.find?_tick_other _ _ _ same).trans found, goesOn⟩
  | _ => exact ⟨simulation, found, goesOn⟩

theorem Runs.meetAll (runs : server.Runs symbol opened) (incidents : List Incident) :
    (server.meetAll incidents).Runs symbol opened :=
  meetAll_keeps (fun _ incident runs => runs.meet incident) runs incidents

theorem Lacks.meet (lacks : server.Lacks symbol) (incident : Incident) :
    (server.meet incident).Lacks symbol := by
  refine ⟨(terms_meet server incident).2.trans lacks.ready, tidy_meet lacks.tidy incident, ?_⟩
  rw [Registry.find?_eq_none, symbols_meet]
  exact Registry.find?_eq_none.mp lacks.absent

theorem Lacks.meetAll (lacks : server.Lacks symbol) (incidents : List Incident) :
    (server.meetAll incidents).Lacks symbol :=
  meetAll_keeps (fun _ incident lacks => lacks.meet incident) lacks incidents

/-- Without a simulation nothing is published about its symbol. -/
theorem Lacks.silent (lacks : server.Lacks symbol) (incident : Incident) :
    ∀ event ∈ server.told incident, event.symbol ≠ symbol := by
  have absent := Registry.find?_eq_none.mp lacks.absent
  cases incident with
  | pass ms =>
    intro event member
    obtain ⟨timed, among, rfl⟩ := List.mem_map.mp member
    exact ne_of_mem_of_not_mem (lacks.tidy.pass_ticks ms _ _ timed among).2 absent
  | tick other =>
    intro event member same
    obtain rfl : other = symbol := (lacks.tidy.tick_own other _ _ event member).symm.trans same
    rw [told, Registry.tick, lacks.absent] at member
    cases member
  | _ => exact fun _ absent => absurd absent List.not_mem_nil

theorem answer_order (orders : request.Orders) :
    server.answer request = server.takeOrder request := by
  have resolved : Route.resolve "/api/simulations" .post = .found .startSimulation := by decide
  rw [answer, orders.path_eq, orders.method_eq, resolved]

theorem answer_stop (asks : request.AsksStop name) (ready : server.ready = true) :
    server.answer request =
      (tellStopped name (server.stopSimulation name).1, (server.stopSimulation name).2) := by
  have resolved : Route.resolve "/api/simulations" .delete = .found .stopSimulation := by decide
  have read : request.text "symbol" = .done name := by
    rw [Request.text, asks.name_eq]
    rfl
  rw [answer, asks.path_eq, asks.method_eq, resolved]
  dsimp only
  rw [stopOrder, read]
  simp only [ready]
  rfl

theorem Lacks.answer_candles (lacks : server.Lacks name) (asks : request.AsksCandles name count) :
    server.answer request = (unknownSymbol name, server) := by
  rw [Server.answer_candles asks, candles, asks.read]
  simp only [lacks.ready, lacks.absent]
  rfl

theorem Lacks.answer_stop (lacks : server.Lacks name) (asks : request.AsksStop name) :
    server.answer request = (tellStopped name false, server) := by
  rw [Server.answer_stop asks lacks.ready, stopSimulation, Registry.stop, lacks.absent]
  rfl

theorem Runs.serves (runs : server.Runs symbol opened) :
    ∃ session, server.Serves symbol session ∧ session.Follows opened := by
  obtain ⟨ready, simulation, found, goesOn⟩ := runs
  obtain ⟨_, session, shown, follows⟩ := goesOn.shown
  exact ⟨session, ⟨ready, by rw [found]; exact shown⟩, follows⟩

/-- Who asks for the candles of the name can read the newest ones of the simulation under the symbol,
and these follow those of the session that was opened. -/
def Shows (server : Server) (name symbol : String) (opened : Session Float) : Prop :=
  ∀ request count, request.AsksCandles name count → ∃ session,
    server.Serves symbol session ∧ session.Follows opened ∧
    let newest := Catalog.fromEnd (min (count.getD candleCount) server.settings.maxCandles)
      session.candles
    server.answer request = (tellCandles name session.config.timeframe newest, server) ∧
    TellsCandles (server.answer request).1 newest

/-- Whatever happens that is not a request, there is no simulation under the symbol, nothing that an
incident tells is about it, no more is published than is told, and the name is unknown. -/
def Forgot (server : Server) (name symbol : String) : Prop :=
  ∀ incidents, let later := server.meetAll incidents
    later.registry.find? symbol = none ∧
    (∀ incident, (∀ event ∈ later.told incident, event.symbol ≠ symbol) ∧
      (later.meet incident).hub.Published
        (later.hub.room.bus.published + (later.told incident).length)) ∧
    ∀ request count, request.AsksCandles name count →
      later.answer request = (unknownSymbol name, later)

/-- Who asks to stop the name ends the timer of the simulation under the symbol, is told so, and the
simulation is forgotten. -/
def Stops (server : Server) (name symbol : String) : Prop :=
  ∀ request, request.AsksStop name → ∃ simulation,
    server.registry.find? symbol = some simulation ∧ simulation.isRunning = true ∧
    (simulation.stop calm).state.isRunning = false ∧
    (simulation.stop calm).events = [.stopped symbol] ∧
    (server.answer request).1 = tellStopped name true ∧
    (server.answer request).2.Forgot name symbol

/-- As long as no request comes, the simulation that was opened under its symbol is shown and stopped
under the name. -/
def Addresses (server : Server) (name : String) (opened : Session Float) : Prop :=
  ∀ incidents, let later := server.meetAll incidents
    later.Shows name opened.config.symbol opened ∧ later.Stops name opened.config.symbol

/-- As long as no request comes, the simulation that was opened under its symbol goes on, but the
name is unknown, and nothing is stopped under it. -/
def Misses (server : Server) (name : String) (opened : Session Float) : Prop :=
  ∀ incidents, let later := server.meetAll incidents
    later.Runs opened.config.symbol opened ∧
    (∀ request count, request.AsksCandles name count →
      later.answer request = (unknownSymbol name, later)) ∧
    ∀ request, request.AsksStop name → later.answer request = (tellStopped name false, later)

theorem Lacks.forgot (lacks : server.Lacks symbol) : server.Forgot symbol symbol := by
  intro incidents later
  have lacks : later.Lacks symbol := lacks.meetAll incidents
  exact ⟨lacks.absent, fun incident => ⟨lacks.silent incident, published_meet later incident⟩,
    fun request count asks => lacks.answer_candles asks⟩

theorem Runs.shows (runs : server.Runs symbol opened) : server.Shows symbol symbol opened := by
  intro request count asks
  obtain ⟨session, serves, follows⟩ := runs.serves
  have answered := (Server.answer_candles asks).trans
    (congrArg (·, server) (candles_of_serves serves asks))
  refine ⟨session, serves, follows, answered, ?_⟩
  rw [answered]
  exact tellCandles_tells _ _ _

theorem Runs.stops (runs : server.Runs opened.config.symbol opened)
    (tidy : server.registry.Tidy) :
    server.Stops opened.config.symbol opened.config.symbol := by
  intro request asks
  obtain ⟨ready, simulation, found, goesOn⟩ := runs
  obtain ⟨answered, published, ended⟩ := goesOn.stop (calm_open _)
  have lacks : (server.stopSimulation opened.config.symbol).2.Lacks opened.config.symbol :=
    ⟨ready, tidy.stop _ calm, Registry.find?_stop_self ..⟩
  rw [Server.answer_stop asks ready]
  refine ⟨simulation, found, goesOn.shown.1, ended, published, ?_, lacks.forgot⟩
  rw [stopSimulation, Registry.stop, found]
  dsimp only
  rw [answered]
  rfl

theorem Runs.addresses (runs : server.Runs opened.config.symbol opened)
    (tidy : server.registry.Tidy) : server.Addresses opened.config.symbol opened := by
  intro incidents later
  have runs : later.Runs opened.config.symbol opened := runs.meetAll incidents
  exact ⟨runs.shows, runs.stops (tidy_meetAll tidy incidents)⟩

theorem Runs.misses (runs : server.Runs opened.config.symbol opened) (lacks : server.Lacks name) :
    server.Misses name opened := by
  intro incidents later
  have lacks : later.Lacks name := lacks.meetAll incidents
  exact ⟨runs.meetAll incidents, fun request count asks => lacks.answer_candles asks,
    fun request asks => lacks.answer_stop asks⟩

theorem Misses.not_addresses (misses : server.Misses name opened) :
    ¬server.Addresses name opened := by
  intro addresses
  let request : Request :=
    { method := .get, path := "/api/candles", query := [("symbol", name)], body := "" }
  have asks : request.AsksCandles name none := ⟨rfl, rfl, by simp [Request.param?, request], rfl⟩
  obtain ⟨session, _, _, told, _⟩ := (addresses []).1 request none asks
  have unknown := (misses []).2.1 request none asks
  have same : 200 = 404 := congrArg (·.1.status) (told.symm.trans unknown)
  exact absurd same (by decide)

theorem startSimulation_runs (ready : server.ready = true)
    (timeable : config.interval.isTimeable = true) :
    (server.startSimulation config).2.Runs config.symbol
      (.reset config server.clock.reading) :=
  ⟨ready, _, Registry.find?_put_self ..,
    Simulation.start_goesOn timeable _ server.clock calm⟩

/-- What a start leaves that cannot set its timer: the simulation is reset and will not tick, all
others are as they were, and nothing was published. -/
structure Unset (config : Config Float) (before after : Server) : Prop where
  untimeable : config.interval.isTimeable = false
  found : ∃ simulation, after.registry.find? config.symbol = some simulation ∧
    simulation.session = some (.reset config before.clock.reading) ∧ simulation.isRunning = false
  others : ∀ symbol, symbol ≠ config.symbol →
    after.registry.find? symbol = before.registry.find? symbol
  hub : after.hub = before.hub

theorem startSimulation_unset (untimeable : config.interval.isTimeable = false) :
    Unset config server (server.startSimulation config).2 := by
  refine ⟨untimeable, ⟨_, Registry.find?_put_self .., ?_, ?_⟩, ?_, ?_⟩
  · rw [Simulation.start_state]
    rfl
  · rw [Simulation.start_state, Timer.set_untimeable untimeable]
    rfl
  · exact fun symbol other => server.registry.find?_start_other _ _ other
  · exact congrArg (publishAll server.hub) (Simulation.start_untimeable untimeable _ _ _).1

theorem startSimulation_ne (server : Server) (config : Config Float) :
    (server.startSimulation config).2 ≠ server := by
  intro same
  let earlier := (server.registry.find? config.symbol).getD .fresh
  have found : server.registry.find? config.symbol =
      some (earlier.start config server.clock calm).state := by
    conv_lhs => rw [← same]
    exact Registry.find?_put_self ..
  have counted : earlier.resets = earlier.resets + 1 := by
    conv_lhs => rw [show earlier = _ from congrArg (·.getD .fresh) found, Option.getD_some,
      Simulation.start_state]
  exact Nat.succ_ne_self _ counted.symm

/-- A refused order changes nothing, unless its parameters are accepted and no timer can be set to the
interval: then its simulation is reset without one. If an order is accepted, the simulation of its
configuration is addressed by the name that the answer tells, and by the name that the order gave
exactly if that is not empty; otherwise there is no simulation under the name of the order, while its
own goes on. -/
theorem order_addresses_iff (server : Server) (request : Request) :
    (request.Orders → (server.answer request).1.status ≠ 200 →
      ((server.answer request).2 = server ↔ (server.answer request).1.status ≠ 500) ∧
      ((server.answer request).1.status = 500 →
        ∃ order config, Order.ofBody request.body = .ok order ∧
          order.config server.settings = .ok config ∧
          Unset config server (server.answer request).2)) ∧
    (request.Orders → server.Reached → (server.answer request).1.status = 200 →
      ∃ order config, Order.ofBody request.body = .ok order ∧
        order.config server.settings = .ok config ∧
        (∃ others, (server.answer request).1 =
          .ok (.record (("symbol", .text config.symbol) :: others))) ∧
        let later := (server.answer request).2
        let opened := Session.reset config server.clock.reading
        later.Addresses config.symbol opened ∧
        (later.Addresses order.symbol opened ↔ order.symbol ≠ "") ∧
        (order.symbol = "" → later.Misses order.symbol opened)) := by
  constructor
  · intro orders refused
    have taking := server.takeOrder_taking request
    rw [answer_order orders] at refused ⊢
    generalize server.takeOrder request = taken at taking refused ⊢
    cases taking with
    | refused _ handled => exact ⟨iff_of_true rfl handled, fun failed => absurd failed handled⟩
    | started => exact absurd rfl refused
    | @failed order config read _ accepted untimeable =>
      refine ⟨iff_of_false (server.startSimulation_ne config) (fun other => other rfl), fun _ => ?_⟩
      exact ⟨order, config, read, accepted, startSimulation_unset untimeable⟩
  · intro orders reached taken
    have taking := server.takeOrder_taking request
    rw [answer_order orders] at taken ⊢
    generalize server.takeOrder request = answered at taking taken ⊢
    cases taking with
    | refused status => exact absurd taken status
    | failed => cases taken
    | @started order config others read ready accepted timeable =>
      have normal := symbol_of_order accepted
      have sound : (server.startSimulation config).2.Sound :=
        reached.sound.start (normal ▸ Symbol.normal_ne_empty _)
      let opened := Session.reset config server.clock.reading
      have runs : (server.startSimulation config).2.Runs opened.config.symbol opened :=
        startSimulation_runs ready timeable
      have misses (empty : order.symbol = "") :
          (server.startSimulation config).2.Misses order.symbol opened :=
        runs.misses ⟨ready, sound.tidy, empty ▸ Registry.find?_eq_none.mpr sound.named⟩
      refine ⟨order, config, read, accepted, ⟨others, rfl⟩, runs.addresses sound.tidy,
        ⟨?_, ?_⟩, misses⟩
      · intro addresses empty
        exact (misses empty).not_addresses addresses
      · intro named
        have same : config.symbol = order.symbol :=
          normal.trans (if_neg (mt String.isEmpty_iff.mp named))
        exact same ▸ runs.addresses sound.tidy

def bare : Settings := { symbols := [], historyLength := 1 }

def nameless : Request where
  method := .post
  path := "/api/simulations"
  query := []
  body := "\x7b\"symbol\":\"\"\x7d"

/-- The simulation of a nameless order runs under another name; under the empty one it is neither
shown nor stopped. -/
theorem nameless_unaddressed :
    ∃ server, boot bare 1700000000000 = .ok server ∧ (server.answer nameless).1.status = 200 ∧
      let later := (server.answer nameless).2
      later.registry.symbols = ["SYMBOL"] ∧
      (later.answer { nameless with
        method := .get, path := "/api/candles", query := [("symbol", "")] }).1 =
          unknownSymbol "" ∧
      later.answer { nameless with method := .delete, query := [("symbol", "")] } =
        (tellStopped "" false, later) := by
  have held : (match boot bare 1700000000000 with
      | .error _ => none
      | .ok server =>
        let (response, later) := server.answer nameless
        some (response.status, later.ready, later.registry.symbols)) =
      some (200, true, ["SYMBOL"]) := by decide +kernel
  cases booted : boot bare 1700000000000 with
  | error misfit =>
    rw [booted] at held
    cases held
  | ok server =>
    rw [booted] at held
    obtain ⟨accepted, ready, symbols⟩ : (server.answer nameless).1.status = 200 ∧
        (server.answer nameless).2.ready = true ∧
        (server.answer nameless).2.registry.symbols = ["SYMBOL"] := by
      simpa using held
    have sound := ((Reached.booted booted).answered nameless).sound
    have lacks : (server.answer nameless).2.Lacks "" :=
      ⟨ready, sound.tidy, Registry.find?_eq_none.mpr sound.named⟩
    refine ⟨server, rfl, accepted, symbols, ?_, ?_⟩
    · exact congrArg Prod.fst (lacks.answer_candles ⟨rfl, rfl, by decide, rfl⟩)
    · exact lacks.answer_stop ⟨rfl, rfl, by decide⟩

end Server

end SyntheticMarket
