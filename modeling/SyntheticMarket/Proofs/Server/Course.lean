import SyntheticMarket.Proofs.Broadcast.Course
import SyntheticMarket.Proofs.Config
import SyntheticMarket.Proofs.Registry.Listing
import SyntheticMarket.Server.Reply
import SyntheticMarket.Server.Stream

/-! What happens to a server. Besides requests there are incidents: time passes, the clock is set, a
simulation ticks, clients come and go. None of them starts or stops a simulation, and in whatever
state a server gets, each of its simulations runs its own market under a name that is not empty. -/

namespace SyntheticMarket

namespace Bus

variable {β : Type} {bus later : Bus β} {topic : String} {item : β}

theorem published_publish (bus : Bus β) (topic : String) (item : β) :
    (bus.publish topic item).published = bus.published + 1 :=
  published_act bus (.publish topic item)

theorem published_take? {number : Nat} (taken : bus.take? number = some (item, later)) :
    later.published = bus.published := by
  have same : bus.act (.take number) = later := by
    rw [act, taken]
    rfl
  rw [← same]
  exact (take_frame bus number).2.2

end Bus

namespace Hub

variable {hub : Hub} {count : Nat}

def Published (count : Nat) (hub : Hub) : Prop := hub.room.bus.published = count

theorem Published.turn (published : hub.Published count) (number : Nat) :
    (hub.turn number).Published count := by
  obtain same | ⟨relay, room, after, _, turn, same⟩ := hub.turn_cases number
  · rwa [same]
  · rw [same]
    cases turn with
    | carry due => exact (congrArg _ (Round.carryAll_alike _ relay.deliveries).bus).trans published
    | finish idle sending done => exact published
    | take idle waiting taken => exact (Bus.published_take? taken).trans published

theorem Published.settle (published : hub.Published count) : hub.settle.Published count :=
  settle_keeps (fun _ number published => published.turn number) published

theorem Published.pass (published : hub.Published count) (ms : Int) :
    (hub.pass ms).Published count :=
  pass_keeps (fun _ number published => published.turn number) (fun _ _ published => published) ms
    published

end Hub

namespace Server

inductive Incident where
  | pass (ms : Int)
  | setClock (reading : Int)
  | tick (symbol : String)
  | connect (symbol timeframes : Option String)
  | hear (socket : Nat) (text : String)
  | disconnect (socket : Nat)

def meet (server : Server) : Incident → Server
  | .pass ms => server.pass ms
  | .setClock reading => { server with clock := server.clock.set reading }
  | .tick symbol => (server.tick symbol).2
  | .connect symbol timeframes => (server.connect symbol timeframes).2
  | .hear socket text => server.hear socket text
  | .disconnect socket => server.disconnect socket

def meetAll (server : Server) (incidents : List Incident) : Server := incidents.foldl meet server

def told (server : Server) : Incident → List (Event Float)
  | .pass ms => (server.registry.pass ms server.clock calm).1.map (·.2)
  | .tick symbol => (server.registry.tick symbol server.clock calm).events
  | _ => []

/-- A state that a server can be in: it was started or not, and requests and incidents came since. -/
inductive Reached : Server → Prop where
  | asleep (settings : Settings) (now : Int) : Reached (asleep settings now)
  | booted {settings : Settings} {now : Int} {server : Server}
      (started : boot settings now = .ok server) : Reached server
  | answered {server : Server} (reached : Reached server) (request : Request) :
      Reached (server.answer request).2
  | met {server : Server} (reached : Reached server) (incident : Incident) :
      Reached (server.meet incident)

variable {server : Server} {incident : Incident} {request : Request} {config : Config Float}

theorem published_publishAll {hub : Hub} {count : Nat} (published : hub.Published count)
    (events : List (Event Float)) : (publishAll hub events).Published (count + events.length) := by
  induction events generalizing hub count with
  | nil => exact published
  | cons event later ih =>
    have first : (hub.publish event.topic (.event event)).Published (count + 1) := by
      rw [Hub.Published, Hub.publish, Bus.published_publish, published]
    have rest := ih first.settle
    rw [List.length_cons, Nat.add_comm later.length, ← Nat.add_assoc]
    exact rest

/-- The relays also run in the time before each event. -/
theorem published_timed {hub : Hub} {count : Nat} (published : hub.Published count)
    (events : List (Int × Event Float)) :
    (events.foldl (fun hub event =>
      publishAll (hub.pass (event.1 - hub.room.passed)) [event.2]) hub).Published
        (count + events.length) := by
  induction events generalizing hub count with
  | nil => exact published
  | cons event later ih =>
    have waited := published.pass (event.1 - hub.room.passed)
    have rest := ih (published_publishAll waited [event.2])
    rw [List.length_cons, Nat.add_comm later.length, ← Nat.add_assoc]
    exact rest

/-- What is told of an incident is what it publishes. -/
theorem published_meet (server : Server) (incident : Incident) :
    (server.meet incident).hub.Published
      (server.hub.room.bus.published + (server.told incident).length) := by
  cases incident with
  | pass ms =>
    rw [told, List.length_map]
    exact (published_timed rfl _).pass _
  | setClock reading => exact rfl
  | tick symbol => exact published_publishAll rfl _
  | connect symbol timeframes =>
    rw [meet, connect]
    split
    · dsimp only
      split <;> exact rfl
    · exact rfl
  | hear socket text =>
    rw [meet, hear]
    split <;> exact rfl
  | disconnect socket => exact rfl

theorem registry_meet (server : Server) (incident : Incident) :
    (server.meet incident).registry =
      match incident with
      | .pass ms => (server.registry.pass ms server.clock calm).2
      | .tick symbol => (server.registry.tick symbol server.clock calm).state
      | _ => server.registry := by
  cases incident with
  | connect symbol timeframes =>
    rw [meet, connect]
    split <;> rfl
  | hear socket text =>
    rw [meet, hear]
    split <;> rfl
  | _ => rfl

/-- No incident changes the settings, nor whether the server is ready. -/
theorem terms_meet (server : Server) (incident : Incident) :
    (server.meet incident).settings = server.settings ∧
      (server.meet incident).ready = server.ready := by
  cases incident with
  | connect symbol timeframes =>
    rw [meet, connect]
    split <;> exact ⟨rfl, rfl⟩
  | hear socket text =>
    rw [meet, hear]
    split <;> exact ⟨rfl, rfl⟩
  | _ => exact ⟨rfl, rfl⟩

@[simp] theorem symbols_meet (server : Server) (incident : Incident) :
    (server.meet incident).registry.symbols = server.registry.symbols := by
  rw [registry_meet]
  cases incident with
  | pass ms => exact Registry.symbols_pass ..
  | tick symbol => exact Registry.symbols_tick ..
  | _ => rfl

theorem tidy_meet (tidy : server.registry.Tidy) (incident : Incident) :
    (server.meet incident).registry.Tidy := by
  rw [registry_meet]
  cases incident with
  | pass ms => exact tidy.pass ..
  | tick symbol => exact tidy.tick ..
  | _ => exact tidy

/-- What every incident keeps is kept by any number of them. -/
theorem meetAll_keeps {Holds : Server → Prop}
    (met : ∀ server incident, Holds server → Holds (server.meet incident)) (holds : Holds server)
    (incidents : List Incident) : Holds (server.meetAll incidents) := by
  induction incidents generalizing server with
  | nil => exact holds
  | cons incident later ih => exact ih (met server incident holds)

theorem tidy_meetAll (tidy : server.registry.Tidy) (incidents : List Incident) :
    (server.meetAll incidents).registry.Tidy :=
  @meetAll_keeps server (fun server => server.registry.Tidy)
    (fun _ incident tidy => tidy_meet tidy incident) tidy incidents

/-- A simulation is started with its history, or it is reset without a timer. -/
theorem startSimulation_answer (server : Server) (config : Config Float) :
    (server.startSimulation config).1 =
      if config.interval.isTimeable then .ok (Session.reset config server.clock.reading).candles
      else .error .untimeable := by
  split
  · rename_i timeable
    exact Simulation.start_timeable timeable rfl _ _
  · rename_i untimeable
    exact (Simulation.start_untimeable (Bool.eq_false_iff.mpr untimeable) _ _ _).2

inductive Taking (server : Server) (request : Request) : Response × Server → Prop where
  /-- It is refused and changes nothing. -/
  | refused {response : Response} (status : response.status ≠ 200)
      (handled : response.status ≠ 500) : Taking server request (response, server)
  /-- Its simulation is started, and the answer tells under which name. -/
  | started {order : Order} {config : Config Float} (others : List (String × Json))
      (read : Order.ofBody request.body = .ok order) (ready : server.ready = true)
      (accepted : order.config server.settings = .ok config)
      (timeable : config.interval.isTimeable = true) :
      Taking server request
        (.ok (.record (("symbol", .text config.symbol) :: others)),
          (server.startSimulation config).2)
  /-- Its simulation is reset, but no timer can be set. -/
  | failed {order : Order} {config : Config Float}
      (read : Order.ofBody request.body = .ok order) (ready : server.ready = true)
      (accepted : order.config server.settings = .ok config)
      (untimeable : config.interval.isTimeable = false) :
      Taking server request (.serverError, (server.startSimulation config).2)

theorem takeOrder_taking (server : Server) (request : Request) :
    Taking server request (server.takeOrder request) := by
  rw [takeOrder]
  split
  · exact .refused (show 400 ≠ 200 by decide) (show 400 ≠ 500 by decide)
  · exact .refused (show 422 ≠ 200 by decide) (show 422 ≠ 500 by decide)
  · rename_i order read
    split
    · exact .refused (show 503 ≠ 200 by decide) (show 503 ≠ 500 by decide)
    · rename_i awake
      have ready : server.ready = true := by simpa using awake
      split
      · exact .refused (show 422 ≠ 200 by decide) (show 422 ≠ 500 by decide)
      · rename_i config accepted
        have answered := server.startSimulation_answer config
        cases timeable : config.interval.isTimeable with
        | true =>
          rw [timeable, if_pos rfl] at answered
          rw [← Prod.eta (server.startSimulation config), answered]
          exact .started _ read ready accepted timeable
        | false =>
          rw [timeable, if_neg Bool.false_ne_true] at answered
          rw [← Prod.eta (server.startSimulation config), answered]
          exact .failed read ready accepted timeable

theorem stopOrder_cases (server : Server) (request : Request) :
    (server.stopOrder request).2 = server ∨
      ∃ symbol, (server.stopOrder request).2 = (server.stopSimulation symbol).2 := by
  rw [stopOrder]
  split
  · exact .inl rfl
  · split
    · exact .inl rfl
    · exact .inr ⟨_, rfl⟩

theorem symbol_of_order {order : Order} {settings : Settings}
    (accepted : order.config settings = .ok config) :
    config.symbol = Symbol.normal order.symbol :=
  Config.symbol_of_ok (Order.config_ok_iff.mp accepted).1

/-- A request starts a simulation with a name, stops one, or leaves the server as it is. -/
theorem answer_cases (server : Server) (request : Request) :
    (server.answer request).2 = server ∨
    (∃ config, config.symbol ≠ "" ∧
      (server.answer request).2 = (server.startSimulation config).2) ∨
    ∃ symbol, (server.answer request).2 = (server.stopSimulation symbol).2 := by
  rw [answer]
  split
  case h_7 =>
    have named {order : Order} {config : Config Float}
        (accepted : order.config server.settings = .ok config) : config.symbol ≠ "" :=
      symbol_of_order accepted ▸ Symbol.normal_ne_empty _
    have taking := server.takeOrder_taking request
    generalize server.takeOrder request = taken at taking ⊢
    cases taking with
    | refused => exact .inl rfl
    | started _ _ _ accepted => exact .inr (.inl ⟨_, named accepted, rfl⟩)
    | failed _ _ accepted => exact .inr (.inl ⟨_, named accepted, rfl⟩)
  case h_8 =>
    obtain kept | stopped := server.stopOrder_cases request
    · exact .inl kept
    · exact .inr (.inr stopped)
  all_goals exact .inl rfl

/-- Every symbol is listed once, with a simulation of its own market, and no symbol is empty. -/
structure Sound (server : Server) : Prop where
  tidy : server.registry.Tidy
  named : "" ∉ server.registry.symbols

theorem Sound.meet (sound : server.Sound) (incident : Incident) : (server.meet incident).Sound :=
  ⟨tidy_meet sound.tidy incident, (symbols_meet server incident).symm ▸ sound.named⟩

theorem Sound.start (sound : server.Sound) (named : config.symbol ≠ "") :
    (server.startSimulation config).2.Sound := by
  refine ⟨sound.tidy.start config server.clock calm, ?_⟩
  change "" ∉ (server.registry.put config.symbol _).symbols
  rw [Registry.symbols_put]
  split
  · exact sound.named
  · simpa [sound.named] using named.symm

theorem Sound.stop (sound : server.Sound) (symbol : String) :
    (server.stopSimulation symbol).2.Sound := by
  refine ⟨sound.tidy.stop symbol calm, fun listed => sound.named ?_⟩
  change "" ∈ (server.registry.stop symbol calm).state.symbols at listed
  rw [Registry.symbols_stop] at listed
  exact (List.mem_filter.mp listed).1

theorem Sound.answer (sound : server.Sound) (request : Request) :
    (server.answer request).2.Sound := by
  obtain kept | ⟨config, named, started⟩ | ⟨symbol, stopped⟩ := server.answer_cases request
  · rwa [kept]
  · exact started ▸ sound.start named
  · exact stopped ▸ sound.stop symbol

theorem asleep_sound (settings : Settings) (now : Int) : (asleep settings now).Sound :=
  ⟨Registry.empty_tidy, List.not_mem_nil⟩

theorem startSymbols_sound {symbols : List String} {later : Server} (sound : server.Sound)
    (started : server.startSymbols symbols = .ok later) : later.Sound := by
  induction symbols generalizing server with
  | nil =>
    cases started
    exact sound
  | cons symbol others ih =>
    rw [startSymbols] at started
    split at started
    · cases started
    · rename_i config accepted
      have named : config.symbol ≠ "" :=
        Config.symbol_of_ok accepted ▸ Symbol.normal_ne_empty symbol
      split at started
      · cases started
      · rename_i next answered
        have left : (server.startSimulation config).2 = next := congrArg Prod.snd answered
        exact ih (left ▸ sound.start named) started

theorem Reached.sound (reached : server.Reached) : server.Sound := by
  induction reached with
  | asleep settings now => exact asleep_sound settings now
  | @booted settings now server started =>
    have closed := asleep_sound settings now
    have opened : Sound
        { Server.asleep settings now with
          ready := true
          hub := (Server.asleep settings now).hub.start.settle } :=
      ⟨closed.tidy, closed.named⟩
    exact startSymbols_sound opened started
  | answered _ request ih => exact ih.answer request
  | met _ incident ih => exact ih.meet incident

end Server

end SyntheticMarket
