import SyntheticMarket.Simulation

/-! The simulations by symbol. Each runs on its own session and its own timer; the registry keeps
them in the order in which they were first started. -/

namespace SyntheticMarket

structure Registry (α : Type) where
  entries : List (String × Simulation α)
deriving DecidableEq

namespace Registry

variable {α : Type}

def empty : Registry α := ⟨[]⟩

def find? (registry : Registry α) (symbol : String) : Option (Simulation α) :=
  registry.entries.lookup symbol

def symbols (registry : Registry α) : List String := registry.entries.map (·.1)

/-- A known symbol keeps its place, a new one comes last. -/
def put (registry : Registry α) (symbol : String) (simulation : Simulation α) : Registry α :=
  match registry.find? symbol with
  | none => ⟨registry.entries ++ [(symbol, simulation)]⟩
  | some _ =>
    ⟨registry.entries.map fun entry =>
      if entry.1 == symbol then (symbol, simulation) else entry⟩

def erase (registry : Registry α) (symbol : String) : Registry α :=
  ⟨registry.entries.filter (·.1 != symbol)⟩

@[simp] theorem find?_put_self (registry : Registry α) (symbol : String)
    (simulation : Simulation α) :
    (registry.put symbol simulation).find? symbol = some simulation := by
  unfold put
  split
  · rename_i absent
    simp only [find?] at absent ⊢
    simp [List.lookup_append, absent]
  · rename_i known found
    simp only [find?] at found ⊢
    generalize registry.entries = entries at found
    induction entries with
    | nil => simp at found
    | cons entry rest ih =>
      obtain ⟨name, kept⟩ := entry
      by_cases same : symbol = name
      · simp [same]
      · have misses : (symbol == name) = false := by simpa using same
        simp only [List.lookup_cons, misses] at found
        simpa [Ne.symm same, List.lookup_cons, misses] using ih found

/-- The order of what happens in one stretch of time: by time, and at one time by symbol. -/
def notAfter (left right : Int × Event α) : Bool :=
  left.1 < right.1 || (left.1 == right.1 && !(right.2.symbol < left.2.symbol))

/-- Stops and forgets a simulation. It is forgotten also when the stop cannot be published. -/
def stop (registry : Registry α) (symbol : String) (outage : Outage) :
    Outcome (Registry α) α Bool :=
  match registry.find? symbol with
  | none => { state := registry, events := [], answer := .ok false }
  | some simulation =>
    let stopped := simulation.stop outage
    { state := registry.erase symbol, events := stopped.events, answer := stopped.answer }

/-- Stops the symbols one after the other, up to the first stop that cannot be published. -/
def stopEach (outage : Outage) : List String → Registry α → Outcome (Registry α) α Unit
  | [], registry => { state := registry, events := [], answer := .ok () }
  | symbol :: others, registry =>
    let stopped := registry.stop symbol outage
    match stopped.answer with
    | .error fault => { state := stopped.state, events := stopped.events, answer := .error fault }
    | .ok _ =>
      let rest := stopEach outage others stopped.state
      { rest with events := stopped.events ++ rest.events }

def stopAll (registry : Registry α) (outage : Outage) : Outcome (Registry α) α Unit :=
  stopEach outage registry.symbols registry

variable [PriceScale α]

/-- Starts the simulation of the configuration's symbol, anew if there is one. It is registered also
when the start fails. -/
def start (registry : Registry α) (config : Config α) (clock : Clock) (outage : Outage) :
    Outcome (Registry α) α (List (Candle α)) :=
  let started := ((registry.find? config.symbol).getD .fresh).start config clock outage
  { state := registry.put config.symbol started.state
    events := started.events
    answer := started.answer }

def tick (registry : Registry α) (symbol : String) (clock : Clock) (outage : Outage) :
    Outcome (Registry α) α (Option (Update α)) :=
  match registry.find? symbol with
  | none => { state := registry, events := [], answer := .ok none }
  | some simulation =>
    let ticked := simulation.tick clock.reading outage
    { state := registry.put symbol ticked.state
      events := ticked.events
      answer := ticked.answer.map some }

def pass (registry : Registry α) (ms : Int) (clock : Clock) (outage : Outage) :
    List (Int × Event α) × Registry α :=
  let passed := registry.entries.map fun entry => (entry.1, entry.2.pass ms clock outage)
  ((passed.flatMap fun entry => entry.2.1).mergeSort notAfter,
    ⟨passed.map fun entry => (entry.1, entry.2.2)⟩)

end Registry

end SyntheticMarket
