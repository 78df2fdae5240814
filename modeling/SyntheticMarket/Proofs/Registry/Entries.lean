import SyntheticMarket.Proofs.Session.Tick
import SyntheticMarket.Registry

/-! One symbol of a registry. A simulation publishes about its own market only and never back in
time; an operation on one symbol leaves the simulations of all others as they are. -/

namespace SyntheticMarket

variable {α : Type}

namespace Session

theorem tick_symbol [PriceScale α] (session : Session α) (now : Int) :
    (session.tick now).1.symbol = session.config.symbol := by
  obtain ⟨_, ticked⟩ | ⟨_, _, _, ticked⟩ | ⟨_, _, _, ticked⟩ := session.tick_cases now <;>
    rw [ticked] <;> rfl

end Session

namespace Simulation

/-- Once started, the simulation runs the market of the symbol. -/
def RunsOn (symbol : String) (simulation : Simulation α) : Prop :=
  ∀ run, simulation.run = some run → run.session.config.symbol = symbol

/-- An operation leaves the simulation on its market and publishes about no other. -/
structure StaysOn {ρ : Type} (symbol : String) (outcome : Outcome (Simulation α) α ρ) : Prop where
  runs : outcome.state.RunsOn symbol
  events : ∀ event ∈ outcome.events, event.symbol = symbol

variable {simulation : Simulation α} {symbol : String}

theorem RunsOn.of_session {session : Session α} (own : session.config.symbol = symbol)
    {timer : Timer} {resets : Nat} {lastFailure : Option Failure} :
    RunsOn symbol { run := some { session, timer }, resets, lastFailure } := by
  intro run same
  cases same
  exact own

theorem StaysOn.publish {ρ : Type} (outage : Outage) (runs : simulation.RunsOn symbol)
    {event : Event α} (own : event.symbol = symbol) (answer : ρ) :
    StaysOn symbol (outage.publish simulation event answer) := by
  rw [Outage.publish]
  split
  · exact ⟨runs, fun _ absent => absurd absent List.not_mem_nil⟩
  · refine ⟨runs, fun event member => ?_⟩
    obtain rfl := List.mem_singleton.mp member
    exact own

theorem stop_staysOn (runs : simulation.RunsOn symbol) (outage : Outage) :
    StaysOn symbol (simulation.stop outage) := by
  rw [stop]
  split
  · exact ⟨runs, fun _ absent => absurd absent List.not_mem_nil⟩
  · rename_i run started
    have own := runs run started
    split
    · exact ⟨runs, fun _ absent => absurd absent List.not_mem_nil⟩
    · refine .publish outage (.of_session own) ?_ true
      exact own

variable [PriceScale α]

theorem start_staysOn (simulation : Simulation α) (config : Config α) (clock : Clock)
    (outage : Outage) : StaysOn config.symbol (simulation.start config clock outage) := by
  have runs : RunsOn config.symbol
      { run := some
          { session := Session.reset config clock.reading
            timer := .set config.interval clock.passed }
        resets := simulation.resets + 1
        lastFailure := none } := .of_session rfl
  rw [start]
  split
  · exact .publish outage runs rfl _
  · exact ⟨runs, fun _ absent => absurd absent List.not_mem_nil⟩

theorem tick_staysOn (runs : simulation.RunsOn symbol) (reading : Int) (outage : Outage) :
    StaysOn symbol (simulation.tick reading outage) := by
  rw [tick]
  split
  · exact ⟨runs, fun _ absent => absurd absent List.not_mem_nil⟩
  · rename_i run started
    have own := runs run started
    refine .publish outage (.of_session ?_) ?_ _
    · rw [Session.tick_config, own]
    · exact (run.session.tick_symbol reading).trans own

omit [PriceScale α] in
theorem RunsOn.withTimer (runs : simulation.RunsOn symbol) (timer : Timer) :
    (simulation.withTimer timer).RunsOn symbol := by
  intro run same
  obtain ⟨earlier, started, rfl⟩ := Option.map_eq_some_iff.mp same
  exact runs earlier started

theorem fire_runsOn (runs : simulation.RunsOn symbol) (interval : Span) (due : Int)
    (clock : Clock) (outage : Outage) :
    (simulation.fire interval due clock outage).2.RunsOn symbol ∧
      ∀ event ∈ (simulation.fire interval due clock outage).1, event.symbol = symbol := by
  have ticked := tick_staysOn runs (clock.offset + due) outage
  rw [fire]
  split
  · exact ⟨ticked.runs.withTimer _, ticked.events⟩
  · exact ⟨ticked.runs.withTimer _, ticked.events⟩
  · exact ⟨ticked.runs, ticked.events⟩

/-- The events are about the symbol, in the order of their times, and none is before the bound. -/
structure Chronicle (symbol : String) (bound : Int) (events : List (Int × Event α)) : Prop where
  own : ∀ event ∈ events, event.2.symbol = symbol
  ordered : events.Pairwise fun earlier later => earlier.1 ≤ later.1
  bounded : ∀ event ∈ events, bound ≤ event.1

omit [PriceScale α] in
theorem Chronicle.nil (symbol : String) (bound : Int) :
    Chronicle symbol bound ([] : List (Int × Event α)) :=
  ⟨fun _ absent => absurd absent List.not_mem_nil, .nil,
    fun _ absent => absurd absent List.not_mem_nil⟩

omit [PriceScale α] in
theorem Chronicle.prepend {events : List (Int × Event α)} {due next : Int}
    (later : Chronicle symbol next events) (after : due ≤ next) {fired : List (Event α)}
    (own : ∀ event ∈ fired, event.symbol = symbol) :
    Chronicle symbol due (fired.map (due, ·) ++ events) := by
  refine ⟨?_, ?_, ?_⟩
  · intro event member
    obtain first | rest := List.mem_append.mp member
    · obtain ⟨plain, among, rfl⟩ := List.mem_map.mp first
      exact own plain among
    · exact later.own event rest
  · refine List.pairwise_append.mpr ⟨?_, later.ordered, ?_⟩
    · exact List.pairwise_map.mpr (List.pairwise_of_forall fun _ _ => Int.le_refl due)
    · intro event first other rest
      obtain ⟨plain, _, rfl⟩ := List.mem_map.mp first
      exact Int.le_trans after (later.bounded other rest)
  · intro event member
    obtain first | rest := List.mem_append.mp member
    · obtain ⟨plain, _, rfl⟩ := List.mem_map.mp first
      exact Int.le_refl due
    · exact Int.le_trans after (later.bounded event rest)

def NotBefore (bound : Int) (simulation : Simulation α) : Prop :=
  ∀ session due, simulation.run = some { session, timer := .running due } → bound ≤ due

omit [PriceScale α] in
theorem NotBefore.withTimer {bound : Int} {timer : Timer}
    (held : ∀ due, timer = .running due → bound ≤ due) :
    (simulation.withTimer timer).NotBefore bound := by
  intro session due same
  obtain ⟨earlier, _, rearmed⟩ := Option.map_eq_some_iff.mp same
  exact held due (congrArg Run.timer rearmed)

/-- A tick that is not refused by the outage is refused because nothing was started. -/
theorem run_of_refused {reading : Int} {outage : Outage} {fault : SimulationFault}
    (refused : (simulation.tick reading outage).answer = .error fault)
    (other : ∀ failure, fault ≠ .unpublished failure) :
    (simulation.tick reading outage).state.run = none := by
  cases started : simulation.run with
  | none => simp only [tick, started]
  | some run =>
    simp only [tick, started, Outage.publish] at refused
    split at refused
    · cases refused
      exact absurd rfl (other _)
    · cases refused

/-- The tick after a fired one is due later. -/
theorem fire_notBefore (simulation : Simulation α) (interval : Span) (due : Int) (clock : Clock)
    (outage : Outage) : (simulation.fire interval due clock outage).2.NotBefore due := by
  have positive := interval.positive
  rw [fire]
  split
  · refine .withTimer fun next same => ?_
    cases same
    omega
  · rename_i ended
    have broken : ((simulation.tick (clock.offset + due) outage).state.withTimer .broken).NotBefore
        due := .withTimer fun _ never => nomatch never
    exact broken
  · rename_i other refused
    intro session next same
    rw [run_of_refused refused other] at same
    cases same

theorem fireTimes_chronicle (clock : Clock) (outage : Outage) (count : Nat) {bound : Int}
    (runs : simulation.RunsOn symbol) (held : simulation.NotBefore bound) :
    Chronicle symbol bound (fireTimes clock outage count simulation).1 ∧
      (fireTimes clock outage count simulation).2.RunsOn symbol := by
  induction count generalizing simulation bound with
  | zero => exact ⟨.nil symbol bound, runs⟩
  | succ count ih =>
    rw [fireTimes]
    split
    · rename_i session due started
      have after := held session due started
      have fired := fire_runsOn runs session.config.interval due clock outage
      obtain ⟨later, keeps⟩ := ih fired.1
        (fire_notBefore simulation session.config.interval due clock outage)
      refine ⟨?_, keeps⟩
      have here := later.prepend (Int.le_refl due) fired.2
      exact ⟨here.own, here.ordered, fun event member =>
        Int.le_trans after (here.bounded event member)⟩
    · exact ⟨.nil symbol bound, runs⟩

omit [PriceScale α] in
theorem exists_notBefore (simulation : Simulation α) : ∃ bound, simulation.NotBefore bound := by
  obtain ⟨_ | ⟨session, timer⟩, resets, lastFailure⟩ := simulation
  · exact ⟨0, fun _ _ same => nomatch same⟩
  · cases timer with
    | running due =>
      refine ⟨due, fun _ _ same => ?_⟩
      cases same
      exact Int.le_refl due
    | _ => exact ⟨0, fun _ _ same => nomatch same⟩

/-- What a timer publishes in a stretch of time is about its own market and in the order of time. -/
theorem pass_chronicle (runs : simulation.RunsOn symbol) (ms : Int) (clock : Clock)
    (outage : Outage) :
    ∃ bound, Chronicle symbol bound (simulation.pass ms clock outage).1 := by
  obtain ⟨bound, held⟩ := simulation.exists_notBefore
  exact ⟨bound, (fireTimes_chronicle clock outage _ runs held).1⟩

theorem pass_runsOn (runs : simulation.RunsOn symbol) (ms : Int) (clock : Clock)
    (outage : Outage) : (simulation.pass ms clock outage).2.RunsOn symbol := by
  obtain ⟨bound, held⟩ := simulation.exists_notBefore
  exact (fireTimes_chronicle clock outage _ runs held).2

end Simulation

namespace Registry

variable {registry : Registry α} {symbol other : String}

/-- Every symbol is listed once, with a simulation of its own market. -/
structure Tidy (registry : Registry α) : Prop where
  distinct : registry.symbols.Nodup
  own : ∀ entry ∈ registry.entries, entry.2.RunsOn entry.1

theorem empty_tidy : (empty : Registry α).Tidy :=
  ⟨List.nodup_nil, fun _ absent => absurd absent List.not_mem_nil⟩

theorem mem_of_find? {simulation : Simulation α} (found : registry.find? symbol = some simulation) :
    (symbol, simulation) ∈ registry.entries := by
  obtain ⟨before, after, split, _⟩ := List.lookup_eq_some_iff.mp found
  rw [split]
  simp

theorem find?_eq_none : registry.find? symbol = none ↔ symbol ∉ registry.symbols := by
  rw [find?, List.lookup_eq_none_iff, symbols]
  simp
  grind

theorem Tidy.runsOn (tidy : registry.Tidy) {simulation : Simulation α}
    (found : registry.find? symbol = some simulation) : simulation.RunsOn symbol :=
  tidy.own _ (mem_of_find? found)

theorem find?_put_other (registry : Registry α) (simulation : Simulation α)
    (distinct : symbol ≠ other) :
    (registry.put other simulation).find? symbol = registry.find? symbol := by
  have misses : (symbol == other) = false := by simpa using distinct
  rw [put]
  split
  · simp [find?, List.lookup_append, List.lookup_cons, misses]
  · simp only [find?]
    induction registry.entries with
    | nil => rfl
    | cons entry rest ih =>
      obtain ⟨name, kept⟩ := entry
      by_cases same : name = other
      · subst same
        simpa [List.lookup_cons, misses] using ih
      · simp only [beq_iff_eq] at ih
        simp [List.lookup_cons, same, ih]

theorem find?_erase_self (registry : Registry α) (symbol : String) :
    (registry.erase symbol).find? symbol = none := by
  simp [find?_eq_none, symbols, erase]

theorem find?_erase_other (registry : Registry α) (distinct : symbol ≠ other) :
    (registry.erase other).find? symbol = registry.find? symbol := by
  simp only [find?, erase]
  induction registry.entries with
  | nil => rfl
  | cons entry rest ih =>
    obtain ⟨name, kept⟩ := entry
    by_cases same : name = other
    · subst same
      have misses : (symbol == name) = false := by simpa using distinct
      simp [List.lookup_cons, misses, ih]
    · simp [List.lookup_cons, same, ih]

/-- A known symbol keeps its place, a new one comes last. -/
theorem symbols_put (registry : Registry α) (symbol : String) (simulation : Simulation α) :
    (registry.put symbol simulation).symbols =
      if symbol ∈ registry.symbols then registry.symbols else registry.symbols ++ [symbol] := by
  rw [put]
  split
  · rename_i absent
    rw [if_neg (find?_eq_none.mp absent)]
    simp [symbols]
  · rename_i found
    have known : symbol ∈ registry.symbols := by
      by_contra missing
      rw [find?_eq_none.mpr missing] at found
      cases found
    rw [if_pos known, symbols, symbols, List.map_map]
    refine List.map_congr_left fun entry _ => ?_
    simp only [Function.comp_apply]
    split
    · rename_i same
      exact (beq_iff_eq.mp same).symm
    · rfl

theorem forall_mem_put {holds : String × Simulation α → Prop}
    (kept : ∀ entry ∈ registry.entries, holds entry) {simulation : Simulation α}
    (new : holds (symbol, simulation)) :
    ∀ entry ∈ (registry.put symbol simulation).entries, holds entry := by
  rw [put]
  split
  · intro entry member
    obtain old | last := List.mem_append.mp member
    · exact kept entry old
    · rwa [List.mem_singleton.mp last]
  · intro entry member
    obtain ⟨earlier, listed, rfl⟩ := List.mem_map.mp member
    split
    · exact new
    · exact kept earlier listed

theorem nodup_put (distinct : registry.symbols.Nodup) (symbol : String)
    (simulation : Simulation α) : (registry.put symbol simulation).symbols.Nodup := by
  rw [symbols_put]
  split
  · exact distinct
  · rename_i fresh
    refine List.nodup_append.mpr ⟨distinct, List.nodup_singleton symbol, ?_⟩
    intro name listed last new
    rw [List.mem_singleton.mp new]
    exact ne_of_mem_of_not_mem listed fresh

theorem Tidy.put (tidy : registry.Tidy) {simulation : Simulation α}
    (runs : simulation.RunsOn symbol) : (registry.put symbol simulation).Tidy :=
  ⟨nodup_put tidy.distinct symbol simulation, forall_mem_put tidy.own runs⟩

theorem symbols_erase (registry : Registry α) (symbol : String) :
    (registry.erase symbol).symbols = registry.symbols.filter (· != symbol) := by
  rw [symbols, symbols, erase, List.filter_map]
  rfl

theorem Tidy.erase (tidy : registry.Tidy) (symbol : String) : (registry.erase symbol).Tidy := by
  refine ⟨?_, fun entry member => tidy.own entry (List.mem_filter.mp member).1⟩
  exact tidy.distinct.sublist (List.filter_sublist.map _)

end Registry

end SyntheticMarket
