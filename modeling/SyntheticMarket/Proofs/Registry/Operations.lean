import Mathlib.Data.Int.Order.Basic
import Mathlib.Data.String.Basic
import SyntheticMarket.Proofs.Registry.Entries
import SyntheticMarket.Proofs.Simulation.Machine

/-! One symbol among many. An operation publishes about its own symbol only and leaves all others as
they are; where it concerns all symbols, one symbol's part of it is found from that symbol alone. -/

namespace SyntheticMarket

variable {α : Type}

def about (symbol : String) (events : List (Int × Event α)) : List (Int × Event α) :=
  events.filter (·.2.symbol == symbol)

section About

variable {symbol other : String} {events : List (Int × Event α)}

theorem about_append (symbol : String) (earlier later : List (Int × Event α)) :
    about symbol (earlier ++ later) = about symbol earlier ++ about symbol later :=
  List.filter_append ..

theorem about_own (own : ∀ event ∈ events, event.2.symbol = symbol) :
    about symbol events = events :=
  List.filter_eq_self.mpr fun event member => beq_iff_eq.mpr (own event member)

theorem about_other (own : ∀ event ∈ events, event.2.symbol = other) (distinct : symbol ≠ other) :
    about symbol events = [] := by
  refine List.filter_eq_nil_iff.mpr fun event member => ?_
  rw [own event member, beq_iff_eq]
  exact Ne.symm distinct

end About

namespace Registry

theorem notAfter_total (left right : Int × Event α) :
    (notAfter left right || notAfter right left) = true := by
  simp only [notAfter, Bool.or_eq_true, Bool.and_eq_true, decide_eq_true_eq, beq_iff_eq,
    Bool.not_eq_true', decide_eq_false_iff_not]
  obtain earlier | same | later := lt_trichotomy left.1 right.1
  · exact .inl (.inl earlier)
  · obtain ascending | descending := le_total left.2.symbol right.2.symbol
    · exact .inl (.inr ⟨same, not_lt.mpr ascending⟩)
    · exact .inr (.inr ⟨same.symm, not_lt.mpr descending⟩)
  · exact .inr (.inl later)

theorem notAfter_trans (first second third : Int × Event α)
    (left : notAfter first second = true) (right : notAfter second third = true) :
    notAfter first third = true := by
  simp only [notAfter, Bool.or_eq_true, Bool.and_eq_true, decide_eq_true_eq, beq_iff_eq,
    Bool.not_eq_true', decide_eq_false_iff_not, not_lt] at left right ⊢
  obtain before | ⟨same, ascending⟩ := left
  · obtain before' | ⟨same', _⟩ := right
    · exact .inl (before.trans before')
    · exact .inl (same' ▸ before)
  · obtain before' | ⟨same', ascending'⟩ := right
    · exact .inl (same ▸ before')
    · exact .inr ⟨same.trans same', ascending.trans ascending'⟩

theorem notAfter_of_le {symbol : String} {left right : Int × Event α} (before : left.1 ≤ right.1)
    (leftOwn : left.2.symbol = symbol) (rightOwn : right.2.symbol = symbol) :
    notAfter left right = true := by
  obtain earlier | same := before.lt_or_eq
  · simp [notAfter, earlier]
  · simp [notAfter, same, leftOwn, rightOwn]

/-- Sorting leaves the events about one symbol as they are if they are in the order of time. -/
theorem about_mergeSort {symbol : String} {events : List (Int × Event α)}
    (ordered : (about symbol events).Pairwise fun earlier later => earlier.1 ≤ later.1) :
    about symbol (events.mergeSort notAfter) = about symbol events := by
  have sorted : (about symbol events).Pairwise fun earlier later => notAfter earlier later := by
    refine ordered.imp_of_mem fun left right before => ?_
    exact notAfter_of_le before (beq_iff_eq.mp (List.mem_filter.mp left).2)
      (beq_iff_eq.mp (List.mem_filter.mp right).2)
  -- The sort is stable, so what is in order stays a sublist; it is as long as what it is part of.
  have kept : (about symbol events).Sublist (events.mergeSort notAfter) :=
    List.sublist_mergeSort notAfter_trans notAfter_total sorted List.filter_sublist
  have among : (about symbol events).Sublist (about symbol (events.mergeSort notAfter)) := by
    have filtered := kept.filter (·.2.symbol == symbol)
    simpa only [about, List.filter_filter, Bool.and_self] using filtered
  have counted := ((List.mergeSort_perm events notAfter).filter (·.2.symbol == symbol)).length_eq
  exact (among.eq_of_length counted.symm).symm

/-- Of many that publish each about their own symbol, one symbol's events come from one of them. -/
theorem about_flatMap {γ : Type} (symbol : String) {entries : List (String × γ)}
    (told : γ → List (Int × Event α)) (distinct : (entries.map (·.1)).Nodup)
    (own : ∀ entry ∈ entries, ∀ event ∈ told entry.2, event.2.symbol = entry.1) :
    about symbol (entries.flatMap fun entry => told entry.2) =
      (entries.lookup symbol).elim [] told := by
  induction entries with
  | nil => rfl
  | cons entry rest ih =>
    obtain ⟨name, kept⟩ := entry
    obtain ⟨here, there⟩ := List.forall_mem_cons.mp own
    obtain ⟨fresh, others⟩ := List.nodup_cons.mp distinct
    rw [List.flatMap_cons, about_append, ih others there]
    by_cases same : symbol = name
    · subst same
      have absent : rest.lookup symbol = none := by
        rw [List.lookup_eq_none_iff]
        intro listed member
        rw [bne_iff_ne]
        intro again
        exact fresh (List.mem_map.mpr ⟨listed, member, again.symm⟩)
      simp [about_own here, absent]
    · have misses : (symbol == name) = false := by simpa using same
      simp [about_other here same, List.lookup_cons, misses]

structure Agree {ρ : Type} (symbol : String) (left right : Outcome (Registry α) α ρ) : Prop where
  events : left.events = right.events
  answer : left.answer = right.answer
  found : left.state.find? symbol = right.state.find? symbol

section Stop

variable {registry : Registry α} {outage : Outage} {symbol other : String}

theorem find?_stop_self (registry : Registry α) (symbol : String) (outage : Outage) :
    (registry.stop symbol outage).state.find? symbol = none := by
  rw [stop]
  split
  · assumption
  · exact registry.find?_erase_self symbol

theorem find?_stop_other (registry : Registry α) (outage : Outage) (distinct : symbol ≠ other) :
    (registry.stop other outage).state.find? symbol = registry.find? symbol := by
  rw [stop]
  split
  · rfl
  · exact registry.find?_erase_other distinct

/-- What each stop keeps is kept also when the stops break off. -/
theorem stopEach_keeps {holds : Registry α → Prop}
    (kept : ∀ registry symbol, holds registry → holds (registry.stop symbol outage).state)
    (start : holds registry) (list : List String) : holds (stopEach outage list registry).state := by
  induction list generalizing registry with
  | nil => exact start
  | cons first others ih =>
    have stopped := kept registry first start
    rw [stopEach]
    split
    · exact stopped
    · exact ih stopped

theorem Tidy.stop (tidy : registry.Tidy) (symbol : String) (outage : Outage) :
    (registry.stop symbol outage).state.Tidy := by
  rw [Registry.stop]
  split
  · exact tidy
  · exact tidy.erase symbol

theorem Tidy.stop_own (tidy : registry.Tidy) (symbol : String) (outage : Outage) :
    ∀ event ∈ (registry.stop symbol outage).events, event.symbol = symbol := by
  rw [Registry.stop]
  split
  · exact fun _ absent => absurd absent List.not_mem_nil
  · rename_i simulation found
    exact (Simulation.stop_staysOn (tidy.runsOn found) outage).events

theorem Tidy.stopEach (tidy : registry.Tidy) (outage : Outage) (list : List String) :
    (stopEach outage list registry).state.Tidy :=
  stopEach_keeps (fun _ symbol kept => kept.stop symbol outage) tidy list

theorem stop_events_of_absent (absent : registry.find? symbol = none) (outage : Outage) :
    (registry.stop symbol outage).events = [] := by
  rw [stop, absent]

theorem stop_agree {left right : Registry α}
    (found : left.find? symbol = right.find? symbol) (outage : Outage) :
    Agree symbol (left.stop symbol outage) (right.stop symbol outage) := by
  refine ⟨?_, ?_, by rw [find?_stop_self, find?_stop_self]⟩
  · rw [stop, stop, found]
    split <;> rfl
  · rw [stop, stop, found]
    split <;> rfl

/-! Below a stop can be published, so that stopping all does not break off. -/

variable (opened : outage.topics.contains Event.stoppedTopic = false)
include opened

theorem stop_answered (registry : Registry α) (symbol : String) :
    ∃ found, (registry.stop symbol outage).answer = .ok found := by
  rw [stop]
  split
  · exact ⟨false, rfl⟩
  · simp only [Simulation.stop]
    split
    · exact ⟨false, rfl⟩
    · split
      · exact ⟨false, rfl⟩
      · exact ⟨true, by rw [Outage.publish_open opened]⟩

theorem stopEach_cons (registry : Registry α) (others : List String) :
    stopEach outage (symbol :: others) registry =
      let stopped := registry.stop symbol outage
      let rest := stopEach outage others stopped.state
      { rest with events := stopped.events ++ rest.events } := by
  obtain ⟨found, answered⟩ := stop_answered opened registry symbol
  rw [stopEach, answered]

theorem find?_stopEach (registry : Registry α) (symbol : String) (list : List String) :
    (Registry.stopEach outage list registry).state.find? symbol =
      if symbol ∈ list then none else registry.find? symbol := by
  induction list generalizing registry with
  | nil => rfl
  | cons first others ih =>
    rw [stopEach_cons opened]
    simp only [ih, List.mem_cons]
    by_cases same : symbol = first
    · subst same
      simp [find?_stop_self]
    · simp [same, find?_stop_other _ _ same]

theorem about_stopEach (tidy : registry.Tidy) (time : Int) (symbol : String)
    (list : List String) :
    about symbol ((Registry.stopEach outage list registry).events.map (time, ·)) =
      if symbol ∈ list then (registry.stop symbol outage).events.map (time, ·) else [] := by
  induction list generalizing registry with
  | nil => rfl
  | cons first others ih =>
    have own : ∀ event ∈ (registry.stop first outage).events.map (time, ·),
        event.2.symbol = first :=
      List.forall_mem_map.mpr (tidy.stop_own first outage)
    rw [stopEach_cons opened, List.map_append, about_append, ih (tidy.stop first outage)]
    by_cases same : symbol = first
    · subst same
      have silent := stop_events_of_absent (registry.find?_stop_self symbol outage) outage
      simp [about_own own, silent]
    · have unchanged := (stop_agree (registry.find?_stop_other outage same) outage).events
      simp [about_other own same, same, unchanged]

/-- Stopping all stops each symbol and forgets it. -/
theorem find?_stopAll (registry : Registry α) (symbol : String) :
    (registry.stopAll outage).state.find? symbol = none := by
  rw [stopAll, find?_stopEach opened]
  split
  · rfl
  · exact find?_eq_none.mpr ‹_›

theorem about_stopAll (tidy : registry.Tidy) (time : Int) (symbol : String) :
    about symbol ((registry.stopAll outage).events.map (time, ·)) =
      (registry.stop symbol outage).events.map (time, ·) := by
  rw [stopAll, about_stopEach opened tidy]
  split
  · rfl
  · rw [stop_events_of_absent (find?_eq_none.mpr ‹_›)]
    rfl

end Stop

section Operate

variable [PriceScale α] {registry : Registry α} {symbol other : String}

theorem Tidy.start (tidy : registry.Tidy) (config : Config α) (clock : Clock) (outage : Outage) :
    (registry.start config clock outage).state.Tidy :=
  tidy.put (Simulation.start_staysOn _ config clock outage).runs

theorem start_own (registry : Registry α) (config : Config α) (clock : Clock) (outage : Outage) :
    ∀ event ∈ (registry.start config clock outage).events, event.symbol = config.symbol :=
  (Simulation.start_staysOn _ config clock outage).events

theorem start_agree {left right : Registry α} {config : Config α}
    (found : left.find? config.symbol = right.find? config.symbol) (clock : Clock)
    (outage : Outage) :
    Agree config.symbol (left.start config clock outage) (right.start config clock outage) := by
  refine ⟨?_, ?_, ?_⟩
  · rw [start, start, found]
  · rw [start, start, found]
  · rw [start, start, found, find?_put_self, find?_put_self]

theorem find?_start_other (registry : Registry α) {config : Config α} (clock : Clock)
    (outage : Outage) (distinct : symbol ≠ config.symbol) :
    (registry.start config clock outage).state.find? symbol = registry.find? symbol :=
  registry.find?_put_other _ distinct

theorem Tidy.tick (tidy : registry.Tidy) (symbol : String) (clock : Clock) (outage : Outage) :
    (registry.tick symbol clock outage).state.Tidy := by
  rw [Registry.tick]
  split
  · exact tidy
  · rename_i simulation found
    exact tidy.put (Simulation.tick_staysOn (tidy.runsOn found) clock.reading outage).runs

theorem Tidy.tick_own (tidy : registry.Tidy) (symbol : String) (clock : Clock) (outage : Outage) :
    ∀ event ∈ (registry.tick symbol clock outage).events, event.symbol = symbol := by
  rw [Registry.tick]
  split
  · exact fun _ absent => absurd absent List.not_mem_nil
  · rename_i simulation found
    exact (Simulation.tick_staysOn (tidy.runsOn found) clock.reading outage).events

theorem tick_agree {left right : Registry α} (found : left.find? symbol = right.find? symbol)
    (clock : Clock) (outage : Outage) :
    Agree symbol (left.tick symbol clock outage) (right.tick symbol clock outage) := by
  rw [tick, tick, found]
  split
  · exact ⟨rfl, rfl, found⟩
  · exact ⟨rfl, rfl, by rw [find?_put_self, find?_put_self]⟩

theorem find?_tick_other (registry : Registry α) (clock : Clock) (outage : Outage)
    (distinct : symbol ≠ other) :
    (registry.tick other clock outage).state.find? symbol = registry.find? symbol := by
  rw [tick]
  split
  · rfl
  · exact registry.find?_put_other _ distinct

end Operate

section Pass

variable [PriceScale α] {registry : Registry α} {symbol : String}

theorem Tidy.pass (tidy : registry.Tidy) (ms : Int) (clock : Clock) (outage : Outage) :
    (registry.pass ms clock outage).2.Tidy := by
  refine ⟨?_, ?_⟩
  · simpa [Registry.pass, symbols, Function.comp_def] using tidy.distinct
  · intro entry member
    obtain ⟨passed, among, rfl⟩ := List.mem_map.mp member
    obtain ⟨earlier, listed, rfl⟩ := List.mem_map.mp among
    exact Simulation.pass_runsOn (tidy.own earlier listed) ms clock outage

theorem find?_pass (registry : Registry α) (symbol : String) (ms : Int) (clock : Clock)
    (outage : Outage) :
    (registry.pass ms clock outage).2.find? symbol =
      (registry.find? symbol).map fun simulation => (simulation.pass ms clock outage).2 := by
  simp only [Registry.pass, find?]
  induction registry.entries with
  | nil => rfl
  | cons entry rest ih =>
    obtain ⟨name, kept⟩ := entry
    simp only [List.map_cons, List.lookup_cons, ih]
    split <;> rfl

/-- What all timers publish about a symbol is what its own timer publishes. -/
theorem about_pass (tidy : registry.Tidy) (symbol : String) (ms : Int) (clock : Clock)
    (outage : Outage) :
    about symbol (registry.pass ms clock outage).1 =
      (registry.find? symbol).elim [] fun simulation => (simulation.pass ms clock outage).1 := by
  have chronicle : ∀ entry ∈ registry.entries, ∃ bound,
      Simulation.Chronicle entry.1 bound (entry.2.pass ms clock outage).1 :=
    fun entry listed => Simulation.pass_chronicle (tidy.own entry listed) ms clock outage
  have unsorted := about_flatMap symbol (fun simulation => (simulation.pass ms clock outage).1)
    tidy.distinct fun entry listed => (chronicle entry listed).elim fun _ told => told.own
  have ordered : ((registry.find? symbol).elim [] fun simulation =>
      (simulation.pass ms clock outage).1).Pairwise fun earlier later => earlier.1 ≤ later.1 := by
    cases found : registry.find? symbol with
    | none => exact .nil
    | some simulation =>
      obtain ⟨_, told⟩ := chronicle _ (mem_of_find? found)
      exact told.ordered
  rw [find?, ← unsorted] at ordered
  rw [Registry.pass, List.flatMap_map, about_mergeSort ordered, unsorted, find?]

end Pass

end Registry

end SyntheticMarket
