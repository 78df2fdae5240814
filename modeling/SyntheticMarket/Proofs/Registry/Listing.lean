import Mathlib.Order.Bounds.Basic
import SyntheticMarket.Proofs.Registry.Isolation

/-! The symbols of a registry and their order. Each is listed with a simulation that was started and
not stopped since, and they stand in the order in which they were first started since they were last
removed. An operation that fails removes and registers all the same. -/

namespace SyntheticMarket

variable {α : Type}

/-- Something done with all simulations: a step, or that from now on these topics fail. -/
inductive Deed (α : Type) where
  | take (step : Step α)
  | fail (topics : List String)

structure Echo (α : Type) where
  events : List (Int × Event α)
  answer : Answer α

def Turn.echo (turn : Turn α) : Echo α := { events := turn.events, answer := turn.answer }

/-- What is heard of one deed after the other, and the scene after them. -/
def live {σ : Type} (act : Scene σ → Deed α → Echo α × Scene σ) (scene : Scene σ) :
    List (Deed α) → List (Echo α) × Scene σ
  | [] => ([], scene)
  | deed :: later =>
    let acted := act scene deed
    let rest := live act acted.2 later
    (acted.1 :: rest.1, rest.2)

inductive Mark where
  | started (symbol : String)
  | removed (symbols : List String)

namespace Mark

def removes (symbol : String) : Mark → Bool
  | started _ => false
  | removed symbols => symbols.contains symbol

/-- A start puts a new symbol last and moves none. -/
def apply (listed : List String) : Mark → List String
  | started symbol => if symbol ∈ listed then listed else listed ++ [symbol]
  | removed symbols => listed.filter (!symbols.contains ·)

end Mark

/-- The mark of that number starts the symbol, and none after it removes it. -/
structure Lasting (marks : List Mark) (symbol : String) (number : Nat) : Prop where
  started : marks[number]? = some (.started symbol)
  kept : ∀ mark ∈ marks.drop (number + 1), mark.removes symbol = false

/-- The symbols are those with a start that lasts, in the order of the first such start of each. -/
structure InOrder (marks : List Mark) (symbols : List String) : Prop where
  listed : ∀ symbol, symbol ∈ symbols ↔ ∃ number, Lasting marks symbol number
  ordered : symbols.Pairwise fun earlier later => ∀ first next,
    IsLeast {number | Lasting marks earlier number} first →
      IsLeast {number | Lasting marks later number} next → first < next

section Order

variable {marks : List Mark} {mark : Mark} {symbol : String} {symbols : List String} {number : Nat}

theorem Lasting.lt_length (lasting : Lasting marks symbol number) : number < marks.length :=
  (List.getElem?_eq_some_iff.mp lasting.started).1

theorem lasting_concat :
    Lasting (marks ++ [mark]) symbol number ↔
      Lasting marks symbol number ∧ mark.removes symbol = false ∨
        number = marks.length ∧ mark = .started symbol := by
  constructor
  · rintro ⟨started, kept⟩
    by_cases before : number < marks.length
    · rw [List.getElem?_append_left before] at started
      rw [List.drop_append_of_le_length before] at kept
      obtain ⟨between, last⟩ := List.forall_mem_append.mp kept
      exact .inl ⟨⟨started, between⟩, last mark (List.mem_singleton_self mark)⟩
    · rw [List.getElem?_append_right (not_lt.mp before), List.getElem?_singleton] at started
      split at started
      · exact .inr ⟨by omega, Option.some_inj.mp started⟩
      · cases started
  · rintro (⟨lasting, kept⟩ | ⟨rfl, rfl⟩)
    · have before := lasting.lt_length
      constructor
      · rw [List.getElem?_append_left before, lasting.started]
      · rw [List.drop_append_of_le_length before]
        exact List.forall_mem_append.mpr ⟨lasting.kept, List.forall_mem_singleton.mpr kept⟩
    · constructor
      · exact List.getElem?_concat_length
      · rw [List.drop_of_length_le (by simp)]
        exact fun _ absent => absurd absent List.not_mem_nil

/-- While a symbol stays listed its first lasting start stays the same. -/
theorem isLeast_of_concat (listed : ∃ earlier, Lasting marks symbol earlier)
    (kept : mark.removes symbol = false)
    (least : IsLeast {number | Lasting (marks ++ [mark]) symbol number} number) :
    IsLeast {number | Lasting marks symbol number} number := by
  obtain ⟨among, lower⟩ := least
  have lower' : ∀ earlier, Lasting marks symbol earlier → number ≤ earlier :=
    fun earlier lasting => lower (lasting_concat.mpr (.inl ⟨lasting, kept⟩))
  refine ⟨?_, lower'⟩
  obtain ⟨lasting, _⟩ | ⟨last, _⟩ := lasting_concat.mp among
  · exact lasting
  · obtain ⟨earlier, lasting⟩ := listed
    have before := lasting.lt_length
    have after := lower' earlier lasting
    omega

theorem InOrder.nil : InOrder [] [] := by
  refine ⟨fun symbol => ?_, .nil⟩
  constructor
  · exact fun absent => absurd absent List.not_mem_nil
  · rintro ⟨number, lasting⟩
    exact absurd lasting.lt_length (Nat.not_lt_zero number)

theorem InOrder.ordered_concat (order : InOrder marks symbols) {kept : List String}
    (among : kept.Sublist symbols) (stay : ∀ symbol ∈ kept, mark.removes symbol = false) :
    kept.Pairwise fun earlier later => ∀ first next,
      IsLeast {number | Lasting (marks ++ [mark]) earlier number} first →
        IsLeast {number | Lasting (marks ++ [mark]) later number} next → first < next := by
  refine (order.ordered.sublist among).imp_of_mem ?_
  intro earlier later member member' ordered first next least least'
  have listed := (order.listed earlier).mp (among.subset member)
  have listed' := (order.listed later).mp (among.subset member')
  exact ordered first next (isLeast_of_concat listed (stay earlier member) least)
    (isLeast_of_concat listed' (stay later member') least')

theorem InOrder.started (order : InOrder marks symbols) (symbol : String) :
    InOrder (marks ++ [.started symbol]) ((Mark.started symbol).apply symbols) := by
  have stay : ∀ other ∈ symbols, (Mark.started symbol).removes other = false := fun _ _ => rfl
  have ordered := order.ordered_concat (.refl symbols) stay
  rw [Mark.apply]
  split
  · rename_i known
    refine ⟨fun other => ?_, ordered⟩
    simp only [lasting_concat, Mark.removes, and_true, Mark.started.injEq, exists_or,
      ← order.listed]
    constructor
    · exact .inl
    · rintro (listed | ⟨_, _, rfl⟩)
      · exact listed
      · exact known
  · rename_i fresh
    constructor
    · intro other
      simp only [lasting_concat, Mark.removes, and_true, Mark.started.injEq, exists_or,
        ← order.listed, exists_eq_left, List.mem_append, List.mem_singleton, eq_comm]
    · refine List.pairwise_append.mpr ⟨ordered, List.pairwise_singleton _ _, ?_⟩
      intro earlier member later last first next least least'
      rw [List.mem_singleton.mp last] at least'
      have before : first < marks.length :=
        (isLeast_of_concat ((order.listed earlier).mp member) rfl least).1.lt_length
      obtain ⟨lasting, _⟩ | ⟨new, _⟩ := lasting_concat.mp least'.1
      · exact absurd ((order.listed symbol).mpr ⟨next, lasting⟩) fresh
      · rwa [new]

theorem InOrder.removed (order : InOrder marks symbols) (gone : List String) :
    InOrder (marks ++ [.removed gone]) ((Mark.removed gone).apply symbols) := by
  have stay : ∀ symbol, symbol ∈ (Mark.removed gone).apply symbols ↔
      symbol ∈ symbols ∧ (Mark.removed gone).removes symbol = false := by
    intro symbol
    simp [Mark.apply, Mark.removes]
  constructor
  · intro symbol
    simp only [stay, order.listed, lasting_concat, reduceCtorEq, and_false, or_false,
      exists_and_right]
  · exact order.ordered_concat List.filter_sublist fun symbol member => ((stay symbol).mp member).2

theorem InOrder.concat (order : InOrder marks symbols) (mark : Mark) :
    InOrder (marks ++ [mark]) (mark.apply symbols) := by
  cases mark with
  | started symbol => exact order.started symbol
  | removed gone => exact order.removed gone

end Order

namespace Simulation

variable [PriceScale α] {simulation : Simulation α} {clock : Clock} {outage : Outage}

theorem tick_topic (simulation : Simulation α) (reading : Int) (outage : Outage) :
    ∀ event ∈ (simulation.tick reading outage).events, event.topic = Event.tickTopic := by
  rw [tick]
  split
  · exact fun _ absent => absurd absent List.not_mem_nil
  · rw [Outage.publish]
    split
    · exact fun _ absent => absurd absent List.not_mem_nil
    · exact List.forall_mem_singleton.mpr rfl

theorem fire_topic (simulation : Simulation α) (interval : Span) (due : Int) (clock : Clock)
    (outage : Outage) :
    ∀ event ∈ (simulation.fire interval due clock outage).1, event.topic = Event.tickTopic := by
  have ticked := simulation.tick_topic (clock.offset + due) outage
  rw [fire]
  split <;> exact ticked

/-- A timer publishes ticks and nothing else. -/
theorem fireTimes_topic (clock : Clock) (outage : Outage) (count : Nat) (simulation : Simulation α) :
    ∀ event ∈ (fireTimes clock outage count simulation).1, event.2.topic = Event.tickTopic := by
  induction count generalizing simulation with
  | zero => exact fun _ absent => absurd absent List.not_mem_nil
  | succ count ih =>
    rw [fireTimes]
    split
    · refine List.forall_mem_append.mpr ⟨List.forall_mem_map.mpr ?_, ih _⟩
      exact simulation.fire_topic _ _ clock outage
    · exact fun _ absent => absurd absent List.not_mem_nil

end Simulation

namespace Simulation

variable {simulation : Simulation α}

/-- Whether there is a timer to stop, be it running or broken. -/
def hasTimer (simulation : Simulation α) : Bool :=
  match simulation.run with
  | none => false
  | some run => run.timer != .stopped

def terms (simulation : Simulation α) : Option (Config α) × Bool :=
  (simulation.config, simulation.hasTimer)

/-- If stops cannot be published, a stop fails exactly if there is a timer. -/
theorem stop_blocked {outage : Outage}
    (blocked : outage.topics.contains Event.stoppedTopic = true) (simulation : Simulation α) :
    (simulation.stop outage).answer =
      if simulation.hasTimer then .error (.unpublished outage.failure) else .ok false := by
  obtain ⟨_ | ⟨session, timer⟩, resets, lastFailure⟩ := simulation
  · rfl
  · cases timer with
    | stopped => rfl
    | running due => exact congrArg Outcome.answer (Outage.publish_blocked blocked _ _)
    | broken => exact congrArg Outcome.answer (Outage.publish_blocked blocked _ _)

variable [PriceScale α]

theorem terms_start (simulation : Simulation α) (config : Config α) (clock : Clock)
    (outage : Outage) :
    (simulation.start config clock outage).state.terms =
      (some config, config.interval.isTimeable) := by
  rw [start_state]
  cases timeable : config.interval.isTimeable with
  | true =>
    rw [Timer.set_timeable timeable]
    rfl
  | false =>
    rw [Timer.set_untimeable timeable]
    rfl

theorem terms_tick (simulation : Simulation α) (reading : Int) (outage : Outage) :
    (simulation.tick reading outage).state.terms = simulation.terms := by
  obtain ⟨_ | ⟨session, timer⟩, resets, lastFailure⟩ := simulation
  · rfl
  · rw [tick_state]
    exact Prod.ext (congrArg some (session.tick_config reading)) rfl

/-- A timer that ends is still there to be stopped. -/
theorem terms_fireTimes (clock : Clock) (outage : Outage) (count : Nat)
    (simulation : Simulation α) :
    (fireTimes clock outage count simulation).2.terms = simulation.terms := by
  induction count generalizing simulation with
  | zero => rfl
  | succ count ih =>
    obtain ⟨_ | ⟨session, timer⟩, resets, lastFailure⟩ := simulation
    · rfl
    · cases timer with
      | stopped => rfl
      | broken => rfl
      | running due =>
        have kept := congrArg some (session.tick_config (clock.offset + due))
        rw [fireTimes_running]
        refine (ih _).trans ?_
        cases blocked : outage.topics.contains Event.tickTopic with
        | true =>
          rw [fire_blocked blocked]
          exact Prod.ext kept rfl
        | false =>
          rw [fire_open blocked]
          exact Prod.ext kept rfl

end Simulation

namespace Registry

variable {registry : Registry α} {symbol : String}

def fromTimer (registry : Registry α) : List (String × Simulation α) :=
  registry.entries.dropWhile (!·.2.hasTimer)

/-- What a deed is to the symbols of a registry. To stop all is to remove all, or, if stops cannot be
published, all up to the first one with a timer. -/
def mark (scene : Scene (Registry α)) : Deed α → Mark
  | .take (.start config) => .started config.symbol
  | .take (.stop symbol) => .removed [symbol]
  | .take .stopAll =>
    .removed
      (if scene.outage.topics.contains Event.stoppedTopic then
        scene.subject.symbols.take
          (scene.subject.entries.length - scene.subject.fromTimer.tail.length)
      else scene.subject.symbols)
  | _ => .removed []

/-- Every symbol is listed once, with a simulation of its own market that was started and not stopped
since, so that it has a timer if one can be set to its interval. -/
structure Staffed (registry : Registry α) : Prop extends registry.Tidy where
  terms : ∀ entry ∈ registry.entries, ∃ config, config.symbol = entry.1 ∧
    entry.2.terms = (some config, config.interval.isTimeable)

theorem empty_staffed : (empty : Registry α).Staffed :=
  ⟨empty_tidy, fun _ absent => absurd absent List.not_mem_nil⟩

theorem Staffed.symbol_config (staffed : registry.Staffed) :
    ∀ entry ∈ registry.entries, entry.2.config.map (·.symbol) = some entry.1 := by
  intro entry listed
  obtain ⟨config, own, terms⟩ := staffed.terms entry listed
  rw [show entry.2.config = some config from congrArg Prod.fst terms, Option.map_some, own]

theorem Staffed.timeable_config (staffed : registry.Staffed) :
    ∀ entry ∈ registry.entries,
      entry.2.config.map (·.interval.isTimeable) = some entry.2.hasTimer := by
  intro entry listed
  obtain ⟨config, _, terms⟩ := staffed.terms entry listed
  obtain ⟨same, timer⟩ := Prod.mk.inj terms
  rw [same, Option.map_some, timer]

theorem Staffed.stop (staffed : registry.Staffed) (symbol : String) (outage : Outage) :
    (registry.stop symbol outage).state.Staffed := by
  refine ⟨staffed.toTidy.stop symbol outage, ?_⟩
  rw [Registry.stop]
  split
  · exact staffed.terms
  · exact fun entry member => staffed.terms entry (List.mem_filter.mp member).1

theorem Staffed.stopEach (staffed : registry.Staffed) (outage : Outage) (list : List String) :
    (stopEach outage list registry).state.Staffed :=
  stopEach_keeps (fun _ symbol kept => kept.stop symbol outage) staffed list

theorem symbols_stop (registry : Registry α) (symbol : String) (outage : Outage) :
    (registry.stop symbol outage).state.symbols =
      (Mark.removed [symbol]).apply registry.symbols := by
  have same : (Mark.removed [symbol]).apply registry.symbols =
      registry.symbols.filter (· != symbol) :=
    List.filter_congr fun other _ => by
      rw [List.contains_cons, List.contains_nil, Bool.or_false, bne]
  rw [same, Registry.stop]
  split
  · rename_i absent
    refine (List.filter_eq_self.mpr fun other member => ?_).symm
    exact bne_iff_ne.mpr (ne_of_mem_of_not_mem member (find?_eq_none.mp absent))
  · exact symbols_erase registry symbol

theorem symbols_eq_nil : registry.symbols = [] ↔ registry.entries = [] := List.map_eq_nil_iff

/-- Without its first symbol a registry is what comes after it. -/
theorem erase_first {first : String × Simulation α} {others : List (String × Simulation α)}
    (distinct : (symbols ⟨first :: others⟩).Nodup) :
    erase ⟨first :: others⟩ first.1 = ⟨others⟩ := by
  rw [symbols, List.map_cons, List.nodup_cons] at distinct
  rw [erase, List.filter_cons_of_neg (by simp), List.filter_eq_self.mpr]
  intro entry member
  rw [bne_iff_ne]
  rintro same
  exact distinct.1 (same ▸ List.mem_map_of_mem member)

/-- If stops cannot be published, stopping all breaks off at the first simulation with a timer, which
is removed. -/
theorem stopAll_blocked {outage : Outage}
    (blocked : outage.topics.contains Event.stoppedTopic = true)
    (distinct : registry.symbols.Nodup) :
    (registry.stopAll outage).state.entries = registry.fromTimer.tail ∧
      (registry.stopAll outage).answer =
        if registry.fromTimer = [] then .ok () else .error (.unpublished outage.failure) := by
  obtain ⟨entries⟩ := registry
  induction entries with
  | nil => exact ⟨rfl, rfl⟩
  | cons first others ih =>
    obtain ⟨name, simulation⟩ := first
    have found : find? ⟨(name, simulation) :: others⟩ name = some simulation := by
      simp [find?]
    have stopped : (Registry.stop ⟨(name, simulation) :: others⟩ name outage).answer =
        (simulation.stop outage).answer := by
      rw [Registry.stop, found]
    have left : (Registry.stop ⟨(name, simulation) :: others⟩ name outage).state = ⟨others⟩ := by
      rw [Registry.stop, found]
      exact erase_first distinct
    rw [simulation.stop_blocked blocked] at stopped
    rw [stopAll, symbols, List.map_cons, stopEach, stopped, left, fromTimer]
    cases timed : simulation.hasTimer with
    | true =>
      rw [List.dropWhile_cons_of_neg (by simp [timed])]
      exact ⟨rfl, rfl⟩
    | false =>
      rw [List.dropWhile_cons_of_pos (by simp [timed])]
      exact ih (List.nodup_cons.mp distinct).2

theorem fromTimer_tail_eq (registry : Registry α) :
    registry.fromTimer.tail =
      registry.entries.drop (registry.entries.length - registry.fromTimer.tail.length) := by
  have suffix : registry.fromTimer.tail <:+ registry.entries :=
    (List.tail_suffix _).trans (List.dropWhile_suffix _)
  exact List.suffix_iff_eq_drop.mp suffix

/-- Of symbols that are all different, those without the first ones are the rest. -/
theorem apply_take {listed : List String} (distinct : listed.Nodup) (count : Nat) :
    (Mark.removed (listed.take count)).apply listed = listed.drop count := by
  conv_lhs => rw [Mark.apply, ← List.take_append_drop count listed]
  rw [← List.take_append_drop count listed] at distinct
  obtain ⟨_, _, apart⟩ := List.nodup_append.mp distinct
  rw [List.filter_append, List.filter_eq_nil_iff.mpr, List.filter_eq_self.mpr, List.nil_append]
  · intro symbol kept
    simpa using fun gone => apart symbol gone symbol kept rfl
  · intro symbol gone
    simpa using gone

theorem symbols_stopAll (distinct : registry.symbols.Nodup) (outage : Outage) :
    (registry.stopAll outage).state.symbols =
      (Mark.removed
        (if outage.topics.contains Event.stoppedTopic then
          registry.symbols.take (registry.entries.length - registry.fromTimer.tail.length)
        else registry.symbols)).apply registry.symbols := by
  split
  · rename_i blocked
    rw [apply_take distinct, symbols, symbols, ← List.map_drop, ← fromTimer_tail_eq,
      (stopAll_blocked blocked distinct).1]
  · rename_i opened
    have none : (registry.stopAll outage).state.symbols = [] := by
      refine List.eq_nil_iff_forall_not_mem.mpr fun symbol => ?_
      exact find?_eq_none.mp (find?_stopAll (Bool.eq_false_iff.mpr opened) registry symbol)
    rw [none]
    exact (List.filter_eq_nil_iff.mpr fun symbol listed => by simpa using listed).symm

variable [PriceScale α]

theorem Staffed.start (staffed : registry.Staffed) (config : Config α) (clock : Clock)
    (outage : Outage) : (registry.start config clock outage).state.Staffed :=
  ⟨staffed.toTidy.start config clock outage,
    forall_mem_put staffed.terms ⟨config, rfl, Simulation.terms_start _ config clock outage⟩⟩

theorem Staffed.tick (staffed : registry.Staffed) (symbol : String) (clock : Clock)
    (outage : Outage) : (registry.tick symbol clock outage).state.Staffed := by
  refine ⟨staffed.toTidy.tick symbol clock outage, ?_⟩
  rw [Registry.tick]
  split
  · exact staffed.terms
  · rename_i simulation found
    obtain ⟨config, own, terms⟩ := staffed.terms _ (mem_of_find? found)
    have kept := (simulation.terms_tick clock.reading outage).trans terms
    exact forall_mem_put staffed.terms ⟨config, own, kept⟩

theorem symbols_tick (registry : Registry α) (symbol : String) (clock : Clock) (outage : Outage) :
    (registry.tick symbol clock outage).state.symbols = registry.symbols := by
  rw [Registry.tick]
  split
  · rfl
  · rename_i simulation found
    have listed : symbol ∈ registry.symbols := List.mem_map_of_mem (mem_of_find? found)
    exact (symbols_put ..).trans (if_pos listed)

theorem Staffed.pass (staffed : registry.Staffed) (ms : Int) (clock : Clock) (outage : Outage) :
    (registry.pass ms clock outage).2.Staffed := by
  refine ⟨staffed.toTidy.pass ms clock outage, ?_⟩
  intro entry member
  obtain ⟨passed, among, rfl⟩ := List.mem_map.mp member
  obtain ⟨earlier, listed, rfl⟩ := List.mem_map.mp among
  obtain ⟨config, own, terms⟩ := staffed.terms earlier listed
  exact ⟨config, own, (Simulation.terms_fireTimes clock outage _ _).trans terms⟩

theorem symbols_pass (registry : Registry α) (ms : Int) (clock : Clock) (outage : Outage) :
    (registry.pass ms clock outage).2.symbols = registry.symbols := by
  simp only [Registry.pass, symbols, List.map_map, Function.comp_def]

/-- The timers publish ticks of the listed symbols and nothing else. -/
theorem Tidy.pass_ticks (tidy : registry.Tidy) (ms : Int) (clock : Clock) (outage : Outage) :
    ∀ event ∈ (registry.pass ms clock outage).1,
      event.2.topic = Event.tickTopic ∧ event.2.symbol ∈ registry.symbols := by
  intro event member
  obtain ⟨passed, among, told⟩ := List.mem_flatMap.mp (List.mem_mergeSort.mp member)
  obtain ⟨entry, listed, rfl⟩ := List.mem_map.mp among
  obtain ⟨_, chronicle⟩ := Simulation.pass_chronicle (tidy.own entry listed) ms clock outage
  refine ⟨Simulation.fireTimes_topic clock outage _ _ event told, ?_⟩
  rw [chronicle.own event told]
  exact List.mem_map_of_mem listed

def act (scene : Scene (Registry α)) : Deed α → Echo α × Scene (Registry α)
  | .take step =>
    let taken := turn scene step
    (taken.echo, taken.scene)
  | .fail topics => ({ events := [], answer := .passed }, scene.fail topics)

/-- What each of some deeds is to the symbols, at the time at which it is done. -/
def marks (scene : Scene (Registry α)) : List (Deed α) → List Mark
  | [] => []
  | deed :: later => mark scene deed :: marks (act scene deed).2 later

variable {scene : Scene (Registry α)}

theorem Staffed.act (staffed : scene.subject.Staffed) (deed : Deed α) :
    (act scene deed).2.subject.Staffed := by
  cases deed with
  | take step =>
    cases step with
    | start config => exact staffed.start config _ _
    | stop symbol => exact staffed.stop symbol _
    | stopAll => exact staffed.stopEach _ _
    | tick symbol => exact staffed.tick symbol _ _
    | pass ms => exact staffed.pass ms _ _
    | setClock reading => exact staffed
  | fail topics => exact staffed

theorem Staffed.symbols_act (staffed : scene.subject.Staffed) (deed : Deed α) :
    (Registry.act scene deed).2.subject.symbols = (mark scene deed).apply scene.subject.symbols := by
  have same : scene.subject.symbols = (Mark.removed []).apply scene.subject.symbols :=
    (List.filter_eq_self.mpr fun _ _ => rfl).symm
  cases deed with
  | take step =>
    cases step with
    | start config => exact symbols_put ..
    | stop symbol => exact symbols_stop ..
    | stopAll => exact symbols_stopAll staffed.distinct scene.outage
    | tick symbol => exact (symbols_tick ..).trans same
    | pass ms => exact (symbols_pass ..).trans same
    | setClock reading => exact same
  | fail topics => exact same

/-- The symbols are in order after a run if they were before. -/
theorem Staffed.live {past : List Mark} (staffed : scene.subject.Staffed)
    (order : InOrder past scene.subject.symbols) (deeds : List (Deed α)) :
    (live Registry.act scene deeds).2.subject.Staffed ∧
      InOrder (past ++ marks scene deeds)
        (live Registry.act scene deeds).2.subject.symbols := by
  induction deeds generalizing scene past with
  | nil => exact ⟨staffed, (List.append_nil past).symm ▸ order⟩
  | cons deed later ih =>
    have next := order.concat (mark scene deed)
    rw [← staffed.symbols_act deed] at next
    obtain ⟨kept, ordered⟩ := ih (staffed.act deed) next
    rw [List.append_assoc] at ordered
    exact ⟨kept, ordered⟩

end Registry

end SyntheticMarket
