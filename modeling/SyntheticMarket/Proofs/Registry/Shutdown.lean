import SyntheticMarket.Proofs.Registry.Bureau

/-! All simulations stopped at once. Where stops can be published nothing is left: no symbol is
listed, no task is asleep, and nothing is heard until the next start. Where they cannot, the first
stop of a timer is the last one that is made, and every later simulation keeps its symbol and its
timer. -/

namespace SyntheticMarket

variable {α : Type}

def Deed.starts : Deed α → Bool
  | .take (.start _) => true
  | _ => false

namespace Registry

variable {registry : Registry α} {scene : Scene (Registry α)}

theorem answer_stopEach {outage : Outage}
    (opened : outage.topics.contains Event.stoppedTopic = false) (registry : Registry α)
    (list : List String) : (stopEach outage list registry).answer = .ok () := by
  induction list generalizing registry with
  | nil => rfl
  | cons first others ih =>
    rw [stopEach_cons opened]
    exact ih _

theorem stopAll_open {outage : Outage}
    (opened : outage.topics.contains Event.stoppedTopic = false) (registry : Registry α) :
    (registry.stopAll outage).state.entries = [] ∧ (registry.stopAll outage).answer = .ok () := by
  refine ⟨symbols_eq_nil.mp (List.eq_nil_iff_forall_not_mem.mpr fun symbol => ?_), ?_⟩
  · exact find?_eq_none.mp (find?_stopAll opened registry symbol)
  · exact answer_stopEach opened registry _

variable [PriceScale α]

/-- An empty registry stays empty and publishes nothing until something is started. -/
theorem act_empty (empty : scene.subject.entries = []) {deed : Deed α}
    (unstarted : deed.starts = false) :
    (act scene deed).1.events = [] ∧ (act scene deed).2.subject.entries = [] := by
  obtain ⟨clock, outage, ⟨entries⟩⟩ := scene
  obtain rfl : entries = [] := empty
  cases deed with
  | take step =>
    cases step with
    | start config => cases unstarted
    | stop symbol => exact ⟨rfl, rfl⟩
    | stopAll => exact ⟨rfl, rfl⟩
    | tick symbol => exact ⟨rfl, rfl⟩
    | pass ms => exact ⟨List.mergeSort_nil, rfl⟩
    | setClock reading => exact ⟨rfl, rfl⟩
  | fail topics => exact ⟨rfl, rfl⟩

theorem live_empty (empty : scene.subject.entries = []) {deeds : List (Deed α)}
    (unstarted : ∀ deed ∈ deeds, deed.starts = false) :
    ∀ echo ∈ (live act scene deeds).1, echo.events = [] := by
  induction deeds generalizing scene with
  | nil => exact fun _ absent => absurd absent List.not_mem_nil
  | cons deed later ih =>
    obtain ⟨first, rest⟩ := List.forall_mem_cons.mp unstarted
    obtain ⟨silent, still⟩ := act_empty empty first
    exact List.forall_mem_cons.mpr ⟨silent, ih still rest⟩

end Registry

namespace Bureau

open Machine (SceneAlike)

/-- The tasks that are asleep, of the listed simulations and of all that are listed no longer. -/
def asleep (bureau : Bureau α) : List (Nat × Int) :=
  bureau.listed.flatMap (·.2.asleep) ++ bureau.removed.flatMap Roster.asleep

/-- As many tasks are asleep as simulations are running. -/
theorem Seen.length_asleep {bureau : Bureau α} {registry : Registry α}
    (seen : Seen bureau registry) :
    bureau.asleep.length = registry.entries.countP (·.2.isRunning) := by
  have ended : bureau.removed.flatMap Roster.asleep = [] :=
    List.flatMap_eq_nil_iff.mpr fun roster among => Roster.asleep_ended (seen.removed roster among)
  rw [asleep, ended, List.append_nil]
  obtain ⟨entries⟩ := registry
  obtain ⟨listed, removed⟩ := bureau
  have shown : List.Forall₂ Shown listed entries := seen.listed
  clear seen ended
  induction shown with
  | nil => rfl
  | cons here _ ih =>
    rw [List.flatMap_cons, List.length_append, ih, List.countP_cons,
      here.seen.orderly.length_asleep, here.seen.view, Nat.add_comm]

/-- No symbol is listed, none of the tasks that were ever created is asleep, and whatever is done
without a start, nothing is published. -/
structure Shut [PriceScale α] (scene : Scene (Bureau α)) : Prop where
  unlisted : scene.subject.view.symbols = []
  ended : scene.subject.asleep = []
  silent : ∀ deeds : List (Deed α), (∀ deed ∈ deeds, deed.starts = false) →
    ∀ echo ∈ (live act scene deeds).1, echo.events = []

theorem shut_iff [PriceScale α] {scene : Scene (Bureau α)} {other : Scene (Registry α)}
    (alike : SceneAlike Seen scene other) : Shut scene ↔ other.subject.entries = [] := by
  have seen : Seen scene.subject other.subject := alike.subject
  rw [← Registry.symbols_eq_nil, ← seen.view]
  constructor
  · exact Shut.unlisted
  · intro unlisted
    have empty : other.subject.entries = [] := by
      rwa [seen.view, Registry.symbols_eq_nil] at unlisted
    refine ⟨unlisted, ?_, fun deeds unstarted => ?_⟩
    · rw [← List.length_eq_zero_iff, seen.length_asleep, empty, List.countP_nil]
    · rw [(live_seen alike deeds).1]
      exact Registry.live_empty empty unstarted

end Bureau

namespace Registry

variable [PriceScale α]

/-- All simulations stopped at once, after any run from the opening and whatever failed in it. Of the
registry, and of all tasks that were ever created for it:
- Nothing is left exactly if stops can be published, or if no symbol but the last one was listed with
  a timer.
- If stops can be published, all are stopped without a failure.
- If they cannot, the first stop of a timer fails and no other one is made: every later simulation
  keeps its symbol, and its task is asleep if it was running.
- A listed simulation has a timer exactly if one can be set to its interval. -/
theorem stopAll_shuts_iff (clock : Clock) (failure : Failure) (deeds : List (Deed α)) :
    let scene := (live act (opening clock failure) deeds).2
    let behind := (live Bureau.act (Bureau.opening clock failure) deeds).2
    let stopped := scene.subject.stopAll scene.outage
    let after := Bureau.act behind (.take .stopAll)
    let blocked := scene.outage.topics.contains Event.stoppedTopic
    let left := scene.subject.entries.dropWhile (!·.2.hasTimer)
    (after.1.answer = .stoppedAll stopped.answer ∧ after.2.subject.view = stopped.state) ∧
      (Bureau.Shut after.2 ↔ blocked = false ∨ left.length ≤ 1) ∧
      (blocked = false → stopped.answer = .ok ()) ∧
      (blocked = true →
        stopped.answer =
            (if left = [] then .ok () else .error (.unpublished scene.outage.failure)) ∧
          stopped.state.entries = left.tail ∧
          after.2.subject.asleep.length = left.tail.countP (·.2.isRunning)) ∧
      ∀ entry ∈ scene.subject.entries,
        entry.2.config.map (·.interval.isTimeable) = some entry.2.hasTimer := by
  intro scene behind stopped after blocked left
  have unlived : Machine.SceneAlike Bureau.Seen
      (Bureau.opening clock failure : Scene (Bureau α)) (opening clock failure) :=
    ⟨rfl, rfl, Bureau.empty_seen⟩
  obtain ⟨_, alike⟩ := Bureau.live_seen unlived deeds
  obtain ⟨heard, shown⟩ := Bureau.act_seen alike (.take .stopAll)
  have seen : Bureau.Seen after.2.subject stopped.state := shown.subject
  have staffed : scene.subject.Staffed := (empty_staffed.live InOrder.nil deeds).1
  refine ⟨⟨congrArg Echo.answer heard, seen.view⟩, ?_, ?_, ?_, staffed.timeable_config⟩
  · refine (Bureau.shut_iff shown).trans ?_
    change stopped.state.entries = [] ↔ _
    cases stops : blocked with
    | false => simp [stopped, (stopAll_open stops scene.subject).1]
    | true =>
      rw [(stopAll_blocked stops staffed.distinct).1, ← List.length_eq_zero_iff,
        List.length_tail, fromTimer]
      simp only [reduceCtorEq, false_or, left]
      omega
  · intro opened
    exact (stopAll_open opened scene.subject).2
  · intro stops
    obtain ⟨entries, answer⟩ := stopAll_blocked stops staffed.distinct
    refine ⟨answer, entries, ?_⟩
    rw [seen.length_asleep, entries]
    rfl

/-- Of two simulations that are stopped at once while stops cannot be published, the second one stays
listed and ticks a second later. -/
theorem second_keeps_ticking :
    let config (symbol : String) : Config Float :=
      { symbol
        duration := ⟨60000, by decide⟩
        historyLength := 1
        interval := ⟨1000, by decide⟩
        volatility := 0.002
        startPrice := none
        historyLength_pos := by decide
        duration_seconds := by decide }
    let scene : Scene (Registry Float) :=
      opening { offset := 0, passed := 0 } { kind := "RuntimeError", text := "boom" }
    let stopped := (live act scene
      [.take (.start (config "A")), .take (.start (config "B")), .fail [Event.stoppedTopic],
        .take .stopAll]).2
    stopped.subject.symbols = ["B"] ∧
      (act stopped (.take (.pass 1000))).1.events.map
        (fun event => (event.1, event.2.topic, event.2.symbol)) = [(1000, "ohlcv", "B")] := by
  decide +kernel

end Registry

end SyntheticMarket
