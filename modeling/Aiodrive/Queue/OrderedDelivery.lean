import Aiodrive.Queue.Ordered

/-! `OrderedQueue` delivers in reservation order and never leaves its consumer asleep beside an
item it could yield or a queue that is finished.
-/

namespace Aiodrive.OrderedQueue

open Channel

variable {α : Type*}

/-- The stored items are the puts not yet delivered, the delivered ones are the first
`_current_index` reservations, and a suspended consumer is asleep exactly when it has nothing
to do.
-/
structure Sound (state : State (OrderedQueue α) α) : Prop where
  stored
    : ∀ index,
        state.queue.currentIndex ≤ index
        → state.queue.items index = state.puts.lookup index
  delivered
    : state.yielded.map some
      = (List.range state.queue.currentIndex).map (fun index => state.puts.lookup index)
  known
    : ∀ index item,
        state.puts.lookup index = some item → index < state.queue.reservedCount
  bounded : state.queue.currentIndex ≤ state.queue.reservedCount
  holds : ∀ waiter, state.consumer = .suspended waiter → state.queue.button.Holds waiter
  asleep
    : ∀ waiter,
        state.consumer = .suspended waiter
        → (state.queue.button.Asleep waiter
          ↔ state.queue.items state.queue.currentIndex = none
            ∧ ¬(state.queue.closed = true
              ∧ state.queue.currentIndex = state.queue.reservedCount))
  ended
    : state.consumer = .ended
      → state.queue.closed = true ∧ state.queue.currentIndex = state.queue.reservedCount

theorem sound_initial : Sound (.initial operations : State (OrderedQueue α) α) :=
  {
    stored := by simp [State.initial, operations, new]
    delivered := by simp [State.initial, operations, new]
    known := by simp [State.initial]
    bounded := by simp [State.initial, operations, new]
    holds := by simp [State.initial]
    asleep := by simp [State.initial]
    ended := by simp [State.initial]
  }

/-- As many items were yielded as `_current_index` counts. -/
theorem Sound.length_yielded {state : State (OrderedQueue α) α} (sound : Sound state)
    : state.yielded.length = state.queue.currentIndex := by
  simpa using congrArg List.length sound.delivered

/-- Every delivered reservation was put. -/
theorem Sound.put_of_delivered {state : State (OrderedQueue α) α} (sound : Sound state)
    {index : Nat} (earlier : index < state.queue.currentIndex)
    : ∃ item, state.puts.lookup index = some item := by
  have inYielded : index < state.yielded.length := sound.length_yielded ▸ earlier
  have entry := congrArg (fun items => items[index]?) sound.delivered
  simp only [List.getElem?_map, List.getElem?_eq_getElem inYielded, List.getElem?_range earlier,
    Option.map_some, Option.some.injEq] at entry
  exact ⟨_, entry.symm⟩

-----------------------------------------------------------------------------------------
-- One step of the consumer
-----------------------------------------------------------------------------------------

/-- The three ways in which the loop goes on. -/
theorem iterate_cases (queue : OrderedQueue α)
    : ((queue.closed = true ∧ queue.reservedCount ≤ queue.currentIndex)
        ∧ queue.iterate = (queue, .ends))
      ∨ (¬(queue.closed = true ∧ queue.reservedCount ≤ queue.currentIndex)
        ∧ queue.items queue.currentIndex = none
        ∧ queue.iterate = (queue, .awaits queue.button.wait))
      ∨ ¬(queue.closed = true ∧ queue.reservedCount ≤ queue.currentIndex)
        ∧ ∃ item,
            queue.items queue.currentIndex = some item
            ∧ queue.iterate
              = ({ queue with
                    items := Function.update queue.items queue.currentIndex none
                    currentIndex := queue.currentIndex + 1 },
                  .yields item) := by
  unfold iterate
  by_cases done : queue.closed = true ∧ queue.reservedCount ≤ queue.currentIndex
  · have leaves : (!queue.closed || decide (queue.currentIndex < queue.reservedCount)) = false := by
      simp [done]
    exact Or.inl ⟨done, by simp [leaves]⟩
  · have goesOn : (!queue.closed || decide (queue.currentIndex < queue.reservedCount)) = true := by
      rcases Bool.eq_false_or_eq_true queue.closed with closed | opened
      · have outstanding : queue.currentIndex < queue.reservedCount := by
          simp only [closed, true_and] at done
          omega
        simp [outstanding]
      · simp [opened]
    cases found : queue.items queue.currentIndex with
    | none => exact Or.inr (Or.inl ⟨done, rfl, by simp [goesOn]⟩)
    | some item => exact Or.inr (Or.inr ⟨done, item, rfl, by simp [goesOn]⟩)

/-- The consumer keeps the invariant from the head of its loop on, and leaves the loop exactly
when the queue is closed with every reservation yielded.
-/
theorem Sound.iterate {state : State (OrderedQueue α) α} (sound : Sound state)
    : Sound (state.iterate operations)
      ∧ ((state.iterate operations).consumer = .ended
        ↔ state.queue.closed = true
          ∧ state.queue.currentIndex = state.queue.reservedCount) := by
  have bounded := sound.bounded
  rcases iterate_cases state.queue with
    ⟨done, run⟩ | ⟨notDone, missing, run⟩ | ⟨notDone, item, found, run⟩
  · have finished : state.queue.closed = true
        ∧ state.queue.currentIndex = state.queue.reservedCount :=
      ⟨done.1, Nat.le_antisymm bounded done.2⟩
    simp only [State.iterate, operations, run, finished, and_self, and_true]
    exact { sound with
      holds := by simp
      asleep := by simp
      ended := fun _ => finished }
  · have unfinished : ¬(state.queue.closed = true
        ∧ state.queue.currentIndex = state.queue.reservedCount) :=
      fun finished => notDone ⟨finished.1, Nat.le_of_eq finished.2.symm⟩
    simp only [State.iterate, operations, run, unfinished, reduceCtorEq, and_true]
    exact { sound with
      holds := by
        intro waiter same
        obtain rfl := Consumer.suspended.inj same
        exact state.queue.button.holds_wait
      asleep := by
        intro waiter same
        obtain rfl := Consumer.suspended.inj same
        exact iff_of_true state.queue.button.asleep_wait ⟨missing, unfinished⟩
      ended := by simp }
  · have unfinished : ¬(state.queue.closed = true
        ∧ state.queue.currentIndex = state.queue.reservedCount) :=
      fun finished => notDone ⟨finished.1, Nat.le_of_eq finished.2.symm⟩
    have put : state.puts.lookup state.queue.currentIndex = some item :=
      (sound.stored _ (Nat.le_refl _)).symm.trans found
    simp only [State.iterate, operations, run, unfinished, reduceCtorEq, and_true]
    exact {
      stored := by
        intro index later
        have different : index ≠ state.queue.currentIndex := by
          rintro rfl
          exact Nat.not_succ_le_self _ later
        simpa only [Function.update_of_ne different]
          using sound.stored index (Nat.le_of_succ_le later)
      delivered := by
        simp only [List.map_append, List.map_cons, List.map_nil, sound.delivered,
          List.range_succ, put]
      known := sound.known
      bounded := sound.known _ _ put
      holds := by simp
      asleep := by simp
      ended := by simp
    }

-----------------------------------------------------------------------------------------
-- Every step keeps the invariant
-----------------------------------------------------------------------------------------

theorem Sound.reserve {state : State (OrderedQueue α) α} (sound : Sound state)
    {queue : OrderedQueue α} (reserved : state.queue.reserve = some queue)
    : Sound { state with queue } := by
  unfold OrderedQueue.reserve at reserved
  split at reserved
  · contradiction
  · rename_i opened
    obtain rfl := Option.some.inj reserved
    exact { sound with
      known := fun index item found => Nat.lt_succ_of_lt (sound.known index item found)
      bounded := Nat.le_succ_of_le sound.bounded
      asleep := fun waiter same => by simpa [opened] using sound.asleep waiter same
      ended := fun same => (opened (sound.ended same).1).elim }

/-- A close wakes the consumer when it leaves it nothing to wait for. -/
theorem Sound.close {state : State (OrderedQueue α) α} (sound : Sound state)
    {queue : OrderedQueue α} (closed : state.queue.close = some queue)
    : Sound { state with queue } := by
  unfold OrderedQueue.close at closed
  split at closed
  · contradiction
  rename_i opened
  split at closed
  · rename_i finished
    obtain rfl := Option.some.inj closed
    exact { sound with
      holds := fun waiter same => (sound.holds waiter same).press
      asleep := fun waiter same =>
        iff_of_false (sound.holds waiter same).not_asleep_press
          (fun idle => idle.2 ⟨rfl, finished⟩)
      ended := fun same => (opened (sound.ended same).1).elim }
  · rename_i unfinished
    obtain rfl := Option.some.inj closed
    exact { sound with
      asleep := fun waiter same => by
        simpa [opened, unfinished] using sound.asleep waiter same
      ended := fun same => (opened (sound.ended same).1).elim }

/-- A put is not lost: it waits for its turn, or wakes the consumer whose turn it is. -/
theorem Sound.put {state : State (OrderedQueue α) α} (sound : Sound state)
    {reservation : Nat} {item : α} (reserved : reservation < state.queue.reservedCount)
    (fresh : reservation ∉ state.puts.map Prod.fst)
    : Sound (state.put operations reservation item) := by
  have absent := lookup_eq_none_of_fresh fresh
  have kept {index : Nat} (earlier : index < state.queue.currentIndex)
      : (state.puts ++ [(reservation, item)]).lookup index = state.puts.lookup index := by
    obtain ⟨other, found⟩ := sound.put_of_delivered earlier
    have different : index ≠ reservation := by
      rintro rfl
      simp [absent] at found
    rw [lookup_append_put fresh, if_neg different]
  have stored (index : Nat) (later : state.queue.currentIndex ≤ index)
      : Function.update state.queue.items reservation (some item) index
        = (state.puts ++ [(reservation, item)]).lookup index := by
    rw [lookup_append_put fresh]
    by_cases same : index = reservation
    · simp [same]
    · simp [same, sound.stored index later]
  have delivered : state.yielded.map some
      = (List.range state.queue.currentIndex).map
          (fun index => (state.puts ++ [(reservation, item)]).lookup index) := by
    rw [sound.delivered]
    exact List.map_congr_left (fun index member => (kept (List.mem_range.mp member)).symm)
  have known (index : Nat) (other : α)
      (found : (state.puts ++ [(reservation, item)]).lookup index = some other)
      : index < state.queue.reservedCount := by
    rw [lookup_append_put fresh] at found
    split at found
    · rename_i same
      exact same ▸ reserved
    · exact sound.known index other found
  by_cases current : reservation = state.queue.currentIndex
  · simp only [State.put, operations, OrderedQueue.put, if_pos current]
    exact {
      stored
      delivered
      known
      bounded := sound.bounded
      holds := fun waiter same => (sound.holds waiter same).press
      asleep := fun waiter same =>
        iff_of_false (sound.holds waiter same).not_asleep_press
          (fun idle => by simp [current] at idle)
      ended := sound.ended
    }
  · simp only [State.put, operations, OrderedQueue.put, if_neg current]
    exact {
      stored
      delivered
      known
      bounded := sound.bounded
      holds := sound.holds
      asleep := by
        simpa only [Function.update_of_ne (Ne.symm current)] using sound.asleep
      ended := sound.ended
    }

/-- Every step keeps the invariant, by cases on the event. -/
theorem step_sound {state next : State (OrderedQueue α) α} {event : Event α}
    (sound : Sound state) (stepped : step operations state event = some next)
    : Sound next := by
  cases move_of_step stepped with
  | reserves reserved => exact sound.reserve reserved
  | puts reserved fresh => exact sound.put reserved fresh
  | closes closed => exact sound.close closed
  | asks ready => exact sound.iterate.1
  | wakes suspended woken => exact sound.iterate.1
  | @calls waiter called same runs =>
      exact { sound with
        holds := by
          intro other equal
          obtain rfl := Consumer.suspended.inj equal
          exact Button.Holds.innerCallback runs
        asleep := by
          intro other equal
          obtain rfl := Consumer.suspended.inj equal
          have inner := (Button.innerCallback_eq_some runs).1
          simpa only [Button.Asleep, inner] using sound.asleep waiter same
        ended := by simp }

theorem run_sound {events : List (Event α)} {final : State (OrderedQueue α) α}
    (reached : Transition.run (step operations) (.initial operations) events = some final)
    : Sound final :=
  Transition.run_preserves (fun _ _ _ => step_sound) sound_initial reached

/-- The consumer's own steps leave the reservations, the puts and the close flag alone. -/
theorem consumer_step_keeps {state next : State (OrderedQueue α) α} {event : Event α}
    (ofConsumer : event.OfConsumer) (stepped : step operations state event = some next)
    : next.queue.reservedCount = state.queue.reservedCount
      ∧ next.queue.closed = state.queue.closed
      ∧ next.puts = state.puts :=
  lawful.consumer_step ofConsumer stepped

/-- A bound on the consumer's steps before it yields, falls asleep or ends. -/
def remaining : Consumer → Nat
  | .ready => 3
  | .suspended waiter => if waiter.outer.done then 1 else 2
  | .ended => 0

/-- No wake-up is spurious: every step of the consumer brings it closer to its end, or yields.
-/
theorem consumer_step_shrinks {state next : State (OrderedQueue α) α} {event : Event α}
    (sound : Sound state) (ofConsumer : event.OfConsumer)
    (stepped : step operations state event = some next)
    : remaining next.consumer + 4 * state.yielded.length
      < remaining state.consumer + 4 * next.yielded.length := by
  cases move_of_step stepped with
  | reserves reserved => exact ofConsumer.elim
  | puts reserved fresh => exact ofConsumer.elim
  | closes closed => exact ofConsumer.elim
  | asks ready =>
      rcases iterate_cases state.queue with ⟨_, run⟩ | ⟨_, _, run⟩ | ⟨_, item, _, run⟩
      · simp [State.iterate, operations, run, remaining, ready]
      · simp [State.iterate, operations, run, remaining, ready, Button.wait]
      · simp [State.iterate, operations, run, remaining, ready]
  | calls suspended runs =>
      obtain ⟨before, after⟩ := Button.outer_of_innerCallback runs
      simp [remaining, suspended, before, after]
  | @wakes waiter suspended woken =>
      have resolved := (sound.holds waiter suspended).woken woken
      have awake : ¬state.queue.button.Asleep waiter := by
        rw [Button.asleep_iff]
        omega
      rcases iterate_cases state.queue with ⟨_, run⟩ | ⟨notDone, missing, _⟩ | ⟨_, item, _, run⟩
      · simp [State.iterate, operations, run, remaining, suspended, woken]
      · have idle := (sound.asleep waiter suspended).mpr
          ⟨missing, fun finished => notDone ⟨finished.1, Nat.le_of_eq finished.2.symm⟩⟩
        exact (awake idle).elim
      · simp [State.iterate, operations, run, remaining, suspended, woken]
        omega

/-- Only a step from the head of the loop can end the consumer. -/
theorem step_ends_iff {state next : State (OrderedQueue α) α} {event : Event α}
    (sound : Sound state) (fromHead : event = .next ∨ event = .wake)
    (stepped : step operations state event = some next)
    : next.consumer = .ended
      ↔ state.queue.closed = true
        ∧ state.yielded.length = state.queue.reservedCount := by
  rw [sound.length_yielded]
  cases move_of_step stepped with
  | asks ready => exact sound.iterate.2
  | wakes suspended woken => exact sound.iterate.2
  | reserves | puts | closes | calls => simp at fromHead

/-- In every run, the yielded items are those put for the first reservations, in order; a
sleeping consumer waits for an item that was not put, and not for the end of the queue; and
the consumer ends exactly when the queue is closed with every reservation yielded.
-/
theorem ordered_delivery {events : List (Event α)} {final : State (OrderedQueue α) α}
    (reached : Transition.run (step operations) (.initial operations) events = some final)
    : final.yielded.map some
        = (List.range final.yielded.length).map (fun index => final.puts.lookup index)
      ∧ (final.Asleep operations
        → final.puts.lookup final.queue.currentIndex = none
          ∧ ¬(final.queue.closed = true
            ∧ final.yielded.length = final.queue.reservedCount))
      ∧ (final.consumer = .ended
        → final.queue.closed = true ∧ final.yielded.length = final.queue.reservedCount)
      ∧ (∀ event next,
          event = .next ∨ event = .wake
          → step operations final event = some next
          → (next.consumer = .ended
            ↔ final.queue.closed = true
              ∧ final.yielded.length = final.queue.reservedCount))
      ∧ (final.queue.closed = true ∧ final.yielded.length = final.queue.reservedCount
        → final.consumer ≠ .ended
        → ∃ event next, event.OfConsumer ∧ step operations final event = some next) := by
  have sound := run_sound reached
  have length := sound.length_yielded
  have notLost : final.Asleep operations
      → final.queue.items final.queue.currentIndex = none
        ∧ ¬(final.queue.closed = true
          ∧ final.queue.currentIndex = final.queue.reservedCount) := by
    rintro ⟨waiter, suspended, asleep⟩
    exact (sound.asleep waiter suspended).mp asleep
  refine ⟨length ▸ sound.delivered, ?_, fun ended => length ▸ sound.ended ended,
    fun event next => step_ends_iff sound, ?_⟩
  · intro asleep
    obtain ⟨missing, unfinished⟩ := notLost asleep
    exact ⟨(sound.stored _ (Nat.le_refl _)).symm.trans missing, length.symm ▸ unfinished⟩
  · intro finished running
    exact consumer_goes_on running (fun asleep => (notLost asleep).2 (length ▸ finished))

/-- Two puts against the order of their reservations, the second of which wakes the consumer. -/
theorem ordered_delivery_outOfOrder
    : ∃ final : State (OrderedQueue Nat) Nat,
        Transition.run (step operations) (.initial operations)
          [.reserve, .reserve, .next, .put 1 20, .close, .put 0 10, .callback, .wake, .next,
            .next]
          = some final
        ∧ final.consumer = .ended
        ∧ final.queue.closed = true
        ∧ final.yielded.length = final.queue.reservedCount
        ∧ final.yielded = [10, 20] := by
  have reached
      : Transition.run (step operations) (.initial operations : State (OrderedQueue Nat) Nat)
          [.reserve, .reserve, .next, .put 1 20, .close, .put 0 10, .callback, .wake, .next,
            .next]
        = some _ :=
    rfl
  obtain ⟨closed, all⟩ := (ordered_delivery reached).2.2.1 rfl
  exact ⟨_, reached, rfl, closed, all, rfl⟩

end Aiodrive.OrderedQueue
