import Aiodrive.Queue.Unordered

/-! What `UnorderedQueue` delivers. Its loop looks at `_closed` and `_items` only and its
`close()` presses no button, so that a consumer can leave before the last put and can be left
asleep by a late close. The runs without these two steps are the good ones.
-/

namespace Aiodrive.UnorderedQueue

open Channel

variable {α : Type*}

/-- Every reservation was put. -/
def AllPut (state : State (UnorderedQueue α) α) : Prop :=
  ∀ reservation < state.queue.reservedCount, reservation ∈ state.puts.map Prod.fst

instance (state : State (UnorderedQueue α) α) : Decidable (AllPut state) :=
  inferInstanceAs (Decidable (∀ reservation < state.queue.reservedCount, _))

/-- Nothing is lost and nobody is stranded: the consumer yields the items in put order, ends
only after the last of them, and is not asleep beside a closed queue that is exhausted.
-/
def Good (state : State (UnorderedQueue α) α) : Prop :=
  state.yielded.IsPrefix (state.puts.map Prod.snd)
  ∧ (state.consumer = .ended → AllPut state ∧ state.yielded = state.puts.map Prod.snd)
  ∧ ¬(state.queue.closed = true
    ∧ AllPut state
    ∧ state.yielded = state.puts.map Prod.snd
    ∧ state.Asleep operations)

/-- The queue is not closed beside a sleeping consumer that no put will wake, and the consumer
does not test the loop of a closed queue that is empty before the last put.
-/
def Timely (state : State (UnorderedQueue α) α) : Event α → Prop
  | .close => ¬(AllPut state ∧ state.Asleep operations)
  | .next | .wake =>
      ¬(state.queue.closed = true ∧ state.queue.items = [] ∧ ¬AllPut state)
  | .reserve | .put _ _ | .callback => True

instance : ∀ (state : State (UnorderedQueue α) α) event, Decidable (Timely state event)
  | _, .close => inferInstanceAs (Decidable ¬(_ ∧ _))
  | state, .next | state, .wake =>
      decidable_of_iff
        (¬(state.queue.closed = true ∧ state.queue.items.isEmpty = true ∧ ¬AllPut state))
        (by simp [Timely])
  | _, .reserve | _, .put _ _ | _, .callback => isTrue trivial

/-- The items are the puts not yet yielded; under timely steps an ended consumer has yielded
all of them, and a sleeping one is not stranded.
-/
structure Sound (state : State (UnorderedQueue α) α) : Prop where
  stored : state.puts.map Prod.snd = state.yielded ++ state.queue.items
  holds : ∀ waiter, state.consumer = .suspended waiter → state.queue.button.Holds waiter
  asleep : state.Asleep operations → state.queue.items = []
  awaited : state.queue.closed = true → AllPut state → ¬state.Asleep operations
  ended
    : state.consumer = .ended
      → state.queue.closed = true ∧ state.queue.items = [] ∧ AllPut state

theorem sound_initial : Sound (.initial operations : State (UnorderedQueue α) α) :=
  {
    stored := rfl
    holds := by simp [State.initial]
    asleep := by simp [State.Asleep, State.initial]
    awaited := by simp [State.initial, operations, new]
    ended := by simp [State.initial]
  }

theorem Sound.good {state : State (UnorderedQueue α) α} (sound : Sound state) : Good state := by
  refine ⟨⟨_, sound.stored.symm⟩, ?_, ?_⟩
  · intro ended
    obtain ⟨_, empty, all⟩ := sound.ended ended
    exact ⟨all, by simp [sound.stored, empty]⟩
  · rintro ⟨closed, all, _, asleep⟩
    exact sound.awaited closed all asleep

-----------------------------------------------------------------------------------------
-- Timely steps keep the invariant
-----------------------------------------------------------------------------------------

/-- No waiter is asleep once the consumer is not suspended. -/
theorem not_asleep_of_ne {state : State (UnorderedQueue α) α}
    (running : ∀ waiter, state.consumer ≠ .suspended waiter)
    : ¬state.Asleep operations :=
  fun ⟨waiter, suspended, _⟩ => running waiter suspended

/-- From the head of its loop the consumer ends only where a timely step allows it. -/
theorem Sound.iterate {state : State (UnorderedQueue α) α} (sound : Sound state)
    (timely : ¬(state.queue.closed = true ∧ state.queue.items = [] ∧ ¬AllPut state))
    : Sound (state.iterate operations) := by
  cases stored : state.queue.items with
  | cons item rest =>
      have run : state.queue.iterate = ({ state.queue with items := rest }, .yields item) := by
        simp [UnorderedQueue.iterate, stored]
      simp only [State.iterate, operations, run]
      exact {
        stored := by simp [sound.stored, stored]
        holds := by simp
        asleep := fun asleep => (not_asleep_of_ne (by simp) asleep).elim
        awaited := fun _ _ => not_asleep_of_ne (by simp)
        ended := by simp
      }
  | nil =>
      cases closed : state.queue.closed with
      | true =>
          have all : AllPut state := by
            by_contra outstanding
            exact timely ⟨closed, stored, outstanding⟩
          have run : state.queue.iterate = (state.queue, .ends) := by
            simp [UnorderedQueue.iterate, stored, closed]
          simp only [State.iterate, operations, run]
          exact {
            stored := sound.stored
            holds := by simp
            asleep := fun _ => stored
            awaited := fun _ _ => not_asleep_of_ne (by simp)
            ended := fun _ => ⟨closed, stored, all⟩
          }
      | false =>
          have run : state.queue.iterate = (state.queue, .awaits state.queue.button.wait) := by
            simp [UnorderedQueue.iterate, stored, closed]
          simp only [State.iterate, operations, run]
          exact {
            stored := sound.stored
            holds := by
              intro waiter same
              obtain rfl := Consumer.suspended.inj same
              exact state.queue.button.holds_wait
            asleep := fun _ => stored
            awaited := by simp [closed]
            ended := by simp
          }

theorem Sound.put {state : State (UnorderedQueue α) α} (sound : Sound state)
    {reservation : Nat} {item : α} (reserved : reservation < state.queue.reservedCount)
    (fresh : reservation ∉ state.puts.map Prod.fst)
    : Sound (state.put operations reservation item) := by
  have awake : ¬(state.put operations reservation item).Asleep operations := by
    rintro ⟨waiter, suspended, asleep⟩
    exact (sound.holds waiter suspended).not_asleep_press asleep
  exact {
    stored := by simp [sound.stored, State.put, operations, UnorderedQueue.put]
    holds := fun waiter suspended => (sound.holds waiter suspended).press
    asleep := fun asleep => (awake asleep).elim
    awaited := fun _ _ => awake
    ended := by
      intro ended
      exact (fresh ((sound.ended ended).2.2 reservation reserved)).elim
  }

/-- The callback of a press leaves the consumer awake. -/
theorem Sound.callback {state : State (UnorderedQueue α) α} (sound : Sound state)
    {waiter woken : Button.Waiter} (called : state.queue.button.innerCallback waiter = some woken)
    : Sound { state with consumer := .suspended woken } := by
  have awake : ¬State.Asleep operations { state with consumer := .suspended woken } := by
    rintro ⟨other, same, asleep⟩
    obtain rfl := Consumer.suspended.inj same
    exact Button.not_asleep_of_innerCallback called asleep
  exact {
    stored := sound.stored
    holds := by
      intro other same
      obtain rfl := Consumer.suspended.inj same
      exact Button.Holds.innerCallback called
    asleep := fun asleep => (awake asleep).elim
    awaited := fun _ _ => awake
    ended := by simp
  }

/-- A timely step keeps the invariant, by cases on the event. -/
theorem step_sound {state next : State (UnorderedQueue α) α} {event : Event α}
    (sound : Sound state) (timely : Timely state event)
    (stepped : step operations state event = some next)
    : Sound next := by
  cases move_of_step stepped with
  | reserves reserved =>
      simp only [operations, UnorderedQueue.reserve] at reserved
      split at reserved
      · contradiction
      · rename_i opened
        obtain rfl := Option.some.inj reserved
        exact { sound with
          awaited := fun closed => (opened closed).elim
          ended := fun ended => (opened (sound.ended ended).1).elim }
  | puts reserved fresh => exact sound.put reserved fresh
  | closes closed =>
      simp only [operations, UnorderedQueue.close] at closed
      split at closed
      · contradiction
      · rename_i opened
        obtain rfl := Option.some.inj closed
        exact { sound with
          awaited := fun _ all asleep => timely ⟨all, asleep⟩
          ended := fun ended => (opened (sound.ended ended).1).elim }
  | asks ready => exact sound.iterate timely
  | calls suspended runs => exact sound.callback runs
  | wakes suspended woken => exact sound.iterate timely

-----------------------------------------------------------------------------------------
-- An untimely step shows at once
-----------------------------------------------------------------------------------------

/-- The loop of a closed empty queue is left, whatever is still to be put. -/
theorem not_good_iterate {state : State (UnorderedQueue α) α}
    (closed : state.queue.closed = true) (empty : state.queue.items = [])
    (outstanding : ¬AllPut state)
    : ¬Good (state.iterate operations) := by
  have run : state.queue.iterate = (state.queue, .ends) := by
    simp [UnorderedQueue.iterate, empty, closed]
  simp only [State.iterate, operations, run]
  exact fun good => outstanding (good.2.1 rfl).1

/-- An untimely step leads to a state that is not good, by cases on the event. -/
theorem not_good_of_not_timely {state next : State (UnorderedQueue α) α} {event : Event α}
    (sound : Sound state) (untimely : ¬Timely state event)
    (stepped : step operations state event = some next)
    : ¬Good next := by
  cases move_of_step stepped with
  | reserves reserved => exact (untimely trivial).elim
  | puts reserved fresh => exact (untimely trivial).elim
  | calls suspended runs => exact (untimely trivial).elim
  | closes closed =>
      obtain ⟨all, asleep⟩ := not_not.mp untimely
      simp only [operations, UnorderedQueue.close] at closed
      split at closed
      · contradiction
      · obtain rfl := Option.some.inj closed
        have yielded : state.yielded = state.puts.map Prod.snd := by
          simp [sound.stored, sound.asleep asleep]
        exact fun good => good.2.2 ⟨rfl, all, yielded, asleep⟩
  | asks ready =>
      obtain ⟨closed, empty, outstanding⟩ := not_not.mp untimely
      exact not_good_iterate closed empty outstanding
  | wakes suspended woken =>
      obtain ⟨closed, empty, outstanding⟩ := not_not.mp untimely
      exact not_good_iterate closed empty outstanding

/-- Exactly the runs whose steps are all timely lose no item and strand no consumer. -/
theorem unordered_good_iff {events : List (Event α)} {final : State (UnorderedQueue α) α}
    (reached : Transition.run (step operations) (.initial operations) events = some final)
    : (∀ visited state,
        visited.IsPrefix events
        → Transition.run (step operations) (.initial operations) visited = some state
        → Good state)
      ↔ Transition.Meets (step operations) Timely (.initial operations) events :=
  Transition.good_iff_meets (fun _ => Sound.good) (fun _ _ _ => step_sound)
    (fun _ _ _ => not_good_of_not_timely) sound_initial reached

/-- A close while the consumer is at a `yield` ends it in time. -/
theorem unordered_good_closedAtYield
    : ∃ final : State (UnorderedQueue Nat) Nat,
        Transition.run (step operations) (.initial operations)
          [.reserve, .put 0 7, .next, .close, .next]
          = some final
        ∧ final.consumer = .ended
        ∧ ∀ visited state,
            visited.IsPrefix [Event.reserve, .put 0 7, .next, .close, .next]
            → Transition.run (step operations) (.initial operations) visited = some state
            → Good state := by
  have reached
      : Transition.run (step operations)
          (.initial operations : State (UnorderedQueue Nat) Nat)
          [.reserve, .put 0 7, .next, .close, .next]
        = some _ :=
    rfl
  exact ⟨_, reached, rfl, (unordered_good_iff reached).mpr (by decide)⟩

/-- The consumer leaves a closed queue before its only item is put, and sleeps for ever where
the queue is closed after its only item was yielded.
-/
theorem unordered_loses_and_strands
    : (∃ (events : List (Event Nat)) (final : State (UnorderedQueue Nat) Nat),
        Transition.run (step operations) (.initial operations) events = some final
        ∧ final.consumer = .ended
        ∧ ¬AllPut final
        ∧ ¬Good final)
      ∧ ∃ (events : List (Event Nat)) (final : State (UnorderedQueue Nat) Nat),
          Transition.run (step operations) (.initial operations) events = some final
          ∧ final.queue.closed = true
          ∧ AllPut final
          ∧ final.yielded = final.puts.map Prod.snd
          ∧ final.Asleep operations
          ∧ ¬Good final := by
  constructor
  · have reached
        : Transition.run (step operations)
            (.initial operations : State (UnorderedQueue Nat) Nat)
            [.reserve, .close, .next]
          = some _ :=
      rfl
    refine ⟨_, _, reached, rfl, by decide, fun good => ?_⟩
    exact absurd (good.2.1 rfl).1 (by decide)
  · have reached
        : Transition.run (step operations)
            (.initial operations : State (UnorderedQueue Nat) Nat)
            [.reserve, .put 0 7, .next, .next, .close]
          = some _ :=
      rfl
    exact ⟨_, _, reached, rfl, by decide, rfl, by decide,
      fun good => good.2.2 ⟨rfl, by decide, rfl, by decide⟩⟩

end Aiodrive.UnorderedQueue
