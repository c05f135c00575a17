import Aiodrive.Queue.Button
import Aiodrive.Transition.Runs

/-! The runs of a queue of `internal/queue.py`: calls of `reserve()`, of the `put` closures it
returned and of `close()`, interleaved with the steps of one consumer that iterates the queue.
-/

namespace Aiodrive.Channel

variable {Q α : Type*}

/-- What one step of a queue's `__aiter__` comes to: it awaits the button, yields an item, or
leaves its loop.
-/
inductive Iteration (α : Type*) where
  | awaits (waiter : Button.Waiter)
  | yields (item : α)
  | ends

/-- The operations of a queue class. A closure returned by `reserve` is named by the number of
reservations made before it, and `none` is the failure of `assert not self._closed`.
-/
structure Operations (Q α : Type*) where
  new : Q
  button : Q → Button
  closed : Q → Bool
  reservedCount : Q → Nat
  reserve : Q → Option Q
  put : Q → Nat → α → Q
  close : Q → Option Q
  iterate : Q → Q × Iteration α

/-- The consumer has not started or is at a `yield`, is suspended in `await self._button`, or
has left the loop.
-/
inductive Consumer where
  | ready
  | suspended (waiter : Button.Waiter)
  | ended
deriving DecidableEq, Repr

/-- A queue with its consumer; `puts` and `yielded` record the calls and the items so far. -/
structure State (Q α : Type*) where
  queue : Q
  consumer : Consumer
  puts : List (Nat × α)
  yielded : List α

/-- `next` is the consumer's `anext()`; `callback` and `wake` are the two hops of a wake-up. -/
inductive Event (α : Type*) where
  | reserve
  | put (reservation : Nat) (item : α)
  | close
  | next
  | callback
  | wake
deriving DecidableEq, Repr

variable (ops : Operations Q α)

def State.initial : State Q α :=
  { queue := ops.new, consumer := .ready, puts := [], yielded := [] }

/-- The consumer runs `__aiter__` from the head of its loop. -/
def State.iterate (state : State Q α) : State Q α :=
  match ops.iterate state.queue with
  | (queue, .awaits waiter) => { state with queue, consumer := .suspended waiter }
  | (queue, .yields item) =>
      { state with queue, consumer := .ready, yielded := state.yielded ++ [item] }
  | (queue, .ends) => { state with queue, consumer := .ended }

/-- The closure of a reservation is called with an item. -/
def State.put (state : State Q α) (reservation : Nat) (item : α) : State Q α :=
  { state with
    queue := ops.put state.queue reservation item
    puts := state.puts ++ [(reservation, item)] }

/-- At most one put is made for each reservation. -/
def step (state : State Q α) : Event α → Option (State Q α)
  | .reserve => (ops.reserve state.queue).map (fun queue => { state with queue })
  | .put reservation item =>
      if reservation < ops.reservedCount state.queue
          ∧ reservation ∉ state.puts.map Prod.fst then
        some (state.put ops reservation item)
      else
        none
  | .close => (ops.close state.queue).map (fun queue => { state with queue })
  | .next =>
      match state.consumer with
      | .ready => some (state.iterate ops)
      | .suspended _ | .ended => none
  | .callback =>
      match state.consumer with
      | .suspended waiter =>
          ((ops.button state.queue).innerCallback waiter).map
            (fun waiter => { state with consumer := .suspended waiter })
      | .ready | .ended => none
  | .wake =>
      match state.consumer with
      | .suspended waiter => if waiter.outer.done then some (state.iterate ops) else none
      | .ready | .ended => none

variable {ops}

/-- The steps of a queue and its consumer, one constructor for each event. -/
inductive Move (ops : Operations Q α) (state : State Q α) : Event α → State Q α → Prop where
  | reserves {queue : Q} (reserved : ops.reserve state.queue = some queue)
    : Move ops state .reserve { state with queue }
  | puts {reservation : Nat} {item : α} (reserved : reservation < ops.reservedCount state.queue)
    (fresh : reservation ∉ state.puts.map Prod.fst)
    : Move ops state (.put reservation item) (state.put ops reservation item)
  | closes {queue : Q} (closed : ops.close state.queue = some queue)
    : Move ops state .close { state with queue }
  | asks (ready : state.consumer = .ready) : Move ops state .next (state.iterate ops)
  | calls {waiter called : Button.Waiter} (suspended : state.consumer = .suspended waiter)
    (runs : (ops.button state.queue).innerCallback waiter = some called)
    : Move ops state .callback { state with consumer := .suspended called }
  | wakes {waiter : Button.Waiter} (suspended : state.consumer = .suspended waiter)
    (woken : waiter.outer.done = true)
    : Move ops state .wake (state.iterate ops)

/-- Every step is one of the moves. -/
theorem move_of_step {state next : State Q α} {event : Event α}
    (stepped : step ops state event = some next)
    : Move ops state event next := by
  cases event with
  | reserve =>
      obtain ⟨queue, reserved, rfl⟩ := Option.map_eq_some_iff.mp stepped
      exact .reserves reserved
  | put reservation item =>
      simp only [step, Option.ite_none_right_eq_some] at stepped
      obtain ⟨⟨reserved, fresh⟩, same⟩ := stepped
      exact Option.some.inj same ▸ .puts reserved fresh
  | close =>
      obtain ⟨queue, closed, rfl⟩ := Option.map_eq_some_iff.mp stepped
      exact .closes closed
  | next =>
      simp only [step] at stepped
      split at stepped
      · rename_i ready
        exact Option.some.inj stepped ▸ .asks ready
      · contradiction
      · contradiction
  | callback =>
      simp only [step] at stepped
      split at stepped
      · rename_i waiter suspended
        obtain ⟨called, runs, rfl⟩ := Option.map_eq_some_iff.mp stepped
        exact .calls suspended runs
      · contradiction
      · contradiction
  | wake =>
      simp only [step] at stepped
      split at stepped
      · rename_i waiter suspended
        simp only [Option.ite_none_right_eq_some] at stepped
        obtain ⟨woken, same⟩ := stepped
        exact Option.some.inj same ▸ .wakes suspended woken
      · contradiction
      · contradiction

/-- The consumer is suspended on the button with no wake-up in flight. -/
def State.Asleep (ops : Operations Q α) (state : State Q α) : Prop :=
  ∃ waiter, state.consumer = .suspended waiter ∧ (ops.button state.queue).Asleep waiter

instance (state : State Q α) : Decidable (state.Asleep ops) :=
  match consumer : state.consumer with
  | .suspended waiter =>
      decidable_of_iff ((ops.button state.queue).Asleep waiter)
        ⟨fun asleep => ⟨waiter, consumer, asleep⟩,
          fun ⟨_, same, asleep⟩ => Consumer.suspended.inj (consumer.symm.trans same) ▸ asleep⟩
  | .ready => isFalse (fun ⟨_, same, _⟩ => by simp [consumer] at same)
  | .ended => isFalse (fun ⟨_, same, _⟩ => by simp [consumer] at same)

/-- The event is a step of the consumer, or of a wake-up on its way to the consumer. -/
def Event.OfConsumer : Event α → Prop
  | .next | .callback | .wake => True
  | .reserve | .put _ _ | .close => False

/-- A consumer that has not ended and is not asleep can go on. -/
theorem consumer_goes_on {state : State Q α} (running : state.consumer ≠ .ended)
    (awake : ¬state.Asleep ops)
    : ∃ event next, event.OfConsumer ∧ step ops state event = some next := by
  cases consumer : state.consumer with
  | ready => exact ⟨.next, state.iterate ops, trivial, by simp [step, consumer]⟩
  | ended => exact (running consumer).elim
  | suspended waiter =>
      cases woken : waiter.outer.done with
      | true => exact ⟨.wake, state.iterate ops, trivial, by simp [step, consumer, woken]⟩
      | false =>
          have resolved : ¬(ops.button state.queue).Asleep waiter :=
            fun asleep => awake ⟨waiter, consumer, asleep⟩
          obtain ⟨next, called⟩ :=
            Option.isSome_iff_exists.mp (Button.innerCallback_isSome resolved woken)
          exact ⟨.callback, { state with consumer := .suspended next }, trivial,
            by simp [step, consumer, called]⟩

/-- A reservation that was not put has no item. -/
theorem lookup_eq_none_of_fresh {puts : List (Nat × α)} {reservation : Nat}
    (fresh : reservation ∉ puts.map Prod.fst)
    : puts.lookup reservation = none := by
  rw [List.lookup_eq_none_iff]
  intro pair member
  simp only [bne_iff_ne, ne_eq]
  exact fun same => fresh (List.mem_map.mpr ⟨pair, member, same.symm⟩)

/-- A first put for a reservation changes only the item found for that reservation. -/
theorem lookup_append_put {puts : List (Nat × α)} {reservation index : Nat} {item : α}
    (fresh : reservation ∉ puts.map Prod.fst)
    : (puts ++ [(reservation, item)]).lookup index
      = if index = reservation then some item else puts.lookup index := by
  rw [List.lookup_append]
  by_cases same : index = reservation
  · subst same
    simp [lookup_eq_none_of_fresh fresh]
  · have different : (index == reservation) = false := by simpa using same
    simp [List.lookup_cons, different, same]

-----------------------------------------------------------------------------------------
-- What the operations have in common
-----------------------------------------------------------------------------------------

/-- A queue is opened once, counts its reservations while it is open, and nothing but `reserve` and
`close` changes the count or the flag.
-/
structure Operations.Lawful (ops : Operations Q α) : Prop where
  new : ops.closed ops.new = false ∧ ops.reservedCount ops.new = 0
  reserve
    : ∀ queue,
        ops.closed queue = false
        → ∃ next,
            ops.reserve queue = some next
            ∧ ops.closed next = false
            ∧ ops.reservedCount next = ops.reservedCount queue + 1
  close
    : ∀ queue,
        ops.closed queue = false
        → ∃ next,
            ops.close queue = some next
            ∧ ops.closed next = true
            ∧ ops.reservedCount next = ops.reservedCount queue
  put
    : ∀ queue reservation item,
        ops.closed (ops.put queue reservation item) = ops.closed queue
        ∧ ops.reservedCount (ops.put queue reservation item) = ops.reservedCount queue
  iterate
    : ∀ queue,
        ops.closed (ops.iterate queue).1 = ops.closed queue
        ∧ ops.reservedCount (ops.iterate queue).1 = ops.reservedCount queue

/-- The consumer's own steps leave the reservations, the puts and the close flag alone. -/
theorem Operations.Lawful.consumer_step (lawful : ops.Lawful) {state next : State Q α}
    {event : Event α} (ofConsumer : event.OfConsumer) (stepped : step ops state event = some next)
    : ops.reservedCount next.queue = ops.reservedCount state.queue
      ∧ ops.closed next.queue = ops.closed state.queue
      ∧ next.puts = state.puts := by
  have iterated
      : ops.reservedCount (state.iterate ops).queue = ops.reservedCount state.queue
        ∧ ops.closed (state.iterate ops).queue = ops.closed state.queue
        ∧ (state.iterate ops).puts = state.puts := by
    obtain ⟨closed, reserved⟩ := lawful.iterate state.queue
    unfold State.iterate
    split <;> rename_i run <;> rw [run] at closed reserved <;> exact ⟨reserved, closed, rfl⟩
  cases move_of_step stepped with
  | reserves | puts | closes => exact ofConsumer.elim
  | asks | wakes => exact iterated
  | calls => exact ⟨rfl, rfl, rfl⟩

end Aiodrive.Channel
