import Aiodrive.Asyncio.Future
import Aiodrive.Transition.Runs

/-! `watch_signal()` of `modules/signals.py`: the generator and the task that iterates it, the
signals that come, and the callbacks that the event loop queues for them. The loop learns of a
signal only when it reads its wake-up socket; where it finds no handler then, it drops the
signal.
-/

namespace Aiodrive.WatchSignal

/-- Where the generator is: before its first step; in `event.wait()`, with a future of its own;
at its `yield`; or past its end.
-/
inductive Place where
  | unstarted
  | waiting (waiter : FutureState Empty Unit)
  | yielded
  | finished
deriving DecidableEq, Repr

/-- `isSet` is the value of the event, `came` the number of signals that the loop has not read
yet, `queue` that of the callbacks that it has queued. `bursts` has for each `yield` the number
of callbacks that ran since the one before, and `pending` is that number for the one to come;
`late` counts those that ran after the end, and `dropped` the signals that the loop read when
there was no handler.
-/
structure State where
  registered : Bool
  isSet : Bool
  came : Nat
  queue : Nat
  place : Place
  bursts : List Nat
  pending : Nat
  late : Nat
  dropped : Nat
deriving DecidableEq, Repr

/-- What can happen: a signal comes for which there is a handler; the loop reads the next
signal, or runs the next callback; the task asks for the next item, resumes in the generator, or
closes it; others cancel the task.
-/
inductive Event where
  | arrives
  | dispatches
  | runs
  | next
  | resume
  | close
  | cancel
deriving DecidableEq, Repr

/-- The generator before its first step; `unread` is the number of signals of an earlier handler
that the loop has not read.
-/
def State.initial (unread : Nat) : State :=
  { registered := false, isSet := false, came := unread, queue := 0, place := .unstarted,
    bursts := [], pending := 0, late := 0, dropped := 0 }

/-- `event.set()`, which wakes the generator where it waits. -/
def State.set (state : State) : State :=
  if state.isSet then state
  else
    { state with
      isSet := true
      place :=
        match state.place with
        | .waiting .pending => .waiting (.success ())
        | place => place }

/-- A callback of a signal, which is `event.set`. -/
def State.callback (state : State) : State :=
  if state.place = .finished then { state.set with late := state.late + 1 }
  else { state.set with pending := state.pending + 1 }

/-- `event.clear()` and the `yield`. -/
def State.yields (state : State) : State :=
  { state with
    isSet := false
    place := .yielded
    bursts := state.bursts ++ [state.pending]
    pending := 0 }

/-- The loop of the generator from its top: the event is waited for only where it is not set. -/
def State.iterate (state : State) : State :=
  if state.isSet then state.yields else { state with place := .waiting .pending }

/-- The `finally` of the generator. -/
def State.finish (state : State) : State :=
  { state with registered := false, place := .finished }

def step (state : State) : Event → Option State
  | .arrives => if state.registered then some { state with came := state.came + 1 } else none
  -- `_handle_signal()` of asyncio
  | .dispatches =>
      match state.came with
      | came + 1 =>
          if state.registered then some { state with came, queue := state.queue + 1 }
          else some { state with came, dropped := state.dropped + 1 }
      | 0 => none
  | .runs =>
      match state.queue with
      | queue + 1 => some (State.callback { state with queue })
      | 0 => none
  | .next =>
      match state.place with
      | .unstarted => some (State.iterate { state with registered := true })
      | .yielded => some state.iterate
      | .waiting _ | .finished => none
  | .resume =>
      match state.place with
      | .waiting (.success _) => some state.yields
      | .waiting .cancelled => some state.finish
      | .waiting .pending | .waiting (.exception _) | .unstarted | .yielded | .finished => none
  | .close =>
      match state.place with
      | .unstarted | .yielded => some state.finish
      | .waiting _ | .finished => none
  | .cancel =>
      match state.place with
      -- A request that finds the future done is thrown when the task resumes all the same
      | .waiting _ => some { state with place := .waiting .cancelled }
      | .unstarted | .yielded | .finished => none

/-- The signals that came while there was a handler. -/
def arrivals (events : List Event) : Nat := events.countP (· == .arrives)

/-- The callbacks of all bursts. -/
def total : List Nat → Nat
  | [] => 0
  | burst :: rest => burst + total rest

/-- The signals that the loop has read for the generator: their callbacks ran, or will run. -/
def State.dispatched (state : State) : Nat :=
  total state.bursts + state.pending + state.late + state.queue

-----------------------------------------------------------------------------------------
-- The books of the generator
-----------------------------------------------------------------------------------------

theorem total_concat (bursts : List Nat) (last : Nat)
    : total (bursts ++ [last]) = total bursts + last := by
  induction bursts with
  | nil => simp [total]
  | cons burst rest ih =>
      simp only [List.cons_append, total, ih]
      omega

/-- What holds of a generator: it has handlers exactly while it runs, and its event is set exactly
where a callback ran since the last `yield`, in which case it does not sleep.
-/
structure Books (arrived : Nat) (state : State) : Prop where
  registered : state.registered = true ↔ state.place ≠ .unstarted ∧ state.place ≠ .finished
  unstarted : state.place = .unstarted → state.queue = 0 ∧ state.isSet = false ∧ state.pending = 0
  isSet : state.place ≠ .finished → (state.isSet = true ↔ 0 < state.pending)
  asleep : state.place = .waiting .pending → state.pending = 0
  woken : state.place = .waiting (.success ()) → 0 < state.pending
  positive : ∀ burst ∈ state.bursts, 0 < burst
  accounted : arrived = state.dispatched + state.dropped + state.came

theorem Books.initial (unread : Nat) : Books unread (.initial unread) := by
  constructor <;> simp [State.initial, State.dispatched, total]

/-- A `yield` follows a callback. -/
theorem Books.yields {arrived : Nat} {state : State} (books : Books arrived state)
    (inside : state.registered = true) (some : 0 < state.pending)
    : Books arrived state.yields := by
  have accounted := books.accounted
  refine ⟨?_, ?_, ?_, ?_, ?_, ?_, ?_⟩
  · simp [State.yields, inside]
  · simp [State.yields]
  · simp [State.yields]
  · simp [State.yields]
  · simp [State.yields]
  · simpa [State.yields, or_imp, forall_and] using ⟨books.positive, some⟩
  · simp only [State.yields, State.dispatched, total_concat] at accounted ⊢
    omega

/-- The generator goes on to its next `yield`, or to sleep. -/
theorem Books.iterate {arrived : Nat} {state : State} (books : Books arrived state)
    (inside : state.registered = true) (running : state.place ≠ .finished)
    : Books arrived state.iterate := by
  have isSet := books.isSet running
  unfold State.iterate
  split
  · rename_i set
    exact books.yields inside (isSet.mp set)
  · rename_i unset
    have none : state.pending = 0 := by
      by_contra some
      exact unset (isSet.mpr (by omega))
    refine ⟨by simp [inside], by simp, fun _ => isSet, fun _ => none, by simp, books.positive,
      books.accounted⟩

theorem Books.finish {arrived : Nat} {state : State} (books : Books arrived state)
    : Books arrived state.finish :=
  ⟨by simp [State.finish], by simp [State.finish], by simp [State.finish],
    by simp [State.finish], by simp [State.finish], books.positive, books.accounted⟩

/-- The event is set by the first callback since the last `yield`, which wakes the generator. -/
theorem Books.callback {arrived queue : Nat} {state : State} (books : Books arrived state)
    (first : state.queue = queue + 1)
    : Books arrived (State.callback { state with queue }) := by
  have accounted := books.accounted
  have started : state.place ≠ .unstarted := by
    intro here
    have none := (books.unstarted here).1
    omega
  by_cases finished : state.place = .finished
  · simp only [State.callback, finished, if_true]
    refine ⟨?_, ?_, ?_, ?_, ?_, ?_, ?_⟩
    all_goals
      unfold State.set
      split <;> simp_all [books.registered, State.dispatched]
    all_goals first | exact books.positive | omega
  · simp only [State.callback, finished, if_false]
    cases set : state.isSet with
    | true =>
        have some := (books.isSet finished).mp set
        simp only [State.set, if_true]
        refine ⟨books.registered, by simp [started], by simp, ?_, by simp, books.positive, ?_⟩
        · intro asleep
          have none := books.asleep asleep
          omega
        · simp only [State.dispatched] at accounted ⊢
          omega
    | false =>
        simp only [State.set, Bool.false_eq_true, if_false]
        refine ⟨?_, ?_, by simp, ?_, by simp, books.positive, ?_⟩
        · rw [books.registered]
          cases here : state.place with
          | waiting waiter => cases waiter <;> simp
          | _ => simp
        · cases here : state.place with
          | waiting waiter => cases waiter <;> simp
          | unstarted => exact absurd here started
          | _ => simp
        · cases here : state.place with
          | waiting waiter => cases waiter <;> simp
          | _ => simp
        · simp only [State.dispatched] at accounted ⊢
          omega

/-- The steps: a signal is dispatched while there is a handler and dropped otherwise. -/
inductive Move (state : State) : Event → State → Prop where
  | arrives (registered : state.registered = true)
    : Move state .arrives { state with came := state.came + 1 }
  | dispatches {came : Nat} (registered : state.registered = true)
    (first : state.came = came + 1)
    : Move state .dispatches { state with came, queue := state.queue + 1 }
  | drops {came : Nat} (removed : state.registered = false) (first : state.came = came + 1)
    : Move state .dispatches { state with came, dropped := state.dropped + 1 }
  | runs {queue : Nat} (first : state.queue = queue + 1)
    : Move state .runs (State.callback { state with queue })
  | starts (here : state.place = .unstarted)
    : Move state .next (State.iterate { state with registered := true })
  | goesOn (here : state.place = .yielded) : Move state .next state.iterate
  | wakes (here : state.place = .waiting (.success ())) : Move state .resume state.yields
  | raises (here : state.place = .waiting .cancelled) : Move state .resume state.finish
  | closes (here : state.place = .unstarted ∨ state.place = .yielded)
    : Move state .close state.finish
  | cancels {waiter : FutureState Empty Unit} (here : state.place = .waiting waiter)
    : Move state .cancel { state with place := .waiting .cancelled }

/-- Every step is one of the moves. -/
theorem move_of_step {state next : State} {event : Event}
    (stepped : WatchSignal.step state event = some next)
    : Move state event next := by
  cases event with
  | arrives =>
      obtain ⟨registered, same⟩ := Option.ite_none_right_eq_some.mp stepped
      exact Option.some.inj same ▸ .arrives registered
  | dispatches =>
      simp only [step] at stepped
      split at stepped
      · rename_i first
        split at stepped
        · exact Option.some.inj stepped ▸ .dispatches ‹_› first
        · rename_i removed
          exact Option.some.inj stepped ▸ .drops (Bool.eq_false_iff.mpr removed) first
      · contradiction
  | runs =>
      simp only [step] at stepped
      split at stepped
      · exact Option.some.inj stepped ▸ .runs ‹_›
      · contradiction
  | next =>
      simp only [step] at stepped
      split at stepped
      · exact Option.some.inj stepped ▸ .starts ‹_›
      · exact Option.some.inj stepped ▸ .goesOn ‹_›
      all_goals contradiction
  | resume =>
      simp only [step] at stepped
      split at stepped
      · exact Option.some.inj stepped ▸ .wakes ‹_›
      · exact Option.some.inj stepped ▸ .raises ‹_›
      all_goals contradiction
  | close =>
      simp only [step] at stepped
      split at stepped
      · exact Option.some.inj stepped ▸ .closes (.inl ‹_›)
      · exact Option.some.inj stepped ▸ .closes (.inr ‹_›)
      all_goals contradiction
  | cancel =>
      simp only [step] at stepped
      split at stepped
      · exact Option.some.inj stepped ▸ .cancels ‹_›
      all_goals contradiction

/-- Each step keeps the books. -/
theorem Books.step {arrived : Nat} {state next : State} {event : Event}
    (books : Books arrived state) (stepped : step state event = some next)
    : Books (arrived + arrivals [event]) next := by
  have accounted := books.accounted
  cases move_of_step stepped with
  | arrives registered =>
      have started := (books.registered.mp registered).1
      refine ⟨books.registered, by simp [started], books.isSet, books.asleep, books.woken,
        books.positive, ?_⟩
      simp only [arrivals, List.countP_cons, List.countP_nil, beq_self_eq_true, if_true,
        State.dispatched] at accounted ⊢
      omega
  | dispatches registered first =>
      have started := (books.registered.mp registered).1
      refine ⟨books.registered, by simp [started], books.isSet, books.asleep, books.woken,
        books.positive, ?_⟩
      simp only [State.dispatched, first] at accounted
      simp only [State.dispatched, arrivals, List.countP_singleton, reduceCtorEq, beq_iff_eq,
        if_false]
      omega
  | drops removed first =>
      refine ⟨books.registered, books.unstarted, books.isSet, books.asleep, books.woken,
        books.positive, ?_⟩
      simp only [State.dispatched, first] at accounted
      simp only [State.dispatched, arrivals, List.countP_singleton, reduceCtorEq, beq_iff_eq,
        if_false]
      omega
  | runs first => exact books.callback first
  | starts here =>
      obtain ⟨none, unset, zero⟩ := books.unstarted here
      simp only [State.iterate, unset, Bool.false_eq_true, if_false]
      exact ⟨by simp, by simp, by simp [zero], by simp [zero], by simp, books.positive, accounted⟩
  | goesOn here => exact books.iterate (books.registered.mpr (by simp [here])) (by simp [here])
  | wakes here => exact books.yields (books.registered.mpr (by simp [here])) (books.woken here)
  | raises | closes => exact books.finish
  | cancels here =>
      have isSet := books.isSet (by simp [here])
      exact ⟨by simp [books.registered, here], by simp, fun _ => isSet, by simp, by simp,
        books.positive, accounted⟩

theorem books_of_run {unread : Nat} {events : List Event} {final : State}
    (reached : Transition.run WatchSignal.step (.initial unread) events = some final)
    : Books (unread + arrivals events) final := by
  refine Transition.run_preserves_history
    (P := fun past state => Books (unread + arrivals past) state)
    (fun past state event next books stepped => ?_) (Books.initial unread) reached
  rw [arrivals, List.countP_append, ← Nat.add_assoc]
  exact books.step stepped

/-- Past the end of the generator a step reads no signal for it. -/
theorem step_finished {arrived : Nat} {state next : State} {event : Event}
    (books : Books arrived state) (finished : state.place = .finished)
    (stepped : WatchSignal.step state event = some next)
    : next.place = .finished
      ∧ next.dispatched = state.dispatched
      ∧ next.dropped + next.came = state.dropped + state.came := by
  have removed : state.registered = false := by
    simpa [finished] using books.registered
  cases move_of_step stepped with
  | arrives registered | dispatches registered => simp [removed] at registered
  | drops _ first =>
      refine ⟨finished, rfl, ?_⟩
      simp only [first]
      omega
  | runs first =>
      cases state.isSet <;>
        simp [State.callback, State.set, State.dispatched, finished, first] <;> omega
  | starts here | goesOn here | wakes here | raises here | closes here | cancels here =>
      simp [finished] at here

/-- What the loop has not read when the generator ends gets no callback, however long it goes on. -/
theorem run_finished {arrived : Nat} {state final : State} {events : List Event}
    (books : Books arrived state) (finished : state.place = .finished)
    (ran : Transition.run WatchSignal.step state events = some final)
    : final.place = .finished
      ∧ final.dispatched = state.dispatched
      ∧ final.dropped + final.came = state.dropped + state.came := by
  have kept := Transition.run_preserves
    (P := fun next =>
      (∃ arrived, Books arrived next)
      ∧ next.place = .finished
      ∧ next.dispatched = state.dispatched
      ∧ next.dropped + next.came = state.dropped + state.came)
    (fun next event later holds stepped => ?_) ⟨⟨arrived, books⟩, finished, rfl, rfl⟩ ran
  · exact kept.2
  · obtain ⟨⟨arrived, books⟩, here, read, unread⟩ := holds
    obtain ⟨stays, same, rest⟩ := step_finished books here stepped
    exact ⟨⟨_, books.step stepped⟩, stays, same.trans read, rest.trans unread⟩

/-- In every order of signals, callbacks and iterations, each `yield` of `watch_signal()` stands
for at least one signal since the one before, and every signal that came is in one of these
bursts, on its way to one, too late, or was not read by the loop while there was a handler;
those that are not read when the generator ends get no callback, whatever follows. The generator
sleeps only where no callback ran since its last `yield`, and where one did, and it was not
cancelled, it yields as soon as it resumes; and it has handlers exactly while it runs.
-/
theorem watchSignal_bursts {unread : Nat} {events : List Event} {final : State}
    (reached : Transition.run WatchSignal.step (.initial unread) events = some final)
    : (∀ burst ∈ final.bursts, 0 < burst)
      ∧ unread + arrivals events
        = total final.bursts + final.pending + final.late + final.queue
          + final.dropped + final.came
      ∧ (final.place = .finished
          → ∀ more last,
              Transition.run WatchSignal.step final more = some last
              → last.place = .finished
                ∧ last.dispatched = final.dispatched
                ∧ last.dropped + last.came = final.dropped + final.came)
      ∧ (∀ waiter,
          final.place = .waiting waiter
          → waiter ≠ .cancelled
          → (0 < final.pending ↔ WatchSignal.step final .resume = some final.yields))
      ∧ (final.registered = true ↔ final.place ≠ .unstarted ∧ final.place ≠ .finished) := by
  have books := books_of_run reached
  refine ⟨books.positive, books.accounted, fun finished more last => run_finished books finished,
    fun waiter here kept => ?_, books.registered⟩
  cases waiter with
  | pending => simp [WatchSignal.step, here, books.asleep here]
  | success value => simp [WatchSignal.step, here, books.woken here]
  | cancelled => contradiction
  | exception error => exact error.elim

/-- Two signals before the generator resumes, one while its item is handled, and one that the
loop has not read when the generator is closed.
-/
theorem watchSignal_bursts_three
    : ∃ final : State,
        Transition.run WatchSignal.step (.initial 0)
            [.next, .arrives, .arrives, .dispatches, .dispatches, .runs, .runs, .resume, .arrives,
              .dispatches, .runs, .next, .arrives, .close, .dispatches]
          = some final
        ∧ final.bursts = [2, 1]
        ∧ final.dropped = 1
        ∧ ∀ burst ∈ final.bursts, 0 < burst := by
  have reached
      : Transition.run WatchSignal.step (.initial 0)
          [.next, .arrives, .arrives, .dispatches, .dispatches, .runs, .runs, .resume, .arrives,
            .dispatches, .runs, .next, .arrives, .close, .dispatches]
        = some _ :=
    rfl
  exact ⟨_, reached, rfl, rfl, (watchSignal_bursts reached).1⟩

end Aiodrive.WatchSignal
