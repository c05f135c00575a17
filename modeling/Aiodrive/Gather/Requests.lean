import Aiodrive.Gather.Model
import Mathlib.Data.List.Nodup

/-! The cancel requests that `gather()` makes on each of its tasks, against the cancellations that
its caller receives.
-/

namespace Aiodrive.Gather

variable {ι ε α : Type*} [DecidableEq ι]

/-- The number of cancel requests on a task. -/
def requestCount (task : ι) (requests : List (CancelRequest ι)) : Nat :=
  requests.countP (fun request => request.task = task)

theorem requestCount_append (task : ι) (earlier later : List (CancelRequest ι))
    : requestCount task (earlier ++ later)
      = requestCount task earlier + requestCount task later :=
  List.countP_append

/-- Cancelling all of some distinct tasks makes one request on each. -/
theorem requestCount_cancelAll {tasks : List ι} {task : ι} (distinct : tasks.Nodup)
    (member : task ∈ tasks) (message : Option String)
    : requestCount task (cancelAll tasks message) = 1 := by
  have once := List.count_eq_one_of_mem distinct member
  rw [requestCount, cancelAll, List.countP_map]
  rw [← once, List.count]
  apply List.countP_congr
  intro other _
  simp

/-- The event delivers a `CancelledError` to the caller. -/
def Event.isDelivery : Event ι ε α → Bool
  | .cancelCaller _ => true
  | .complete _ _ | .waitReturns => false

/-- The number of `CancelledError` deliveries in a schedule. -/
def deliveries (events : List (Event ι ε α)) : Nat :=
  events.countP Event.isDelivery

/-- The first wait of `gather()` returns with a failed or cancelled task. -/
def State.firstWaitFails (state : State ι ε α) (event : Event ι ε α) : Bool :=
  match state.pc, event with
  | .firstWait, .waitReturns => anyFailed state.tasks state.table
  | _, _ => false

/-- The first wait of `gather()` returns with a failed or cancelled task during the run. -/
def firstWaitFailed : State ι ε α → List (Event ι ε α) → Bool
  | _, [] => false
  | state, event :: rest =>
      state.firstWaitFails event
      || (step state event).any (fun next => firstWaitFailed next rest)

/-- The requests on each task that `gather()` has still to make, when `count` deliveries are to
come. The flag `failed` takes the first of them.
-/
def Pc.owed (pc : Pc ε α) (firstFails : Bool) (count : Nat) : Nat :=
  match pc with
  | .firstWait => if firstFails then max 1 count else count
  | .loopWait _ failed => if failed then count - 1 else count
  | .exited _ => 0

/-- The first wait is never entered again. -/
theorem step_pc_ne_firstWait {state next : State ι ε α} {event : Event ι ε α}
    (past : state.pc ≠ .firstWait) (stepped : step state event = some next)
    : next.pc ≠ .firstWait := by
  cases move_of_step stepped with
  | completes _ => exact past
  | interruptsFirst _ | absorbs _ | forwards _ | firstReturns _ _ | finishes _ _ => simp

/-- Past the first wait, it does not return any more; by induction on the schedule. -/
theorem firstWaitFailed_of_past {state : State ι ε α} {events : List (Event ι ε α)}
    (past : state.pc ≠ .firstWait)
    : firstWaitFailed state events = false := by
  induction events generalizing state with
  | nil => rfl
  | cons event rest ih =>
      have notNow : state.firstWaitFails event = false := by
        unfold State.firstWaitFails
        split
        · contradiction
        · rfl
      simp only [firstWaitFailed, notNow, Bool.false_or, Option.any_eq_false]
      intro next stepped
      simpa using ih (step_pc_ne_firstWait past stepped)

/-- Nothing is delivered to a caller whose call has ended; by induction on the schedule. -/
theorem deliveries_of_exited {state final : State ι ε α} {events : List (Event ι ε α)}
    {outcome : Outcome ε (List α)} (exited : state.pc = .exited outcome)
    (reached : Transition.run step state events = some final)
    : deliveries events = 0 := by
  induction events generalizing state with
  | nil => rfl
  | cons event rest ih =>
      obtain ⟨next, stepped, tail⟩ := Transition.run_cons_iff.mp reached
      cases move_of_step stepped with
      | completes _ => simpa [deliveries, Event.isDelivery] using ih (by exact exited) tail
      | interruptsFirst waits | absorbs waits | forwards waits | firstReturns waits _
      | finishes waits _ => simp [exited] at waits

/-- What a step requests of a task is what is owed less after it, by cases on the moves. -/
theorem step_owed {state next final : State ι ε α} {event : Event ι ε α}
    {rest : List (Event ι ε α)} {task : ι} (distinct : state.tasks.Nodup)
    (member : task ∈ state.tasks) (stepped : step state event = some next)
    (tail : Transition.run step next rest = some final)
    : requestCount task next.requests
        + next.pc.owed (firstWaitFailed next rest) (deliveries rest)
      = requestCount task state.requests
        + state.pc.owed (firstWaitFailed state (event :: rest)) (deliveries (event :: rest)) := by
  have again : firstWaitFailed state (event :: rest)
      = (state.firstWaitFails event || firstWaitFailed next rest) := by
    simp [firstWaitFailed, stepped]
  have delivered (message : Option String)
      : deliveries (.cancelCaller message :: rest : List (Event ι ε α)) = deliveries rest + 1 :=
    List.countP_cons_of_pos rfl
  have past : next.pc ≠ .firstWait → firstWaitFailed next rest = false :=
    firstWaitFailed_of_past
  rw [again]
  cases move_of_step stepped with
  | completes _ => simp [deliveries, Event.isDelivery, State.firstWaitFails]
  | interruptsFirst waits =>
      rw [past (by simp), delivered, requestCount_append,
        requestCount_cancelAll distinct member, waits]
      simp only [Pc.owed, State.firstWaitFails, waits, Bool.or_false, Bool.false_eq_true,
        if_false]
      omega
  | absorbs waits =>
      rw [past (by simp), delivered, waits]
      simp only [Pc.owed, if_true, Bool.false_eq_true, if_false]
      omega
  | forwards waits =>
      rw [past (by simp), delivered, requestCount_append,
        requestCount_cancelAll distinct member, waits]
      simp only [Pc.owed, Bool.false_eq_true, if_false]
      omega
  | firstReturns waits ready =>
      have counted : deliveries (.waitReturns :: rest : List (Event ι ε α)) = deliveries rest :=
        List.countP_cons_of_neg Bool.false_ne_true
      rw [past (by simp), counted, requestCount_append, waits]
      simp only [Pc.owed, State.firstWaitFails, waits, Bool.or_false]
      cases anyFailed state.tasks state.table with
      | true =>
          simp only [if_true, requestCount_cancelAll distinct member]
          omega
      | false => simp [requestCount]
  | finishes waits ready =>
      have none : deliveries (.waitReturns :: rest : List (Event ι ε α)) = 0 := by
        simpa [deliveries, Event.isDelivery] using deliveries_of_exited (by rfl) tail
      rw [none, waits]
      simp [Pc.owed]

/-- What a run requests of a task is what was owed at its beginning, by induction on the
schedule; once the call has ended, nothing is owed.
-/
theorem run_owed {state final : State ι ε α} {events : List (Event ι ε α)} {task : ι}
    (distinct : state.tasks.Nodup) (member : task ∈ state.tasks)
    (reached : Transition.run step state events = some final)
    : requestCount task final.requests + final.pc.owed false 0
      = requestCount task state.requests
        + state.pc.owed (firstWaitFailed state events) (deliveries events) := by
  induction events generalizing state with
  | nil =>
      obtain rfl := Option.some.inj reached
      rfl
  | cons event rest ih =>
      obtain ⟨next, stepped, tail⟩ := Transition.run_cons_iff.mp reached
      have same := step_tasks stepped
      rw [ih (same ▸ distinct) (same ▸ member) tail]
      exact step_owed distinct member stepped tail

/-- `gather()` makes one request on each task for every `CancelledError` delivered to its caller,
and at least one if `sensitive` and its first wait returned with a failed or cancelled task.
-/
theorem gather_forwards {sensitive : Bool} {tasks : List ι} {table : TaskTable ι ε α}
    {events : List (Event ι ε α)} {final : State ι ε α} (distinct : tasks.Nodup)
    (reached : Transition.run step (.initial sensitive tasks table) events = some final)
    : ∀ task ∈ tasks,
        requestCount task final.requests
        = if sensitive ∧ firstWaitFailed (.initial sensitive tasks table) events then
            max 1 (deliveries events)
          else
            deliveries events := by
  intro task member
  have nothing : final.pc.owed false 0 = 0 := by
    cases final.pc with
    | firstWait => rfl
    | loopWait cancelled failed => cases failed <;> rfl
    | exited outcome => rfl
  have owed := run_owed distinct member reached
  rw [nothing, Nat.add_zero] at owed
  rw [owed]
  have some : tasks.isEmpty = false := by simpa using List.ne_nil_of_mem member
  cases sensitive with
  | true => simp [State.initial, start, some, Pc.owed, requestCount]
  | false => simp [State.initial, start, some, Pc.owed, requestCount]

/-- A failure and two cancellations make two requests on each task. -/
theorem gather_forwards_afterFailure
    : ∃ (events : List (Event Bool String Nat)) (final : State Bool String Nat),
        Transition.run step (.initial true [false, true] (fun _ => .pending)) events = some final
        ∧ requestCount true final.requests = 2 := by
  let events : List (Event Bool String Nat) :=
    [.complete false (.exception "boom"), .waitReturns, .cancelCaller none, .cancelCaller none]
  obtain ⟨final, reached⟩ := Option.isSome_iff_exists.mp
    (show (Transition.run step (.initial true [false, true] (fun _ => .pending)) events).isSome
        = true from by decide)
  refine ⟨events, final, reached, ?_⟩
  exact (gather_forwards (by decide) reached true (by decide)).trans (by decide)

end Aiodrive.Gather
