import Aiodrive.Asyncio.FirstSteps
import Aiodrive.StartOrder.Programs

/-! Coroutines that are passed to `gather()`, `race()` or an unbounded `amass()` all start before
one of them can be cancelled.
-/

namespace Aiodrive

variable {ι ε α : Type*} [DecidableEq ι]

/-- The tasks of coroutines, which are created when the function is called. -/
def createdTasks : TaskTable ι ε α := fun _ => .pending

namespace Amass

/-- A turn of the outer loop makes no cancel request: it leaves only with nothing pending. -/
theorem State.turn_requests (state : State ι ε α) : state.turn.requests = state.requests := by
  unfold State.turn
  split
  · rename_i empty
    have nonePending := List.isEmpty_iff.mp empty
    simp only [State.leave, nonePending, List.map_nil, cancelAll, List.append_nil]
    rfl
  · rfl

/-- Without a bound, the first turn takes every awaitable. -/
theorem refill_unbounded {awaitables : List ι} (distinct : awaitables.Nodup)
    : Partition awaitables [] (refill none awaitables [] []).2.1 []
        (refill none awaitables [] []).2.2 := by
  have before : Partition awaitables [] [] awaitables [] := ⟨distinct, .refl _, .nil⟩
  have after : Partition awaitables [] (refill none awaitables [] []).2.1
      (refill none awaitables [] []).1 (refill none awaitables [] []).2.2 :=
    refill_partition before
  rcases refill_exhausts none awaitables [] [] with exhausted | full
  · rwa [exhausted] at after
  · simp at full

/-- The first turn creates the futures of all awaitables, and waits if there are any. -/
theorem firstTurn_unbounded (sensitive : Bool) {awaitables : List ι}
    (table : TaskTable (Created ι) ε α) (distinct : awaitables.Nodup)
    (nonempty : awaitables ≠ [])
    : (State.initial none sensitive awaitables table).turn.pc = .waiting
      ∧ (State.initial none sensitive awaitables table).turn.allFutures.Perm
          (awaitables.map .future) := by
  have partition := refill_unbounded distinct
  have taken := partition.parts
  simp only [List.nil_append, List.append_nil] at taken
  have somePending : (refill none awaitables [] []).2.1 ≠ [] := fun empty =>
    nonempty (List.nil_perm.mp (empty ▸ taken))
  have waits : (State.initial none sensitive awaitables table).turn
      = { (State.initial none sensitive awaitables table).refill with pc := .waiting } := by
    unfold State.turn
    rw [if_neg]
    simpa [State.refill, State.initial] using somePending
  rw [waits]
  refine ⟨rfl, partition.created.trans ?_⟩
  simpa using taken.map Created.future

end Amass

/-- In every run of the event loop from the step in which `caller` is reached, with any number
of callbacks in the queue before the tasks that this step created, and with or without
a cancellation of the caller pending, the tasks start before `caller` can cancel them.
-/
def StartsBeforeCancelling {σ κ τ : Type*} [DecidableEq τ]
    (program : ReadyQueue.Program σ κ τ) (tasks : List τ) (caller : σ)
    : Prop :=
  ∀ waiting pendingCancel events final,
    Transition.run (ReadyQueue.step program)
        (.initial program waiting tasks caller pendingCancel) events
      = some final
    → ReadyQueue.StartsFirst program waiting tasks events final

/-- The guarantee for the three functions, at their first suspension: for `amass()` that of the
first `__anext__()`.
-/
theorem combinators_start_first {tasks : List ι} (sensitive : Bool) (distinct : tasks.Nodup)
    : StartsBeforeCancelling Gather.program tasks
        (Gather.State.initial sensitive tasks (createdTasks : TaskTable ι ε α))
      ∧ StartsBeforeCancelling Race.program tasks
        (Race.State.initial tasks (createdTasks : TaskTable ι ε α))
      ∧ StartsBeforeCancelling Amass.program (tasks.map .future)
        (Amass.State.initial none sensitive tasks
          (createdTasks : TaskTable (Amass.Created ι) ε α)).turn := by
  refine ⟨?_, ?_, ?_⟩
  · intro waiting pendingCancel events final reached
    apply ReadyQueue.run_startsFirst Gather.program_lawful distinct (by rfl) ?_ reached
    intro nonempty
    have someTask : tasks.isEmpty = false := by simpa using nonempty
    cases sensitive <;>
      simp [Gather.program, ReadyQueue.Program.ofWaits, Gather.State.wait, Gather.State.initial,
        Gather.start, someTask, Gather.Pc.returnWhen]
  · intro waiting pendingCancel events final reached
    apply ReadyQueue.run_startsFirst Race.program_lawful distinct (by rfl) ?_ reached
    intro nonempty
    have someTask : tasks.isEmpty = false := by simpa using nonempty
    simp [Race.program, ReadyQueue.Program.ofWaits, Race.State.wait, Race.State.initial,
      Race.start, someTask]
  · intro waiting pendingCancel events final reached
    have unrequested : (Amass.State.initial none sensitive tasks
        (createdTasks : TaskTable (Amass.Created ι) ε α)).turn.requests = [] :=
      Amass.State.turn_requests _
    apply ReadyQueue.run_startsFirst Amass.program_lawful
      (distinct.map (fun _ _ => Amass.Created.future.inj)) unrequested ?_ reached
    intro nonempty
    have someTask : tasks ≠ [] := by simpa using nonempty
    obtain ⟨waits, _⟩ := Amass.firstTurn_unbounded sensitive
      (createdTasks : TaskTable (Amass.Created ι) ε α) distinct someTask
    simp [Amass.program, ReadyQueue.Program.ofWaits, Amass.State.wait, waits]

/-- A cancellation is pending when `gather()` first suspends. Both coroutines have run their first
step when it is delivered, and only then are they asked to cancel.
-/
theorem combinators_start_first_pendingCancel
    : ∃ final : ReadyQueue.State (Gather.State Nat String Nat) Nat,
        Transition.run (ReadyQueue.step Gather.program)
            (.initial Gather.program 0 [0, 1] (Gather.State.initial true [0, 1] createdTasks)
              (some none))
            [.run, .run, .resume (.cancelCaller none)]
          = some final
        ∧ final.started = [0, 1]
        ∧ final.caller.requests = cancelAll [0, 1] none
        ∧ ReadyQueue.StartsFirst Gather.program 0 [0, 1]
            [.run, .run, .resume (.cancelCaller none)] final := by
  have ⟨final, reached, started, requested⟩
      : ∃ final : ReadyQueue.State (Gather.State Nat String Nat) Nat,
          Transition.run (ReadyQueue.step Gather.program)
              (.initial Gather.program 0 [0, 1] (Gather.State.initial true [0, 1] createdTasks)
                (some none))
              [.run, .run, .resume (.cancelCaller none)]
            = some final
          ∧ final.started = [0, 1]
          ∧ final.caller.requests = cancelAll [0, 1] none :=
    ⟨_, rfl, rfl, rfl⟩
  exact ⟨final, reached, started, requested,
    (combinators_start_first true (by decide)).1 0 (some none) _ final reached⟩

end Aiodrive
