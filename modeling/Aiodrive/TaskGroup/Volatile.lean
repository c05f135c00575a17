import Aiodrive.Cancellation.Suppress
import Aiodrive.TaskGroup.Ends

/-! `volatile_task_group()` of `modules/task_group.py`, around any body. -/

namespace Aiodrive.VolatileTaskGroup

open ExceptionGroups (Thrown)
open ExceptionGroups.Thrown (leavesOf leavesOf_rest? rest?_eq_none_iff)
open TaskGroup (Child Ending Event requests)

/-- The exceptions in the group: the one that terminates it, and those of its tasks and its body. -/
inductive Error (ε : Type*) where
  | taskGroupTerminatedException
  | raised (error : ε)
deriving DecidableEq, Repr

variable {ε : Type*}

/-- `yield group` and `raise TaskGroupTerminatedException` -/
def terminate : Ending ε → Ending (Error ε)
  | .returned => .raised .taskGroupTerminatedException
  | .cancelledError => .cancelledError
  | .raised error => .raised (.raised error)

/-- The end of a task. -/
def liftResult : FutureState ε Unit → FutureState (Error ε) Unit
  | .cancelled => .cancelled
  | .exception error => .exception (.raised error)
  | .pending => .pending
  | .success value => .success value

/-- What happens to the group. -/
def liftEvent : Event ε → Event (Error ε)
  | .creates => .creates
  | .childEnds index result => .childEnds index (liftResult result)
  | .childNoticed index => .childNoticed index
  | .cancels => .cancels
  | .interrupts => .interrupts
  | .bodyEnds ending => .bodyEnds (terminate ending)
  | .resumes => .resumes

def step (state : TaskGroup.State (Error ε)) (event : Event ε)
    : Option (TaskGroup.State (Error ε)) :=
  TaskGroup.step state (liftEvent event)

/-- `suppress(TaskGroupTerminatedException)` -/
def catches : Suppress.Error (Error ε) → Bool
  | .raised .taskGroupTerminatedException => true
  | .raised (.raised _) | .cancelledError | .suppressFailureError _ | .assertionError => false

/-- What `async with TaskGroup()` raises. -/
def thrown : TaskGroup.Exit (Error ε) → Option (Thrown (Suppress.Error (Error ε)))
  | .returned => none
  | .cancelledError => some (.single .cancelledError)
  | .raised error => some (.single (.raised error))
  | .group errors =>
      some (.group "unhandled errors in a TaskGroup"
        (errors.map (fun error => .single (.raised error))))

/-- What the manager raises where its group is left, entered in the task `parent`. -/
def exit (parent : Task) (left : Task) (groupExit : TaskGroup.Exit (Error ε))
    : Option (Thrown (Suppress.Error (Error ε))) :=
  (Suppress.suppress .task catches false (fun _ => (left, thrown groupExit)) parent).2

-----------------------------------------------------------------------------------------
-- Whose exceptions there are
-----------------------------------------------------------------------------------------

/-- The exception of a task, or of the body. -/
def Error.raised? : Error ε → Option ε
  | raised error => some error
  | taskGroupTerminatedException => none

/-- The failures of the tasks. -/
def failures (states : List (FutureState (Error ε) Unit)) : List ε :=
  states.filterMap (fun state => state.exception?.bind Error.raised?)

/-- No task raises the exception that terminates the group, and the body ended in one of its
ways.
-/
structure Lifted (past : List (Event ε)) (state : TaskGroup.State (Error ε)) : Prop where
  tasks : ∀ result ∈ state.states, ∃ own : FutureState ε Unit, result = liftResult own
  body
    : ∀ ending,
        state.place.ending? = some ending → ∃ body, .bodyEnds body ∈ past ∧ ending = terminate body

theorem Lifted.step {past : List (Event ε)} {state next : TaskGroup.State (Error ε)}
    {event : Event ε} (lifted : Lifted past state)
    (stepped : VolatileTaskGroup.step state event = some next)
    : Lifted (past ++ [event]) next := by
  obtain ⟨states, ending⟩ := TaskGroup.step_frame stepped
  constructor
  · intro result inGroup
    rw [states] at inGroup
    cases event with
    | creates =>
        rcases List.mem_append.mp inGroup with before | new
        · exact lifted.tasks result before
        · exact ⟨.pending, List.mem_singleton.mp new⟩
    | childEnds index own =>
        rcases List.mem_or_eq_of_mem_set inGroup with before | same
        · exact lifted.tasks result before
        · exact ⟨own, same⟩
    | childNoticed | cancels | interrupts | bodyEnds | resumes => exact lifted.tasks result inGroup
  · intro known here
    rw [ending] at here
    cases event with
    | bodyEnds body => exact ⟨body, by simp, (Option.some.inj here).symm⟩
    | creates | childEnds | childNoticed | cancels | interrupts | resumes =>
        obtain ⟨body, earlier, same⟩ := lifted.body known here
        exact ⟨body, by simp [earlier], same⟩

theorem lifted_of_run {own : Bool} {parent : Task} {events : List (Event ε)}
    {final : TaskGroup.State (Error ε)}
    (reached : Transition.run step (.initial own parent) events = some final)
    : Lifted events final := by
  refine Transition.run_preserves_history
    (P := fun past state => Lifted past state)
    (fun past state event next lifted stepped => lifted.step stepped) ?_ reached
  exact ⟨by simp [TaskGroup.State.initial, TaskGroup.State.states], fun _ here => by contradiction⟩

/-- A run of the manager is one of its group. -/
theorem sound_of_run {own : Bool} {parent : Task} {events : List (Event ε)}
    {final : TaskGroup.State (Error ε)}
    (reached : Transition.run step (.initial own parent) events = some final)
    : TaskGroup.Sound (parent.cancelling + requests events) final := by
  have same : requests (events.map liftEvent) = requests events := by
    rw [requests, List.countP_map, requests]
    congr 1
    funext event
    cases event <;> rfl
  exact same ▸ TaskGroup.sound_of_run ((Transition.run_map liftEvent _ _).symm.trans reached)

-----------------------------------------------------------------------------------------
-- What the manager raises
-----------------------------------------------------------------------------------------

theorem leavesAll_single {α β : Type*} (name : α → β) (errors : List α)
    : Thrown.leavesAll (errors.map (fun error => .single (name error))) = errors.map name := by
  induction errors with
  | nil => rfl
  | cons error rest ih => simp [Thrown.leavesAll, Thrown.leaves, ih]

@[simp] theorem catches_terminated
    : catches (.raised .taskGroupTerminatedException : Suppress.Error (Error ε)) = true :=
  rfl

@[simp] theorem catches_raised (error : ε) : catches (.raised (.raised error)) = false :=
  rfl

@[simp] theorem raised?_terminated
    : (Error.taskGroupTerminatedException : Error ε).raised? = none :=
  rfl

@[simp] theorem raised?_raised (error : ε) : (Error.raised error).raised? = some error :=
  rfl

/-- The clause catches what terminates the group, by induction on the errors. -/
theorem filter_not_catches (errors : List (Error ε))
    : (errors.map Suppress.Error.raised).filter (fun error => !catches error)
      = (errors.filterMap Error.raised?).map (fun error => .raised (.raised error)) := by
  induction errors with
  | nil => rfl
  | cons error rest ih => cases error <;> simp [ih, List.filterMap_cons]

/-- What is left past the clause, and else the check of the requests. -/
theorem exit_eq (parent left : Task) (groupExit : TaskGroup.Exit (Error ε))
    : exit parent left groupExit
      = match (thrown groupExit).bind (Thrown.rest? catches) with
        | some raised => some raised
        | none =>
            if parent.cancelling < left.cancelling then some (.single .cancelledError) else none := by
  simp only [exit, Suppress.suppress, Suppress.ensureCorrectCancellation, ↓reduceIte, reduceCtorEq]
  cases raised : thrown groupExit with
  | none => rfl
  | some error =>
      cases rest : error.rest? catches <;> simp [Suppress.exceptStar, Suppress.checkRequests, rest]

/-- A group raises its exceptions but the one that terminates it; one with no other is checked. -/
theorem exit_group (parent left : Task) (errors : List (Error ε))
    : (errors.filterMap Error.raised? ≠ []
        → ∃ raised,
            exit parent left (.group errors) = some raised
            ∧ raised.leaves
              = (errors.filterMap Error.raised?).map (fun error => .raised (.raised error)))
      ∧ (errors.filterMap Error.raised? = []
        → exit parent left (.group errors)
          = if parent.cancelling < left.cancelling then some (.single .cancelledError)
            else none) := by
  have leaves
      : leavesOf ((thrown (.group errors)).bind (Thrown.rest? catches))
        = (errors.filterMap Error.raised?).map (fun error => .raised (.raised error)) := by
    rw [← filter_not_catches]
    simp only [thrown, Option.bind_some, leavesOf_rest?, Thrown.leaves]
    rw [leavesAll_single]
  rw [exit_eq]
  constructor
  · intro some_error
    cases rest : (thrown (.group errors)).bind (Thrown.rest? catches) with
    | some raised => exact ⟨raised, rfl, by simpa [rest, leavesOf] using leaves⟩
    | none =>
        rw [rest] at leaves
        exact absurd (List.map_eq_nil_iff.mp leaves.symm) some_error
  · intro none_left
    have caught : (thrown (.group errors)).bind (Thrown.rest? catches) = none := by
      simp only [thrown, Option.bind_some, rest?_eq_none_iff]
      intro error isLeaf
      simp only [Thrown.leaves, leavesAll_single] at isLeaf
      obtain ⟨own, inErrors, rfl⟩ := List.mem_map.mp isLeaf
      cases own with
      | taskGroupTerminatedException => rfl
      | raised error =>
          have gone := List.filterMap_eq_nil_iff.mp none_left _ inErrors
          contradiction
    rw [caught]

-----------------------------------------------------------------------------------------
-- Runs
-----------------------------------------------------------------------------------------

/-- The errors of a group that is left are the failures of its tasks. -/
theorem failures_perm {count : Nat} {state : TaskGroup.State (Error ε)}
    (sound : TaskGroup.Sound count state) (none : state.holds = false)
    : (state.errors.filterMap Error.raised?).Perm (failures state.states) := by
  have noticed
      : state.children.filterMap Child.failure?
        = state.states.filterMap FutureState.exception? := by
    rw [TaskGroup.State.states, List.filterMap_map]
    apply List.filterMap_congr
    intro child inGroup
    simp [Child.failure?, TaskGroup.not_holds_iff.mp none child inGroup]
  have perm := (noticed ▸ sound.failures).filterMap Error.raised?
  rwa [List.filterMap_filterMap] at perm

theorem exception_liftResult {own : FutureState ε Unit} {error : Error ε}
    (failed : (liftResult own).exception? = some error)
    : ∃ raised, error = .raised raised := by
  cases own with
  | exception raised => exact ⟨raised, (Option.some.inj failed).symm⟩
  | cancelled | pending | success => contradiction

/-- None of them is the exception that terminates the group. -/
theorem errors_eq_nil {count : Nat} {past : List (Event ε)} {state : TaskGroup.State (Error ε)}
    (sound : TaskGroup.Sound count state) (lifted : Lifted past state)
    (none : state.errors.filterMap Error.raised? = [])
    : state.errors = [] := by
  rw [List.eq_nil_iff_forall_not_mem]
  intro error inErrors
  obtain ⟨child, inGroup, failed⟩ := List.mem_filterMap.mp (sound.failures.mem_iff.mp inErrors)
  obtain ⟨own, same⟩ := lifted.tasks child.state (List.mem_map_of_mem inGroup)
  have raises : (liftResult own).exception? = some error := by
    unfold Child.failure? at failed
    split at failed
    · contradiction
    · exact same ▸ failed
  obtain ⟨raised, rfl⟩ := exception_liftResult raises
  have gone := List.filterMap_eq_nil_iff.mp none _ inErrors
  contradiction

theorem error?_terminate (body : Ending ε)
    : (terminate body).error?.toList.filterMap Error.raised? = body.error?.toList := by
  cases body <;> rfl

/-- In every order of events a manager is left only past the end of all its tasks, with no
request on the task that entered it added or taken back. It raises the failures of its tasks and
of its body in one group, and nothing else with them; where there are none, it raises a
`CancelledError` just where its body did, or where the task was asked to cancel meanwhile.
-/
theorem volatile_exits {own : Bool} {parent : Task} {events : List (Event ε)}
    {final : TaskGroup.State (Error ε)} {ending : Ending (Error ε)}
    {groupExit : TaskGroup.Exit (Error ε)}
    (reached : Transition.run step (.initial own parent) events = some final)
    (left : final.place = .left ending groupExit)
    : (∀ result ∈ final.states, result ≠ .pending)
      ∧ final.parent.cancelling = parent.cancelling + requests events
      ∧ ∃ body,
          .bodyEnds body ∈ events
          ∧ (failures final.states ++ body.error?.toList ≠ []
              → ∃ raised,
                  exit parent final.parent groupExit = some raised
                  ∧ raised.leaves.Perm
                    ((failures final.states ++ body.error?.toList).map
                      (fun error => .raised (.raised error))))
          ∧ (failures final.states ++ body.error?.toList = []
              → (body = .cancelledError ∨ 0 < requests events
                  → exit parent final.parent groupExit = some (.single .cancelledError))
                ∧ (body ≠ .cancelledError
                  → requests events = 0
                  → exit parent final.parent groupExit = none)) := by
  have sound := sound_of_run reached
  have lifted := lifted_of_run reached
  obtain ⟨none, law⟩ := left ▸ sound.exits
  obtain ⟨body, earlier, rfl⟩ := lifted.body ending (left ▸ rfl)
  have counted : final.parent.cancelling = parent.cancelling + requests events := by
    have counted := sound.counted
    rw [left] at counted
    simpa [TaskGroup.Place.isLeft] using counted
  have perm := failures_perm sound none
  have raises
      : ((final.errors ++ (terminate body).error?.toList).filterMap Error.raised?).Perm
          (failures final.states ++ body.error?.toList) := by
    rw [List.filterMap_append, error?_terminate]
    exact perm.append_right _
  refine ⟨?_, counted, body, earlier, ?_, ?_⟩
  · intro result inGroup
    obtain ⟨child, isTask, rfl⟩ := List.mem_map.mp inGroup
    exact sound.ended child isTask (TaskGroup.not_holds_iff.mp none child isTask)
  · intro some_error
    have failed
        : (final.errors ++ (terminate body).error?.toList).filterMap Error.raised? ≠ [] := by
      intro empty
      exact some_error (List.nil_perm.mp (empty ▸ raises))
    have nonempty : final.errors ++ (terminate body).error?.toList ≠ [] := by
      intro empty
      exact failed (by rw [empty, List.filterMap_nil])
    obtain ⟨raised, exits, leaves⟩ := (exit_group parent final.parent _).1 failed
    exact ⟨raised, law.fails nonempty ▸ exits, leaves ▸ raises.map _⟩
  · intro no_error
    have none_raised
        : (final.errors ++ (terminate body).error?.toList).filterMap Error.raised? = [] :=
      List.perm_nil.mp (no_error ▸ raises)
    have own_errors : final.errors = [] := by
      rw [List.filterMap_append, List.append_eq_nil_iff] at none_raised
      exact errors_eq_nil sound lifted none_raised.1
    by_cases cancelled : body = .cancelledError
    · subst cancelled
      have exits : groupExit = .cancelledError := by
        rcases law.passes (by simp [own_errors, terminate, Ending.error?]) with same | other
        · exact same
        · exact absurd other.1 (by simp [terminate])
      refine ⟨fun _ => ?_, fun other => absurd rfl other⟩
      rw [exits, exit_eq]
      rfl
    · have nonempty : final.errors ++ (terminate body).error?.toList ≠ [] := by
        cases body with
        | cancelledError => exact absurd rfl cancelled
        | returned | raised => simp [terminate, Ending.error?]
      have exits := (exit_group parent final.parent _).2 none_raised
      rw [law.fails nonempty, exits, counted]
      constructor
      · rintro (same | asked)
        · exact absurd same cancelled
        · simp [asked]
      · intro _ unasked
        simp [unasked]

/-- A task that fails, the request on the body that follows, and a second task that is cancelled. -/
theorem volatile_exits_oneFails
    : ∃ (final : TaskGroup.State (Error String)) (groupExit : TaskGroup.Exit (Error String)),
        Transition.run step (.initial true { cancelling := 0, message := none })
            [.creates, .creates, .childEnds 0 (.exception "refused"), .childNoticed 0,
              .bodyEnds .cancelledError, .childEnds 1 .cancelled, .childNoticed 1, .resumes]
          = some final
        ∧ final.place = .left .cancelledError groupExit
        ∧ final.parent.cancelling = 0
        ∧ ∃ raised,
            exit { cancelling := 0, message := none } final.parent groupExit = some raised
            ∧ raised.leaves.Perm [.raised (.raised "refused")] := by
  have reached
      : Transition.run step
          (.initial true { cancelling := 0, message := none } : TaskGroup.State (Error String))
          [.creates, .creates, .childEnds 0 (.exception "refused"), .childNoticed 0,
            .bodyEnds .cancelledError, .childEnds 1 .cancelled, .childNoticed 1, .resumes]
        = some _ :=
    rfl
  obtain ⟨-, counted, body, earlier, raises, -⟩ := volatile_exits reached rfl
  obtain rfl : body = .cancelledError := by simpa using earlier
  exact ⟨_, _, reached, rfl, counted, raises (List.cons_ne_nil "refused" [])⟩

theorem isOwn_liftEvent (event : Event ε) : (liftEvent event).isOwn = event.isOwn := by
  cases event <;> rfl

/-- Whatever the loop can do for the group, it can do for the manager. -/
theorem exists_lifted {state : TaskGroup.State (Error ε)} {event : Event (Error ε)}
    (own : event.isOwn = true) (enabled : (TaskGroup.step state event).isSome = true)
    : ∃ event : Event ε, event.isOwn = true ∧ (step state event).isSome = true := by
  cases event with
  | creates | cancels | interrupts | bodyEnds => contradiction
  | childNoticed index => exact ⟨.childNoticed index, rfl, enabled⟩
  | resumes => exact ⟨.resumes, rfl, enabled⟩
  | childEnds index result =>
      refine ⟨.childEnds index (.success ()), rfl, ?_⟩
      have done : (liftResult (.success ()) : FutureState (Error ε) Unit).done = true := rfl
      simp only [step, liftEvent, TaskGroup.step] at enabled ⊢
      split
      · rename_i child here
        simp only [here] at enabled
        split at enabled
        · contradiction
        · rename_i guarded
          simp only [Bool.or_eq_true, not_or, Bool.not_eq_true] at guarded
          simp [guarded.1, done]
      · rename_i here
        simp [here] at enabled

/-- While a manager is being left, whether its body returned or not, every task that goes on has
been asked to cancel, and the manager is left once its tasks have ended.
-/
theorem volatile_ends {own : Bool} {parent : Task} {events : List (Event ε)}
    {final : TaskGroup.State (Error ε)} {ending : Ending (Error ε)} {propagates : Bool}
    {waiter : FutureState Empty Unit}
    (reached : Transition.run step (.initial own parent) events = some final)
    (exiting : final.place = .exiting ending propagates waiter)
    : (∀ child ∈ final.children, child.state = .pending → child.asked = true)
      ∧ Transition.Terminates step (fun event : Event ε => event.isOwn = true)
          (fun state => state.place.isLeft = true) final := by
  have sound := sound_of_run reached
  obtain ⟨body, -, rfl⟩ := (lifted_of_run reached).body ending (exiting ▸ rfl)
  have raises : terminate body ≠ .returned := by cases body <;> simp [terminate]
  have aborting : final.aborting = true := (exiting ▸ sound.exits).2.2.1 raises
  have leaving : TaskGroup.Leaving (parent.cancelling + requests events) final :=
    ⟨sound, aborting, exiting ▸ raises⟩
  refine ⟨sound.asked aborting, ?_⟩
  refine Transition.terminates_of_measure
    (P := fun state => ∃ count, TaskGroup.Leaving count state) TaskGroup.State.stepsLeft ?_ ?_ ?_
    ⟨_, leaving⟩
  · rintro state event next ⟨count, leaving⟩ own stepped
    exact ⟨_, (leaving.step ((isOwn_liftEvent event).trans own) stepped).1⟩
  · rintro state event next ⟨count, leaving⟩ own stepped
    exact (leaving.step ((isOwn_liftEvent event).trans own) stepped).2
  · rintro state ⟨count, leaving⟩
    rcases leaving.exists_event with left | ⟨event, own, enabled⟩
    · exact .inl left
    · exact .inr (exists_lifted own enabled)

/-- A body that returns while a task goes on. -/
theorem volatile_ends_oneTask
    : ∃ final : TaskGroup.State (Error String),
        Transition.run step (.initial true { cancelling := 0, message := none })
            [.creates, .bodyEnds .returned]
          = some final
        ∧ final.states = [.pending]
        ∧ (∀ child ∈ final.children, child.state = .pending → child.asked = true)
        ∧ Transition.Terminates step (fun event : Event String => event.isOwn = true)
            (fun state => state.place.isLeft = true) final := by
  have reached
      : Transition.run step
          (.initial true { cancelling := 0, message := none } : TaskGroup.State (Error String))
          [.creates, .bodyEnds .returned]
        = some _ :=
    rfl
  exact ⟨_, reached, rfl, volatile_ends reached rfl⟩

end Aiodrive.VolatileTaskGroup
