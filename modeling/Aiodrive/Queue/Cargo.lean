import Aiodrive.Asyncio.Future
import Aiodrive.Transition.Runs
import Mathlib.Logic.Function.Basic

/-! `Cargo` of `modules/button.py`, with the tasks of its loop that await it. Each call resolves the
current future with its value and replaces it, so the future of number `i` has the result of the
call of number `i`.
-/

namespace Aiodrive

/-- `results` are those of the futures before the current `_future`. -/
structure Cargo (α : Type*) where
  results : List α
deriving DecidableEq, Repr

namespace Cargo

variable {α : Type*}

def new : Cargo α := { results := [] }

/-- `Cargo.__call__(value)`; the current future is never done. -/
def call (cargo : Cargo α) (value : α) : Cargo α := { results := cargo.results ++ [value] }

/-- The state of a future that is or was the cargo's `_future`. -/
def state (cargo : Cargo α) (future : Nat) : FutureState Empty α :=
  match cargo.results[future]? with
  | some value => .success value
  | none => .pending

/-- Where a task is: nowhere near the cargo, suspended with the `outer` future of `shield()`, or
past its last `await`.
-/
inductive Place (α : Type*) where
  | idle
  | suspended (inner : Nat) (outer : FutureState Empty α)
  | returned (value : α)
  | cancelled
deriving DecidableEq, Repr

/-- The cargo and the tasks that may await it. -/
structure State (κ α : Type*) where
  cargo : Cargo α
  tasks : κ → Place α

/-- What can happen: somebody calls the cargo; a task awaits it; the loop runs the callback that
`shield()` put on the inner future, or resumes the task; a task is asked to cancel.
-/
inductive Event (κ α : Type*) where
  | call (value : α)
  | await (task : κ)
  | innerCallback (task : κ)
  | resume (task : κ)
  | cancel (task : κ)
deriving DecidableEq, Repr

variable {κ : Type*} [DecidableEq κ]

def State.initial : State κ α := { cargo := .new, tasks := fun _ => .idle }

def State.setPlace (state : State κ α) (task : κ) (place : Place α) : State κ α :=
  { state with tasks := Function.update state.tasks task place }

def step (state : State κ α) : Event κ α → Option (State κ α)
  | .call value => some { state with cargo := state.cargo.call value }
  | .await task =>
      match state.tasks task with
      | .suspended _ _ => none
      | .idle | .returned _ | .cancelled =>
          some (state.setPlace task (.suspended state.cargo.results.length .pending))
  | .innerCallback task =>
      match state.tasks task with
      | .suspended inner .pending =>
          if (state.cargo.state inner).done then
            ((state.cargo.state inner).transfer .pending).map (fun outer =>
              state.setPlace task (.suspended inner outer))
          else
            none
      | .suspended _ _ | .idle | .returned _ | .cancelled => none
  | .resume task =>
      match state.tasks task with
      | .suspended _ (.success value) => some (state.setPlace task (.returned value))
      | .suspended _ .cancelled => some (state.setPlace task .cancelled)
      | .suspended _ _ | .idle | .returned _ | .cancelled => none
  | .cancel task =>
      match state.tasks task with
      -- A request that finds the outer future done is thrown when the task resumes all the same
      | .suspended inner _ => some (state.setPlace task (.suspended inner .cancelled))
      | .idle | .returned _ | .cancelled => none

/-- The events by which a task moves on. -/
def Event.task? : Event κ α → Option κ
  | call _ => none
  | await task | innerCallback task | resume task | cancel task => some task

/-- The value that the cargo is called with. -/
def Event.given? : Event κ α → Option α
  | call value => some value
  | await _ | innerCallback _ | resume _ | cancel _ => none

/-- The values that the cargo was called with, in order. -/
def given (events : List (Event κ α)) : List α := events.filterMap Event.given?

-----------------------------------------------------------------------------------------
-- What a step can do
-----------------------------------------------------------------------------------------

/-- The steps, one constructor for each branch. -/
inductive Move (state : State κ α) : Event κ α → State κ α → Prop where
  | calls (value : α) : Move state (.call value) { state with cargo := state.cargo.call value }
  | awaits {task : κ} (free : ∀ inner outer, state.tasks task ≠ .suspended inner outer)
    : Move state (.await task)
        (state.setPlace task (.suspended state.cargo.results.length .pending))
  | wakes {task : κ} {inner : Nat} {value : α} (here : state.tasks task = .suspended inner .pending)
    (resolved : state.cargo.results[inner]? = some value)
    : Move state (.innerCallback task)
        (state.setPlace task (.suspended inner (.success value)))
  | returns {task : κ} {inner : Nat} {value : α}
    (here : state.tasks task = .suspended inner (.success value))
    : Move state (.resume task) (state.setPlace task (.returned value))
  | throws {task : κ} {inner : Nat} (here : state.tasks task = .suspended inner .cancelled)
    : Move state (.resume task) (state.setPlace task .cancelled)
  | cancels {task : κ} {inner : Nat} {outer : FutureState Empty α}
    (here : state.tasks task = .suspended inner outer)
    : Move state (.cancel task) (state.setPlace task (.suspended inner .cancelled))

theorem move_of_step {state next : State κ α} {event : Event κ α}
    (stepped : step state event = some next)
    : Move state event next := by
  cases event with
  | call value => exact Option.some.inj stepped ▸ .calls value
  | await task =>
      simp only [step] at stepped
      split at stepped
      · contradiction
      all_goals exact Option.some.inj stepped ▸ .awaits (by simp [*])
  | innerCallback task =>
      simp only [step] at stepped
      split at stepped
      · rename_i inner here
        cases resolved : state.cargo.results[inner]? with
        | none => simp [Cargo.state, resolved] at stepped
        | some value =>
            simp only [Cargo.state, resolved, FutureState.done_success, if_true,
              FutureState.transfer, FutureState.done_pending, Bool.false_eq_true, if_false,
              Option.map_some, Option.some.injEq] at stepped
            exact stepped ▸ .wakes here resolved
      all_goals contradiction
  | resume task =>
      simp only [step] at stepped
      split at stepped
      · rename_i here
        exact Option.some.inj stepped ▸ .returns here
      · rename_i here
        exact Option.some.inj stepped ▸ .throws here
      all_goals contradiction
  | cancel task =>
      simp only [step] at stepped
      split at stepped
      · rename_i here
        exact Option.some.inj stepped ▸ .cancels here
      all_goals contradiction

@[simp] theorem setPlace_cargo (state : State κ α) (task : κ) (place : Place α)
    : (state.setPlace task place).cargo = state.cargo :=
  rfl

@[simp] theorem setPlace_tasks (state : State κ α) (task other : κ) (place : Place α)
    : (state.setPlace task place).tasks other
      = if other = task then place else state.tasks other := by
  simp [State.setPlace, Function.update_apply]

/-- A task is moved by its own events only. -/
theorem tasks_of_step {state next : State κ α} {event : Event κ α} {task : κ}
    (stepped : step state event = some next) (other : event.task? ≠ some task)
    : next.tasks task = state.tasks task := by
  cases move_of_step stepped with
  | calls value => rfl
  | _ =>
      simp only [Event.task?, ne_eq, Option.some.injEq] at other
      simp [Ne.symm other]

/-- The futures are resolved with the values of the calls, in order. -/
theorem results_of_step {state next : State κ α} {event : Event κ α}
    (stepped : step state event = some next)
    : next.cargo.results = state.cargo.results ++ given [event] := by
  cases move_of_step stepped with
  | calls value => rfl
  | _ => simp [given, Event.given?]

-----------------------------------------------------------------------------------------
-- An `await`, from its first step on
-----------------------------------------------------------------------------------------

/-- What is known of a task since it awaited a cargo: it holds the future of then, which is resolved
with the first of the values given since.
-/
structure Since (start : Cargo α) (past : List α) (cargo : Cargo α) (place : Place α) : Prop where
  results : cargo.results = start.results ++ past
  inner : ∀ inner outer, place = .suspended inner outer → inner = start.results.length
  woken : ∀ inner value, place = .suspended inner (.success value) → past.head? = some value
  returned : ∀ value, place = .returned value → past.head? = some value

/-- Until the task awaits the cargo again, each step keeps what is known of its `await`. -/
theorem Since.step {start : Cargo α} {state next : State κ α} {event : Event κ α} {task : κ}
    {past : List α} (since : Since start past state.cargo (state.tasks task))
    (once : event ≠ .await task) (stepped : step state event = some next)
    : Since start (past ++ given [event]) next.cargo (next.tasks task) := by
  have results : next.cargo.results = start.results ++ (past ++ given [event]) := by
    rw [results_of_step stepped, since.results, List.append_assoc]
  have kept {value : α} (first : past.head? = some value)
      : (past ++ given [event]).head? = some value := by
    rw [List.head?_append, first, Option.some_or]
  by_cases own : event.task? = some task
  · cases move_of_step stepped with
    | calls value => simp [Event.task?] at own
    | awaits free =>
        obtain rfl := Option.some.inj own
        exact absurd rfl once
    | wakes here resolved =>
        obtain rfl := Option.some.inj own
        refine ⟨results, ?_, ?_, by simp⟩
        · simp only [setPlace_tasks, if_true, Place.suspended.injEq]
          rintro inner outer ⟨rfl, -⟩
          exact since.inner _ _ here
        · simp only [setPlace_tasks, if_true, Place.suspended.injEq, FutureState.success.injEq]
          rintro inner value ⟨rfl, rfl⟩
          -- The future of the call is that of the first value given after it
          rw [since.inner _ _ here, since.results, List.getElem?_append_right (Nat.le_refl _),
            Nat.sub_self, ← List.head?_eq_getElem?] at resolved
          exact kept resolved
    | returns here =>
        obtain rfl := Option.some.inj own
        refine ⟨results, by simp, by simp, ?_⟩
        simp only [setPlace_tasks, if_true, Place.returned.injEq]
        rintro value rfl
        exact kept (since.woken _ _ here)
    | throws here =>
        obtain rfl := Option.some.inj own
        exact ⟨results, by simp, by simp, by simp⟩
    | cancels here =>
        obtain rfl := Option.some.inj own
        refine ⟨results, ?_, by simp, by simp⟩
        simp only [setPlace_tasks, if_true, Place.suspended.injEq]
        rintro inner outer ⟨rfl, -⟩
        exact since.inner _ _ here
  · have same := tasks_of_step stepped own
    exact ⟨results, same ▸ since.inner, fun inner value here => kept (since.woken inner value
      (same ▸ here)), fun value here => kept (since.returned value (same ▸ here))⟩

/-- An `await` of a task, and the run from there up to its next one. -/
theorem since_of_run {start final : State κ α} {task : κ} {later : List (Event κ α)}
    (once : .await task ∉ later)
    (reached : Transition.run step start (.await task :: later) = some final)
    : Since start.cargo (given later) final.cargo (final.tasks task) := by
  obtain ⟨waiting, stepped, tail⟩ := Transition.run_cons_iff.mp reached
  refine Transition.run_preserves_history
    (P := fun past state =>
      .await task ∉ past → Since start.cargo (given past) state.cargo (state.tasks task))
    ?_ ?_ tail once
  · intro past state event next since stepped once
    simp only [List.mem_append, List.mem_singleton, not_or] at once
    rw [given, List.filterMap_append]
    exact (since once.1).step (Ne.symm once.2) stepped
  · intro _
    cases move_of_step stepped with
    | awaits free =>
        refine ⟨by simp [given], ?_, by simp, by simp⟩
        simp only [setPlace_tasks, if_true, Place.suspended.injEq]
        rintro inner outer ⟨rfl, -⟩
        rfl

-----------------------------------------------------------------------------------------
-- Runs
-----------------------------------------------------------------------------------------

/-- The loop can run a callback for the task, or resume it. -/
def Awake (state : State κ α) (task : κ) : Prop :=
  (step state (.innerCallback task)).isSome = true ∨ (step state (.resume task)).isSome = true

/-- A task that awaits a cargo gets the first value that the cargo is called with from then on,
whatever is given later, and it can go on as soon as there is one unless it is asked to cancel.
-/
theorem receives_first {start final : State κ α} {task : κ} {later : List (Event κ α)}
    (once : .await task ∉ later)
    (reached : Transition.run step start (.await task :: later) = some final)
    : (∀ value, final.tasks task = .returned value → (given later).head? = some value)
      ∧ ∀ inner outer,
          final.tasks task = .suspended inner outer
          → outer ≠ .cancelled
          → (Awake final task ↔ given later ≠ []) := by
  have since := since_of_run once reached
  refine ⟨since.returned, fun inner outer here kept => ?_⟩
  have resolved : final.cargo.results[inner]? = (given later).head? := by
    rw [since.inner inner outer here, since.results,
      List.getElem?_append_right (Nat.le_refl _), Nat.sub_self, List.head?_eq_getElem?]
  unfold Awake
  cases outer with
  | pending =>
      simp only [step, here, Cargo.state, resolved]
      cases first : (given later).head? with
      | none => simp_all
      | some value =>
          have some : given later ≠ [] := by
            rintro none
            simp [none] at first
          simp [FutureState.transfer, some]
  | success value =>
      have first := since.woken inner value here
      have some : given later ≠ [] := by
        rintro none
        simp [none] at first
      simp [step, here, some]
  | cancelled => contradiction
  | exception error => exact error.elim

/-- Two tasks that await a cargo which is called twice before they resume. -/
theorem receives_first_of_two
    : ∃ final : State Nat Nat,
        Transition.run step .initial
          [.await 0, .await 1, .call 5, .call 6, .innerCallback 0, .resume 0] = some final
        ∧ (∀ value,
            final.tasks 0 = .returned value
            → (given ([.await 1, .call 5, .call 6, .innerCallback 0, .resume 0]
                : List (Event Nat Nat))).head? = some value)
        ∧ ∀ inner outer,
            final.tasks 0 = .suspended inner outer
            → outer ≠ .cancelled
            → (Awake final 0
                ↔ given ([.await 1, .call 5, .call 6, .innerCallback 0, .resume 0]
                  : List (Event Nat Nat)) ≠ []) := by
  have reached
      : Transition.run step (.initial : State Nat Nat)
          (.await 0 :: [.await 1, .call 5, .call 6, .innerCallback 0, .resume 0]) = some _ :=
    rfl
  exact ⟨_, reached, receives_first (by simp) reached⟩

end Cargo

end Aiodrive
