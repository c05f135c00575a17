import Aiodrive.Asyncio.Task

/-! `Scope` and `use_scope()` of `modules/scope.py`: the cancel requests that are made on the
current task inside a scope, and what leaving the scope makes of them.
-/

namespace Aiodrive.UseScope

variable {ε : Type*}

/-- A `Scope`, whose `task` is set to `None` when its context exits. -/
structure Scope where
  cancellationCount : Nat
  exited : Bool
deriving DecidableEq, Repr

/-- `Scope.cancel(message)` on the scope and its task; `error` is the text of the `RuntimeError`
that it raises once the scope has been exited.
-/
def Scope.cancel (scope : Scope) (task : Task) (message : Option String)
    : Except String (Scope × Task) :=
  if scope.exited then .error "Scope has already been exited"
  else
    .ok ({ scope with cancellationCount := scope.cancellationCount + 1 }, task.cancel message)

/-- How the body of a context ends; `raised` is any exception but `CancelledError`. -/
inductive Ending (ε : Type*) where
  | returned
  | cancelledError
  | raised (error : ε)
deriving DecidableEq, Repr

/-- What a context manager makes of the end of its body. -/
inductive Exit (ε : Type*) where
  | returned
  | suppressed
  | cancelledError
  | raised (error : ε)
deriving DecidableEq, Repr

/-- `use_scope()` from the end of its body on. Requests are taken back on the path of a
`CancelledError` only, and the count that is left is compared with zero.
-/
def exit (scope : Scope) (task : Task) : Ending ε → Scope × Task × Exit ε
  | .returned => ({ scope with exited := true }, task, .returned)
  | .raised error => ({ scope with exited := true }, task, .raised error)
  | .cancelledError =>
      let task := Task.uncancel^[scope.cancellationCount] task
      let exit := if task.cancelling ≠ 0 then .cancelledError else .suppressed
      ({ scope with exited := true }, task, exit)

-----------------------------------------------------------------------------------------
-- A whole use of the context
-----------------------------------------------------------------------------------------

/-- A cancel request made on the task inside the scope: through `scope.cancel()`, or by anyone
else through `task.cancel()`.
-/
inductive Request where
  | scope (message : Option String)
  | external (message : Option String)
deriving DecidableEq, Repr

def Request.isScope : Request → Bool
  | scope _ => true
  | external _ => false

/-- One request inside the scope, which is not exited there. -/
def Request.make (state : Scope × Task) : Request → Scope × Task
  | scope message => (state.1.cancel state.2 message).toOption.getD state
  | external message => (state.1, state.2.cancel message)

/-- `use_scope()` on a task, around a body that makes the requests in turn and then ends. -/
def useScope (task : Task) (requests : List Request) (ending : Ending ε)
    : Scope × Task × Exit ε :=
  let (scope, task) :=
    requests.foldl Request.make ({ cancellationCount := 0, exited := false }, task)
  exit scope task ending

/-- The number of `scope.cancel()` calls. -/
def scopeRequests (requests : List Request) : Nat := requests.countP Request.isScope

/-- The number of requests made by others. -/
def externalRequests (requests : List Request) : Nat :=
  requests.countP (fun request => !request.isScope)

@[simp] theorem scopeRequests_scope (message : Option String) (rest : List Request)
    : scopeRequests (.scope message :: rest) = scopeRequests rest + 1 :=
  List.countP_cons_of_pos rfl

@[simp] theorem scopeRequests_external (message : Option String) (rest : List Request)
    : scopeRequests (.external message :: rest) = scopeRequests rest :=
  List.countP_cons_of_neg Bool.false_ne_true

@[simp] theorem externalRequests_scope (message : Option String) (rest : List Request)
    : externalRequests (.scope message :: rest) = externalRequests rest :=
  List.countP_cons_of_neg Bool.false_ne_true

@[simp] theorem externalRequests_external (message : Option String) (rest : List Request)
    : externalRequests (.external message :: rest) = externalRequests rest + 1 :=
  List.countP_cons_of_pos rfl

/-- Inside a scope that is not exited, its own count rises with each of its requests and the
count of the task with each request, by induction on the requests.
-/
theorem foldl_make (count : Nat) (task : Task) (requests : List Request)
    : let (scope, after) :=
        requests.foldl Request.make ({ cancellationCount := count, exited := false }, task)
      scope = { cancellationCount := count + scopeRequests requests, exited := false }
      ∧ after.cancelling
        = task.cancelling + scopeRequests requests + externalRequests requests := by
  induction requests generalizing count task with
  | nil => simp [scopeRequests, externalRequests]
  | cons request rest ih =>
      cases request with
      | scope message =>
          obtain ⟨scopeEq, taskEq⟩ := ih (count + 1) (task.cancel message)
          refine ⟨scopeEq.trans ?_, taskEq.trans ?_⟩
          · rw [scopeRequests_scope, Nat.add_right_comm, Nat.add_assoc]
          · rw [scopeRequests_scope, externalRequests_scope, Task.cancel_cancelling]
            omega
      | external message =>
          obtain ⟨scopeEq, taskEq⟩ := ih count (task.cancel message)
          refine ⟨scopeEq.trans ?_, taskEq.trans ?_⟩
          · rw [scopeRequests_external]
          · rw [scopeRequests_external, externalRequests_external, Task.cancel_cancelling]
            omega

/-- A scope is exited at its end, and cannot be cancelled any more. -/
theorem useScope_exited (task : Task) (requests : List Request) (ending : Ending ε)
    (message : Option String)
    : let (scope, task, _) := useScope task requests ending
      scope.cancel task message = .error "Scope has already been exited" := by
  cases ending <;> rfl

/-- The requests of the scope that are left on the task at its end: a body that ends with a
`CancelledError` takes them back, and any other end leaves them outstanding.
-/
def keptRequests (requests : List Request) : Ending ε → Nat
  | .returned | .raised _ => scopeRequests requests
  | .cancelledError => 0

/-- The count of the task after the scope. -/
theorem useScope_cancelling (task : Task) (requests : List Request) (ending : Ending ε)
    : (useScope task requests ending).2.1.cancelling
      = task.cancelling + externalRequests requests + keptRequests requests ending := by
  obtain ⟨scopeEq, taskEq⟩ := foldl_make 0 task requests
  cases ending with
  | returned =>
      simp only [useScope, exit, taskEq, keptRequests]
      omega
  | raised error =>
      simp only [useScope, exit, taskEq, keptRequests]
      omega
  | cancelledError =>
      simp only [useScope, exit, scopeEq, Task.iterate_uncancel_cancelling, taskEq, keptRequests]
      omega

/-- A `CancelledError` of the body is suppressed when no request is left, whoever made it. -/
theorem useScope_suppressed_iff (task : Task) (requests : List Request)
    : (useScope task requests (.cancelledError : Ending ε)).2.2 = .suppressed
      ↔ task.cancelling = 0 ∧ externalRequests requests = 0 := by
  obtain ⟨scopeEq, taskEq⟩ := foldl_make 0 task requests
  simp only [useScope, exit, scopeEq, Task.iterate_uncancel_cancelling, taskEq]
  split
  · simp only [reduceCtorEq, false_iff]
    omega
  · simp only [true_iff]
    omega

/-- A scope takes back exactly its own requests, and suppresses a `CancelledError` of its body
exactly when it alone asked for it.
-/
def UndoesOwn (task : Task) (requests : List Request) (ending : Ending ε) : Prop :=
  (useScope task requests ending).2.1.cancelling = task.cancelling + externalRequests requests
  ∧ (ending = .cancelledError
      → ((useScope task requests ending).2.2 = .suppressed
          ↔ 0 < scopeRequests requests ∧ externalRequests requests = 0))

/-- `use_scope()` undoes exactly its own requests just when it made none, for a body that does
not end with a `CancelledError`; and for one that does, when someone else also asked for the
cancellation or when either the scope or the code around it, but not both, had asked for it.
-/
theorem useScope_undoesOwn_iff (task : Task) (requests : List Request) (ending : Ending ε)
    : UndoesOwn task requests ending
      ↔ (ending ≠ .cancelledError → scopeRequests requests = 0)
        ∧ (ending = .cancelledError
            → 0 < externalRequests requests
              ∨ (task.cancelling = 0 ∧ 0 < scopeRequests requests)
              ∨ (0 < task.cancelling ∧ scopeRequests requests = 0)) := by
  have count := useScope_cancelling task requests ending
  unfold UndoesOwn
  cases ending with
  | returned =>
      simp only [count, keptRequests, reduceCtorEq, false_implies, and_true, ne_eq,
        not_false_eq_true, true_implies]
      omega
  | raised error =>
      simp only [count, keptRequests, reduceCtorEq, false_implies, and_true, ne_eq,
        not_false_eq_true, true_implies]
      omega
  | cancelledError =>
      simp only [count, keptRequests, useScope_suppressed_iff, ne_eq, not_true_eq_false,
        false_implies, true_and, true_implies]
      omega

/-- A scope that was cancelled, in a body that returns before the `CancelledError` is thrown. -/
theorem useScope_keeps_request
    : ¬UndoesOwn { cancelling := 0, message := none } [.scope none]
        (.returned : Ending String) := by
  unfold UndoesOwn
  decide

end Aiodrive.UseScope
