import Aiodrive.Cancellation.Scope
import Aiodrive.Transition.Runs
import Mathlib.Algebra.Order.BigOperators.Group.List
import Mathlib.Algebra.Order.Ring.Nat

/-! Contexts of `use_scope()` nested in one task, which share the count of the task. A
`CancelledError` of the innermost body is unwound through the scopes one by one, and each takes
back its own requests before it looks at what is left.
-/

namespace Aiodrive.UseScope

variable {ε : Type*}

/-- A task inside its open scopes, from the outermost to the innermost. -/
structure Nest where
  task : Task
  scopes : List Scope
deriving DecidableEq, Repr

/-- What happens to the task on the way to its innermost body. -/
inductive Action where
  /-- The body of the innermost scope enters another `use_scope()`. -/
  | enter
  /-- `scope.cancel(message)` on the open scope at this level, where the outermost one is at `0`. -/
  | cancelScope (level : Nat) (message : Option String)
  /-- `task.cancel(message)` by anyone else. -/
  | cancelTask (message : Option String)
deriving DecidableEq, Repr

/-- `Scope.cancel(message)` on the scope at a level. -/
def Nest.cancelScope (nest : Nest) (level : Nat) (message : Option String) : Option Nest :=
  match nest.scopes[level]? with
  | none => none
  | some scope =>
      match scope.cancel nest.task message with
      | .error _ => none
      | .ok (scope, task) => some { task, scopes := nest.scopes.set level scope }

def Nest.step (nest : Nest) : Action → Option Nest
  | .enter =>
      some { nest with scopes := nest.scopes ++ [{ cancellationCount := 0, exited := false }] }
  | .cancelScope level message => nest.cancelScope level message
  | .cancelTask message => some { nest with task := nest.task.cancel message }

/-- How the end of a scope ends the body of the scope around it. -/
def Exit.ending : Exit ε → Ending ε
  | .returned | .suppressed => .returned
  | .cancelledError => .cancelledError
  | .raised error => .raised error

/-- Scopes that have been left, with the task as each of them left it and its own end, from the
outermost to the innermost; and how the code around them goes on.
-/
structure Unwound (ε : Type*) where
  task : Task
  ending : Ending ε
  exits : List (Task × Exit ε)

/-- The scopes are left from the innermost, whose body ends with `ending`, to the outermost. -/
def unwind (task : Task) (ending : Ending ε) : List Scope → Unwound ε
  | [] => { task, ending, exits := [] }
  | scope :: inner =>
      let unwound := unwind task ending inner
      let (_, task, exit) := exit scope unwound.task unwound.ending
      { task, ending := exit.ending, exits := (task, exit) :: unwound.exits }

/-- The requests that the scopes have made of the task. -/
def requested (scopes : List Scope) : Nat := (scopes.map Scope.cancellationCount).sum

@[simp] theorem requested_nil : requested [] = 0 := rfl

@[simp] theorem requested_cons (scope : Scope) (inner : List Scope)
    : requested (scope :: inner) = scope.cancellationCount + requested inner :=
  List.sum_cons

@[simp] theorem requested_append (outer inner : List Scope)
    : requested (outer ++ inner) = requested outer + requested inner := by
  simp [requested]

/-- Where a request is outstanding that none of the scopes has made, each of them takes back its
own and passes the error on; by induction on the scopes, the outermost of which sees what the
others leave.
-/
theorem unwind_propagates (task : Task) (others : Nat) (positive : 0 < others)
    (scopes : List Scope) (count : task.cancelling = others + requested scopes)
    : let unwound := unwind task (.cancelledError : Ending ε) scopes
      unwound.task.cancelling = others
      ∧ unwound.ending = .cancelledError
      ∧ unwound.exits.map Prod.snd = List.replicate scopes.length .cancelledError := by
  induction scopes generalizing others with
  | nil => exact ⟨count, rfl, rfl⟩
  | cons scope inner ih =>
      rw [requested_cons] at count
      obtain ⟨left, ending, exits⟩ := ih (others + scope.cancellationCount) (by omega) (by omega)
      have kept : others + scope.cancellationCount - scope.cancellationCount = others := by omega
      have nonzero : others ≠ 0 := by omega
      simp only [unwind, ending, exit, Task.iterate_uncancel_cancelling, left, kept, nonzero,
        ne_eq, not_false_eq_true, if_true, List.map_cons, exits]
      exact ⟨trivial, rfl, rfl⟩

/-- A cancellation that is absorbed by one scope: those inside it pass the error on, it leaves the
task without a request, and those around it do not see the error.
-/
structure Absorbed (unwound : Unwound ε) (outer inner : Nat) : Prop where
  exits
    : unwound.exits.map Prod.snd
      = List.replicate outer .returned ++ .suppressed :: List.replicate inner .cancelledError
  cancelling : ∀ left ∈ unwound.exits, left.2 ≠ .cancelledError → left.1.cancelling = 0
  task : unwound.task.cancelling = 0
  ending : unwound.ending = .returned

/-- A scope without requests of its own does not see an error that is absorbed inside it. -/
theorem Absorbed.cons {task : Task} {scope : Scope} {scopes : List Scope} {outer inner : Nat}
    (absorbed : Absorbed (unwind task (.cancelledError : Ending ε) scopes) outer inner)
    : Absorbed (unwind task (.cancelledError : Ending ε) (scope :: scopes)) (outer + 1) inner := by
  obtain ⟨exits, cancelling, none, ending⟩ := absorbed
  simp only [unwind, ending, exit]
  refine ⟨?_, ?_, none, rfl⟩
  · simp only [List.map_cons, exits, List.replicate_succ, List.cons_append]
  · simp only [List.mem_cons, forall_eq_or_imp]
    exact ⟨fun _ => none, cancelling⟩

/-- Where the scopes alone have made requests, the outermost of those that have absorbs the error;
by induction on the scopes.
-/
theorem unwind_absorbed (task : Task) (scopes : List Scope)
    (count : task.cancelling = requested scopes) (positive : 0 < requested scopes)
    : ∃ outer scope inner,
        scopes = outer ++ scope :: inner
        ∧ 0 < scope.cancellationCount
        ∧ (∀ around ∈ outer, around.cancellationCount = 0)
        ∧ Absorbed (unwind task (.cancelledError : Ending ε) scopes)
            outer.length inner.length := by
  induction scopes with
  | nil => simp at positive
  | cons scope inner ih =>
      rw [requested_cons] at count positive
      by_cases own : 0 < scope.cancellationCount
      · obtain ⟨left, ending, exits⟩ :=
          unwind_propagates (ε := ε) task scope.cancellationCount own inner count
        refine ⟨[], scope, inner, rfl, own, by simp, ?_⟩
        -- The scopes inside pass the error on, and nothing is left once this one takes its own.
        have mapped : ∀ left ∈ (unwind task (.cancelledError : Ending ε) inner).exits,
            left.2 = .cancelledError := by
          intro left member
          have image := List.mem_map_of_mem (f := Prod.snd) member
          rw [exits] at image
          exact List.eq_of_mem_replicate image
        simp only [unwind, ending, exit, Task.iterate_uncancel_cancelling, left, Nat.sub_self,
          ne_eq, not_true_eq_false, if_false]
        refine ⟨?_, ?_, by simp [left], rfl⟩
        · simp [exits]
        · simp only [List.mem_cons, forall_eq_or_imp]
          exact ⟨fun _ => by simp [left], fun exit member other =>
            absurd (mapped exit member) other⟩
      · have none : scope.cancellationCount = 0 := by omega
        obtain ⟨outer, absorbing, inside, split, asked, zero, absorbed⟩ :=
          ih (by omega) (by omega)
        refine ⟨scope :: outer, absorbing, inside, by simp [split], asked, ?_, absorbed.cons⟩
        simpa [none] using zero

-----------------------------------------------------------------------------------------
-- The requests of a whole nest
-----------------------------------------------------------------------------------------

def Action.isCancelScope (level : Nat) : Action → Bool
  | cancelScope target _ => target == level
  | _ => false

def Action.isCancelTask : Action → Bool
  | cancelTask _ => true
  | _ => false

/-- The nesting depth. -/
def depth (actions : List Action) : Nat := actions.countP (· == .enter)

/-- The number of `scope.cancel()` calls on the scope at a level. -/
def scopeCancels (level : Nat) (actions : List Action) : Nat :=
  actions.countP (Action.isCancelScope level)

/-- The number of requests made by others. -/
def taskCancels (actions : List Action) : Nat := actions.countP Action.isCancelTask

/-- What the actions so far have made of a task that had no request. -/
structure Counted (actions : List Action) (nest : Nest) : Prop where
  scopes
    : nest.scopes
      = (List.range (depth actions)).map (fun level =>
          { cancellationCount := scopeCancels level actions, exited := false })
  beyond : ∀ level, depth actions ≤ level → scopeCancels level actions = 0
  task : nest.task.cancelling = taskCancels actions + requested nest.scopes

@[simp] theorem depth_append (past : List Action) (action : Action)
    : depth (past ++ [action]) = depth past + if action = .enter then 1 else 0 := by
  simp [depth, List.countP_cons]

@[simp] theorem scopeCancels_append (level : Nat) (past : List Action) (action : Action)
    : scopeCancels level (past ++ [action])
      = scopeCancels level past + if action.isCancelScope level then 1 else 0 := by
  simp [scopeCancels, List.countP_cons]

@[simp] theorem taskCancels_append (past : List Action) (action : Action)
    : taskCancels (past ++ [action])
      = taskCancels past + if action.isCancelTask then 1 else 0 := by
  simp [taskCancels, List.countP_cons]

/-- A request on one of the scopes adds one to what the scopes have made. -/
theorem requested_set {scopes : List Scope} {level : Nat} {scope : Scope}
    (found : scopes[level]? = some scope)
    : requested (scopes.set level
          { scope with cancellationCount := scope.cancellationCount + 1 })
      = requested scopes + 1 := by
  induction scopes generalizing level with
  | nil => simp at found
  | cons first inner ih =>
      cases level with
      | zero =>
          obtain rfl : first = scope := by simpa using found
          simp only [List.set_cons_zero, requested_cons]
          omega
      | succ level =>
          simp only [List.set_cons_succ, requested_cons, ih (by simpa using found)]
          omega

theorem step_counted (past : List Action) (nest : Nest) (action : Action) (next : Nest)
    (counted : Counted past nest) (stepped : nest.step action = some next)
    : Counted (past ++ [action]) next := by
  obtain ⟨scopes, beyond, task⟩ := counted
  cases action with
  | enter =>
      obtain rfl := Option.some.inj stepped
      refine ⟨?_, ?_, ?_⟩
      · simp [scopes, List.range_succ, beyond _ (le_refl _), Action.isCancelScope]
      · intro level outside
        simp only [depth_append, if_true] at outside
        simpa [Action.isCancelScope] using beyond level (by omega)
      · simp [task, Action.isCancelTask]
  | cancelTask message =>
      obtain rfl := Option.some.inj stepped
      refine ⟨?_, ?_, ?_⟩
      · simp [scopes, Action.isCancelScope]
      · simpa [Action.isCancelScope] using beyond
      · simp only [Task.cancel_cancelling, task, taskCancels_append, Action.isCancelTask, if_true]
        omega
  | cancelScope target message =>
      simp only [Nest.step, Nest.cancelScope] at stepped
      split at stepped
      · cases stepped
      · rename_i scope found
        have inside : target < depth past := by
          have bound := (List.getElem?_eq_some_iff.mp found).1
          simpa [scopes] using bound
        obtain rfl : ⟨scopeCancels target past, false⟩ = scope := by
          simpa [scopes, inside] using found
        simp only [Scope.cancel, Bool.false_eq_true, if_false] at stepped
        obtain rfl := Option.some.inj stepped
        refine ⟨?_, ?_, ?_⟩
        · apply List.ext_getElem
          · simp [scopes]
          · intro level inSet inRange
            by_cases same : target = level
            · subst same
              simp [scopes, Action.isCancelScope]
            · simp [scopes, Action.isCancelScope, same]
        · intro level outside
          simp only [depth_append, reduceCtorEq, if_false, Nat.add_zero] at outside
          have other : ¬target = level := by omega
          simp [Action.isCancelScope, other, beyond level outside]
        · simp only [Task.cancel_cancelling, task, taskCancels_append, Action.isCancelTask,
            requested_set found]
          simp only [Bool.false_eq_true, if_false]
          omega

theorem run_counted {task : Task} {actions : List Action} {nest : Nest}
    (zero : task.cancelling = 0)
    (reached : Transition.run Nest.step { task, scopes := [] } actions = some nest)
    : Counted actions nest := by
  refine Transition.run_preserves_history step_counted ⟨rfl, fun _ _ => rfl, ?_⟩ reached
  simp [zero, taskCancels]

/-- Nested scopes in a task without a request at the outermost entry, some requests, and an
innermost body that ends with the `CancelledError`. Where others have made requests, the error
goes through all scopes and exactly these requests are left. Where none did, the outermost
scope that was cancelled absorbs it.
-/
theorem unwind_delivers {task : Task} {actions : List Action} {nest : Nest}
    (zero : task.cancelling = 0)
    (reached : Transition.run Nest.step { task, scopes := [] } actions = some nest)
    (cancelled : 0 < taskCancels actions ∨ ∃ level < depth actions, 0 < scopeCancels level actions)
    : let unwound := unwind nest.task (.cancelledError : Ending ε) nest.scopes
      (0 < taskCancels actions
        → unwound.exits.map Prod.snd = List.replicate (depth actions) .cancelledError
          ∧ unwound.ending = .cancelledError
          ∧ unwound.task.cancelling = taskCancels actions)
      ∧ (taskCancels actions = 0
        → ∃ level inner,
            depth actions = level + 1 + inner
            ∧ 0 < scopeCancels level actions
            ∧ (∀ around < level, scopeCancels around actions = 0)
            ∧ Absorbed unwound level inner) := by
  obtain ⟨scopes, -, count⟩ := run_counted zero reached
  have length : nest.scopes.length = depth actions := by simp [scopes]
  have nth {level : Nat} {scope : Scope} (found : nest.scopes[level]? = some scope)
      : scope.cancellationCount = scopeCancels level actions := by
    rw [scopes] at found
    obtain ⟨_, rfl⟩ := List.getElem?_eq_some_iff.mp found
    simp
  constructor
  · intro positive
    obtain ⟨left, ending, exits⟩ := unwind_propagates nest.task _ positive nest.scopes count
    exact ⟨length ▸ exits, ending, left⟩
  · intro none
    obtain ⟨asked, inside, requests⟩ := cancelled.resolve_left (by omega)
    have positive : 0 < requested nest.scopes := by
      have member : ⟨scopeCancels asked actions, false⟩ ∈ nest.scopes := by
        rw [scopes]
        exact List.mem_map.mpr ⟨asked, List.mem_range.mpr inside, rfl⟩
      have bound := List.single_le_sum (fun count _ => Nat.zero_le count) _
        (List.mem_map_of_mem (f := Scope.cancellationCount) member)
      exact requests.trans_le bound
    obtain ⟨outer, scope, inner, split, own, zero, absorbed⟩ :=
      unwind_absorbed nest.task nest.scopes (by omega) positive
    refine ⟨outer.length, inner.length, ?_, ?_, ?_, absorbed⟩
    · simp only [← length, split, List.length_append, List.length_cons]
      omega
    · have absorbing : nest.scopes[outer.length]? = some scope := by simp [split]
      exact nth absorbing ▸ own
    · intro around before
      have enclosing : nest.scopes[around]? = some outer[around] := by
        simp [split, List.getElem?_append_left before]
      exact nth enclosing ▸ zero _ (List.getElem_mem before)

/-- Of three scopes the middle one is cancelled, by the innermost body. -/
theorem unwind_delivers_middle
    : let actions := [.enter, .enter, .enter, .cancelScope 1 (some "stop")]
      ∃ nest,
        Transition.run Nest.step { task := ⟨0, none⟩, scopes := [] } actions = some nest
        ∧ ∃ level inner,
            depth actions = level + 1 + inner
            ∧ 0 < scopeCancels level actions
            ∧ (∀ around < level, scopeCancels around actions = 0)
            ∧ Absorbed (unwind nest.task (.cancelledError : Ending String) nest.scopes)
                level inner := by
  intro actions
  have zero : (⟨0, none⟩ : Task).cancelling = 0 := rfl
  have reached : Transition.run Nest.step { task := ⟨0, none⟩, scopes := [] } actions
      = some { task := ⟨1, some "stop"⟩, scopes := [⟨0, false⟩, ⟨1, false⟩, ⟨0, false⟩] } := rfl
  have cancelled : ∃ level < depth actions, 0 < scopeCancels level actions :=
    ⟨1, by decide, by decide⟩
  exact ⟨_, reached, (unwind_delivers zero reached (.inr cancelled)).2 rfl⟩

end Aiodrive.UseScope
