import Aiodrive.Cancellation.ContextualizeExit

/-! `DaemonHandle` of `modules/handle.py` as a context manager, next to `contextualize()` around the
same daemon. Its `__aenter__()` reads an attribute that nothing has set.
-/

namespace Aiodrive.DaemonHandle

open Contextualize (ContextExit)
open UseScope (Ending)

variable {ε : Type*}

/-- An exception on which a daemon task ends: its own, or the `DaemonReturnError` of
`ensure_daemon()`.
-/
inductive DaemonError (ε : Type*) where
  | own (error : ε)
  | daemonReturnError
deriving DecidableEq, Repr

/-- How `ensure_daemon(awaitable)` ends, by the end of the awaitable. -/
def ensureDaemon : FutureState ε Unit → FutureState (DaemonError ε) Unit
  | .cancelled => .cancelled
  | .exception error => .exception (.own error)
  | .pending => .pending
  | .success () => .exception .daemonReturnError

/-- A context of `contextualize()` around a daemon. -/
abbrev Context (ε : Type*) := Contextualize.State (DaemonError ε)

/-- An attribute of a class with `slots=True`: not set, or set to a value that may be `None`. -/
inductive Slot (α : Type*) where
  | unset
  | set (value : Option α)
deriving DecidableEq, Repr

/-- How an `__aenter__()` or `__aexit__()` fails by itself. -/
inductive EntryError where
  | attributeError
  | assertionError
deriving DecidableEq, Repr

/-- `assert attribute is not None` -/
def Slot.assertSet {α : Type*} : Slot α → Except EntryError α
  | unset => .error .attributeError
  | set none => .error .assertionError
  | set (some value) => .ok value

/-- Where an `async with` on the handle is: not reached, in its body or at its exit, or at its end
because the entry failed.
-/
inductive Place where
  | outside
  | inside
  | failed (error : EntryError)
deriving DecidableEq, Repr

structure State (ε : Type*) where
  /-- `_contextualized` -/
  contextualized : Slot (Context ε)
  /-- `_task` -/
  task : FutureState (DaemonError ε) Unit
  place : Place
deriving DecidableEq, Repr

/-- `DaemonHandle(awaitable)`. The class is a dataclass whose own `__init__()` sets `_task`
only; with slots, the default of the other field is set by a generated one alone.
-/
def State.new : State ε := { contextualized := .unset, task := .pending, place := .outside }

/-- `__aenter__()`, called by a task. -/
def State.aenter (handle : State ε) (current : Task) : State ε :=
  match handle.contextualized.assertSet with
  | .error error => { handle with place := .failed error }
  | .ok _ => { handle with contextualized := .set (some (.initial current)), place := .inside }

/-- What can happen to a handle: the awaitable of its daemon ends, an `async with` is entered, the
background task of the entered context ends with the task of the handle, which it awaits, and the
context goes on otherwise.
-/
inductive Event (ε : Type*) where
  | awaitableEnds (state : FutureState ε Unit)
  | aenter (current : Task)
  | backgroundEnds
  | context (event : Contextualize.Event (DaemonError ε))
deriving DecidableEq, Repr

/-- A step of the context that has been entered; `stops` is that of `contextualize()`. -/
def State.contextStep (stops : DaemonError ε → Bool) (handle : State ε)
    (event : Contextualize.Event (DaemonError ε)) : Option (State ε) :=
  match handle.place, handle.contextualized with
  | .inside, .set (some context) =>
      (Contextualize.step stops context event).map (fun context =>
        { handle with contextualized := .set (some context) })
  | _, _ => none

def step (stops : DaemonError ε → Bool) (handle : State ε)
    : Event ε → Option (State ε)
  | .awaitableEnds ended =>
      if !handle.task.done && ended.done then some { handle with task := ensureDaemon ended }
      else none
  | .aenter current =>
      match handle.place with
      | .outside => some (handle.aenter current)
      | .inside | .failed _ => none
  | .backgroundEnds => handle.contextStep stops (.backgroundEnds handle.task)
  | .context event =>
      match event with
      | .backgroundEnds _ => none
      | event => handle.contextStep stops event

/-- The `async with` on a handle does to the task of its body, and to its daemon, what
`contextualize()` does: it is entered, and left in the same way, with the daemon in the same state.
-/
structure IsContextualize (handle : State ε) (context : Context ε) : Prop where
  entered : handle.place = .inside
  left : ∀ own, handle.contextualized = .set (some own) → own.place = context.place
  daemon : handle.task = context.background

-----------------------------------------------------------------------------------------
-- The entry of a handle
-----------------------------------------------------------------------------------------

/-- What holds of every handle: the attribute is not set, so that no `async with` is entered. -/
structure Unset (handle : State ε) : Prop where
  contextualized : handle.contextualized = .unset
  place : handle.place = .outside ∨ handle.place = .failed .attributeError

theorem new_unset : Unset (State.new : State ε) := ⟨rfl, .inl rfl⟩

/-- The entry of a handle fails. -/
theorem Unset.aenter {handle : State ε} (unset : Unset handle) (current : Task)
    : handle.aenter current = { handle with place := .failed .attributeError } := by
  simp [State.aenter, unset.contextualized, Slot.assertSet]

theorem Unset.contextStep {handle : State ε} (unset : Unset handle)
    (stops : DaemonError ε → Bool)
    (event : Contextualize.Event (DaemonError ε))
    : handle.contextStep stops event = none := by
  simp [State.contextStep, unset.contextualized]

/-- One step leaves the attribute unset, and the task of the handle alone unless its awaitable ends.
-/
theorem Unset.step {stops : DaemonError ε → Bool} {handle next : State ε}
    {event : Event ε} (unset : Unset handle)
    (stepped : DaemonHandle.step stops handle event = some next)
    : Unset next ∧ ((∀ ended, event ≠ .awaitableEnds ended) → next.task = handle.task) := by
  cases event with
  | awaitableEnds ended =>
      obtain ⟨-, same⟩ := Option.ite_none_right_eq_some.mp stepped
      obtain rfl := Option.some.inj same
      exact ⟨⟨unset.contextualized, unset.place⟩, fun other => absurd rfl (other ended)⟩
  | aenter current =>
      simp only [DaemonHandle.step] at stepped
      split at stepped
      · rw [unset.aenter, Option.some.injEq] at stepped
        exact stepped ▸ ⟨⟨unset.contextualized, .inr rfl⟩, fun _ => rfl⟩
      · cases stepped
      · cases stepped
  | backgroundEnds => simp [DaemonHandle.step, unset.contextStep] at stepped
  | context event => cases event <;> simp [DaemonHandle.step, unset.contextStep] at stepped

/-- The attribute is unset in every reachable handle, by induction on the events. -/
theorem run_unset {stops : DaemonError ε → Bool} {events : List (Event ε)}
    {final : State ε} (reached : Transition.run (step stops) .new events = some final)
    : Unset final :=
  Transition.run_preserves (fun _ _ _ unset stepped => (unset.step stepped).1) new_unset reached

/-- However an `async with` on a handle of a running daemon goes, it leaves the daemon running,
where every `contextualize()` that has been left has ended it.
-/
theorem daemon_left_running {stops : DaemonError ε → Bool}
    {events : List (Event ε)} {final : State ε} (running : ∀ ended, .awaitableEnds ended ∉ events)
    (reached : Transition.run (step stops) .new events = some final) {current : Task}
    {contextEvents : List (Contextualize.Event (DaemonError ε))} {context : Context ε}
    {ending : Ending (DaemonError ε)} {outcome : ContextExit (DaemonError ε)}
    (contextReached
      : Transition.run (Contextualize.step stops) (.initial current) contextEvents
        = some context)
    (left : context.place = .exited ending outcome)
    : final.task.done = false ∧ context.background.done = true := by
  refine ⟨?_, ((Contextualize.run_sound contextReached).exited ending outcome left).1⟩
  suffices kept : Unset final ∧ final.task = .pending by simp [kept.2]
  refine Transition.run_preserves_of_mem
    (P := fun handle => Unset handle ∧ handle.task = .pending)
    (fun handle event member next holds stepped => ?_) ⟨new_unset, rfl⟩ reached
  obtain ⟨unset, pending⟩ := holds
  obtain ⟨kept, same⟩ := unset.step stepped
  refine ⟨kept, (same fun ended other => ?_).trans pending⟩
  exact running ended (other ▸ member)

/-- However a daemon, a body and cancellations go, an `async with` on a handle fails at its
entry, and so is no `contextualize()` of the same daemon.
-/
theorem daemonHandle_never_enters {stops : DaemonError ε → Bool}
    {events : List (Event ε)} {final : State ε}
    (reached : Transition.run (step stops) .new events = some final)
    (used : final.place ≠ .outside) (context : Context ε)
    : final.place = .failed .attributeError ∧ ¬IsContextualize final context := by
  have failed := (run_unset reached).place.resolve_left used
  refine ⟨failed, fun same => ?_⟩
  cases failed.symm.trans same.entered

/-- A handle that is entered once. -/
theorem daemonHandle_never_enters_once
    : ∃ final : State String,
        Transition.run (step (fun _ => false)) .new [.aenter { cancelling := 0, message := none }]
          = some final
        ∧ final.place = .failed .attributeError
        ∧ ¬IsContextualize final (.initial { cancelling := 0, message := none }) := by
  have reached : Transition.run (step (fun _ => false)) (.new : State String)
      [.aenter { cancelling := 0, message := none }] = some _ := rfl
  exact ⟨_, reached, daemonHandle_never_enters reached (by decide) _⟩

/-- A daemon that runs for ever, around a body that returns. -/
theorem daemonHandle_fails_at_entry
    : ∃ (final : State String) (context : Context String),
        Transition.run (step (fun _ => false)) .new [.aenter { cancelling := 0, message := none }]
          = some final
        ∧ Transition.run (Contextualize.step (fun _ => false))
            (.initial { cancelling := 0, message := none })
            [.firstStep, .bodyEnds .returned, .backgroundEnds .cancelled, .resumes]
          = some context
        ∧ context.place = .exited .returned .returned
        ∧ final.place = .failed .attributeError
        ∧ ¬IsContextualize final context :=
  ⟨_, _, rfl, rfl, rfl, rfl, fun same => nomatch same.entered⟩

end Aiodrive.DaemonHandle
