import Aiodrive.Asyncio.Future

/-! Futures with their done callbacks. A future that becomes done passes its callbacks to
`call_soon()`, and so each of them runs later than that.
-/

namespace Aiodrive

/-- A future and the callbacks that it will schedule; none are left once it is done. -/
structure CallbackFuture (γ ε α : Type*) where
  state : FutureState ε α
  callbacks : List γ
  cleared : state.done = true → callbacks = []

namespace CallbackFuture

variable {γ ε α : Type*}

/-- `Future()` -/
def new : CallbackFuture γ ε α := { state := .pending, callbacks := [], cleared := fun _ => rfl }

/-- A pending future becomes done, with the callbacks that it schedules. -/
def finish (future : CallbackFuture γ ε α) (state : FutureState ε α)
    : CallbackFuture γ ε α × List γ :=
  ({ state, callbacks := [], cleared := fun _ => rfl }, future.callbacks)

/-- `Future.cancel()` -/
def cancel (future : CallbackFuture γ ε α) : CallbackFuture γ ε α × List γ :=
  if future.state.done then (future, []) else future.finish .cancelled

/-- `FutureState.transfer()` to the future; `none` is the failure of its `assert`. -/
def transfer (future : CallbackFuture γ ε α) (state : FutureState ε α)
    : Option (CallbackFuture γ ε α × List γ) :=
  (state.transfer future.state).map (fun next =>
    if next.done then future.finish next else (future, []))

/-- `Future.add_done_callback()` -/
def addDoneCallback (future : CallbackFuture γ ε α) (callback : γ)
    : CallbackFuture γ ε α × List γ :=
  if done : future.state.done = true then (future, [callback])
  else
    ({ future with
        callbacks := future.callbacks ++ [callback]
        cleared := fun isDone => absurd isDone done },
      [])

/-- `Future.remove_done_callback()`, which leaves a callback alone that is already scheduled. -/
def removeDoneCallback [DecidableEq γ] (future : CallbackFuture γ ε α) (callback : γ)
    : CallbackFuture γ ε α where
  state := future.state
  callbacks := future.callbacks.filter (· ≠ callback)
  cleared := fun done => by simp [future.cleared done]

/-- A future that is done is not cancelled any more. -/
theorem cancel_of_done {future : CallbackFuture γ ε α} (done : future.state.done = true)
    : future.cancel = (future, []) :=
  if_pos done

/-- A pending future is cancelled. -/
theorem cancel_of_pending {future : CallbackFuture γ ε α} (pending : future.state = .pending)
    : future.cancel = future.finish .cancelled :=
  if_neg (by simp [pending])

/-- A done state is transferred to a pending future, and makes it done. -/
theorem transfer_of_pending {future : CallbackFuture γ ε α} {state : FutureState ε α}
    (done : state.done = true) (pending : future.state = .pending)
    : future.transfer state = some (future.finish state) := by
  simp [transfer, FutureState.transfer_of_done done, pending, done]

@[simp] theorem state_addDoneCallback (future : CallbackFuture γ ε α) (callback : γ)
    : (future.addDoneCallback callback).1.state = future.state := by
  unfold addDoneCallback
  split <;> rfl

/-- A callback is registered with a future that is pending, or scheduled at once. -/
theorem addDoneCallback_of_pending {future : CallbackFuture γ ε α}
    (pending : future.state = .pending) (callback : γ)
    : (future.addDoneCallback callback).1.callbacks = future.callbacks ++ [callback]
      ∧ (future.addDoneCallback callback).2 = [] := by
  have undone : ¬future.state.done = true := by simp [pending]
  simp [addDoneCallback, undone]

theorem addDoneCallback_of_done {future : CallbackFuture γ ε α}
    (done : future.state.done = true) (callback : γ)
    : future.addDoneCallback callback = (future, [callback]) :=
  dif_pos done

end CallbackFuture

end Aiodrive
