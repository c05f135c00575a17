import Aiodrive.Grants.Table
import Aiodrive.SmartLock.Model

/-! The lock as a table of grants: each `use()` and each `finally` is an entry or exit followed by
one scan of the table, and no other step changes it.
-/

namespace Aiodrive.SmartLock

variable {lock next : State} {event : Event}

/-- A waiter is blocked by an owner if one of them is exclusive. -/
def conflict (waiter owner : Waiter) : Bool :=
  waiter.mode == .exclusive || owner.mode == .exclusive

theorem conflict_iff {waiter owner : Waiter}
    : conflict waiter owner = true ↔ waiter.mode = .exclusive ∨ owner.mode = .exclusive := by
  simp [conflict]

theorem conflict_symmetric (left right : Waiter) : conflict left right = conflict right left :=
  Bool.or_comm ..

/-- What blocks a waiter is the waiter of the owner. -/
theorem isBlocking_eq (waiter : Waiter) (owner : Owner)
    : isBlocking waiter owner = conflict waiter owner.waiter :=
  rfl

/-- The waiters of the owners. -/
def State.held (lock : State) : Dict Nat Waiter := lock.owners.map (fun _ owner => owner.waiter)

/-- The table once the `_update()` in progress has set its entry of `_owners`. -/
def State.table (lock : State) : GrantTable Nat Waiter :=
  { owners :=
      match lock.updating with
      | none => lock.held
      | some update => lock.held.set update.waiterId update.waiter
    waiters := lock.waiters
    granted := lock.granted }

/-- Whether scopes are there and were asked to cancel does not show in the table. -/
theorem table_congr (held : next.held = lock.held) (waiters : next.waiters = lock.waiters)
    (granted : next.granted = lock.granted) (updating : next.updating = lock.updating)
    : next.table = lock.table := by
  simp only [State.table, held, waiters, granted, updating]

/-- Replacing owners by others with the same waiters. -/
theorem held_map (lock : State) {f : Nat → Owner → Owner}
    (kept : ∀ id owner, (f id owner).waiter = owner.waiter)
    : { lock with owners := lock.owners.map f }.held = lock.held := by
  simp only [State.held, Dict.map_map, kept]

-----------------------------------------------------------------------------------------
-- The steps of the lock
-----------------------------------------------------------------------------------------

theorem Owner.waiter_ask (owner : Owner) : (owner.ask.getD owner).waiter = owner.waiter := by
  unfold Owner.ask
  cases scope : owner.contextScope with
  | none => rfl
  | some scope =>
      simp only [cancelScope]
      split_ifs <;> rfl

/-- The `else` of `_update()` touches nothing but scopes. -/
theorem askOwners_spec (lock : State)
    : lock.askOwners.1.table = lock.table
      ∧ lock.askOwners.1.held = lock.held
      ∧ lock.askOwners.1.nextWaiterId = lock.nextWaiterId := by
  unfold State.askOwners
  split
  · exact ⟨rfl, rfl, rfl⟩
  · refine ⟨table_congr ?_ rfl rfl rfl, ?_, rfl⟩
    all_goals
      refine held_map lock (fun id owner => ?_)
      split
      · exact owner.waiter_ask
      · rfl

/-- The scan of `_update()` is the scan of the table. -/
theorem next?_table (idle : lock.updating = none)
    : lock.next? = lock.table.next? conflict := by
  simp [State.next?, GrantTable.next?, State.table, idle, State.held, Dict.map, isBlocking_eq,
    Function.comp_def]

/-- `_update()` is one grant. -/
theorem update_spec (idle : lock.updating = none) (loop : Nat)
    : (lock.update loop).1.table = lock.table.grant conflict
      ∧ (lock.update loop).1.held = lock.table.owners
      ∧ (lock.update loop).1.nextWaiterId = lock.nextWaiterId := by
  have held : lock.table.owners = lock.held := by simp only [State.table, idle]
  unfold State.update GrantTable.grant
  rw [next?_table idle]
  cases lock.table.next? conflict with
  | none => exact held ▸ askOwners_spec lock
  | some entry =>
      refine ⟨?_, held.symm, rfl⟩
      simp only [State.table, idle, State.held, GrantTable.store]

/-- The assignment to `_owners` is foreseen in the table. -/
theorem table_store {update : Update} (updating : lock.updating = some update)
    : (lock.store update).table = lock.table := by
  simp only [State.table, State.store, updating, State.held, Dict.map_set]

/-- A step of the lock is an entry, an exit, or nothing to the table. -/
inductive Refines (lock next : State) : Event → Prop where
  | enters {mode : Mode} {weak : Bool} {loop : Nat} (idle : lock.updating = none)
    (table
      : next.table = (lock.table.enter lock.nextWaiterId { mode, weak }).grant conflict)
    (held : next.held = lock.table.owners)
    (id : next.nextWaiterId = lock.nextWaiterId + 1)
    : Refines lock next (.use mode weak loop)
  | leaves {id : Nat} (idle : lock.updating = none)
    (table : next.table = (lock.table.leave id).grant conflict)
    (held : next.held = (lock.table.leave id).owners)
    (same : next.nextWaiterId = lock.nextWaiterId)
    : Refines lock next (.leave id)
  | stays {event : Event} (table : next.table = lock.table)
    (held : next.held = lock.held ∨ next.held = next.table.owners)
    (same : next.nextWaiterId = lock.nextWaiterId)
    (quiet : (∀ mode weak loop, event ≠ .use mode weak loop) ∧ ∀ id, event ≠ .leave id)
    : Refines lock next event

theorem refines_use (idle : lock.updating = none) (mode : Mode) (weak : Bool) (loop : Nat)
    : Refines lock (lock.use mode weak loop) (.use mode weak loop) := by
  let entered : State :=
    { lock with
      nextWaiterId := lock.nextWaiterId + 1
      waiters := lock.waiters.set lock.nextWaiterId { mode, weak } }
  have enteredIdle : entered.updating = none := idle
  obtain ⟨granted, held, id⟩ := update_spec enteredIdle loop
  have table : entered.table = lock.table.enter lock.nextWaiterId { mode, weak } := rfl
  exact .enters idle (table ▸ granted) held id

theorem refines_leave (idle : lock.updating = none) (id : Nat)
    : Refines lock (lock.leave id) (.leave id) := by
  let left : State :=
    { lock with owners := lock.owners.pop id, waiters := lock.waiters.pop id }
  have leftIdle : left.updating = none := idle
  obtain ⟨granted, held, same⟩ := update_spec leftIdle (lock.clients id).loop
  have table : left.table = lock.table.leave id := by
    simp only [left, State.table, idle, State.held, Dict.map_pop, GrantTable.leave]
  exact .leaves idle (table ▸ granted) (table ▸ held) same

/-- A step that changes neither `_waiters` nor who owns is nothing to the table. -/
theorem stays_of_held (held : next.held = lock.held) (waiters : next.waiters = lock.waiters)
    (granted : next.granted = lock.granted) (updating : next.updating = lock.updating)
    (same : next.nextWaiterId = lock.nextWaiterId)
    (quiet : (∀ mode weak loop, event ≠ .use mode weak loop) ∧ ∀ id, event ≠ .leave id)
    : Refines lock next event :=
  .stays (table_congr held waiters granted updating) (.inl held) same quiet

theorem refines_setResult (lock : State) (id : Nat)
    : Refines lock (lock.setResult id) (.setResult id) := by
  unfold State.setResult
  split <;> exact stays_of_held rfl rfl rfl rfl rfl (by simp)

theorem refines_enter (lock : State) (id : Nat) : Refines lock (lock.enter id) (.resume id) := by
  unfold State.enter
  split
  · refine stays_of_held (held_map lock (fun key owner => ?_)) rfl rfl rfl rfl (by simp)
    split <;> rfl
  · exact stays_of_held rfl rfl rfl rfl rfl (by simp)

theorem refines_exit (lock : State) (id : Nat) : Refines lock (lock.exit id) (.exits id) := by
  refine stays_of_held (held_map lock (fun key owner => ?_)) rfl rfl rfl rfl (by simp)
  split <;> rfl

/-- Every step of the lock refines the table. -/
theorem refines_of_step (stepped : step lock event = some next) : Refines lock next event := by
  cases event with
  | use mode weak loop =>
      obtain ⟨⟨idle, -⟩, same⟩ := Option.ite_none_right_eq_some.mp stepped
      exact Option.some.inj same ▸ refines_use idle mode weak loop
  | stores =>
      obtain ⟨update, updating, rfl⟩ := Option.map_eq_some_iff.mp stepped
      exact .stays (table_store updating) (.inr rfl) rfl (by simp)
  | setResult id =>
      obtain ⟨-, same⟩ := Option.ite_none_right_eq_some.mp stepped
      exact Option.some.inj same ▸ refines_setResult lock id
  | cancel id =>
      simp only [step] at stepped
      split at stepped
      · obtain ⟨-, same⟩ := Option.ite_none_right_eq_some.mp stepped
        obtain rfl := Option.some.inj same
        exact .stays rfl (.inl rfl) rfl (by simp)
      all_goals cases stepped
  | resume id =>
      simp only [step] at stepped
      split at stepped
      · obtain ⟨-, same⟩ := Option.ite_none_right_eq_some.mp stepped
        obtain rfl := Option.some.inj same
        exact .stays rfl (.inl rfl) rfl (by simp)
      · obtain ⟨-, same⟩ := Option.ite_none_right_eq_some.mp stepped
        exact Option.some.inj same ▸ refines_enter lock id
      all_goals cases stepped
  | exits id =>
      simp only [step] at stepped
      split at stepped
      · obtain ⟨-, same⟩ := Option.ite_none_right_eq_some.mp stepped
        exact Option.some.inj same ▸ refines_exit lock id
      all_goals cases stepped
  | leave id =>
      simp only [step] at stepped
      split at stepped
      · obtain ⟨idle, same⟩ := Option.ite_none_right_eq_some.mp stepped
        exact Option.some.inj same ▸ refines_leave idle id
      all_goals cases stepped

end Aiodrive.SmartLock
