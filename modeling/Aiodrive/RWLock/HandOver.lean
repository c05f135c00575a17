import Aiodrive.RWLock.Model
import Mathlib.Data.Finset.Lattice.Lemmas

/-! A `release()` that is in progress: what the lock is once it has ended. The loops that run
meanwhile change the lock as they would afterwards, so that a lock and what it settles to have
the same clients.
-/

namespace Aiodrive.RWLock

/-- The lock once the `release()` in progress has ended. -/
def State.settle (lock : State) : State :=
  { lock.critical.foldl State.exec lock with critical := [] }

/-- Without one, the lock is settled. -/
theorem settle_of_idle {lock : State} (idle : lock.critical = []) : lock.settle = lock := by
  cases lock
  obtain rfl := idle
  rfl

/-- Statements do not read what is left of the `release()`. -/
theorem foldl_exec_critical (statements rest : List Statement) (lock : State)
    : statements.foldl State.exec { lock with critical := rest }
      = { statements.foldl State.exec lock with critical := rest } := by
  refine List.foldl_hom (fun lock : State => { lock with critical := rest })
    (fun lock statement => ?_)
  cases statement <;> rfl

/-- A statement more of the `release()` leads to the same. -/
theorem settle_exec {lock : State} {statement : Statement} {rest : List Statement}
    (first : lock.critical = statement :: rest)
    : { lock.exec statement with critical := rest }.settle = lock.settle := by
  simp only [State.settle, first, List.foldl_cons, foldl_exec_critical]

/-- A statement leaves the clients as they are. -/
theorem foldl_exec_setPlace (statements : List Statement) (lock : State) (id : Nat)
    (place : Place)
    : statements.foldl State.exec (lock.setPlace id place)
      = (statements.foldl State.exec lock).setPlace id place := by
  refine List.foldl_hom (fun lock : State => lock.setPlace id place) (fun lock statement => ?_)
  cases statement <;> rfl

theorem settle_setPlace (lock : State) (id : Nat) (place : Place)
    : (lock.setPlace id place).settle = lock.settle.setPlace id place := by
  have same : (lock.setPlace id place).critical = lock.critical := rfl
  simp only [State.settle, same, foldl_exec_setPlace]
  rfl

/-- A loop runs `set_result` before a statement or after it. -/
theorem exec_setResult {lock : State} {id : Nat} (scheduled : id ∈ lock.scheduled)
    (statement : Statement)
    : (lock.setResult id).exec statement = (lock.exec statement).setResult id := by
  cases statement with
  | callSoonThreadsafe other =>
      simp only [State.exec, State.setResult, State.setPlace, List.erase_append_left _ scheduled]
      split <;> rfl
  | add | setState | clear =>
      simp only [State.exec, State.setResult, State.setPlace]
      split <;> rfl

/-- Statements schedule more, by induction on them. -/
theorem foldl_exec_setResult (statements : List Statement) {lock : State} {id : Nat}
    (scheduled : id ∈ lock.scheduled)
    : statements.foldl State.exec (lock.setResult id)
      = (statements.foldl State.exec lock).setResult id := by
  induction statements generalizing lock with
  | nil => rfl
  | cons statement rest ih =>
      rw [List.foldl_cons, List.foldl_cons, exec_setResult scheduled]
      refine ih ?_
      cases statement with
      | callSoonThreadsafe other => exact List.mem_append_left _ scheduled
      | add | setState | clear => exact scheduled

theorem settle_setResult {lock : State} {id : Nat} (scheduled : id ∈ lock.scheduled)
    : (lock.setResult id).settle = lock.settle.setResult id := by
  have same : (lock.setResult id).critical = lock.critical := by
    unfold State.setResult
    split <;> rfl
  simp only [State.settle, same, foldl_exec_setResult _ scheduled]
  simp only [State.setResult, State.setPlace]
  split <;> rfl

/-- What was scheduled stays so. -/
theorem mem_scheduled_settle {lock : State} {id : Nat} (scheduled : id ∈ lock.scheduled)
    : id ∈ lock.settle.scheduled := by
  refine List.foldlRecOn lock.critical State.exec (motive := fun lock => id ∈ lock.scheduled)
    scheduled (fun lock scheduled statement _ => ?_)
  cases statement with
  | callSoonThreadsafe other => exact List.mem_append_left _ scheduled
  | add | setState | clear => exact scheduled

/-- The clients are the same. -/
@[simp] theorem clients_settle (lock : State) : lock.settle.clients = lock.clients :=
  List.foldlRecOn lock.critical State.exec (motive := fun other => other.clients = lock.clients)
    rfl (fun _ same statement _ => by cases statement <;> exact same)

-----------------------------------------------------------------------------------------
-- The three ways of handing the lock over
-----------------------------------------------------------------------------------------

/-- What a lock without owners is handed over to: the first writer of its queue; all readers, if
there is no writer; or nobody, if there is no reader either.
-/
inductive HandedOver (lock : State) : State → Prop where
  | writer {next : Nat} {rest : List Nat} (queued : lock.queueWrite = next :: rest)
    : HandedOver lock
        { lock with
          queueWrite := rest
          state := .write
          ownerIds := {next}
          scheduled := lock.scheduled ++ [next] }
  | readers (noWriter : lock.queueWrite = []) (queued : lock.queueRead ≠ [])
    : HandedOver lock
        { lock with
          queueRead := []
          state := .read
          ownerIds := lock.queueRead.toFinset
          scheduled := lock.scheduled ++ lock.queueRead }
  | nobody (noWriter : lock.queueWrite = []) (noReader : lock.queueRead = [])
    : HandedOver lock { lock with state := .unlocked }

/-- The `for` loop of `release()`, by induction on the readers. -/
theorem foldl_exec_readers (readers : List Nat) (lock : State)
    : (readers.flatMap (fun id => [.callSoonThreadsafe id, .add id])).foldl State.exec lock
      = { lock with
          ownerIds := lock.ownerIds ∪ readers.toFinset
          scheduled := lock.scheduled ++ readers } := by
  induction readers generalizing lock with
  | nil => simp [Finset.union_empty]
  | cons id rest ih =>
      simp only [List.flatMap_cons, List.cons_append, List.nil_append, List.foldl_cons, ih,
        State.exec]
      simp [Finset.insert_union, Finset.union_insert]

/-- The hand-over ends in one of the three ways. -/
theorem handedOver_settle {lock : State} (idle : lock.critical = []) (free : lock.ownerIds = ∅)
    : HandedOver lock lock.handOver.settle := by
  cases writers : lock.queueWrite with
  | cons next rest =>
      have ends : lock.handOver.settle
          = { lock with
              queueWrite := rest
              state := .write
              ownerIds := {next}
              scheduled := lock.scheduled ++ [next] } := by
        simp [State.settle, State.handOver, writers, State.exec, free, idle]
      exact ends ▸ .writer writers
  | nil =>
      cases readers : lock.queueRead with
      | cons first rest =>
          have ends : lock.handOver.settle
              = { lock with
                  queueRead := []
                  state := .read
                  ownerIds := lock.queueRead.toFinset
                  scheduled := lock.scheduled ++ lock.queueRead } := by
            simp only [State.settle, State.handOver, writers, readers, List.foldl_append,
              foldl_exec_readers]
            simp [State.exec, free, idle]
          exact ends ▸ .readers writers (by simp [readers])
      | nil =>
          have ends : lock.handOver.settle = { lock with state := .unlocked } := by
            simp [State.settle, State.handOver, writers, readers, State.exec, idle]
          exact ends ▸ .nobody writers readers

/-- What a client that releases the lock leaves: fewer owners, or a lock that is handed over. -/
inductive Released (lock : State) (id : Nat) : State → Prop where
  | shared (others : lock.ownerIds.erase id ≠ ∅)
    : Released lock id { lock with ownerIds := lock.ownerIds.erase id }
  | last {next : State} (none : lock.ownerIds.erase id = ∅)
    (handed : HandedOver { lock with ownerIds := ∅ } next)
    : Released lock id next

theorem released_settle {lock : State} (idle : lock.critical = []) (id : Nat)
    : Released lock id (lock.release id).settle := by
  unfold State.release
  split
  · rename_i none
    refine .last none ?_
    rw [none]
    exact handedOver_settle idle rfl
  · rename_i others
    have settled : { lock with ownerIds := lock.ownerIds.erase id }.settle = _ :=
      settle_of_idle idle
    exact settled ▸ .shared others

end Aiodrive.RWLock
