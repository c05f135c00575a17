import Aiodrive.RWLock.Exclusion
import Mathlib.Data.List.Nodup

/-! Who is left in `_state_owner_ids`. `release()` drops an id that it finds there and no entry of a
queue, so that a waiter that is cancelled before the grant is granted the lock when it is gone.
-/

namespace Aiodrive.RWLock

variable {lock next : State} {event : Event}

/-- The id is in one of the queues. -/
def State.Waits (lock : State) (id : Nat) : Prop := id ∈ lock.queueRead ∨ id ∈ lock.queueWrite

instance (lock : State) (id : Nat) : Decidable (lock.Waits id) :=
  inferInstanceAs (Decidable (_ ∨ _))

/-- A waiter takes its `CancelledError` while its entry is still in a queue. -/
def GivesUpQueued (lock : State) : Event → Prop
  | .resume id => (lock.clients id).place = .waiting false true ∧ lock.Waits id
  | .acquire _ | .works | .setResult _ | .cancel _ | .exit _ => False

instance : ∀ lock event, Decidable (GivesUpQueued lock event)
  | _, .resume _ => inferInstanceAs (Decidable (_ ∧ _))
  | _, .acquire _ | _, .works | _, .setResult _ | _, .cancel _ | _, .exit _ =>
      inferInstanceAs (Decidable False)

-----------------------------------------------------------------------------------------
-- The queues and the owners
-----------------------------------------------------------------------------------------

/-- Whoever is in a queue waits, and was not granted the lock. -/
structure Queued (lock : State) : Prop where
  waiting
    : ∀ id,
        lock.Waits id
        → (∃ mustCancel, (lock.clients id).place = .waiting false mustCancel)
          ∧ id ∉ lock.scheduled
  nodup : lock.queueWrite.Nodup

/-- Whoever is in a queue is nowhere else. -/
theorem Queued.place_of_waits (queued : Queued lock) {id : Nat} {place : Place}
    (waits : lock.Waits id) (here : (lock.clients id).place = place)
    : ∃ mustCancel, place = .waiting false mustCancel := by
  obtain ⟨⟨mustCancel, same⟩, -⟩ := queued.waiting id waits
  exact ⟨mustCancel, here.symm.trans same⟩

/-- Every owner has the lock. -/
def Alive (lock : State) : Prop := ∀ id ∈ lock.ownerIds, lock.Holds id

/-- Whoever moves is in no queue, or goes on waiting. -/
theorem Queued.setPlace (queued : Queued lock) {id : Nat} {place : Place}
    (moves : ¬lock.Waits id ∨ ∃ mustCancel, place = .waiting false mustCancel)
    : Queued (lock.setPlace id place) where
  waiting := fun other waits => by
    refine ⟨?_, (queued.waiting other waits).2⟩
    by_cases same : other = id
    · rcases moves with away | ⟨mustCancel, rfl⟩
      · exact absurd (same ▸ waits) away
      · exact ⟨mustCancel, by simp [same]⟩
    · simpa [same] using (queued.waiting other waits).1
  nodup := queued.nodup

/-- `set_result` reaches nobody in a queue. -/
theorem Queued.setResult (queued : Queued lock) {id : Nat} (scheduled : id ∈ lock.scheduled)
    : Queued (lock.setResult id) := by
  have away : ¬lock.Waits id := fun waits => (queued.waiting id waits).2 scheduled
  have fewer : Queued { lock with scheduled := lock.scheduled.erase id } :=
    ⟨fun other waits =>
        ⟨(queued.waiting other waits).1,
          fun member => (queued.waiting other waits).2 (List.mem_of_mem_erase member)⟩,
      queued.nodup⟩
  unfold State.setResult
  split
  · exact fewer.setPlace (.inl away)
  all_goals exact fewer

/-- A client that keeps the lock if it has it. -/
theorem Alive.setPlace (alive : Alive lock) {id : Nat} {place : Place}
    (keeps : lock.Holds id → (lock.setPlace id place).Holds id)
    : Alive (lock.setPlace id place) := by
  intro other owner
  by_cases same : other = id
  · exact same ▸ keeps (same ▸ alive other owner)
  · exact (holds_setPlace_of_ne same place).mpr (alive other owner)

theorem Alive.setResult (alive : Alive lock) {id : Nat} (scheduled : id ∈ lock.scheduled)
    : Alive (lock.setResult id) := by
  intro other owner
  refine (holds_setResult scheduled other).mpr (alive other ?_)
  unfold State.setResult at owner
  split at owner <;> exact owner

-----------------------------------------------------------------------------------------
-- New clients
-----------------------------------------------------------------------------------------

/-- A new client is in no queue yet. -/
theorem Queued.begin (queued : Queued lock) (sound : Sound lock) (target : Target)
    : Queued (lock.begin target) where
  waiting := fun id waits => by
    have known : id < lock.nextId := by
      rcases waits with reads | writes
      · exact (sound.readers id reads).1
      · exact (sound.writers id writes).1
    rw [clients_begin_known target known]
    exact queued.waiting id waits
  nodup := queued.nodup

theorem Alive.begin (alive : Alive lock) (sound : Sound lock) (target : Target)
    : Alive (lock.begin target) := by
  intro id owner
  have same := clients_begin_known target (sound.known id owner)
  have held : (lock.begin target).Holds id ↔ lock.Holds id := holds_congr (by rw [same]) Iff.rfl
  exact held.mpr (alive id owner)

/-- The new client is in no queue. -/
theorem Sound.not_waits_nextId (sound : Sound lock) : ¬lock.Waits lock.nextId := by
  rintro (reads | writes)
  · exact Nat.lt_irrefl _ (sound.readers _ reads).1
  · exact Nat.lt_irrefl _ (sound.writers _ writes).1

theorem Queued.acquire (queued : Queued lock) (sound : Sound lock) {target : Target}
    {acquired : State} (acquires : Acquired lock target acquired)
    : Queued acquired := by
  have begun := queued.begin sound target
  have away := sound.not_waits_nextId
  have new : (∃ mustCancel,
        ((lock.begin target).clients lock.nextId).place = .waiting false mustCancel)
      ∧ lock.nextId ∉ (lock.begin target).scheduled :=
    ⟨⟨false, by rw [clients_begin_new]⟩, (sound.fresh lock.nextId (Nat.le_refl _)).2⟩
  cases acquires with
  | takes admits =>
      have owned
          : Queued
              { lock.begin target with
                state := target.lockState
                ownerIds := insert lock.nextId lock.ownerIds } :=
        ⟨begun.waiting, begun.nodup⟩
      exact owned.setPlace (.inl away)
  | reads locked requested =>
      refine ⟨fun id waits => ?_, begun.nodup⟩
      rcases waits with reads | writes
      · rcases List.mem_append.mp reads with old | own
        · exact begun.waiting id (.inl old)
        · exact List.mem_singleton.mp own ▸ new
      · exact begun.waiting id (.inr writes)
  | writes locked requested =>
      refine ⟨fun id waits => ?_, ?_⟩
      · rcases waits with reads | writes
        · exact begun.waiting id (.inl reads)
        · rcases List.mem_append.mp writes with old | own
          · exact begun.waiting id (.inr old)
          · exact List.mem_singleton.mp own ▸ new
      · refine queued.nodup.append (List.nodup_singleton _) ?_
        intro id old own
        exact away (.inr (List.mem_singleton.mp own ▸ old))

theorem Alive.acquire (alive : Alive lock) (sound : Sound lock) {target : Target}
    {acquired : State} (acquires : Acquired lock target acquired)
    : Alive acquired := by
  have begun := alive.begin sound target
  cases acquires with
  | takes admits =>
      intro id owner
      by_cases same : id = lock.nextId
      · exact .inl (by simp [State.Inside, same])
      · have old := Finset.mem_of_mem_insert_of_ne owner same
        exact (holds_setPlace_of_ne same .inside).mpr (begun id old)
  | reads | writes => exact begun

-----------------------------------------------------------------------------------------
-- Owners that leave
-----------------------------------------------------------------------------------------

/-- A lock that nobody has is handed over to whom the queues name, and those are alive. -/
theorem Queued.handedOver (queued : Queued lock) (sound : Sound lock) {freed : State}
    (handed : HandedOver { lock with ownerIds := ∅ } freed)
    : Queued freed ∧ Alive freed := by
  cases handed with
  | @writer next rest first =>
      have writes {id : Nat} (member : id ∈ rest) : id ∈ lock.queueWrite :=
        first ▸ List.mem_cons_of_mem next member
      have front : next ∈ lock.queueWrite := first ▸ List.mem_cons_self
      have distinct : next ∉ rest ∧ rest.Nodup := List.nodup_cons.mp (first ▸ queued.nodup)
      constructor
      · refine ⟨fun id waits => ?_, distinct.2⟩
        have other : id ≠ next := by
          rintro rfl
          rcases waits with reads | later
          · cases (sound.readers id reads).2.symm.trans (sound.writers id front).2
          · exact distinct.1 later
        have waited : lock.Waits id := waits.imp_right writes
        obtain ⟨place, unscheduled⟩ := queued.waiting id waited
        exact ⟨place, by simpa [other] using unscheduled⟩
      · intro id owner
        obtain rfl : id = next := Finset.mem_singleton.mp owner
        obtain ⟨⟨mustCancel, here⟩, -⟩ := queued.waiting id (.inr front)
        exact .inr (by simp [State.Granted, here])
  | readers noWriter some =>
      constructor
      · refine ⟨fun id waits => ?_, queued.nodup⟩
        rcases waits with reads | writes
        · exact absurd reads List.not_mem_nil
        · exact absurd (noWriter ▸ writes : id ∈ ([] : List Nat)) List.not_mem_nil
      · intro id owner
        have reads : id ∈ lock.queueRead := List.mem_toFinset.mp owner
        obtain ⟨⟨mustCancel, here⟩, -⟩ := queued.waiting id (.inl reads)
        exact .inr (by simp [State.Granted, here, reads])
  | nobody noWriter noReader =>
      exact ⟨⟨queued.waiting, queued.nodup⟩, fun id owner => absurd owner (Finset.notMem_empty id)⟩

/-- A client that leaves and is in no queue. -/
theorem Alive.leave (alive : Alive lock) (queued : Queued lock) (sound : Sound lock) {id : Nat}
    (idle : lock.critical = []) (away : ¬lock.Waits id)
    (began : (lock.clients id).place ≠ .absent)
    : Queued ((lock.setPlace id .gone).release id).settle
      ∧ Alive ((lock.setPlace id .gone).release id).settle := by
  have idle : (lock.setPlace id .gone).critical = [] := idle
  have gone : ((lock.setPlace id .gone).clients id).place = .gone := by simp
  have left : Sound (lock.setPlace id .gone) :=
    sound.setPlace began (fun holds => absurd holds (not_holds_gone gone))
  have remaining : Queued (lock.setPlace id .gone) := queued.setPlace (.inl away)
  have released := released_settle idle id
  generalize ((lock.setPlace id .gone).release id).settle = freed at released ⊢
  cases released with
  | shared others =>
      refine ⟨⟨remaining.waiting, remaining.nodup⟩, fun other owner => ?_⟩
      have different := Finset.ne_of_mem_erase owner
      exact (holds_setPlace_of_ne different .gone).mpr (alive other (Finset.mem_of_mem_erase owner))
  | last none handed => exact remaining.handedOver left handed

-----------------------------------------------------------------------------------------
-- Runs
-----------------------------------------------------------------------------------------

/-- What holds of the settled lock as long as no waiter gives up its entry. -/
structure Owned (lock : State) : Prop where
  sound : Sound lock
  queued : Queued lock
  alive : Alive lock

theorem owned_initial : Owned .initial where
  sound := sound_initial
  queued := ⟨fun _ waits => by simp [State.Waits, State.initial] at waits, List.nodup_nil⟩
  alive := nofun

/-- One step keeps the settled lock owned by clients that have it. -/
theorem Owned.step (owned : Owned lock.settle) (keeps : ¬GivesUpQueued lock event)
    (stepped : RWLock.step lock event = some next)
    : Owned next.settle := by
  suffices kept : Queued next.settle ∧ Alive next.settle from
    ⟨owned.sound.step stepped, kept.1, kept.2⟩
  obtain ⟨sound, queued, alive⟩ := owned
  cases move_of_step stepped with
  | @acquires target idle =>
      rw [settle_of_idle idle] at sound queued alive
      have acquired := acquired_acquire lock target
      rw [settle_of_idle ((critical_acquire lock target).trans idle)]
      exact ⟨queued.acquire sound acquired, alive.acquire sound acquired⟩
  | works first => exact (settle_exec first).symm ▸ ⟨queued, alive⟩
  | resolves scheduled =>
      have settled := mem_scheduled_settle scheduled
      rw [settle_setResult scheduled]
      exact ⟨queued.setResult settled, alive.setResult settled⟩
  | @asks id resolved mustCancel here =>
      rw [settle_setPlace]
      rw [← clients_settle] at here
      constructor
      · by_cases waits : lock.settle.Waits id
        · obtain ⟨other, same⟩ := queued.place_of_waits waits here
          obtain ⟨rfl, -⟩ := Place.waiting.inj same
          exact queued.setPlace (.inr ⟨true, rfl⟩)
        · exact queued.setPlace (.inl waits)
      · exact alive.setPlace (holds_ask here).mpr
  | @enters id here =>
      rw [settle_setPlace]
      rw [← clients_settle] at here
      constructor
      · refine queued.setPlace (.inl (fun waits => ?_))
        obtain ⟨other, ⟨⟩⟩ := queued.place_of_waits waits here
      · exact alive.setPlace (fun _ => .inl (by simp [State.Inside]))
  | @givesUp id resolved here idle =>
      rw [settle_of_idle idle] at sound queued alive
      have away : ¬lock.Waits id := fun waits => by
        obtain ⟨other, same⟩ := queued.place_of_waits waits here
        obtain ⟨rfl, -⟩ := Place.waiting.inj same
        exact keeps ⟨here, waits⟩
      exact alive.leave queued sound idle away (by simp [here])
  | @exits id here idle =>
      rw [settle_of_idle idle] at sound queued alive
      have away : ¬lock.Waits id := fun waits => by
        obtain ⟨other, ⟨⟩⟩ := queued.place_of_waits waits here
      exact alive.leave queued sound idle away (by simp [here])

/-- As long as no waiter takes its `CancelledError` while it is in a queue, every owner is inside or
has a grant in flight whenever no `release()` is in progress, and where there is neither the lock is
unlocked.
-/
theorem owners_alive {events : List Event} {final : State}
    (reached : Transition.run step .initial events = some final)
    (keep : Transition.Meets step (fun lock event => ¬GivesUpQueued lock event) .initial events)
    (idle : final.critical = [])
    : (∀ id ∈ final.ownerIds, final.Inside id ∨ final.Granted id)
      ∧ ((∀ id, ¬final.Inside id ∧ ¬final.Granted id) → final.state = .unlocked) := by
  have owned : Owned final.settle :=
    Transition.run_preserves_of_meets (P := fun lock => Owned lock.settle)
      (fun _ _ _ owned keeps stepped => Owned.step owned keeps stepped) owned_initial keep reached
  rw [settle_of_idle idle] at owned
  refine ⟨owned.alive, fun nobody => owned.sound.unlocked.mpr ?_⟩
  refine Finset.eq_empty_of_forall_notMem (fun id owner => ?_)
  exact not_or.mpr (nobody id) (owned.alive id owner)

/-- A reader that is cancelled once it has been granted the lock. -/
theorem owners_alive_handedBack
    : ∃ final : State,
        Transition.run step .initial
            [.acquire .write, .acquire .read, .exit 0, .works, .works, .works, .works, .cancel 1,
              .resume 1, .works]
          = some final
        ∧ (∀ id ∈ final.ownerIds, final.Inside id ∨ final.Granted id)
        ∧ ((∀ id, ¬final.Inside id ∧ ¬final.Granted id) → final.state = .unlocked) := by
  have reached : Transition.run step .initial
      [.acquire .write, .acquire .read, .exit 0, .works, .works, .works, .works, .cancel 1,
        .resume 1, .works] = some _ := rfl
  exact ⟨_, reached, owners_alive reached (by decide) rfl⟩

/-- A reader that is cancelled before the writer that it waits for leaves. -/
theorem owner_gone
    : ∃ final : State,
        Transition.run step .initial
            [.acquire .write, .acquire .read, .cancel 1, .resume 1, .exit 0, .works, .works,
              .works, .works, .setResult 1]
          = some final
        ∧ final.critical = []
        ∧ final.ownerIds = {1}
        ∧ (∀ id, ¬final.Inside id ∧ ¬final.Granted id)
        ∧ final.state = .read := by
  refine ⟨_, rfl, rfl, rfl, fun id => ?_, rfl⟩
  match id with
  | 0 => exact ⟨nofun, nofun⟩
  | 1 => exact ⟨nofun, nofun⟩
  | id + 2 => exact ⟨nofun, nofun⟩

-----------------------------------------------------------------------------------------
-- An owner that is gone
-----------------------------------------------------------------------------------------

/-- A client that is gone while it owns the lock. -/
structure OwnerGone (id : Nat) (lock : State) : Prop where
  sound : Sound lock.settle
  gone : (lock.clients id).place = .gone
  owner : id ∈ lock.ownerIds

/-- Nobody else takes its id out of `_state_owner_ids`. -/
theorem OwnerGone.step {id : Nat} (ownerGone : OwnerGone id lock)
    (stepped : RWLock.step lock event = some next)
    : OwnerGone id next := by
  obtain ⟨sound, gone, owner⟩ := ownerGone
  have apart {other : Nat} {place : Place} (here : (lock.clients other).place = place)
      (present : place ≠ .gone)
      : id ≠ other := by
    rintro rfl
    exact present (here.symm.trans gone)
  have leaves {other : Nat} (different : id ≠ other)
      : (((lock.setPlace other .gone).release other).clients id).place = .gone
        ∧ id ∈ ((lock.setPlace other .gone).release other).ownerIds := by
    have kept : id ∈ (lock.setPlace other .gone).ownerIds.erase other :=
      Finset.mem_erase.mpr ⟨different, owner⟩
    unfold State.release
    rw [if_neg (Finset.ne_empty_of_mem kept)]
    exact ⟨by simpa [different] using gone, kept⟩
  suffices kept : (next.clients id).place = .gone ∧ id ∈ next.ownerIds from
    ⟨sound.step stepped, kept.1, kept.2⟩
  cases move_of_step stepped with
  | @acquires target idle =>
      rw [settle_of_idle idle] at sound
      have different := apart (sound.fresh lock.nextId (Nat.le_refl _)).1 (by simp)
      have acquired := acquired_acquire lock target
      generalize lock.acquire target = after at acquired ⊢
      have begun : ((lock.begin target).clients id).place = .gone := by
        simpa [State.begin, different] using gone
      cases acquired with
      | takes admits =>
          exact ⟨by simpa [different] using begun, Finset.mem_insert_of_mem owner⟩
      | reads | writes => exact ⟨begun, owner⟩
  | @works statement rest first =>
      cases statement with
      | add other => exact ⟨gone, Finset.mem_insert_of_mem owner⟩
      | callSoonThreadsafe | setState | clear => exact ⟨gone, owner⟩
  | @resolves other scheduled =>
      unfold State.setResult
      split
      · rename_i resolved mustCancel here
        exact ⟨by simpa [State.setPlace, apart here] using gone, owner⟩
      all_goals exact ⟨gone, owner⟩
  | asks here => exact ⟨by simpa [apart here] using gone, owner⟩
  | enters here => exact ⟨by simpa [apart here] using gone, owner⟩
  | givesUp here idle => exact leaves (apart here (by simp))
  | exits here idle => exact leaves (apart here (by simp))

/-- From an owner that is gone on, the lock is never unlocked again, by induction on the events. -/
theorem never_unlocked {earlier later : List Event} {final : State} {id : Nat}
    (reached : Transition.run step .initial earlier = some lock)
    (gone : (lock.clients id).place = .gone) (owner : id ∈ lock.ownerIds)
    (goesOn : Transition.run step lock later = some final) (idle : final.critical = [])
    : final.state ≠ .unlocked := by
  have ownerGone : OwnerGone id final :=
    Transition.run_preserves (fun _ _ _ ownerGone stepped => OwnerGone.step ownerGone stepped)
      ⟨run_sound reached, gone, owner⟩ goesOn
  obtain ⟨sound, -, owner⟩ := ownerGone
  rw [settle_of_idle idle] at sound
  intro unlocked
  simp [sound.unlocked.mp unlocked] at owner

/-- The reader that is cancelled before the writer leaves, and a writer that comes after. -/
theorem never_unlocked_after_gone_reader
    : ∃ lock final : State,
        Transition.run step .initial
            [.acquire .write, .acquire .read, .cancel 1, .resume 1, .exit 0, .works, .works,
              .works, .works, .setResult 1]
          = some lock
        ∧ (lock.clients 1).place = .gone
        ∧ Transition.run step lock [.acquire .write, .cancel 2, .resume 2] = some final
        ∧ final.state ≠ .unlocked := by
  have reached : Transition.run step .initial
      [.acquire .write, .acquire .read, .cancel 1, .resume 1, .exit 0, .works, .works, .works,
        .works, .setResult 1] = some _ := rfl
  refine ⟨_, _, reached, rfl, rfl, ?_⟩
  exact @never_unlocked _ _ [.acquire .write, .cancel 2, .resume 2] _ 1
    reached rfl (by decide) rfl rfl

end Aiodrive.RWLock
