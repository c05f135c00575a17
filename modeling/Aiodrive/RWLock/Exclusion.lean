import Aiodrive.RWLock.HandOver

/-! The lock excludes: a writer is never inside together with any other client. The invariant is
one of the lock that a `release()` in progress leaves.
-/

namespace Aiodrive.RWLock

variable {lock next : State} {event : Event}

-----------------------------------------------------------------------------------------
-- Holding the lock, as clients move
-----------------------------------------------------------------------------------------

@[simp] theorem clients_setPlace (lock : State) (id : Nat) (place : Place) (other : Nat)
    : (lock.setPlace id place).clients other
      = if other = id then { lock.clients id with place } else lock.clients other :=
  Function.update_apply ..

@[simp] theorem target_setPlace (lock : State) (id : Nat) (place : Place) (other : Nat)
    : ((lock.setPlace id place).clients other).target = (lock.clients other).target := by
  by_cases same : other = id <;> simp [same]

/-- The others have the lock as before. -/
theorem holds_setPlace_of_ne {id other : Nat} (different : other ≠ id) (place : Place)
    : (lock.setPlace id place).Holds other ↔ lock.Holds other := by
  simp [State.Holds, State.Inside, State.Granted, different, State.setPlace]

theorem not_holds_gone {id : Nat} (gone : (lock.clients id).place = .gone) : ¬lock.Holds id := by
  simp [State.Holds, State.Inside, State.Granted, gone]

theorem holds_iff_of_waiting {id : Nat} {resolved mustCancel : Bool}
    (here : (lock.clients id).place = .waiting resolved mustCancel)
    : lock.Holds id ↔ resolved = true ∨ id ∈ lock.scheduled := by
  simp [State.Holds, State.Inside, State.Granted, here]

/-- A waiter that is asked to cancel has the lock if it had it. -/
theorem holds_ask {id : Nat} {resolved mustCancel : Bool}
    (here : (lock.clients id).place = .waiting resolved mustCancel)
    : (lock.setPlace id (.waiting resolved true)).Holds id ↔ lock.Holds id := by
  have asked : ((lock.setPlace id (.waiting resolved true)).clients id).place
      = .waiting resolved true := by simp
  rw [holds_iff_of_waiting asked, holds_iff_of_waiting here]
  rfl

/-- Who has the lock depends on the places and on what is scheduled. -/
theorem holds_congr {id : Nat} (places : (next.clients id).place = (lock.clients id).place)
    (scheduled : id ∈ next.scheduled ↔ id ∈ lock.scheduled)
    : next.Holds id ↔ lock.Holds id := by
  simp [State.Holds, State.Inside, State.Granted, places, scheduled]

/-- With more scheduled, those have the lock who had it, or who are scheduled now. -/
theorem holds_of_append {id : Nat} {ids : List Nat} (holds : next.Holds id)
    (places : (next.clients id).place = (lock.clients id).place)
    (scheduled : next.scheduled = lock.scheduled ++ ids)
    : lock.Holds id ∨ id ∈ ids := by
  unfold State.Holds State.Inside State.Granted at *
  rw [places, scheduled] at holds
  split at holds <;> simp_all [or_assoc]

/-- A client that `set_result` reaches has the lock before and after it. -/
theorem holds_setResult {id : Nat} (scheduled : id ∈ lock.scheduled) (other : Nat)
    : (lock.setResult id).Holds other ↔ lock.Holds other := by
  by_cases same : other = id
  · subst same
    cases here : (lock.clients other).place with
    | waiting resolved mustCancel =>
        simp [State.setResult, State.Holds, State.Inside, State.Granted, here, scheduled]
    | absent | inside | gone =>
        simp [State.setResult, State.Holds, State.Inside, State.Granted, here]
  · have kept : other ∈ lock.scheduled.erase id ↔ other ∈ lock.scheduled :=
      List.mem_erase_of_ne same
    unfold State.setResult
    split
    · exact (holds_setPlace_of_ne same _).trans (holds_congr rfl kept)
    · exact holds_congr rfl kept
    · exact holds_congr rfl kept
    · exact holds_congr rfl kept

-----------------------------------------------------------------------------------------
-- The invariant
-----------------------------------------------------------------------------------------

/-- What holds of the lock whenever no `release()` is in progress: `_state` says who owns it, nobody
waits for a lock that nobody owns, and who has it is an owner.
-/
structure Sound (lock : State) : Prop where
  fresh : ∀ id, lock.nextId ≤ id → (lock.clients id).place = .absent ∧ id ∉ lock.scheduled
  known : ∀ id ∈ lock.ownerIds, id < lock.nextId
  unlocked : lock.state = .unlocked ↔ lock.ownerIds = ∅
  write : lock.state = .write → ∃ id, lock.ownerIds = {id} ∧ (lock.clients id).target = .write
  read : lock.state = .read → ∀ id ∈ lock.ownerIds, (lock.clients id).target = .read
  queued : lock.ownerIds = ∅ → lock.queueRead = [] ∧ lock.queueWrite = []
  readers : ∀ id ∈ lock.queueRead, id < lock.nextId ∧ (lock.clients id).target = .read
  writers : ∀ id ∈ lock.queueWrite, id < lock.nextId ∧ (lock.clients id).target = .write
  holders : ∀ id, lock.Holds id → id ∈ lock.ownerIds

theorem sound_initial : Sound .initial where
  fresh := fun _ _ => ⟨rfl, List.not_mem_nil⟩
  known := nofun
  unlocked := ⟨fun _ => rfl, fun _ => rfl⟩
  write := nofun
  read := nofun
  queued := fun _ => ⟨rfl, rfl⟩
  readers := nofun
  writers := nofun
  holders := fun _ holds => by
    simp [State.Holds, State.Inside, State.Granted, State.initial] at holds

/-- Clients that move without coming to hold the lock. -/
theorem Sound.of_clients (sound : Sound lock) {clients : Nat → Client} {scheduled : List Nat}
    (targets : ∀ id, (clients id).target = (lock.clients id).target)
    (absent : ∀ id, (lock.clients id).place = .absent → (clients id).place = .absent)
    (fewer : ∀ id ∈ scheduled, id ∈ lock.scheduled)
    (holders : ∀ id, { lock with clients, scheduled }.Holds id → id ∈ lock.ownerIds)
    : Sound { lock with clients, scheduled } where
  fresh := fun id later =>
    ⟨absent id (sound.fresh id later).1, fun member => (sound.fresh id later).2 (fewer id member)⟩
  known := sound.known
  unlocked := sound.unlocked
  write := fun write => by
    obtain ⟨id, only, target⟩ := sound.write write
    exact ⟨id, only, (targets id).trans target⟩
  read := fun read id member => (targets id).trans (sound.read read id member)
  queued := sound.queued
  readers := fun id member =>
    ⟨(sound.readers id member).1, (targets id).trans (sound.readers id member).2⟩
  writers := fun id member =>
    ⟨(sound.writers id member).1, (targets id).trans (sound.writers id member).2⟩
  holders := holders

/-- A client that has begun, and holds the lock afterwards only if it is an owner. -/
theorem Sound.setPlace (sound : Sound lock) {id : Nat} {place : Place}
    (began : (lock.clients id).place ≠ .absent)
    (owner : (lock.setPlace id place).Holds id → id ∈ lock.ownerIds)
    : Sound (lock.setPlace id place) := by
  refine sound.of_clients (target_setPlace lock id place) ?_ (fun _ member => member) ?_
  · intro other absent
    have different : other ≠ id := fun same => began (same ▸ absent)
    simpa [State.setPlace, different] using absent
  · intro other holds
    by_cases same : other = id
    · exact same ▸ owner (same ▸ holds)
    · exact sound.holders other ((holds_setPlace_of_ne same place).mp holds)

/-- `set_result` makes no new owner. -/
theorem Sound.setResult (sound : Sound lock) {id : Nat} (scheduled : id ∈ lock.scheduled)
    : Sound (lock.setResult id) := by
  have holders (other : Nat) (holds : (lock.setResult id).Holds other) : other ∈ lock.ownerIds :=
    sound.holders other ((holds_setResult scheduled other).mp holds)
  have fewer : ∀ other ∈ lock.scheduled.erase id, other ∈ lock.scheduled :=
    fun other member => List.mem_of_mem_erase member
  unfold State.setResult at holders ⊢
  split at holders
  · rename_i resolved mustCancel here
    refine sound.of_clients ?_ ?_ fewer holders
    · exact target_setPlace lock id (.waiting true mustCancel)
    · intro other absent
      have different : other ≠ id := fun same => by simp [← same, absent] at here
      simpa [State.setPlace, different] using absent
  all_goals exact sound.of_clients (fun _ => rfl) (fun _ absent => absent) fewer holders

-----------------------------------------------------------------------------------------
-- New clients
-----------------------------------------------------------------------------------------

/-- A new client, before it takes the lock or is queued. -/
def State.begin (lock : State) (target : Target) : State :=
  { lock with
    nextId := lock.nextId + 1
    clients :=
      Function.update lock.clients lock.nextId { target, place := .waiting false false } }

theorem clients_begin_known (target : Target) {id : Nat} (known : id < lock.nextId)
    : (lock.begin target).clients id = lock.clients id :=
  Function.update_of_ne (Nat.ne_of_lt known) ..

theorem clients_begin_new (lock : State) (target : Target)
    : (lock.begin target).clients lock.nextId = { target, place := .waiting false false } :=
  Function.update_self ..

theorem Sound.begin (sound : Sound lock) (target : Target) : Sound (lock.begin target) where
  fresh := fun id later => by
    have other : id ≠ lock.nextId := Nat.ne_of_gt later
    have same : (lock.begin target).clients id = lock.clients id := Function.update_of_ne other ..
    rw [same]
    exact sound.fresh id (Nat.le_of_succ_le later)
  known := fun id owner => Nat.lt_succ_of_lt (sound.known id owner)
  unlocked := sound.unlocked
  write := fun write => by
    obtain ⟨id, only, requested⟩ := sound.write write
    have known := sound.known id (by simp [only])
    exact ⟨id, only, by rw [clients_begin_known target known]; exact requested⟩
  read := fun read id owner => by
    rw [clients_begin_known target (sound.known id owner)]
    exact sound.read read id owner
  queued := sound.queued
  readers := fun id member => by
    obtain ⟨known, requested⟩ := sound.readers id member
    exact ⟨Nat.lt_succ_of_lt known, by rw [clients_begin_known target known]; exact requested⟩
  writers := fun id member => by
    obtain ⟨known, requested⟩ := sound.writers id member
    exact ⟨Nat.lt_succ_of_lt known, by rw [clients_begin_known target known]; exact requested⟩
  holders := fun id holds => by
    by_cases new : id = lock.nextId
    · subst new
      have waiting : ((lock.begin target).clients lock.nextId).place = .waiting false false := by
        rw [clients_begin_new]
      rcases (holds_iff_of_waiting waiting).mp holds with resolved | scheduled
      · contradiction
      · exact absurd scheduled (sound.fresh lock.nextId (Nat.le_refl _)).2
    · have same : (lock.begin target).clients id = lock.clients id := Function.update_of_ne new ..
      have held : (lock.begin target).Holds id ↔ lock.Holds id := holds_congr (by rw [same]) Iff.rfl
      exact sound.holders id (held.mp holds)

/-- One owner more: nobody owns the lock, or readers do and it reads. -/
theorem Sound.own (sound : Sound lock) {id : Nat} (known : id < lock.nextId)
    (admits
      : lock.state = .unlocked ∨ lock.state = .read ∧ (lock.clients id).target = .read)
    : Sound
        { lock with
          state := (lock.clients id).target.lockState
          ownerIds := insert id lock.ownerIds } := by
  have owned : insert id lock.ownerIds ≠ ∅ := Finset.insert_ne_empty id lock.ownerIds
  refine { sound with
    known := ?_, unlocked := ?_, write := ?_, read := ?_, queued := fun free => absurd free owned,
    holders := fun other holds => Finset.mem_insert_of_mem (sound.holders other holds) }
  · intro other member
    rcases Finset.mem_insert.mp member with rfl | owner
    · exact known
    · exact sound.known other owner
  · cases requested : (lock.clients id).target <;> simp [Target.lockState, owned]
  · intro write
    have requested : (lock.clients id).target = .write := by
      cases requested : (lock.clients id).target <;> simp_all [Target.lockState]
    have free : lock.ownerIds = ∅ := by
      rcases admits with unlocked | ⟨_, reads⟩
      · exact sound.unlocked.mp unlocked
      · exact absurd (requested.symm.trans reads) nofun
    exact ⟨id, by simp [free], requested⟩
  · intro read other member
    have requested : (lock.clients id).target = .read := by
      cases requested : (lock.clients id).target <;> simp_all [Target.lockState]
    rcases Finset.mem_insert.mp member with rfl | owner
    · exact requested
    · rcases admits with unlocked | ⟨reading, _⟩
      · simp [sound.unlocked.mp unlocked] at owner
      · exact sound.read reading other owner

/-- One client more that waits for an owner of the lock. -/
theorem Sound.enqueue (sound : Sound lock) (locked : lock.state ≠ .unlocked)
    {queueRead queueWrite : List Nat}
    (readers : ∀ id ∈ queueRead, id < lock.nextId ∧ (lock.clients id).target = .read)
    (writers : ∀ id ∈ queueWrite, id < lock.nextId ∧ (lock.clients id).target = .write)
    : Sound { lock with queueRead, queueWrite } :=
  { sound with
    queued := fun free => absurd (sound.unlocked.mpr free) locked
    readers, writers }

/-- What a new client does: it takes the lock, or it waits in one of the queues. -/
inductive Acquired (lock : State) (target : Target) : State → Prop where
  | takes (admits : lock.state = .unlocked ∨ lock.state = .read ∧ target = .read)
    : Acquired lock target
        ({ lock.begin target with
          state := target.lockState
          ownerIds := insert lock.nextId lock.ownerIds }.setPlace lock.nextId .inside)
  | reads (locked : lock.state ≠ .unlocked) (requested : target = .read)
    : Acquired lock target
        { lock.begin target with queueRead := lock.queueRead ++ [lock.nextId] }
  | writes (locked : lock.state ≠ .unlocked) (requested : target = .write)
    : Acquired lock target
        { lock.begin target with queueWrite := lock.queueWrite ++ [lock.nextId] }

theorem acquired_acquire (lock : State) (target : Target)
    : Acquired lock target (lock.acquire target) := by
  have takes (admits : lock.state = .unlocked ∨ lock.state = .read ∧ target = .read)
      : Acquired lock target
          { lock with
            nextId := lock.nextId + 1
            state := target.lockState
            ownerIds := insert lock.nextId lock.ownerIds
            clients :=
              Function.update lock.clients lock.nextId { target, place := .inside } } := by
    simpa [State.begin, State.setPlace, Function.update_idem] using Acquired.takes admits
  unfold State.acquire
  split
  · rename_i unlocked
    exact takes (.inl unlocked)
  · rename_i read
    exact takes (.inr ⟨read, rfl⟩)
  · rename_i write
    exact .reads (by simp [write]) rfl
  · rename_i read
    exact .writes (by simp [read]) rfl
  · rename_i write
    exact .writes (by simp [write]) rfl

/-- A new client leaves the critical section as it takes it. -/
theorem critical_acquire (lock : State) (target : Target)
    : (lock.acquire target).critical = lock.critical := by
  unfold State.acquire
  split <;> rfl

theorem Sound.acquire (sound : Sound lock) {target : Target} {acquired : State}
    (acquires : Acquired lock target acquired)
    : Sound acquired := by
  have begun := sound.begin target
  have new : (lock.begin target).clients lock.nextId = { target, place := .waiting false false } :=
    clients_begin_new lock target
  have known : lock.nextId < (lock.begin target).nextId := Nat.lt_succ_self _
  cases acquires with
  | takes admits =>
      have owned := begun.own known (by rw [new]; exact admits)
      rw [new] at owned
      exact owned.setPlace (by simp [new]) (fun _ => Finset.mem_insert_self ..)
  | reads locked requested =>
      refine begun.enqueue locked ?_ begun.writers
      refine List.forall_mem_append.mpr ⟨begun.readers, ?_⟩
      exact List.forall_mem_singleton.mpr ⟨known, by rw [new]; exact requested⟩
  | writes locked requested =>
      refine begun.enqueue locked begun.readers ?_
      refine List.forall_mem_append.mpr ⟨begun.writers, ?_⟩
      exact List.forall_mem_singleton.mpr ⟨known, by rw [new]; exact requested⟩

-----------------------------------------------------------------------------------------
-- Owners that leave
-----------------------------------------------------------------------------------------

/-- A lock that nobody has can be granted to one writer, or to any readers, that asked for it. -/
theorem Sound.grant (sound : Sound lock) (alone : ∀ id, ¬lock.Holds id) {ids : List Nat}
    {target : Target} (some : ids ≠ [])
    (requested : ∀ id ∈ ids, id < lock.nextId ∧ (lock.clients id).target = target)
    (single : target = .write → ∃ id, ids = [id]) {queueRead queueWrite : List Nat}
    (readers : ∀ id ∈ queueRead, id ∈ lock.queueRead)
    (writers : ∀ id ∈ queueWrite, id ∈ lock.queueWrite)
    : Sound
        { lock with
          queueRead
          queueWrite
          state := target.lockState
          ownerIds := ids.toFinset
          scheduled := lock.scheduled ++ ids } where
  fresh := fun id later => by
    obtain ⟨absent, unscheduled⟩ := sound.fresh id later
    refine ⟨absent, fun member => ?_⟩
    rcases List.mem_append.mp member with scheduled | granted
    · exact unscheduled scheduled
    · exact absurd (requested id granted).1 (Nat.not_lt.mpr later)
  known := fun id owner => (requested id (List.mem_toFinset.mp owner)).1
  unlocked := by
    refine iff_of_false ?_ (by simpa using some)
    cases target <;> simp [Target.lockState]
  write := fun write => by
    cases target with
    | read => contradiction
    | write =>
        obtain ⟨id, rfl⟩ := single rfl
        exact ⟨id, rfl, (requested id List.mem_cons_self).2⟩
  read := fun read id owner => by
    cases target with
    | read => exact (requested id (List.mem_toFinset.mp owner)).2
    | write => contradiction
  queued := fun free => absurd free (by simpa using some)
  readers := fun id member => sound.readers id (readers id member)
  writers := fun id member => sound.writers id (writers id member)
  holders := fun id holds => by
    have scheduled : lock.Holds id ∨ id ∈ ids := holds_of_append holds rfl rfl
    exact List.mem_toFinset.mpr (scheduled.resolve_left (alone id))

/-- Where nobody has the lock, it can be handed over. -/
theorem Sound.handedOver (sound : Sound lock) {freed : State}
    (alone : ∀ id, ¬lock.Holds id) (handed : HandedOver { lock with ownerIds := ∅ } freed)
    : Sound freed := by
  cases handed with
  | @writer next rest queued =>
      have requested := sound.writers next (queued ▸ List.mem_cons_self)
      exact sound.grant alone (List.cons_ne_nil next [])
        (List.forall_mem_singleton.mpr requested) (fun _ => ⟨next, rfl⟩) (fun _ => id)
        (fun _ member => queued ▸ List.mem_cons_of_mem next member)
  | readers noWriter queued =>
      exact sound.grant alone queued sound.readers nofun nofun (fun _ => id)
  | nobody noWriter noReader =>
      exact { sound with
        known := by simp
        unlocked := by simp
        write := by simp
        read := by simp
        queued := fun _ => ⟨noReader, noWriter⟩
        holders := fun id holds => absurd holds (alone id) }

/-- A client that has gone can give its ownership back. -/
theorem Sound.released (sound : Sound lock) {id : Nat} {freed : State}
    (gone : (lock.clients id).place = .gone) (released : Released lock id freed)
    : Sound freed := by
  have kept (other : Nat) (holds : lock.Holds other) : other ∈ lock.ownerIds.erase id := by
    have different : other ≠ id := fun same => not_holds_gone gone (same ▸ holds)
    exact Finset.mem_erase.mpr ⟨different, sound.holders other holds⟩
  cases released with
  | shared others =>
      have owned : lock.ownerIds ≠ ∅ := fun none => others (by simp [none])
      refine { sound with
        known := fun other owner => sound.known other (Finset.mem_of_mem_erase owner)
        unlocked := iff_of_false (mt sound.unlocked.mp owned) others
        write := fun write => ?_
        read := fun read other owner => sound.read read other (Finset.mem_of_mem_erase owner)
        queued := fun none => absurd none others
        holders := kept }
      obtain ⟨only, owners, requested⟩ := sound.write write
      refine ⟨only, ?_, requested⟩
      rw [owners] at others ⊢
      rw [Finset.erase_eq_of_notMem]
      rintro own
      rw [Finset.mem_singleton.mp own] at others
      simp at others
  | last none handed =>
      exact sound.handedOver (fun other holds => by simpa [none] using kept other holds) handed

/-- A client that leaves: it is gone before its `release()`. -/
theorem Sound.leave (sound : Sound lock) {id : Nat} (idle : lock.critical = [])
    (began : (lock.clients id).place ≠ .absent)
    : Sound ((lock.setPlace id .gone).release id).settle := by
  have gone : ((lock.setPlace id .gone).clients id).place = .gone := by simp
  have idle : (lock.setPlace id .gone).critical = [] := idle
  have left : Sound (lock.setPlace id .gone) :=
    sound.setPlace began (fun holds => absurd holds (not_holds_gone gone))
  exact left.released gone (released_settle idle id)

-----------------------------------------------------------------------------------------
-- Runs
-----------------------------------------------------------------------------------------

/-- One step keeps the settled lock sound. -/
theorem Sound.step (sound : Sound lock.settle) (stepped : RWLock.step lock event = some next)
    : Sound next.settle := by
  cases move_of_step stepped with
  | acquires idle =>
      rw [settle_of_idle idle] at sound
      rw [settle_of_idle ((critical_acquire lock _).trans idle)]
      exact sound.acquire (acquired_acquire lock _)
  | works first => exact (settle_exec first).symm ▸ sound
  | resolves scheduled =>
      rw [settle_setResult scheduled]
      exact sound.setResult (mem_scheduled_settle scheduled)
  | @asks id resolved mustCancel here =>
      rw [settle_setPlace]
      refine sound.setPlace (by simp [here]) (fun holds => sound.holders id ?_)
      exact (holds_ask (by rw [clients_settle]; exact here)).mp holds
  | @enters id here =>
      rw [settle_setPlace]
      refine sound.setPlace (by simp [here]) (fun _ => sound.holders id ?_)
      have before : (lock.settle.clients id).place = .waiting true false := by simp [here]
      exact (holds_iff_of_waiting before).mpr (.inl rfl)
  | givesUp here idle =>
      rw [settle_of_idle idle] at sound
      exact sound.leave idle (by simp [here])
  | exits here idle =>
      rw [settle_of_idle idle] at sound
      exact sound.leave idle (by simp [here])

/-- The invariant of every run, by induction on the events. -/
theorem run_sound {events : List Event} {final : State}
    (reached : Transition.run step .initial events = some final)
    : Sound final.settle :=
  Transition.run_preserves (P := fun lock => Sound lock.settle)
    (fun _ _ _ sound stepped => Sound.step sound stepped) sound_initial reached

/-- A client that is inside has the lock that a `release()` in progress leaves. -/
theorem inside_settle {id : Nat} (inside : lock.Inside id) : lock.settle.Holds id :=
  .inl (by simpa [State.Inside] using inside)

/-- `_state` is what the owners make it, outside the critical sections, and at no moment a writer is
inside together with another client.
-/
theorem excludes {events : List Event} {final : State}
    (reached : Transition.run step .initial events = some final)
    : (final.critical = []
        → (final.state = .unlocked ↔ final.ownerIds = ∅)
          ∧ (final.state = .write
            → ∃ id, final.ownerIds = {id} ∧ (final.clients id).target = .write)
          ∧ (final.state = .read → ∀ id ∈ final.ownerIds, (final.clients id).target = .read))
      ∧ ∀ writer other,
          final.Inside writer
          → (final.clients writer).target = .write
          → final.Inside other
          → other = writer := by
  have sound := run_sound reached
  constructor
  · intro idle
    rw [settle_of_idle idle] at sound
    exact ⟨sound.unlocked, sound.write, sound.read⟩
  · intro writer other inside writes too
    have owner := sound.holders writer (inside_settle inside)
    have ownerToo := sound.holders other (inside_settle too)
    have requested : (final.settle.clients writer).target = .write := by simpa using writes
    cases here : final.settle.state with
    | unlocked => simp [sound.unlocked.mp here] at owner
    | read => exact absurd ((sound.read here writer owner).symm.trans requested) nofun
    | write =>
        obtain ⟨only, owners, -⟩ := sound.write here
        rw [owners] at owner ownerToo
        exact (Finset.mem_singleton.mp ownerToo).trans (Finset.mem_singleton.mp owner).symm

/-- A writer that the last of two readers hands the lock over to, once its `set_result` has run
while the `release()` is still in progress.
-/
theorem excludes_handOver
    : ∃ final : State,
        Transition.run step .initial
            [.acquire .read, .acquire .read, .acquire .write, .exit 0, .exit 1, .works,
              .setResult 2, .resume 2]
          = some final
        ∧ final.critical = [.setState .write, .add 2]
        ∧ final.Inside 2
        ∧ ∀ other, final.Inside other → other = 2 := by
  have reached : Transition.run step .initial
      [.acquire .read, .acquire .read, .acquire .write, .exit 0, .exit 1, .works, .setResult 2,
        .resume 2] = some _ := rfl
  exact ⟨_, reached, rfl, rfl, fun other => (excludes reached).2 2 other rfl rfl⟩

end Aiodrive.RWLock
