import Aiodrive.SmartLock.Refinement

/-! What the lock promises its waiters, and the runs that keep it. Each `_update()` grants one
waiter at most and may find an owner again, so the promises hold while no two clients share the
lock.
-/

namespace Aiodrive.SmartLock

open GrantTable (Compatible Once Served Clear)

variable {lock next : State} {event : Event}

-----------------------------------------------------------------------------------------
-- Owners exclude each other
-----------------------------------------------------------------------------------------

/-- The ids in the table were given out, and the owners are compatible, in the middle of an
`_update()` as well as after it.
-/
structure Sound (lock : State) : Prop where
  fresh : ∀ entry ∈ lock.table.waiters.entries, entry.1 < lock.nextWaiterId
  known : ∀ id ∈ lock.table.granted, id < lock.nextWaiterId
  compatible : Compatible conflict lock.table
  held : ∀ entry ∈ lock.held.entries, entry ∈ lock.table.owners.entries

theorem sound_initial : Sound .initial where
  fresh := by simp [State.initial, State.table, Dict.empty]
  known := by simp [State.initial, State.table]
  compatible := by
    constructor <;> simp [State.initial, State.table, State.held, Dict.map, Dict.empty]
  held := by simp [State.initial, State.held, Dict.map, Dict.empty]

/-- The next id is not in the table. -/
theorem Sound.fresh_key (sound : Sound lock)
    : ∀ entry ∈ lock.table.waiters.entries, entry.1 ≠ lock.nextWaiterId :=
  fun entry waits => Nat.ne_of_lt (sound.fresh entry waits)

/-- A grant in a table of known ids. -/
theorem sound_of_grant {table : GrantTable Nat Waiter} (compatible : Compatible conflict table)
    (fresh : ∀ entry ∈ table.waiters.entries, entry.1 < next.nextWaiterId)
    (known : ∀ id ∈ table.granted, id < next.nextWaiterId)
    (granted : next.table = table.grant conflict) (held : next.held = table.owners)
    : Sound next where
  fresh := by simpa [granted] using fresh
  known := fun id member => by
    rw [granted] at member
    rcases GrantTable.mem_granted_grant member with before | ⟨entry, waits, rfl⟩
    · exact known id before
    · exact fresh entry waits
  compatible := granted ▸ compatible.grant conflict_symmetric
  held := fun entry owns => by
    rw [granted]
    exact compatible.owns_grant (held ▸ owns)

/-- One step keeps the invariant, by cases on what it is to the table. -/
theorem Sound.step (sound : Sound lock) (refines : Refines lock next event) : Sound next := by
  cases refines with
  | @enters mode weak loop idle table held id =>
      refine sound_of_grant (sound.compatible.enter sound.fresh_key { mode, weak }) ?_ ?_ table held
      · intro entry here
        rw [id]
        rcases Dict.mem_set.mp here with rfl | ⟨waits, -⟩
        · exact Nat.lt_succ_self _
        · exact Nat.lt_succ_of_lt (sound.fresh entry waits)
      · exact fun key granted => id ▸ Nat.lt_succ_of_lt (sound.known key granted)
  | @leaves id idle table held same =>
      refine sound_of_grant (sound.compatible.leave id) ?_ ?_ table held
      · exact fun entry here => same ▸ sound.fresh entry (Dict.mem_pop.mp here).1
      · exact fun key granted => same ▸ sound.known key granted
  | stays table held same quiet =>
      have kept : ∀ entry ∈ next.held.entries, entry ∈ next.table.owners.entries := by
        rcases held with before | stored
        · rw [before, table]
          exact sound.held
        · exact stored ▸ fun _ => id
      refine ⟨?_, ?_, table ▸ sound.compatible, kept⟩
      · rw [table, same]
        exact sound.fresh
      · rw [table, same]
        exact sound.known

/-- The invariant of every run, by induction on the events. -/
theorem run_sound {events : List Event} {final : State}
    (reached : Transition.run step .initial events = some final)
    : Sound final :=
  Transition.run_preserves (fun _ _ _ sound stepped => Sound.step sound (refines_of_step stepped))
    sound_initial reached

/-- The waiter of an owner, among the held. -/
theorem mem_held {entry : Nat × Owner} (owns : entry ∈ lock.owners.entries)
    : (entry.1, entry.2.waiter) ∈ lock.held.entries :=
  Dict.mem_map.mpr ⟨entry.2, owns, rfl⟩

/-- An exclusive owner is alone. -/
theorem Sound.alone (sound : Sound lock)
    : ∀ owner ∈ lock.owners.entries,
        owner.2.waiter.mode = .exclusive
        → ∀ other ∈ lock.owners.entries, other.1 = owner.1 := by
  intro owner owns exclusive other too
  by_contra different
  have compatible := sound.compatible.apart _ (sound.held _ (mem_held owns)) _
    (sound.held _ (mem_held too)) different
  simp [conflict, exclusive] at compatible

/-- At no moment of any run, shared or not, is an exclusive owner together with another. -/
theorem exclusive_alone {events : List Event} {final : State}
    (reached : Transition.run step .initial events = some final)
    : ∀ owner ∈ final.owners.entries,
        owner.2.waiter.mode = .exclusive
        → ∀ other ∈ final.owners.entries, other.1 = owner.1 :=
  (run_sound reached).alone

/-- An exclusive client that has the lock while a shared one waits. -/
theorem exclusive_alone_before_shared
    : ∃ final : State,
        Transition.run step .initial
            [.use .exclusive false 0, .stores, .use .shared false 1, .setResult 0, .resume 0]
          = some final
        ∧ final.owners.entries.length = 1
        ∧ ∀ owner ∈ final.owners.entries,
            owner.2.waiter.mode = .exclusive
            → ∀ other ∈ final.owners.entries, other.1 = owner.1 := by
  have reached : Transition.run step .initial
      [.use .exclusive false 0, .stores, .use .shared false 1, .setResult 0, .resume 0]
        = some _ := rfl
  exact ⟨_, reached, rfl, exclusive_alone reached⟩

-----------------------------------------------------------------------------------------
-- The steps after which nothing is left to grant
-----------------------------------------------------------------------------------------

/-- Of those that wait for a lock without owners, the first one excludes the others. -/
def FirstExcludes : List (Nat × Waiter) → Prop
  | [] => True
  | first :: rest => first.2.mode = .exclusive ∨ ∀ other ∈ rest, other.2.mode = .exclusive

instance : DecidablePred FirstExcludes
  | [] => isTrue trivial
  | first :: rest =>
      inferInstanceAs
        (Decidable (first.2.mode = .exclusive ∨ ∀ other ∈ rest, other.2.mode = .exclusive))

/-- What keeps clients from sharing the lock: no `use()` starts while a shared owner is there. No
client leaves another shared owner behind, or leaves a lock without owners to two waiters that
could share it, one of them the first.
-/
def State.Unshared (lock : State) : Event → Prop
  | .use _ _ _ => ∀ owner ∈ lock.owners.entries, owner.2.waiter.mode = .exclusive
  | .leave id =>
      (∀ owner ∈ (lock.owners.pop id).entries, owner.2.waiter.mode = .exclusive)
      ∧ ((lock.owners.pop id).entries = [] → FirstExcludes (lock.waiters.pop id).entries)
  | .stores | .setResult _ | .cancel _ | .resume _ | .exits _ => True

instance (lock : State) : DecidablePred lock.Unshared
  | .use _ _ _ => inferInstanceAs (Decidable (∀ owner ∈ lock.owners.entries, _))
  | .leave _ => inferInstanceAs (Decidable (_ ∧ _))
  | .stores | .setResult _ | .cancel _ | .resume _ | .exits _ => isTrue trivial

/-- An owner is blocked by the owners exactly when it is exclusive. -/
theorem not_free_owner_iff {table : GrantTable Nat Waiter} (compatible : Compatible conflict table)
    {owner : Nat × Waiter} (owns : owner ∈ table.owners.entries)
    : ¬table.Free conflict owner.2 ↔ owner.2.mode = .exclusive := by
  constructor
  · intro blocked
    by_contra shared
    refine blocked (fun other too => ?_)
    by_cases same : other.1 = owner.1
    · have value : other.2 = owner.2 :=
        Dict.value_unique (by rw [← same]; exact too) owns
      simp [value, conflict, shared]
    · exact compatible.apart owner owns other too same
  · intro exclusive free
    have unblocked := free owner owns
    simp [conflict, exclusive] at unblocked

/-- An exit that leaves owners is granted well where they are exclusive. -/
theorem clear_leave_of_owner {table : GrantTable Nat Waiter}
    (compatible : Compatible conflict table) (served : Served conflict table) {id : Nat}
    (owned : (table.leave id).owners.entries ≠ [])
    : Clear conflict (table.leave id)
      ↔ ∀ owner ∈ (table.leave id).owners.entries, owner.2.mode = .exclusive := by
  have left := compatible.leave id
  constructor
  · intro clear owner owns
    rw [← not_free_owner_iff left owns]
    intro free
    cases found : (table.leave id).next? conflict with
    | none => exact GrantTable.next?_eq_none_iff.mp found owner (left.held owner owns) free
    | some entry =>
        obtain ⟨waits, freeEntry⟩ := GrantTable.free_of_next? found
        obtain ⟨waited, different⟩ := Dict.mem_pop.mp waits
        have unowned : entry ∉ table.owners.entries :=
          fun owns => (clear entry found).1 (Dict.mem_pop.mpr ⟨owns, different⟩)
        have blocked := (served entry waited).resolve_left unowned
        -- What blocked the entry is compatible with the owner that is left, which does not
        refine blocked (fun other too => ?_)
        by_cases same : other.1 = owner.1
        · have value : other.2 = owner.2 :=
            Dict.value_unique (by rw [← same]; exact too) (Dict.mem_pop.mp owns).1
          exact value ▸ freeEntry owner owns
        · have apart := compatible.apart owner (Dict.mem_pop.mp owns).1 other too same
          have unblocked := freeEntry owner owns
          simp only [conflict, Bool.or_eq_false_iff] at apart unblocked ⊢
          exact ⟨unblocked.1, apart.2⟩
  · intro exclusive
    obtain ⟨owner, owns⟩ := List.exists_mem_of_ne_nil _ owned
    have none : (table.leave id).next? conflict = none := by
      refine GrantTable.next?_eq_none_iff.mpr (fun entry _ free => ?_)
      have unblocked := free owner owns
      simp [conflict, exclusive owner owns] at unblocked
    intro entry found
    simp [none] at found

/-- An exit that leaves no owner is granted well where the first waiter excludes the others. -/
theorem clear_leave_of_no_owner {table : GrantTable Nat Waiter} {id : Nat}
    (none : (table.leave id).owners.entries = [])
    : Clear conflict (table.leave id) ↔ FirstExcludes (table.leave id).waiters.entries := by
  have nodup : (table.leave id).waiters.entries.Nodup := (table.leave id).waiters.nodup.of_map
  have free : ∀ waiter, (table.leave id).Free conflict waiter := by simp [GrantTable.Free, none]
  unfold Clear
  rw [GrantTable.next?_of_no_owners none]
  cases waiting : (table.leave id).waiters.entries with
  | nil => simp [FirstExcludes]
  | cons first rest =>
      rw [waiting] at nodup
      have apart : ∀ other ∈ rest, other ≠ first :=
        fun other inRest same => (List.nodup_cons.mp nodup).1 (same ▸ inRest)
      simp only [List.head?_cons, Option.some.injEq, forall_eq', none, List.not_mem_nil,
        not_false_eq_true, true_and, false_or, free, not_true_eq_false, conflict_iff,
        List.forall_mem_cons, true_or, FirstExcludes]
      constructor
      · intro excludes
        by_cases exclusive : first.2.mode = .exclusive
        · exact .inl exclusive
        · refine .inr (fun other inRest => ?_)
          exact ((excludes other inRest).resolve_left (apart other inRest)).resolve_right exclusive
      · rintro (exclusive | others) other inRest
        · exact .inr (.inr exclusive)
        · exact .inr (.inl (others other inRest))

-----------------------------------------------------------------------------------------
-- Runs that keep the promises
-----------------------------------------------------------------------------------------

/-- What the lock promises: `set_result` is scheduled once for a waiter at most; an exclusive owner
is alone; and outside `_update()` each waiter that is not an owner is blocked by one.
-/
def State.Serves (lock : State) : Prop :=
  (∀ id, lock.granted.count id ≤ 1)
  ∧ (∀ owner ∈ lock.owners.entries,
      owner.2.waiter.mode = .exclusive → ∀ other ∈ lock.owners.entries, other.1 = owner.1)
  ∧ (lock.updating = none
      → ∀ entry ∈ lock.waiters.entries,
          entry.1 ∉ lock.owners.entries.map Prod.fst
          → ∃ owner ∈ lock.owners.entries, isBlocking entry.2 owner.2 = true)

/-- The invariant of the runs in which no two clients share the lock. -/
structure Serving (lock : State) : Prop extends Sound lock where
  once : Once lock.table
  served : Served conflict lock.table

theorem serving_initial : Serving .initial where
  toSound := sound_initial
  once := by constructor <;> simp [State.initial, State.table, Dict.empty]
  served := by simp [Served, State.initial, State.table, Dict.empty]

/-- The lock outside `_update()`, in the words of the table. -/
theorem mem_owners_table (idle : lock.updating = none) {entry : Nat × Waiter}
    : entry ∈ lock.table.owners.entries
      ↔ ∃ owner, (entry.1, owner) ∈ lock.owners.entries ∧ owner.waiter = entry.2 := by
  simp only [State.table, idle, State.held, Dict.mem_map]

theorem not_free_iff (idle : lock.updating = none) {waiter : Waiter}
    : ¬lock.table.Free conflict waiter
      ↔ ∃ owner ∈ lock.owners.entries, isBlocking waiter owner.2 = true := by
  simp [GrantTable.Free, State.table, idle, State.held, isBlocking_eq]

/-- All owners are exclusive, in the words of the table. -/
theorem forall_owners_iff {owners : Dict Nat Owner}
    : (∀ entry ∈ (owners.map (fun _ owner => owner.waiter)).entries, entry.2.mode = .exclusive)
      ↔ ∀ owner ∈ owners.entries, owner.2.waiter.mode = .exclusive := by
  simp

/-- The entry of a `use()` is granted well exactly where no owner is shared. -/
theorem Serving.clear_enter_iff (serving : Serving lock) (idle : lock.updating = none)
    (mode : Mode) (weak : Bool) (loop : Nat)
    : Clear conflict (lock.table.enter lock.nextWaiterId { mode, weak })
      ↔ lock.Unshared (.use mode weak loop) := by
  have owners : lock.table.owners = lock.held := by simp only [State.table, idle]
  rw [GrantTable.clear_enter_iff serving.compatible serving.served serving.fresh_key]
  calc
    (∀ owner ∈ lock.table.owners.entries, ¬lock.table.Free conflict owner.2)
      ↔ ∀ owner ∈ lock.held.entries, owner.2.mode = .exclusive := by
        rw [← owners]
        exact forall₂_congr (fun owner owns => not_free_owner_iff serving.compatible owns)
    _ ↔ lock.Unshared (.use mode weak loop) := forall_owners_iff

/-- The exit of a client is granted well exactly where it leaves nothing to share. -/
theorem Serving.clear_leave_iff (serving : Serving lock) (idle : lock.updating = none) (id : Nat)
    : Clear conflict (lock.table.leave id) ↔ lock.Unshared (.leave id) := by
  have owners : (lock.table.leave id).owners
      = (lock.owners.pop id).map (fun _ owner => owner.waiter) := by
    simp only [GrantTable.leave, State.table, idle, State.held, Dict.map_pop]
  have none_iff : (lock.table.leave id).owners.entries = []
      ↔ (lock.owners.pop id).entries = [] := by
    rw [owners]
    exact List.map_eq_nil_iff
  have exclusive_iff : (∀ owner ∈ (lock.table.leave id).owners.entries, owner.2.mode = .exclusive)
      ↔ ∀ owner ∈ (lock.owners.pop id).entries, owner.2.waiter.mode = .exclusive := by
    rw [owners]
    exact forall_owners_iff
  by_cases none : (lock.table.leave id).owners.entries = []
  · have left := none_iff.mp none
    rw [clear_leave_of_no_owner none]
    simp only [State.Unshared, left, List.not_mem_nil, false_implies, implies_true, true_and,
      true_implies]
    rfl
  · rw [clear_leave_of_owner serving.compatible serving.served none, exclusive_iff]
    exact (and_iff_left (fun left => absurd (none_iff.mpr left) none)).symm

/-- A grant of a clear table. -/
theorem serving_of_grant {table : GrantTable Nat Waiter} (sound : Sound next)
    (compatible : Compatible conflict table) (once : Once table) (clear : Clear conflict table)
    (granted : next.table = table.grant conflict)
    : Serving next where
  toSound := sound
  once := granted ▸ once.grant compatible clear
  served := granted ▸ clear.served_grant compatible

/-- The table of an entry keeps its record of grants, as the id is new. -/
theorem Serving.once_enter (serving : Serving lock) (waiter : Waiter)
    : Once (lock.table.enter lock.nextWaiterId waiter) :=
  serving.once.enter serving.compatible serving.fresh_key
    (fun granted => Nat.lt_irrefl _ (serving.known _ granted)) waiter

/-- One step without sharing keeps the invariant. -/
theorem Serving.step (serving : Serving lock) (unshared : lock.Unshared event)
    (stepped : SmartLock.step lock event = some next)
    : Serving next := by
  have refines := refines_of_step stepped
  have sound := serving.toSound.step refines
  cases refines with
  | @enters mode weak loop idle table =>
      have clear := (serving.clear_enter_iff idle mode weak loop).mpr unshared
      exact serving_of_grant sound (serving.compatible.enter serving.fresh_key _)
        (serving.once_enter _) clear table
  | @leaves id idle table =>
      have clear := (serving.clear_leave_iff idle id).mpr unshared
      exact serving_of_grant sound (serving.compatible.leave id) (serving.once.leave id) clear table
  | stays table => exact ⟨sound, table ▸ serving.once, table ▸ serving.served⟩

/-- Outside `_update()`, the third promise is that of the table. -/
theorem Sound.served_iff (sound : Sound lock) (idle : lock.updating = none)
    : Served conflict lock.table
      ↔ ∀ entry ∈ lock.waiters.entries,
          entry.1 ∉ lock.owners.entries.map Prod.fst
          → ∃ owner ∈ lock.owners.entries, isBlocking entry.2 owner.2 = true := by
  refine forall₂_congr (fun entry waits => ?_)
  rw [← not_free_iff idle, or_iff_not_imp_left]
  refine imp_congr_left (not_congr ?_)
  rw [mem_owners_table idle, List.mem_map]
  constructor
  · rintro ⟨owner, owns, -⟩
    exact ⟨(entry.1, owner), owns, rfl⟩
  · rintro ⟨⟨key, owner⟩, owns, rfl⟩
    have owned : (entry.1, owner.waiter) ∈ lock.table.owners.entries :=
      sound.held _ (mem_held owns)
    exact ⟨owner, owns, Dict.value_unique (sound.compatible.held _ owned) waits⟩

/-- The promises of a lock outside `_update()`, in the words of the table. -/
theorem Sound.serves_iff (sound : Sound lock) (idle : lock.updating = none)
    : lock.Serves ↔ lock.table.granted.Nodup ∧ Served conflict lock.table := by
  rw [sound.served_iff idle, List.nodup_iff_count_le_one]
  constructor
  · exact fun serves => ⟨serves.1, serves.2.2 idle⟩
  · exact fun serves => ⟨serves.1, sound.alone, fun _ => serves.2⟩

/-- In a run in which no step lets clients share the lock, every state reached keeps the promises.
-/
theorem serves_of_unshared {events : List Event} {final : State}
    (reached : Transition.run step .initial events = some final)
    (unshared : Transition.Meets step State.Unshared .initial events)
    : final.Serves := by
  have serving : Serving final :=
    Transition.run_preserves_of_meets (fun _ _ _ serving met stepped => serving.step met stepped)
      serving_initial unshared reached
  refine ⟨List.nodup_iff_count_le_one.mp serving.once.nodup, serving.toSound.alone, ?_⟩
  exact fun idle => (serving.toSound.served_iff idle).mp serving.served

/-- An exclusive client that leaves the lock to a shared one. -/
theorem serves_exclusive
    : ∃ final : State,
        Transition.run step .initial
            [.use .exclusive false 0, .stores, .use .shared false 1, .setResult 0, .resume 0,
              .exits 0, .leave 0, .stores]
          = some final
        ∧ final.granted = [0, 1]
        ∧ final.Serves := by
  have reached : Transition.run step .initial
      [.use .exclusive false 0, .stores, .use .shared false 1, .setResult 0, .resume 0, .exits 0,
        .leave 0, .stores] = some _ := rfl
  exact ⟨_, reached, rfl, serves_of_unshared reached (by decide)⟩

/-- Two clients that share the lock: the second entry grants the first client again, and leaves the
second one waiting.
-/
theorem not_serves_shared
    : ¬∀ (events : List Event) (final : State),
        (∀ mode weak loop, .use mode weak loop ∈ events → weak = false)
        → Transition.run step .initial events = some final
        → final.Serves := by
  intro serves
  have reached : Transition.run step .initial
      [.use .shared false 0, .stores, .use .shared false 1, .stores] = some _ := rfl
  obtain ⟨once, -, -⟩ := serves _ _ (by simp) reached
  exact absurd (once 0) (by decide)

-----------------------------------------------------------------------------------------
-- No other runs keep the promises
-----------------------------------------------------------------------------------------

/-- The lock once the `_update()` in progress is done. -/
def State.settle (lock : State) : State :=
  match lock.updating with
  | none => lock
  | some update => lock.store update

/-- The table foresees the end of an `_update()`. -/
theorem settle_spec (sound : Sound lock)
    : Sound lock.settle ∧ lock.settle.updating = none ∧ lock.settle.table = lock.table := by
  unfold State.settle
  cases updating : lock.updating with
  | none => exact ⟨sound, updating, rfl⟩
  | some update =>
      have stored : step lock .stores = some (lock.store update) := by simp [step, updating]
      exact ⟨sound.step (refines_of_step stored), rfl, table_store updating⟩

/-- The promises of the lock that an `_update()` in progress leaves. -/
theorem Sound.serves_settle_iff (sound : Sound lock)
    : lock.settle.Serves ↔ lock.table.granted.Nodup ∧ Served conflict lock.table := by
  obtain ⟨settled, idle, table⟩ := settle_spec sound
  rw [settled.serves_iff idle, table]

/-- A step that lets clients share the lock breaks a promise. -/
theorem Serving.not_serves (serving : Serving lock) (shares : ¬lock.Unshared event)
    (stepped : SmartLock.step lock event = some next)
    : ¬next.settle.Serves := by
  have refines := refines_of_step stepped
  rw [(serving.toSound.step refines).serves_settle_iff]
  rintro ⟨first, served⟩
  refine shares ?_
  cases refines with
  | @enters mode weak loop idle table =>
      rw [table] at first served
      refine (serving.clear_enter_iff idle mode weak loop).mp ?_
      exact (serving.once_enter _).clear (serving.compatible.enter serving.fresh_key _) first served
  | @leaves id idle table =>
      rw [table] at first served
      refine (serving.clear_leave_iff idle id).mp ?_
      exact (serving.once.leave id).clear (serving.compatible.leave id) first served
  | stays _ _ _ quiet =>
      cases event with
      | use mode weak loop => exact absurd rfl (quiet.1 mode weak loop)
      | leave id => exact absurd rfl (quiet.2 id)
      | stores | setResult id | cancel id | resume id | exits id => trivial

/-- Every `_update()` of a run keeps the promises exactly when no step lets clients share the lock.
-/
theorem serves_iff_unshared {events : List Event} {final : State}
    (reached : Transition.run step .initial events = some final)
    : (∀ visited middle,
        visited.IsPrefix events
        → Transition.run step .initial visited = some middle
        → middle.settle.Serves)
      ↔ Transition.Meets step State.Unshared .initial events := by
  refine Transition.good_iff_meets ?_ ?_ ?_ serving_initial reached
  · intro lock serving
    exact serving.toSound.serves_settle_iff.mpr ⟨serving.once.nodup, serving.served⟩
  · exact fun lock event next serving unshared stepped => serving.step unshared stepped
  · exact fun lock event next serving shares stepped => serving.not_serves shares stepped

/-- Two clients that share the lock break the promises in some state. -/
theorem serves_iff_unshared_twoShared
    : (∀ visited middle,
        visited.IsPrefix [.use .shared false 0, .stores, .use .shared false 1, .stores]
        → Transition.run step .initial visited = some middle
        → middle.settle.Serves)
      ↔ Transition.Meets step State.Unshared .initial
          [.use .shared false 0, .stores, .use .shared false 1, .stores] := by
  have reached : Transition.run step .initial
      [.use .shared false 0, .stores, .use .shared false 1, .stores] = some _ := rfl
  exact serves_iff_unshared reached

end Aiodrive.SmartLock
