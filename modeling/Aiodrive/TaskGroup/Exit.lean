import Aiodrive.TaskGroup.Model

/-! What holds of a `TaskGroup` in every order of events, and what its `__aexit__` raises. -/

namespace Aiodrive.TaskGroup

variable {ε : Type*}

-----------------------------------------------------------------------------------------
-- Lists of tasks of which one changes
-----------------------------------------------------------------------------------------

/-- An entry that gains a value adds it to the values, by induction on the list. -/
theorem filterMap_set_perm {α β : Type*} {value : α → Option β} {before after : α} {result : β}
    {list : List α} {index : Nat} (here : list[index]? = some before) (none : value before = none)
    (gained : value after = some result)
    : ((list.set index after).filterMap value).Perm (list.filterMap value ++ [result]) := by
  induction list generalizing index with
  | nil => simp at here
  | cons head rest ih =>
      cases index with
      | zero =>
          obtain rfl := Option.some.inj here
          simpa [none, gained] using (List.perm_append_singleton result _).symm
      | succ index =>
          have tail := ih (by simpa using here)
          simp only [List.set_cons_succ, List.filterMap_cons]
          cases value head with
          | none => exact tail
          | some first => exact tail.cons first

/-- An entry that keeps its value keeps the values, by induction on the list. -/
theorem filterMap_set_eq {α β : Type*} {value : α → Option β} {before after : α}
    {list : List α} {index : Nat} (here : list[index]? = some before)
    (kept : value after = value before)
    : (list.set index after).filterMap value = list.filterMap value := by
  induction list generalizing index with
  | nil => rfl
  | cons head rest ih =>
      cases index with
      | zero =>
          obtain rfl := Option.some.inj here
          simp only [List.set_cons_zero, List.filterMap_cons, kept]
      | succ index => simp [List.filterMap_cons, ih (by simpa using here)]

-----------------------------------------------------------------------------------------
-- What holds of a group
-----------------------------------------------------------------------------------------

/-- What a group that is left raised: the failures of its tasks and of its body in one group; or
what its body did, where a body that returned may also leave with a `CancelledError` of
`__aexit__`.
-/
structure Law (errors : List ε) (ending : Ending ε) (exit : Exit ε) : Prop where
  fails
    : errors ++ ending.error?.toList ≠ [] → exit = .group (errors ++ ending.error?.toList)
  passes
    : errors ++ ending.error?.toList = []
      → exit = ending.exit ∨ ending = .returned ∧ exit = .cancelledError

/-- How `__aexit__` stands. -/
def Place.Exits (aborting holds : Bool) (errors : List ε) : Place ε → Prop
  | inside => True
  | exiting ending propagates waiter =>
      (ending = .cancelledError → propagates = true)
      ∧ (∀ error, ending = .raised error → propagates = false)
      ∧ (ending ≠ .returned → aborting = true)
      ∧ (waiter = .pending → holds = true)
      ∧ (ending ≠ .returned → waiter = .success () → holds = false)
  | left ending exit => holds = false ∧ Law errors ending exit

def Place.isLeft : Place ε → Bool
  | left _ _ => true
  | inside | exiting _ _ _ => false

/-- A task is held until it has ended and its end was noticed, when its failure is among the errors.
-/
structure Tasks (state : State ε) : Prop where
  ended : ∀ child ∈ state.children, child.held = false → child.state ≠ .pending
  asked
    : state.aborting = true
      → ∀ child ∈ state.children, child.state = .pending → child.asked = true
  failures : state.errors.Perm (state.children.filterMap Child.failure?)

/-- The first failure aborts the group, which asks every task that goes on to cancel, and asks the
parent once, a request that is taken back when the group is left.
-/
structure Sound (count : Nat) (state : State ε) : Prop extends Tasks state where
  aborts : state.errors ≠ [] → state.aborting = true
  requested : state.parentCancelRequested = true → state.errors ≠ []
  counted
    : state.parent.cancelling
      = count + (state.parentCancelRequested && !state.place.isLeft).toNat
  exits : state.place.Exits state.aborting state.holds state.errors

variable {count : Nat} {state : State ε}

theorem not_holds_iff : state.holds = false ↔ ∀ child ∈ state.children, child.held = false := by
  simp [State.holds]

@[simp] theorem cancel_held (child : Child ε) : child.cancel.held = child.held := by
  unfold Child.cancel
  split <;> rfl

@[simp] theorem cancel_state (child : Child ε) : child.cancel.state = child.state := by
  unfold Child.cancel
  split <;> rfl

@[simp] theorem cancel_failure? (child : Child ε) : child.cancel.failure? = child.failure? := by
  simp [Child.failure?]

theorem asked_cancel {child : Child ε} (pending : child.cancel.state = .pending)
    : child.cancel.asked = true := by
  rw [cancel_state] at pending
  simp [Child.cancel, pending, FutureState.done]

@[simp] theorem holds_abort (state : State ε) : state.abort.holds = state.holds := by
  simp [State.holds, State.abort, Function.comp_def]

@[simp] theorem isLeft_interrupt (place : Place ε) : place.interrupt.isLeft = place.isLeft := by
  cases place <;> rfl

@[simp] theorem isLeft_complete (place : Place ε) : place.complete.isLeft = place.isLeft := by
  unfold Place.complete
  split <;> rfl

theorem sound_initial (own : Bool) (parent : Task)
    : Sound parent.cancelling (State.initial own parent : State ε) where
  ended := by simp [State.initial]
  asked := by simp [State.initial]
  failures := .refl _
  aborts := by simp [State.initial]
  requested := by simp [State.initial]
  counted := rfl
  exits := trivial

theorem Tasks.abort (tasks : Tasks state) : Tasks state.abort where
  ended := by
    intro child inGroup
    obtain ⟨before, earlier, rfl⟩ := List.mem_map.mp inGroup
    simpa using tasks.ended before earlier
  asked := by
    intro _ child inGroup
    obtain ⟨before, -, rfl⟩ := List.mem_map.mp inGroup
    exact asked_cancel
  failures := by
    have same : Child.failure? ∘ Child.cancel = (Child.failure? : Child ε → Option ε) :=
      funext cancel_failure?
    simpa [State.abort, List.filterMap_map, same] using tasks.failures

/-- A group that is aborted, in its body or before `__aexit__` waits again. -/
theorem Sound.abort (sound : Sound count state)
    (exits : state.place.Exits true state.holds state.errors)
    : Sound count state.abort where
  toTasks := sound.toTasks.abort
  aborts _ := rfl
  requested := sound.requested
  counted := sound.counted
  exits := (holds_abort state).symm ▸ exits

-----------------------------------------------------------------------------------------
-- Requests
-----------------------------------------------------------------------------------------

theorem Place.Exits.interrupt {aborting holds : Bool} {errors : List ε} {place : Place ε}
    (exits : place.Exits aborting holds errors)
    : place.interrupt.Exits aborting holds errors := by
  cases place with
  | inside => exact trivial
  | left ending exit => exact exits
  | exiting ending propagates waiter =>
      obtain ⟨cancelled, raised, aborts, -, -⟩ := exits
      exact ⟨cancelled, raised, aborts, by simp, by simp⟩

theorem Sound.interrupt (sound : Sound count state) : Sound count state.interrupt where
  toTasks := ⟨sound.ended, sound.asked, sound.failures⟩
  aborts := sound.aborts
  requested := sound.requested
  counted := by simpa [State.interrupt] using sound.counted
  exits := sound.exits.interrupt

/-- A request of others on the parent. -/
theorem Sound.cancelParent (sound : Sound count state) : Sound (count + 1) state.cancelParent := by
  have asked : Sound (count + 1) { state with parent := state.parent.cancel none } :=
    { toTasks := ⟨sound.ended, sound.asked, sound.failures⟩
      aborts := sound.aborts
      requested := sound.requested
      counted := by
        simp only [Task.cancel_cancelling, sound.counted]
        exact Nat.add_right_comm _ _ _
      exits := sound.exits }
  unfold State.cancelParent
  split
  · exact asked.interrupt
  · exact asked

-----------------------------------------------------------------------------------------
-- Tasks
-----------------------------------------------------------------------------------------

/-- The end of a task that is held. -/
theorem Tasks.childEnds (tasks : Tasks state) {index : Nat} {child : Child ε}
    {result : FutureState ε Unit} (here : state.children[index]? = some child)
    (pending : child.state = .pending) (done : result.done = true)
    : Tasks { state with children := state.children.set index { child with state := result } } := by
  have known : result ≠ .pending := fun same => by simp [same, FutureState.done] at done
  have held : child.held = true := by
    by_contra discarded
    exact tasks.ended child (List.mem_of_getElem? here) (by simpa using discarded) pending
  constructor
  · intro other inGroup discarded
    rcases List.mem_or_eq_of_mem_set inGroup with kept | rfl
    · exact tasks.ended other kept discarded
    · exact known
  · intro aborting other inGroup running
    rcases List.mem_or_eq_of_mem_set inGroup with kept | rfl
    · exact tasks.asked aborting other kept running
    · exact absurd running known
  · rw [filterMap_set_eq here (by simp [Child.failure?, held])]
    exact tasks.failures

/-- The done callback of a task: its failure, if any, is now among the errors. -/
theorem Tasks.notice (tasks : Tasks state) {index : Nat} {child : Child ε}
    (here : state.children[index]? = some child) (held : child.held = true)
    (done : child.state.done = true)
    : Tasks
        { state with
          children := state.children.set index { child with held := false }
          errors := state.errors ++ child.state.exception?.toList } := by
  have known : child.state ≠ .pending := fun same => by simp [same, FutureState.done] at done
  constructor
  · intro other inGroup discarded
    rcases List.mem_or_eq_of_mem_set inGroup with kept | rfl
    · exact tasks.ended other kept discarded
    · exact known
  · intro aborting other inGroup running
    rcases List.mem_or_eq_of_mem_set inGroup with kept | rfl
    · exact tasks.asked aborting other kept running
    · exact absurd running known
  · cases failed : child.state.exception? with
    | none =>
        have kept
            : (state.children.set index { child with held := false }).filterMap Child.failure?
              = state.children.filterMap Child.failure? :=
          filterMap_set_eq here (by simp [Child.failure?, held, failed])
        simpa [kept] using tasks.failures
    | some error =>
        have gained
            : ((state.children.set index { child with held := false }).filterMap Child.failure?).Perm
                (state.children.filterMap Child.failure? ++ [error]) :=
          filterMap_set_perm here (by simp [Child.failure?, held]) failed
        exact (tasks.failures.append_right [error]).trans gained.symm

theorem Place.Exits.notice {aborting : Bool} {errors later : List ε} {place : Place ε}
    (exits : place.Exits aborting true errors)
    : place.Exits aborting true later ∧ place.complete.Exits aborting false later := by
  cases place with
  | inside => exact ⟨trivial, trivial⟩
  | left ending exit => exact absurd exits.1 (by simp)
  | exiting ending propagates waiter =>
      refine ⟨exits, ?_⟩
      obtain ⟨cancelled, raised, aborts, -, -⟩ := exits
      cases waiter with
      | pending | success | cancelled => exact ⟨cancelled, raised, aborts, by simp, by simp⟩
      | exception error => exact error.elim

theorem complete_eq (state : State ε)
    : state.complete
      = { state with place := if state.holds then state.place else state.place.complete } := by
  unfold State.complete
  split <;> rfl

theorem holds_of_child {index : Nat} {child : Child ε} (here : state.children[index]? = some child)
    (held : child.held = true)
    : state.holds = true :=
  List.any_eq_true.mpr ⟨child, List.mem_of_getElem? here, held⟩

/-- A task of the group ends. -/
theorem Sound.childEnds (sound : Sound count state) {index : Nat} {child : Child ε}
    {result : FutureState ε Unit} (here : state.children[index]? = some child)
    (pending : child.state = .pending) (done : result.done = true)
    : Sound count
        { state with children := state.children.set index { child with state := result } } where
  toTasks := sound.toTasks.childEnds here pending done
  aborts := sound.aborts
  requested := sound.requested
  counted := sound.counted
  exits := by
    have held : child.held = true := by
      by_contra discarded
      exact sound.ended child (List.mem_of_getElem? here) (by simpa using discarded) pending
    have still
        : State.holds { state with
            children := state.children.set index { child with state := result } } = true := by
      refine List.any_eq_true.mpr ⟨{ child with state := result }, ?_, held⟩
      exact List.mem_set (List.getElem?_eq_some_iff.mp here).1 _
    rw [still, ← holds_of_child here held]
    exact sound.exits

/-- A group that is not left may find more failures, and be aborted. -/
theorem Place.Exits.aborted {aborting holds : Bool} {errors later : List ε} {place : Place ε}
    (exits : place.Exits aborting holds errors) (inside : place.isLeft = false)
    : place.Exits true holds later := by
  cases place with
  | inside => exact trivial
  | left ending exit => contradiction
  | exiting ending propagates waiter =>
      obtain ⟨cancelled, raised, -, waits, told⟩ := exits
      exact ⟨cancelled, raised, fun _ => rfl, waits, told⟩

/-- A failure that is noticed, the first of a group or a later one. -/
theorem Sound.fail {error : ε} (tasks : Tasks { state with errors := state.errors ++ [error] })
    (aborts : state.errors ≠ [] → state.aborting = true)
    (requested : state.parentCancelRequested = true → state.errors ≠ [])
    (counted : state.parent.cancelling = count + state.parentCancelRequested.toNat)
    (exits : state.place.Exits state.aborting state.holds state.errors)
    (inside : state.place.isLeft = false)
    : Sound count (state.fail error) := by
  cases aborting : state.aborting with
  | true =>
      simp only [State.fail, aborting, Bool.true_or, ↓reduceIte]
      exact
        { toTasks := aborting ▸ tasks
          aborts := fun _ => rfl
          requested := by simp
          counted := by simpa [inside] using counted
          exits := aborting ▸ exits.aborted inside }
  | false =>
      have unasked : state.parentCancelRequested = false := by
        by_contra asked
        simpa [aborting] using aborts (requested (by simpa using asked))
      have aborted
          : Sound count
              { state.abort with
                errors := state.errors ++ [error]
                parentCancelRequested := true
                parent := state.parent.cancel none } :=
        { toTasks := ⟨tasks.abort.ended, tasks.abort.asked, tasks.abort.failures⟩
          aborts := fun _ => rfl
          requested := by simp
          counted := by simp [State.abort, inside, counted, unasked]
          exits := (holds_abort state).symm ▸ exits.aborted inside }
      simp only [State.fail, aborting, unasked, Bool.or_self, Bool.false_eq_true, ↓reduceIte,
        State.cancelParent]
      split
      · exact aborted.interrupt
      · exact aborted

/-- The done callback of a task. -/
theorem Sound.onTaskDone (sound : Sound count state) {index : Nat} {child : Child ε}
    (here : state.children[index]? = some child) (held : child.held = true)
    (done : child.state.done = true)
    : Sound count (state.onTaskDone index child) := by
  have tasks := sound.toTasks.notice here held done
  have exits := holds_of_child here held ▸ sound.exits
  have inside : state.place.isLeft = false := by
    cases place : state.place with
    | left ending exit => exact absurd (place ▸ exits).1 (by simp)
    | inside | exiting => rfl
  have told : ∀ later : List ε,
      Place.Exits state.aborting (state.discard index child).holds later
        (state.discard index child).complete.place := by
    intro later
    rw [complete_eq]
    split
    · rename_i still
      exact still ▸ exits.notice.1
    · rename_i none
      have last : (state.discard index child).holds = false := by simpa using none
      exact last ▸ exits.notice.2
  have kept : (state.discard index child).complete.place.isLeft = false := by
    rw [complete_eq]
    dsimp only
    split
    · exact inside
    · exact (isLeft_complete _).trans inside
  have counted : state.parent.cancelling = count + state.parentCancelRequested.toNat := by
    simpa [inside] using sound.counted
  unfold State.onTaskDone
  cases failed : child.state.exception? with
  | none =>
      simp only [failed, Option.toList_none, List.append_nil] at tasks
      rw [complete_eq] at told kept ⊢
      exact
        { toTasks := ⟨tasks.ended, tasks.asked, tasks.failures⟩
          aborts := sound.aborts
          requested := sound.requested
          counted := by
            simp only [kept, Bool.not_false, Bool.and_true]
            exact counted
          exits := told _ }
  | some error =>
      simp only [failed, Option.toList_some] at tasks
      rw [complete_eq] at told kept ⊢
      exact .fail ⟨tasks.ended, tasks.asked, tasks.failures⟩ sound.aborts sound.requested counted
        (told _) kept

-----------------------------------------------------------------------------------------
-- `__aexit__`
-----------------------------------------------------------------------------------------

/-- The end of `__aexit__`. -/
theorem Sound.conclude {ending : Ending ε} {propagates : Bool} (sound : Sound count state)
    (inside : state.place.isLeft = false) (none : state.holds = false)
    (cancelled : ending = .cancelledError → propagates = true)
    (raised : ∀ error, ending = .raised error → propagates = false)
    : Sound count (state.conclude ending propagates) := by
  have counted : state.parent.cancelling = count + state.parentCancelRequested.toNat := by
    simpa [inside] using sound.counted
  have after : state.parentAfter.cancelling = count := by
    unfold State.parentAfter
    split
    · rename_i asked
      simp [counted, asked]
    · rename_i unasked
      simpa [unasked] using counted
  unfold State.conclude
  dsimp only
  split
  · rename_i silent
    simp only [Bool.and_eq_true, List.isEmpty_iff] at silent
    refine ⟨⟨sound.ended, sound.asked, sound.failures⟩, sound.aborts, sound.requested, ?_, none, ?_⟩
    · simpa [Place.isLeft] using after
    · cases ending with
      | returned => exact ⟨by simp [silent.2, Ending.error?], fun _ => .inr ⟨rfl, rfl⟩⟩
      | cancelledError => exact ⟨by simp [silent.2, Ending.error?], fun _ => .inl rfl⟩
      | raised error => simp [raised error rfl] at silent
  · split
    · rename_i empty
      refine ⟨⟨sound.ended, sound.asked, sound.failures⟩, sound.aborts, sound.requested, ?_, none,
        fun fails => absurd (List.isEmpty_iff.mp empty) fails, fun _ => .inl rfl⟩
      simpa [Place.isLeft] using after
    · rename_i some_error
      refine ⟨⟨sound.ended, sound.asked, sound.failures⟩, sound.aborts, sound.requested, ?_, none,
        fun _ => rfl, fun empty => absurd (List.isEmpty_iff.mpr empty) some_error⟩
      simp only [Place.isLeft, Bool.not_true, Bool.and_false, Bool.toNat_false, Nat.add_zero]
      split
      · simp only [Task.cancel_cancelling, Task.uncancel_cancelling]
        omega
      · exact after

/-- The loop that waits for the tasks. -/
theorem Sound.wait {ending : Ending ε} {propagates : Bool} (sound : Sound count state)
    (inside : state.place.isLeft = false)
    (cancelled : ending = .cancelledError → propagates = true)
    (raised : ∀ error, ending = .raised error → propagates = false)
    (aborts : ending ≠ .returned → state.aborting = true)
    : Sound count (state.wait ending propagates) := by
  unfold State.wait
  split
  · rename_i holds
    exact
      { toTasks := ⟨sound.ended, sound.asked, sound.failures⟩
        aborts := sound.aborts
        requested := sound.requested
        counted := by
          have before := sound.counted
          rw [inside] at before
          exact before
        exits := ⟨cancelled, raised, aborts, fun _ => holds, by simp⟩ }
  · rename_i none
    exact sound.conclude inside (by simpa using none) cancelled raised

/-- A body that ends other than by returning aborts its group. -/
theorem Sound.aborted (sound : Sound count state) (here : state.place = .inside)
    : Sound count (if state.aborting then state else state.abort) := by
  split
  · exact sound
  · exact sound.abort (here ▸ trivial)

theorem Sound.exit (sound : Sound count state) (ending : Ending ε) (here : state.place = .inside)
    : Sound count (state.exit ending) := by
  have aborted := sound.aborted here
  have inside : (if state.aborting then state else state.abort).place.isLeft = false := by
    split
    · simp [here, Place.isLeft]
    · simp [State.abort, here, Place.isLeft]
  have aborts : (if state.aborting then state else state.abort).aborting = true := by
    split
    · assumption
    · rfl
  cases ending with
  | returned => exact sound.wait (by simp [here, Place.isLeft]) (by simp) (by simp) (by simp)
  | cancelledError => exact aborted.wait inside (by simp) (by simp) fun _ => aborts
  | raised error => exact aborted.wait inside (by simp) (by simp) fun _ => aborts

/-- A `CancelledError` in the loop. -/
theorem Sound.catchCancelled {ending : Ending ε} {propagates : Bool}
    {waiter : FutureState Empty Unit} (sound : Sound count state)
    (here : state.place = .exiting ending propagates waiter)
    : Sound count (state.catchCancelled ending propagates) := by
  have inside : state.place.isLeft = false := here ▸ rfl
  obtain ⟨cancelled, raised, aborts, -, -⟩ := here ▸ sound.exits
  unfold State.catchCancelled
  split
  · exact sound.wait inside cancelled raised aborts
  · rename_i unaborted
    refine Sound.wait (sound.abort (sound.exits.aborted inside)) inside (by simp) ?_ fun _ => rfl
    intro error same
    exact absurd (aborts (by simp [same])) unaborted

-----------------------------------------------------------------------------------------
-- Runs
-----------------------------------------------------------------------------------------

theorem accepts_iff
    : state.accepts = true
      ↔ state.aborting = false ∧ (state.place = .inside ∨ state.holds = true) := by
  unfold State.accepts
  cases state.place <;> simp

theorem Sound.create (sound : Sound count state) (accepts : state.accepts = true)
    : Sound count { state with children := state.children ++ [.new] } where
  ended := by
    intro child inGroup discarded
    rcases List.mem_append.mp inGroup with before | new
    · exact sound.ended child before discarded
    · simp [List.mem_singleton.mp new, Child.new] at discarded
  asked := fun aborting => absurd aborting (by simp [(accepts_iff.mp accepts).1])
  failures := by simpa [Child.failure?, Child.new] using sound.failures
  aborts := sound.aborts
  requested := sound.requested
  counted := sound.counted
  exits := by
    have holds : State.holds { state with children := state.children ++ [.new] } = true := by
      simp [State.holds, Child.new]
    rcases (accepts_iff.mp accepts).2 with here | before
    · exact here ▸ trivial
    · rw [holds, ← before]
      exact sound.exits

theorem Sound.step {next : State ε} {event : Event ε} (sound : Sound count state)
    (stepped : TaskGroup.step state event = some next)
    : Sound (count + requests [event]) next := by
  cases event with
  | creates =>
      simp only [TaskGroup.step, Option.ite_none_right_eq_some, Option.some.injEq] at stepped
      obtain ⟨accepts, rfl⟩ := stepped
      exact sound.create accepts
  | childEnds index result =>
      simp only [TaskGroup.step] at stepped
      split at stepped
      · rename_i child here
        simp only [Option.ite_none_left_eq_some, Bool.or_eq_true, Bool.not_eq_true', not_or,
          Bool.not_eq_true, Bool.not_eq_false, Option.some.injEq] at stepped
        obtain ⟨⟨pending, done⟩, rfl⟩ := stepped
        exact sound.childEnds here (FutureState.done_eq_false_iff.mp pending) done
      · contradiction
  | childNoticed index =>
      simp only [TaskGroup.step] at stepped
      split at stepped
      · rename_i child here
        simp only [Option.ite_none_right_eq_some, Bool.and_eq_true, Option.some.injEq] at stepped
        obtain ⟨⟨held, done⟩, rfl⟩ := stepped
        exact sound.onTaskDone here held done
      · contradiction
  | cancels => exact Option.some.inj stepped ▸ sound.cancelParent
  | interrupts =>
      simp only [TaskGroup.step, Option.ite_none_left_eq_some, Option.some.injEq] at stepped
      exact stepped.2 ▸ sound.interrupt
  | bodyEnds ending =>
      simp only [TaskGroup.step] at stepped
      split at stepped
      · rename_i here
        exact Option.some.inj stepped ▸ sound.exit ending here
      all_goals contradiction
  | resumes =>
      simp only [TaskGroup.step] at stepped
      split at stepped
      · rename_i ending propagates _ here
        obtain ⟨cancelled, raised, aborts, -, -⟩ := here ▸ sound.exits
        exact Option.some.inj stepped ▸ sound.wait (here ▸ rfl) cancelled raised aborts
      · rename_i ending propagates here
        exact Option.some.inj stepped ▸ sound.catchCancelled here
      all_goals contradiction

-----------------------------------------------------------------------------------------
-- What a step leaves alone
-----------------------------------------------------------------------------------------

/-- How the body has ended, if it has. -/
def Place.ending? : Place ε → Option (Ending ε)
  | inside => none
  | exiting ending _ _ | left ending _ => some ending

/-- The states of the tasks, in the order of their creation. -/
def State.states (state : State ε) : List (FutureState ε Unit) :=
  state.children.map (fun child => child.state)

@[simp] theorem ending?_interrupt (place : Place ε) : place.interrupt.ending? = place.ending? := by
  cases place <;> rfl

@[simp] theorem ending?_complete (place : Place ε) : place.complete.ending? = place.ending? := by
  unfold Place.complete
  split <;> rfl

@[simp] theorem states_abort (state : State ε) : state.abort.states = state.states := by
  simp [State.states, State.abort, Function.comp_def]

theorem cancelParent_frame (state : State ε)
    : state.cancelParent.states = state.states
      ∧ state.cancelParent.place.ending? = state.place.ending? := by
  unfold State.cancelParent
  split
  · exact ⟨rfl, ending?_interrupt _⟩
  · exact ⟨rfl, rfl⟩

theorem fail_frame (state : State ε) (error : ε)
    : (state.fail error).states = state.states
      ∧ (state.fail error).place.ending? = state.place.ending? := by
  unfold State.fail
  dsimp only
  split
  · exact ⟨rfl, rfl⟩
  · obtain ⟨states, ending⟩ := cancelParent_frame
      { State.abort { state with errors := state.errors ++ [error] } with
        parentCancelRequested := true }
    exact ⟨states.trans (states_abort _), ending⟩

theorem onTaskDone_frame {index : Nat} {child : Child ε}
    (here : state.children[index]? = some child)
    : (state.onTaskDone index child).states = state.states
      ∧ (state.onTaskDone index child).place.ending? = state.place.ending? := by
  have states : (state.discard index child).complete.states = state.states := by
    rw [complete_eq]
    simp only [State.states, State.discard, List.map_set]
    apply List.ext_getElem?
    intro other
    rw [List.getElem?_set]
    split
    · rename_i same
      subst same
      split <;> simp_all
    · rfl
  have ending : (state.discard index child).complete.place.ending? = state.place.ending? := by
    rw [complete_eq]
    dsimp only
    split
    · rfl
    · exact ending?_complete _
  unfold State.onTaskDone
  split
  · exact ⟨(fail_frame _ _).1.trans states, (fail_frame _ _).2.trans ending⟩
  · exact ⟨states, ending⟩

theorem wait_frame (state : State ε) (ending : Ending ε) (propagates : Bool)
    : (state.wait ending propagates).children = state.children
      ∧ (state.wait ending propagates).aborting = state.aborting
      ∧ (state.wait ending propagates).place.ending? = some ending := by
  unfold State.wait
  split
  · exact ⟨rfl, rfl, rfl⟩
  · unfold State.conclude
    dsimp only
    split
    · exact ⟨rfl, rfl, rfl⟩
    · split <;> exact ⟨rfl, rfl, rfl⟩

theorem states_wait (state : State ε) (ending : Ending ε) (propagates : Bool)
    : (state.wait ending propagates).states = state.states := by
  rw [State.states, (wait_frame state ending propagates).1, State.states]

theorem catchCancelled_frame (state : State ε) (ending : Ending ε) (propagates : Bool)
    : (state.catchCancelled ending propagates).states = state.states
      ∧ (state.catchCancelled ending propagates).place.ending? = some ending := by
  unfold State.catchCancelled
  split
  · exact ⟨states_wait _ _ _, (wait_frame _ _ _).2.2⟩
  · exact ⟨(states_wait _ _ _).trans (states_abort _), (wait_frame _ _ _).2.2⟩

theorem exit_frame (state : State ε) (ending : Ending ε)
    : (state.exit ending).states = state.states
      ∧ (state.exit ending).place.ending? = some ending := by
  have aborted : (if state.aborting then state else state.abort).states = state.states := by
    split
    · rfl
    · exact states_abort _
  cases ending with
  | returned => exact ⟨states_wait _ _ _, (wait_frame _ _ _).2.2⟩
  | cancelledError | raised => exact ⟨(states_wait _ _ _).trans aborted, (wait_frame _ _ _).2.2⟩

/-- The states of the tasks after an event. -/
def Event.states (states : List (FutureState ε Unit)) : Event ε → List (FutureState ε Unit)
  | creates => states ++ [.pending]
  | childEnds index result => states.set index result
  | childNoticed _ | cancels | interrupts | bodyEnds _ | resumes => states

/-- How the body has ended after an event. -/
def Event.ending? (before : Option (Ending ε)) : Event ε → Option (Ending ε)
  | bodyEnds ending => some ending
  | creates | childEnds _ _ | childNoticed _ | cancels | interrupts | resumes => before

/-- What becomes of the tasks in a step, and of the end of the body. -/
theorem step_frame {next : State ε} {event : Event ε}
    (stepped : TaskGroup.step state event = some next)
    : next.states = event.states state.states
      ∧ next.place.ending? = event.ending? state.place.ending? := by
  cases event with
  | creates =>
      simp only [TaskGroup.step, Option.ite_none_right_eq_some, Option.some.injEq] at stepped
      obtain ⟨-, rfl⟩ := stepped
      exact ⟨by simp [State.states, Event.states, Child.new], rfl⟩
  | childEnds index result =>
      simp only [TaskGroup.step] at stepped
      split at stepped
      · simp only [Option.ite_none_left_eq_some, Option.some.injEq] at stepped
        obtain ⟨-, rfl⟩ := stepped
        exact ⟨by simp [State.states, Event.states, List.map_set], rfl⟩
      · contradiction
  | childNoticed index =>
      simp only [TaskGroup.step] at stepped
      split at stepped
      · rename_i child here
        simp only [Option.ite_none_right_eq_some, Option.some.injEq] at stepped
        obtain ⟨-, rfl⟩ := stepped
        exact onTaskDone_frame here
      · contradiction
  | cancels => exact Option.some.inj stepped ▸ cancelParent_frame state
  | interrupts =>
      simp only [TaskGroup.step, Option.ite_none_left_eq_some, Option.some.injEq] at stepped
      exact stepped.2 ▸ ⟨rfl, ending?_interrupt _⟩
  | bodyEnds ending =>
      simp only [TaskGroup.step] at stepped
      split at stepped
      · exact Option.some.inj stepped ▸ exit_frame state ending
      all_goals contradiction
  | resumes =>
      simp only [TaskGroup.step] at stepped
      split at stepped
      · rename_i here
        obtain rfl := Option.some.inj stepped
        exact ⟨states_wait _ _ _, (wait_frame _ _ _).2.2.trans (here ▸ rfl)⟩
      · rename_i here
        obtain rfl := Option.some.inj stepped
        obtain ⟨states, ending⟩ := catchCancelled_frame state _ _
        exact ⟨states, ending.trans (here ▸ rfl)⟩
      all_goals contradiction

theorem isLeft_fail {error : ε} (left : state.place.isLeft = true)
    : (state.fail error).place.isLeft = true := by
  unfold State.fail State.cancelParent
  dsimp only
  split
  · exact left
  · split
    · exact (isLeft_interrupt _).trans left
    · exact left

theorem isLeft_onTaskDone {index : Nat} {child : Child ε} (left : state.place.isLeft = true)
    : (state.onTaskDone index child).place.isLeft = true := by
  have kept : (state.discard index child).complete.place.isLeft = true := by
    rw [complete_eq]
    dsimp only
    split
    · exact left
    · exact (isLeft_complete _).trans left
  unfold State.onTaskDone
  split
  · exact isLeft_fail kept
  · exact kept

/-- A group that is left stays so. -/
theorem isLeft_step {next : State ε} {event : Event ε} (left : state.place.isLeft = true)
    (stepped : TaskGroup.step state event = some next)
    : next.place.isLeft = true := by
  cases event with
  | creates =>
      simp only [TaskGroup.step, Option.ite_none_right_eq_some, Option.some.injEq] at stepped
      exact stepped.2 ▸ left
  | childEnds index result =>
      simp only [TaskGroup.step] at stepped
      split at stepped
      · simp only [Option.ite_none_left_eq_some, Option.some.injEq] at stepped
        exact stepped.2 ▸ left
      · contradiction
  | childNoticed index =>
      simp only [TaskGroup.step] at stepped
      split at stepped
      · simp only [Option.ite_none_right_eq_some, Option.some.injEq] at stepped
        exact stepped.2 ▸ isLeft_onTaskDone left
      · contradiction
  | cancels =>
      obtain rfl := Option.some.inj stepped
      unfold State.cancelParent
      split
      · exact (isLeft_interrupt _).trans left
      · exact left
  | interrupts =>
      simp only [TaskGroup.step, Option.ite_none_left_eq_some, Option.some.injEq] at stepped
      exact stepped.2 ▸ (isLeft_interrupt _).trans left
  | bodyEnds | resumes =>
      simp only [TaskGroup.step] at stepped
      split at stepped
      all_goals simp_all [Place.isLeft]

/-- A group, from its entry on. -/
theorem sound_of_run {own : Bool} {parent : Task} {events : List (Event ε)} {final : State ε}
    (reached : Transition.run TaskGroup.step (.initial own parent) events = some final)
    : Sound (parent.cancelling + requests events) final := by
  refine Transition.run_preserves_history
    (P := fun past state => Sound (parent.cancelling + requests past) state)
    (fun past state event next sound stepped => ?_) (sound_initial own parent) reached
  rw [requests, List.countP_append, ← Nat.add_assoc]
  exact sound.step stepped

end Aiodrive.TaskGroup
