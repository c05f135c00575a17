import Aiodrive.Amass.Leaving
import Aiodrive.Amass.Refill

/-! An `amass()` iterator that is iterated and never closed or cancelled: the results it has
yielded are those of the futures that its waits returned as done, in their order, up to the
futures it has still to visit.
-/

namespace Aiodrive.Amass

variable {ι ε α : Type*}

/-- The results of the futures in a list that succeeded. -/
def State.results (state : State ι ε α) (items : List ι) : List α :=
  items.filterMap (fun item => (state.futures item).result?)

/-- The futures that the waits have returned as done, in the order in which the generator
visits them.
-/
def State.visits (state : State ι ε α) : List ι :=
  state.rounds.flatten

/-- The results of all visits but the last ones have been yielded. -/
def State.YieldedBefore (state : State ι ε α) (rest : List ι) : Prop :=
  ∃ visited, state.visits = visited ++ rest ∧ state.yielded = state.results visited

/-- What holds wherever the generator is: the input is partitioned, the futures that a wait
returned are done, no future is cancelled, and none has failed if that is to end the iterator;
`unfailing` is what is known about those to come.
-/
structure Sound (awaitables : List ι) (unfailing : Prop) (state : State ι ε α) : Prop where
  admits : state.maxConcurrentCount ≠ some 0
  uncancelled : state.cancelled = false
  partition
    : Partition awaitables state.visits state.pendingFutures state.awaitablesIter
        state.allFutures
  visitsDone : ∀ item ∈ state.visits, (state.futures item).done = true
  noneCancelled : ∀ item ∈ awaitables, state.futures item ≠ .cancelled
  tolerant
    : state.sensitive = false
      ∨ unfailing ∧ ∀ item ∈ awaitables, ∀ error, state.futures item ≠ .exception error

/-- The generator has left its loop with everything yielded and nothing pending. -/
structure Finishing (state : State ι ε α) : Prop where
  yielded : state.YieldedBefore []
  nonePending : state.pendingFutures = []
  leaving : Leaving .broke state.allFutures state

/-- Where a sound iterator is, with what it has yielded by then. -/
inductive Stage (state : State ι ε α) : Prop where
  | unstarted (here : state.pc = .unstarted) (yielded : state.YieldedBefore [])
  | waiting (here : state.pc = .waiting) (yielded : state.YieldedBefore [])
    (nonempty : state.pendingFutures ≠ [])
  | yielding (rest : List ι) (here : state.pc = .yielding rest)
    (yielded : state.YieldedBefore rest)
  | finishing (finishing : Finishing state)

/-- The invariant of an iterator that is iterated and neither closed nor cancelled. -/
structure Serving (awaitables : List ι) (unfailing : Prop) (state : State ι ε α) : Prop where
  sound : Sound awaitables unfailing state
  stage : Stage state

/-- What was yielded before the first step. -/
theorem Stage.of_unstarted {state : State ι ε α} (stage : Stage state)
    (here : state.pc = .unstarted)
    : state.YieldedBefore [] := by
  cases stage with
  | unstarted _ yielded => exact yielded
  | waiting elsewhere => simp [here] at elsewhere
  | yielding rest elsewhere => simp [here] at elsewhere
  | finishing finishing => exact (finishing.leaving.outside.1 here).elim

/-- What was yielded before a wait of the loop. -/
theorem Stage.of_waiting {state : State ι ε α} (stage : Stage state)
    (here : state.pc = .waiting)
    : state.YieldedBefore [] := by
  cases stage with
  | unstarted elsewhere => simp [here] at elsewhere
  | waiting _ yielded => exact yielded
  | yielding rest elsewhere => simp [here] at elsewhere
  | finishing finishing => exact (finishing.leaving.outside.2.1 here).elim

/-- What was yielded by the time of a `yield`. -/
theorem Stage.of_yielding {state : State ι ε α} {rest : List ι} (stage : Stage state)
    (here : state.pc = .yielding rest)
    : state.YieldedBefore rest := by
  cases stage with
  | unstarted elsewhere => simp [here] at elsewhere
  | waiting elsewhere => simp [here] at elsewhere
  | yielding other same yielded =>
      obtain rfl := Pc.yielding.inj (here.symm.trans same)
      exact yielded
  | finishing finishing => exact (finishing.leaving.outside.2.2 rest here).elim

/-- The `gather()` call is awaited once everything is yielded. -/
theorem Stage.of_closing {state : State ι ε α} {ending : Ending} {gather : Gather.Pc ε α}
    (stage : Stage state) (here : state.pc = .closing ending gather)
    : Finishing state := by
  cases stage with
  | unstarted elsewhere => simp [here] at elsewhere
  | waiting elsewhere => simp [here] at elsewhere
  | yielding rest elsewhere => simp [here] at elsewhere
  | finishing finishing => exact finishing

/-- A future that a wait returned belongs to an awaitable of the input. -/
theorem Sound.mem_of_visit {awaitables : List ι} {unfailing : Prop} {state : State ι ε α} {item : ι}
    (sound : Sound awaitables unfailing state) (visited : item ∈ state.visits)
    : item ∈ awaitables :=
  sound.partition.parts.mem_iff.mp (List.mem_append_left _ visited)

/-- A sensitive iterator visits no future that raises. -/
theorem Sound.insensitive_of_raised {awaitables : List ι} {unfailing : Prop}
    {state : State ι ε α} {item : ι} {error : Raised ε}
    (sound : Sound awaitables unfailing state) (visited : item ∈ state.visits)
    (raised : (state.futures item).result = .raised error)
    : state.sensitive = false ∧ (state.futures item).result? = none := by
  have known := sound.mem_of_visit visited
  have done := sound.visitsDone item visited
  cases found : state.futures item with
  | cancelled => exact (sound.noneCancelled item known found).elim
  | pending => simp [found] at done
  | success value => simp [found, FutureState.result] at raised
  | exception failure =>
      refine ⟨?_, rfl⟩
      rcases sound.tolerant with insensitive | ⟨_, noException⟩
      · exact insensitive
      · exact (noException item known failure found).elim

/-- The futures that are still to visit are among those that a wait returned. -/
theorem State.YieldedBefore.visits_of_mem {state : State ι ε α} {rest : List ι}
    (yielded : state.YieldedBefore rest)
    : ∀ item ∈ rest, item ∈ state.visits := by
  obtain ⟨visited, visits, _⟩ := yielded
  intro item member
  exact visits ▸ List.mem_append_right _ member

/-- A visit that yields nothing leaves the yielded results as they should be. -/
theorem State.YieldedBefore.skip {state : State ι ε α} {item : ι} {rest : List ι}
    (yielded : state.YieldedBefore (item :: rest))
    (none : (state.futures item).result? = none)
    : state.YieldedBefore rest := by
  obtain ⟨visited, visits, same⟩ := yielded
  refine ⟨visited ++ [item], by rw [visits, List.append_assoc]; rfl, ?_⟩
  rw [same, State.results, State.results, List.filterMap_append]
  simp [none]

/-- A visit that yields its result leaves the yielded results as they should be. -/
theorem State.YieldedBefore.yield {state : State ι ε α} {item : ι} {rest : List ι}
    {value : α} {pc : Pc ι ε α} (yielded : state.YieldedBefore (item :: rest))
    (succeeded : state.futures item = .success value)
    : State.YieldedBefore { state with yielded := state.yielded ++ [value], pc } rest := by
  obtain ⟨visited, visits, same⟩ := yielded
  refine ⟨visited ++ [item], ?_, ?_⟩
  · rw [List.append_assoc]
    exact visits
  · have here : (state.futures item).result? = some value := by
      rw [succeeded]
      rfl
    have collected : state.results (visited ++ [item]) = state.results visited ++ [value] := by
      rw [State.results, State.results, List.filterMap_append]
      simp [here]
    rw [same]
    exact collected.symm

/-- The futures that a wait returns as done are visited after those of the earlier waits. -/
theorem State.visits_assignWait (state : State ι ε α) (done pending : List ι)
    : (state.assignWait done pending).visits = state.visits ++ done := by
  simp [State.visits, State.assignWait]

/-- A wait splits the pending futures into those it returns as done and the rest. -/
theorem Sound.waitReturns {awaitables done pending : List ι} {unfailing : Prop}
    {state : State ι ε α} (sound : Sound awaitables unfailing state)
    (doneSet : done.Perm (doneTasks state.pendingFutures state.futures))
    (pendingSet : pending.Perm (pendingTasks state.pendingFutures state.futures))
    : Sound awaitables unfailing (state.assignWait done pending) := by
  obtain ⟨admits, uncancelled, partition, visitsDone, noneCancelled, tolerant⟩ := sound
  have visits := state.visits_assignWait done pending
  have split : (done ++ pending).Perm state.pendingFutures :=
    (doneSet.append pendingSet).trans (List.filter_append_perm _ _)
  refine ⟨admits, uncancelled, ⟨partition.distinct, ?_, ?_⟩, ?_, noneCancelled, tolerant⟩
  · rw [visits]
    refine List.Perm.trans ?_ partition.parts
    rw [List.append_assoc, ← List.append_assoc done]
    exact (split.append_right _).append_left _
  · rw [visits]
    refine partition.created.trans (List.Perm.map _ ?_)
    rw [List.append_assoc]
    exact (split.append_left _).symm
  · rw [visits]
    intro item member
    rcases List.mem_append.mp member with earlier | returned
    · exact visitsDone item earlier
    · exact (List.mem_filter.mp (doneSet.mem_iff.mp returned)).2

-----------------------------------------------------------------------------------------
-- The loops keep the invariant
-----------------------------------------------------------------------------------------

variable [DecidableEq ι]

/-- The refill loop keeps an iterator sound. -/
theorem Sound.refill {awaitables : List ι} {unfailing : Prop} {state : State ι ε α}
    (sound : Sound awaitables unfailing state)
    : Sound awaitables unfailing state.refill := by
  obtain ⟨admits, uncancelled, partition, visitsDone, noneCancelled, tolerant⟩ := sound
  exact ⟨admits, uncancelled, refill_partition partition, visitsDone, noneCancelled, tolerant⟩

/-- A turn of the outer loop waits for what it has taken, or leaves once nothing is left. -/
theorem turn_serving {awaitables : List ι} {unfailing : Prop} {state : State ι ε α}
    (sound : Sound awaitables unfailing state) (yielded : state.YieldedBefore [])
    : Serving awaitables unfailing state.turn := by
  have refilled := sound.refill
  have yielded : state.refill.YieldedBefore [] := yielded
  unfold State.turn
  split
  · rename_i empty
    have nonePending := List.isEmpty_iff.mp empty
    have exhausted : state.refill.awaitablesIter = [] := refill_nil sound.admits nonePending
    have created : state.refill.allFutures
        ++ state.refill.awaitablesIter.mapIdx Created.terminate = state.refill.allFutures := by
      rw [exhausted, List.mapIdx_nil, List.append_nil]
    constructor
    · obtain ⟨admits, uncancelled, partition, visitsDone, noneCancelled, tolerant⟩ := refilled
      refine ⟨admits, uncancelled, ?_, visitsDone, noneCancelled, tolerant⟩
      simp only [State.leave, created]
      exact exhausted ▸ partition
    · have leaving := leave_leaving state.refill .broke
      exact Stage.finishing ⟨yielded, nonePending, ⟨rfl, rfl, leaving.follows⟩⟩
  · rename_i nonempty
    constructor
    · obtain ⟨admits, uncancelled, partition, visitsDone, noneCancelled, tolerant⟩ := refilled
      exact ⟨admits, uncancelled, partition, visitsDone, noneCancelled, tolerant⟩
    · exact Stage.waiting rfl yielded (fun empty => nonempty (List.isEmpty_iff.mpr empty))

/-- Visiting the done futures yields their results in order, by induction on those still to
visit.
-/
theorem iterate_serving {awaitables rest : List ι} {unfailing : Prop} {state : State ι ε α}
    (sound : Sound awaitables unfailing state) (yielded : state.YieldedBefore rest)
    : Serving awaitables unfailing (state.iterate rest) := by
  induction rest with
  | nil => exact turn_serving sound yielded
  | cons item rest ih =>
      have visited : item ∈ state.visits := yielded.visits_of_mem item List.mem_cons_self
      cases result : (state.futures item).result with
      | returned value =>
          have succeeded : state.futures item = .success value := by
            cases found : state.futures item <;> simp_all [FutureState.result]
          simp only [State.iterate, result]
          constructor
          · obtain ⟨admits, uncancelled, partition, visitsDone, noneCancelled, tolerant⟩ := sound
            exact ⟨admits, uncancelled, partition, visitsDone, noneCancelled, tolerant⟩
          · exact Stage.yielding rest rfl (yielded.yield succeeded)
      | raised error =>
          obtain ⟨insensitive, none⟩ := sound.insensitive_of_raised visited result
          simp only [State.iterate, result, insensitive, Bool.false_eq_true, if_false]
          exact ih (yielded.skip none)

-----------------------------------------------------------------------------------------
-- Every event of an iteration keeps the invariant
-----------------------------------------------------------------------------------------

/-- A future that ends changes no result that was yielded. -/
theorem State.YieldedBefore.complete {state : State ι ε α} {rest : List ι}
    {created : Created ι} {ended : FutureState ε α} {table : TaskTable (Created ι) ε α}
    (yielded : state.YieldedBefore rest)
    (visitsDone : ∀ item ∈ state.visits, (state.futures item).done = true)
    (completed : Aiodrive.complete state.table created ended = some table)
    : State.YieldedBefore { state with table } rest := by
  obtain ⟨visited, visits, same⟩ := yielded
  refine ⟨visited, visits, ?_⟩
  have kept : ∀ item ∈ visited, table (.future item) = state.futures item := by
    intro item member
    exact complete_of_done completed (visitsDone item (visits ▸ List.mem_append_left _ member))
  rw [same, State.results, State.results]
  apply List.filterMap_congr
  intro item member
  exact congrArg FutureState.result? (kept item member).symm

/-- A future that ends, and not as cancelled, keeps an iterator sound. -/
theorem Sound.complete {awaitables : List ι} {unfailing : Prop} {state : State ι ε α}
    {created : Created ι} {ended : FutureState ε α} {table : TaskTable (Created ι) ε α}
    (sound : Sound awaitables unfailing state)
    (notCancelled : ended ≠ .cancelled) (notFailed : unfailing → ∀ error, ended ≠ .exception error)
    (completed : Aiodrive.complete state.table created ended = some table)
    : Sound awaitables unfailing { state with table } := by
  obtain ⟨admits, uncancelled, partition, visitsDone, noneCancelled, tolerant⟩ := sound
  refine ⟨admits, uncancelled, partition, ?_, ?_, ?_⟩
  · intro item visited
    have done := visitsDone item visited
    have kept : table (.future item) = state.futures item := complete_of_done completed done
    simpa only [State.futures, kept] using done
  · intro item member
    rcases complete_cases completed (.future item) with kept | ⟨_, set⟩
    · exact fun same => noneCancelled item member (kept.symm.trans same)
    · exact fun same => notCancelled (set.symm.trans same)
  · rcases tolerant with insensitive | ⟨known, noException⟩
    · exact Or.inl insensitive
    · refine Or.inr ⟨known, fun item member error => ?_⟩
      rcases complete_cases completed (.future item) with kept | ⟨_, set⟩
      · exact fun same => noException item member error (kept.symm.trans same)
      · exact fun same => notFailed known error (set.symm.trans same)

/-- A future that ends keeps the stage of the iterator. -/
theorem Stage.complete {state : State ι ε α} {created : Created ι} {ended : FutureState ε α}
    {table : TaskTable (Created ι) ε α} (stage : Stage state)
    (visitsDone : ∀ item ∈ state.visits, (state.futures item).done = true)
    (completed : Aiodrive.complete state.table created ended = some table)
    : Stage { state with table } := by
  cases stage with
  | unstarted here yielded => exact .unstarted here (yielded.complete visitsDone completed)
  | waiting here yielded nonempty =>
      exact .waiting here (yielded.complete visitsDone completed) nonempty
  | yielding rest here yielded =>
      exact .yielding rest here (yielded.complete visitsDone completed)
  | finishing finishing =>
      obtain ⟨yielded, nonePending, _, exhausted, gather, agrees, here⟩ := finishing
      exact .finishing ⟨yielded.complete visitsDone completed, nonePending, rfl, exhausted, gather,
        agrees.complete completed, here⟩

/-- An event that can occur while the iterator is iterated to its end and no future is
cancelled.
-/
structure Event.Iterates (unfailing : Prop) (event : Event ι ε α) : Prop where
  unclosed : event ≠ .close
  uncancelled : ∀ message, event ≠ .cancelCaller message
  noneCancelled : ∀ created, event ≠ .complete created .cancelled
  noneFailed : unfailing → ∀ created error, event ≠ .complete created (.exception error)

/-- One event of an iteration keeps the invariant. -/
theorem step_serving {awaitables : List ι} {unfailing : Prop} {state next : State ι ε α}
    {event : Event ι ε α} (serving : Serving awaitables unfailing state)
    (iterates : event.Iterates unfailing) (stepped : step state event = some next)
    : Serving awaitables unfailing next := by
  obtain ⟨sound, stage⟩ := serving
  cases move_of_step stepped with
  | starts here => exact turn_serving sound (stage.of_unstarted here)
  | continues here => exact iterate_serving sound (stage.of_yielding here)
  | closesUnstarted here => exact (iterates.unclosed rfl).elim
  | closes here => exact (iterates.unclosed rfl).elim
  | cancelsWait here => exact (iterates.uncancelled _ rfl).elim
  | cancelsGather here => exact (iterates.uncancelled _ rfl).elim
  | @completes created ended table known completed =>
      refine ⟨sound.complete ?_ ?_ completed, stage.complete sound.visitsDone completed⟩
      · exact fun same => iterates.noneCancelled created (by rw [same])
      · exact fun known error same => iterates.noneFailed known created error (by rw [same])
  | returnsWait here someDone doneSet pendingSet =>
      obtain ⟨visited, visits, same⟩ := stage.of_waiting here
      apply iterate_serving (sound.waitReturns doneSet pendingSet)
      refine ⟨visited, ?_, same⟩
      rw [state.visits_assignWait, visits, List.append_nil]
  | returnsGather here suspended ready =>
      obtain ⟨yielded, nonePending, leaving⟩ := stage.of_closing here
      have left := step_leaving leaving (by simp) stepped
      constructor
      · obtain ⟨admits, uncancelled, partition, visitsDone, noneCancelled, tolerant⟩ := sound
        exact ⟨admits, uncancelled, partition, visitsDone, noneCancelled, tolerant⟩
      · exact .finishing ⟨yielded, nonePending, left⟩

end Aiodrive.Amass
