import Aiodrive.Amass.Serving

/-! An `amass()` iterator that is iterated to its end stays within its bound, ends after
finitely many events, and has then yielded every result once.
-/

namespace Aiodrive.Amass

variable {ι ε α : Type*}

-----------------------------------------------------------------------------------------
-- A bound on the length of an iteration
-----------------------------------------------------------------------------------------

/-- The waits that a `gather()` call is still suspended in. -/
def gatherWaits : Gather.Pc ε α → Nat
  | .firstWait => 2
  | .loopWait _ _ => 1
  | .exited _ => 0

/-- A bound on the steps that the generator still takes, when this many awaitables are pending
or not taken.
-/
def Pc.stepsLeft (unvisited : Nat) : Pc ι ε α → Nat
  | .unstarted => 2 * unvisited + 2
  | .waiting => 2 * unvisited + 1
  | .yielding rest => 2 * unvisited + rest.length + 2
  | .closing _ gather => gatherWaits gather
  | .exited _ => 0

def State.unvisited (state : State ι ε α) : Nat :=
  state.pendingFutures.length + state.awaitablesIter.length

/-- A bound on the events of an iteration: the steps of the generator and the futures that are
not done.
-/
def State.eventsLeft (awaitables : List ι) (state : State ι ε α) : Nat :=
  (pendingTasks awaitables state.futures).length + state.pc.stepsLeft state.unvisited

/-- The end of the loop takes no more steps than its `gather()` call waits. -/
theorem stepsLeft_afterGather_le (cancelled : Bool) (ending : Ending)
    (gather : Gather.Pc ε α) (unvisited : Nat)
    : (afterGather cancelled ending gather : Pc ι ε α).stepsLeft unvisited
      ≤ gatherWaits gather := by
  cases gather with
  | firstWait => exact Nat.le_refl _
  | loopWait cancelled failed => exact Nat.le_refl _
  | exited outcome => cases outcome <;> exact Nat.le_refl _

/-- A wait that returns is one wait less. -/
theorem gatherWaits_resume_lt {tasks : List ι} {table : TaskTable ι ε α}
    {gather : Gather.Pc ε α} {returnWhen : ReturnWhen}
    (suspended : gather.returnWhen = some returnWhen)
    : gatherWaits (Gather.resume tasks table gather .returned).1 < gatherWaits gather := by
  cases gather with
  | firstWait => exact Nat.lt_succ_self 1
  | loopWait cancelled failed => exact Nat.zero_lt_one
  | exited outcome => simp [Gather.Pc.returnWhen] at suspended

/-- Only futures of awaitables are created while the iterator is iterated. -/
theorem Sound.future_of_exists {awaitables : List ι} {unfailing : Prop} {state : State ι ε α}
    {created : Created ι} (sound : Sound awaitables unfailing state)
    (created_exists : state.Exists created)
    : ∃ item ∈ awaitables, created = .future item := by
  have taken {item : ι} (member : .future item ∈ state.allFutures) : item ∈ awaitables := by
    have known : item ∈ state.visits ++ state.pendingFutures := by
      simpa using sound.partition.created.mem_iff.mp member
    apply sound.partition.parts.mem_iff.mp
    rw [← List.append_assoc]
    exact List.mem_append_left _ known
  cases created with
  | future item =>
      refine ⟨item, ?_, rfl⟩
      rcases created_exists with member | left
      · exact taken member
      · apply sound.partition.parts.mem_iff.mp
        exact List.mem_append_right _ (List.mem_append_right _ left)
  | terminate position item =>
      have impossible := sound.partition.created.mem_iff.mp created_exists
      simp at impossible

variable [DecidableEq ι]

/-- The refill loop only moves awaitables to the pending futures. -/
theorem Sound.unvisited_refill {awaitables : List ι} {unfailing : Prop} {state : State ι ε α}
    (sound : Sound awaitables unfailing state)
    : state.refill.unvisited = state.unvisited := by
  have before := sound.partition.parts.length_eq
  have after := sound.refill.partition.parts.length_eq
  have visits : state.refill.visits = state.visits := rfl
  simp only [List.length_append, visits] at before after
  simp only [State.unvisited]
  omega

/-- A turn of the outer loop leaves at most a wait for each awaitable that is not visited. -/
theorem turn_stepsLeft_le {awaitables : List ι} {unfailing : Prop} {state : State ι ε α}
    (sound : Sound awaitables unfailing state)
    : state.turn.pc.stepsLeft state.turn.unvisited ≤ 2 * state.unvisited + 1 := by
  unfold State.turn
  split
  · have waits : gatherWaits (Gather.start false (state.refill.allFutures
        ++ state.refill.awaitablesIter.mapIdx Created.terminate) : Gather.Pc ε α) ≤ 1 := by
      simp only [Gather.start, Bool.false_eq_true, if_false]
      split
      · exact Nat.zero_le 1
      · exact Nat.le_refl 1
    have after := stepsLeft_afterGather_le (ι := ι) state.refill.cancelled .broke
      (Gather.start false (state.refill.allFutures
        ++ state.refill.awaitablesIter.mapIdx Created.terminate) : Gather.Pc ε α)
      (state.refill.leave .broke).unvisited
    simp only [State.leave] at after ⊢
    omega
  · have same : State.unvisited { state.refill with pc := .waiting } = state.unvisited :=
      sound.unvisited_refill
    simp only [Pc.stepsLeft, same]
    exact Nat.le_refl _

/-- Visiting a done future takes a step less than suspending before it, by induction on those
still to visit.
-/
theorem iterate_stepsLeft_lt {awaitables rest : List ι} {unfailing : Prop} {state : State ι ε α}
    (sound : Sound awaitables unfailing state) (visits : ∀ item ∈ rest, item ∈ state.visits)
    : (state.iterate rest).pc.stepsLeft (state.iterate rest).unvisited
      < 2 * state.unvisited + rest.length + 2 := by
  induction rest with
  | nil =>
      have turned := turn_stepsLeft_le sound
      simp only [State.iterate, List.length_nil]
      omega
  | cons item rest ih =>
      cases result : (state.futures item).result with
      | returned value =>
          simp only [State.iterate, result, Pc.stepsLeft, State.unvisited, List.length_cons]
          omega
      | raised error =>
          obtain ⟨insensitive, _⟩ := sound.insensitive_of_raised (visits item (by simp)) result
          simp only [State.iterate, result, insensitive, Bool.false_eq_true, if_false,
            List.length_cons]
          have later := ih (fun other member => visits other (by simp [member]))
          omega

omit [DecidableEq ι] in
/-- A step that ends no future leaves fewer events if it leaves fewer steps. -/
theorem eventsLeft_lt {awaitables : List ι} {state next : State ι ε α}
    (same : next.table = state.table)
    (fewer : next.pc.stepsLeft next.unvisited < state.pc.stepsLeft state.unvisited)
    : next.eventsLeft awaitables < state.eventsLeft awaitables := by
  have futures : next.futures = state.futures := by
    unfold State.futures
    rw [same]
  unfold State.eventsLeft
  rw [futures]
  exact Nat.add_lt_add_left fewer _

/-- A future that ends is one future less that is not done. -/
theorem length_pendingTasks_lt {tasks : List ι} {table next : TaskTable ι ε α} {task : ι}
    (member : task ∈ tasks) (pending : (table task).done = false)
    (done : (next task).done = true)
    (kept : ∀ other, other ≠ task → next other = table other)
    : (pendingTasks tasks next).length < (pendingTasks tasks table).length := by
  have removed : pendingTasks tasks next
      = (pendingTasks tasks table).filter (fun other => decide (other ≠ task)) := by
    simp only [pendingTasks, List.filter_filter]
    apply List.filter_congr
    intro other _
    by_cases same : other = task
    · simp [same, done]
    · simp [same, kept other same]
  rw [removed, List.length_filter_lt_length_iff_exists]
  exact ⟨task, List.mem_filter.mpr ⟨member, by simp [pending]⟩, by simp⟩

/-- Every event of an iteration leaves fewer events to come. -/
theorem step_eventsLeft_lt {awaitables : List ι} {unfailing : Prop} {state next : State ι ε α}
    {event : Event ι ε α} (serving : Serving awaitables unfailing state)
    (iterates : event.Iterates unfailing) (stepped : step state event = some next)
    : next.eventsLeft awaitables < state.eventsLeft awaitables := by
  obtain ⟨sound, stage⟩ := serving
  cases move_of_step stepped with
  | closesUnstarted here => exact (iterates.unclosed rfl).elim
  | closes here => exact (iterates.unclosed rfl).elim
  | cancelsWait here => exact (iterates.uncancelled _ rfl).elim
  | cancelsGather here => exact (iterates.uncancelled _ rfl).elim
  | completes known completed =>
      obtain ⟨item, member, rfl⟩ := sound.future_of_exists known
      obtain ⟨pending, done, rfl⟩ := complete_eq_some_iff.mp completed
      apply Nat.add_lt_add_right
      apply length_pendingTasks_lt member
      · simp [State.futures, pending]
      · simpa [State.futures] using done
      · intro other different
        simp [State.futures, different]
  | starts here =>
      apply eventsLeft_lt state.turn_table
      rw [here]
      exact Nat.lt_succ_of_le (turn_stepsLeft_le sound)
  | @continues rest here =>
      apply eventsLeft_lt (state.iterate_table rest)
      rw [here]
      exact iterate_stepsLeft_lt sound (stage.of_yielding here).visits_of_mem
  | @returnsWait done pending here someDone doneSet pendingSet =>
      have visited : ∀ item ∈ done, item ∈ (state.assignWait done pending).visits := by
        intro item member
        rw [state.visits_assignWait]
        exact List.mem_append_right _ member
      have iterated := iterate_stepsLeft_lt (sound.waitReturns doneSet pendingSet) visited
      have unvisited
          : state.unvisited = (state.assignWait done pending).unvisited + done.length := by
        have split := ((doneSet.append pendingSet).trans (List.filter_append_perm _ _)).length_eq
        simp only [State.unvisited, State.assignWait, ← split, List.length_append]
        omega
      have positive := List.length_pos_of_ne_nil someDone
      have same : ((state.assignWait done pending).iterate done).table = state.table :=
        State.iterate_table _ done
      apply eventsLeft_lt same
      rw [here]
      simp only [Pc.stepsLeft, unvisited] at iterated ⊢
      omega
  | returnsGather here suspended ready =>
      apply eventsLeft_lt (by rfl)
      rw [here]
      exact Nat.lt_of_le_of_lt (stepsLeft_afterGather_le _ _ _ _)
        (gatherWaits_resume_lt suspended)

-----------------------------------------------------------------------------------------
-- The end of an iteration
-----------------------------------------------------------------------------------------

/-- A settled iteration has ended, as its `gather()` call told it to. -/
theorem Serving.exited_of_settled {awaitables : List ι} {unfailing : Prop}
    {state : State ι ε α} (serving : Serving awaitables unfailing state)
    (settled : Settled state)
    : ∃ ended,
        Gather.OutcomeLaw False (state.allFutures.map state.table) ended
        ∧ state.pc = afterGather false .broke (.exited ended)
        ∧ state.visits.Perm awaitables
        ∧ state.allFutures.Perm (state.visits.map .future)
        ∧ state.YieldedBefore [] := by
  obtain ⟨sound, stage⟩ := serving
  cases stage with
  | unstarted here yielded =>
      have blocked := settled.blocked .next (by simp) (by simp)
      simp [step, here] at blocked
  | yielding rest here yielded =>
      have blocked := settled.blocked .next (by simp) (by simp)
      simp [step, here] at blocked
  | waiting here yielded nonempty =>
      obtain ⟨item, member⟩ := List.exists_mem_of_ne_nil _ nonempty
      have created : .future item ∈ state.allFutures := by
        rw [sound.partition.created.mem_iff]
        exact List.mem_map_of_mem (List.mem_append_right _ member)
      have done : item ∈ doneTasks state.pendingFutures state.futures :=
        List.mem_filter.mpr ⟨member, settled.done _ created⟩
      have blocked := settled.blocked
        (.waitReturns (doneTasks state.pendingFutures state.futures)
          (pendingTasks state.pendingFutures state.futures)) (by simp) (by simp)
      simp [step, here, List.ne_nil_of_mem done] at blocked
  | finishing finishing =>
      obtain ⟨yielded, nonePending, leaving⟩ := finishing
      obtain ⟨ended, law, exited⟩ := leaving.exited_of_settled settled
      have parts := sound.partition.parts
      have created := sound.partition.created
      rw [nonePending, List.append_nil] at created
      rw [nonePending, leaving.exhausted, List.append_nil, List.append_nil] at parts
      exact ⟨ended, law, sound.uncancelled ▸ exited, parts, created, yielded⟩

/-- An iterator that was iterated to its end: it was neither closed nor cancelled, and no
awaitable was.
-/
structure Iteration (maxConcurrentCount : Option Nat) (sensitive : Bool) (awaitables : List ι)
    (table : TaskTable (Created ι) ε α) (events : List (Event ι ε α)) (final : State ι ε α)
    : Prop where
  distinct : awaitables.Nodup
  admits : maxConcurrentCount ≠ some 0
  unclosed : .close ∉ events
  uncancelled : ∀ message, .cancelCaller message ∉ events
  noneCancelled : ∀ item ∈ awaitables, table (.future item) ≠ .cancelled
  noneEndsCancelled : ∀ created, .complete created .cancelled ∉ events
  reached
    : Transition.run step (.initial maxConcurrentCount sensitive awaitables table) events
      = some final

/-- No awaitable fails, before the iterator takes it or after. -/
def NoneFails (awaitables : List ι) (table : TaskTable (Created ι) ε α)
    (events : List (Event ι ε α))
    : Prop :=
  (∀ item ∈ awaitables, ∀ error, table (.future item) ≠ .exception error)
  ∧ ∀ created error, .complete created (.exception error) ∉ events

/-- What an iterator owes its consumer: the results of exactly the awaitables that succeeded,
once each and in the order of the waits that returned them as done, and then the exceptions of
exactly those that failed, if any.
-/
structure Delivered (awaitables : List ι) (final : State ι ε α) : Prop where
  results : final.yielded.Perm (final.results awaitables)
  rounds : final.yielded = final.results final.rounds.flatten
  once : final.rounds.flatten.Perm awaitables
  succeeded
    : (∀ item ∈ awaitables, ∀ error, final.futures item ≠ .exception error)
      → final.pc = .exited (.returned ())
  failed
    : (∃ item ∈ awaitables, ∃ error, final.futures item = .exception error)
      → ∃ exceptions,
          final.pc = .exited (.raised (.group exceptions))
          ∧ exceptions.Perm (awaitables.filterMap (fun item => (final.futures item).exception?))

/-- A settled iteration has delivered what it owes. -/
theorem Serving.delivered_of_settled {awaitables : List ι} {unfailing : Prop}
    {state : State ι ε α} (serving : Serving awaitables unfailing state)
    (settled : Settled state)
    : Delivered awaitables state := by
  obtain ⟨ended, law, exited, once, created, visited, visits, yielded⟩ :=
    serving.exited_of_settled settled
  have states : (state.allFutures.map state.table).Perm (awaitables.map state.futures) := by
    have visitStates := created.map state.table
    rw [List.map_map] at visitStates
    exact visitStates.trans (once.map state.futures)
  have allVisited : state.yielded = state.results state.visits := by
    rw [yielded, visits, List.append_nil]
  have noneCancelled : .cancelled ∉ state.allFutures.map state.table := by
    intro member
    obtain ⟨item, known, found⟩ := List.mem_map.mp (states.mem_iff.mp member)
    exact serving.sound.noneCancelled item known found
  refine ⟨?_, allVisited, once, ?_, ?_⟩
  · rw [allVisited]
    exact once.filterMap _
  · intro noneFailed
    have noException : ∀ error, .exception error ∉ state.allFutures.map state.table := by
      intro error member
      obtain ⟨item, known, found⟩ := List.mem_map.mp (states.mem_iff.mp member)
      exact noneFailed item known error found
    obtain ⟨values, returned, _⟩ := law.succeeded noException id noneCancelled
    rw [exited, returned]
    rfl
  · intro someFailed
    obtain ⟨item, known, error, found⟩ := someFailed
    have failed : .exception error ∈ state.allFutures.map state.table :=
      states.mem_iff.mpr (List.mem_map.mpr ⟨item, known, found⟩)
    refine ⟨(state.allFutures.map state.table).filterMap FutureState.exception?, ?_, ?_⟩
    · rw [exited, law.failed ⟨error, failed⟩]
      rfl
    · exact (states.filterMap FutureState.exception?).trans (.of_eq List.filterMap_map)

/-- The iterator is not to stop at a failure, or there is none. -/
def Tolerant (sensitive : Bool) (awaitables : List ι) (table : TaskTable (Created ι) ε α)
    (events : List (Event ι ε α))
    : Prop :=
  sensitive = false ∨ NoneFails awaitables table events

section
variable {maxConcurrentCount : Option Nat} {sensitive : Bool} {awaitables : List ι}
  {table : TaskTable (Created ι) ε α} {events : List (Event ι ε α)} {final : State ι ε α}

/-- The invariant holds before the first step of the iterator. -/
theorem Iteration.serving
    (iteration : Iteration maxConcurrentCount sensitive awaitables table events final)
    (tolerant : Tolerant sensitive awaitables table events)
    : Serving awaitables (sensitive = true)
        (.initial maxConcurrentCount sensitive awaitables table : State ι ε α) := by
  refine ⟨⟨iteration.admits, rfl, ⟨iteration.distinct, .refl _, .nil⟩, ?_,
    iteration.noneCancelled, ?_⟩, .unstarted rfl ⟨[], rfl, rfl⟩⟩
  · intro item visited
    cases visited
  · cases sensitive with
    | false => exact Or.inl rfl
    | true =>
        rcases tolerant with insensitive | noneFails
        · contradiction
        · exact Or.inr ⟨rfl, noneFails.1⟩

/-- Every event of an iteration is one that keeps the invariant. -/
theorem Iteration.iterates
    (iteration : Iteration maxConcurrentCount sensitive awaitables table events final)
    (tolerant : Tolerant sensitive awaitables table events)
    : ∀ event ∈ events, event.Iterates (sensitive = true) := by
  intro event member
  refine ⟨?_, ?_, ?_, ?_⟩
  · exact fun same => iteration.unclosed (same ▸ member)
  · exact fun message same => iteration.uncancelled message (same ▸ member)
  · exact fun created same => iteration.noneEndsCancelled created (same ▸ member)
  · intro isSensitive created error same
    rcases tolerant with insensitive | noneFails
    · simp [isSensitive] at insensitive
    · exact noneFails.2 created error (same ▸ member)

/-- An iteration is at most three events for each awaitable long, and two more. -/
theorem Iteration.length_le
    (iteration : Iteration maxConcurrentCount sensitive awaitables table events final)
    (tolerant : Tolerant sensitive awaitables table events)
    : events.length ≤ 3 * awaitables.length + 2 := by
  have iterates := iteration.iterates tolerant
  have bound := Transition.run_length_le (State.eventsLeft awaitables)
    (fun state event member next serving => step_serving serving (iterates event member))
    (fun state event member next serving => step_eventsLeft_lt serving (iterates event member))
    (iteration.serving tolerant) iteration.reached
  have pending := List.length_filter_le (fun item => !(table (.future item)).done) awaitables
  simp only [State.eventsLeft, pendingTasks, State.initial, State.futures, Pc.stepsLeft,
    State.unvisited, List.length_nil] at bound pending
  omega

/-- A settled iteration has delivered what it owes. -/
theorem Iteration.delivered
    (iteration : Iteration maxConcurrentCount sensitive awaitables table events final)
    (tolerant : Tolerant sensitive awaitables table events) (settled : Settled final)
    : Delivered awaitables final := by
  have iterates := iteration.iterates tolerant
  have served := Transition.run_preserves_of_mem
    (fun state event member next serving => step_serving serving (iterates event member))
    (iteration.serving tolerant) iteration.reached
  exact served.delivered_of_settled settled

/-- `amass()` keeps its bound under every iteration. If it is not to stop at a failure, or none
occurs, the iteration ends, with every result delivered once.
-/
theorem amass_delivers
    (iteration : Iteration maxConcurrentCount sensitive awaitables table events final)
    : (∀ visited state,
        visited.IsPrefix events
        → Transition.run step (.initial maxConcurrentCount sensitive awaitables table) visited
          = some state
        → ∀ count, maxConcurrentCount = some count → state.pendingFutures.length ≤ count)
      ∧ (sensitive = false ∨ NoneFails awaitables table events
        → events.length ≤ 3 * awaitables.length + 2
          ∧ (Settled final → Delivered awaitables final)) := by
  constructor
  · intro visited state _ reached
    exact (run_bounded reached).length_le
  · intro tolerant
    exact ⟨iteration.length_le tolerant, iteration.delivered tolerant⟩

end

/-- Three awaitables, two at a time, of which the second fails. -/
theorem amass_delivers_oneFailed
    : ∃ final : State Nat String Nat,
        final.yielded = [10, 12]
        ∧ final.pc = .exited (.raised (.group ["refused"]))
        ∧ Delivered [0, 1, 2] final := by
  have ⟨final, reached, yielded, exited, exhausted, done⟩
      : ∃ final : State Nat String Nat,
          Transition.run step (.initial (some 2) false [0, 1, 2] (fun _ => .pending))
              [.next, .complete (.future 1) (.exception "refused"),
                .complete (.future 0) (.success 10), .waitReturns [1, 0] [], .next,
                .complete (.future 2) (.success 12), .waitReturns [2] [], .next, .gatherReturns]
            = some final
          ∧ final.yielded = [10, 12]
          ∧ final.pc = .exited (.raised (.group ["refused"]))
          ∧ final.awaitablesIter = []
          ∧ ∀ created ∈ final.allFutures, (final.table created).done = true :=
    ⟨_, rfl, rfl, rfl, rfl, by decide⟩
  refine ⟨final, yielded, exited, ?_⟩
  exact ((amass_delivers ⟨by decide, by decide, by decide, by simp, by simp, by simp, reached⟩).2
    (Or.inl rfl)).2 (settled_of_exited exited exhausted done)

end Aiodrive.Amass
