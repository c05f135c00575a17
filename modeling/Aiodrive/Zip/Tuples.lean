import Aiodrive.Gather.Outcome
import Aiodrive.Zip.Model
import Mathlib.Order.Bounds.Defs

/-! What `zip_concurrently()` yields, and how it ends: the tuples are those of the zip, and the end
of a source leaves the generator as a member of an exception group, so that the consumer's loop
never ends normally.
-/

namespace Aiodrive.Zip

open Stream' (Seq)

variable {n : Nat} {α : Type*}

/-- The items of all sources at an index. -/
def tuple (sources : Fin n → Seq α) (index : Nat) : List α :=
  (List.finRange n).filterMap (fun iterator => (sources iterator).get? index)

/-- The first tuples of the zip. -/
def tuples (sources : Fin n → Seq α) (count : Nat) : List (List α) :=
  (List.range count).map (tuple sources)

/-- No source has ended before an index. -/
def AllReach (sources : Fin n → Seq α) (count : Nat) : Prop :=
  ∀ index < count, ∀ iterator, (sources iterator).get? index ≠ none

theorem answer_eq_success_iff {source : Seq α} {index : Nat} {item : α}
    : answer source index = .success item ↔ source.get? index = some item := by
  unfold answer
  split <;> simp_all

theorem answer_eq_exception_iff {source : Seq α} {index : Nat} {failure : Failure}
    : answer source index = .exception failure ↔ source.get? index = none := by
  cases failure
  unfold answer
  split <;> simp_all

theorem answer_done (source : Seq α) (index : Nat) : (answer source index).done = true := by
  unfold answer
  split <;> rfl

theorem answer_ne_cancelled (source : Seq α) (index : Nat)
    : answer source index ≠ .cancelled := by
  unfold answer
  split <;> simp

-----------------------------------------------------------------------------------------
-- One round of queries
-----------------------------------------------------------------------------------------

/-- The present `gather()`: each query is answered or cut short, and requests are only made where
some source has ended.
-/
structure Gathers (sources : Fin n → Seq α) (round : Nat) (gather : Gather.State (Fin n) Failure α)
    : Prop where
  reached
    : ∃ events,
        Transition.run Gather.step (.initial true (List.finRange n) (fun _ => .pending)) events
          = some gather
        ∧ ∀ message, .cancelCaller message ∉ events
  answered
    : ∀ iterator,
        gather.table iterator = .pending
        ∨ gather.table iterator = .cancelled
        ∨ gather.table iterator = answer (sources iterator) round
  cutShort
    : gather.requests ≠ [] ∨ (∃ iterator, gather.table iterator = .cancelled)
      → ∃ iterator, gather.table iterator = .exception .stopAsyncIteration

theorem initial_gathers (sources : Fin n → Seq α) (round : Nat)
    : Gathers sources round (.initial true (List.finRange n) (fun _ => .pending)) := by
  refine ⟨⟨[], rfl, by simp⟩, fun _ => .inl rfl, ?_⟩
  rintro (some | ⟨iterator, cancelled⟩)
  · exact absurd rfl some
  · cases cancelled

theorem Gathers.tasks {sources : Fin n → Seq α} {round : Nat}
    {gather : Gather.State (Fin n) Failure α} (gathers : Gathers sources round gather)
    : gather.tasks = List.finRange n := by
  obtain ⟨events, reached, -⟩ := gathers.reached
  exact (Gather.run_agrees reached).1

/-- A step of `gather()` that is not a cancellation of its caller keeps the round, where a query
ends by its answer, or by a request.
-/
theorem Gathers.step {sources : Fin n → Seq α} {round : Nat}
    {gather next : Gather.State (Fin n) Failure α} (gathers : Gathers sources round gather)
    {event : Gather.Event (Fin n) Failure α}
    (quiet : ∀ message, event ≠ .cancelCaller message)
    (lawful
      : ∀ iterator ended,
          event = .complete iterator ended
          → ended = answer (sources iterator) round
            ∨ (ended = .cancelled ∧ gather.requests ≠ []))
    (stepped : Gather.step gather event = some next)
    : Gathers sources round next := by
  have tasks := gathers.tasks
  obtain ⟨⟨events, reached, undelivered⟩, answered, cutShort⟩ := gathers
  have later : ∃ events,
      Transition.run Gather.step (.initial true (List.finRange n) (fun _ => .pending)) events
        = some next
      ∧ ∀ message, .cancelCaller message ∉ events := by
    refine ⟨events ++ [event], ?_, ?_⟩
    · exact Transition.run_concat reached stepped
    · intro message member
      rcases List.mem_append.mp member with earlier | last
      · exact undelivered message earlier
      · exact quiet message (List.mem_singleton.mp last).symm
  cases Gather.move_of_step stepped with
  | completes completed =>
      rename_i iterator ended table
      have ending := lawful iterator ended rfl
      refine ⟨later, fun other => ?_, fun reason => ?_⟩
      · rcases complete_cases completed other with kept | ⟨rfl, set⟩
        · simpa only [kept] using answered other
        · rcases ending with answer | ⟨cancelled, -⟩
          · exact .inr (.inr (set.trans answer))
          · exact .inr (.inl (set.trans cancelled))
      · have before : ∃ other, gather.table other = .exception .stopAsyncIteration := by
          refine cutShort ?_
          rcases reason with some | ⟨other, cancelled⟩
          · exact .inl some
          · rcases complete_cases completed other with kept | ⟨rfl, set⟩
            · exact .inr ⟨other, kept ▸ cancelled⟩
            · rcases ending with answer | ⟨-, some⟩
              · refine absurd ?_ (answer_ne_cancelled (sources other) round)
                exact answer.symm.trans (set.symm.trans cancelled)
              · exact .inl some
        obtain ⟨other, failed⟩ := before
        exact ⟨other, (complete_of_done completed (by simp [failed])).trans failed⟩
  | interruptsFirst waits => exact absurd rfl (quiet _)
  | absorbs waits => exact absurd rfl (quiet _)
  | forwards waits => exact absurd rfl (quiet _)
  | firstReturns waits ready =>
      refine ⟨later, answered, fun reason => ?_⟩
      cases failed : Gather.anyFailed gather.tasks gather.table with
      | false => exact cutShort (by simpa [failed] using reason)
      | true =>
          obtain ⟨iterator, -, how⟩ := List.any_eq_true.mp failed
          rcases Bool.or_eq_true_iff.mp how with cancelled | raised
          · exact cutShort (.inr ⟨iterator, FutureState.isCancelled_iff.mp cancelled⟩)
          · obtain ⟨failure, found⟩ := Option.isSome_iff_exists.mp raised
            refine ⟨iterator, ?_⟩
            show gather.table iterator = _
            cases state : gather.table iterator with
            | exception failure =>
                cases failure
                rfl
            | cancelled | pending | success item => simp [state, FutureState.exception?] at found
  | finishes waits ready => exact ⟨later, answered, cutShort⟩

/-- What the end of the present `gather()` says of the sources, and what is yielded. -/
structure RoundEnds (sources : Fin n → Seq α) (round : Nat)
    (gather : Gather.State (Fin n) Failure α) (outcome : Outcome Failure (List α)) : Prop where
  done : ∀ iterator, (gather.table iterator).done = true
  outcome
    : (outcome = .returned (tuple sources round)
        ∧ ∀ iterator, (sources iterator).get? round ≠ none)
      ∨ (∃ errors, outcome = .raised (.group errors))
        ∧ ∃ iterator, (sources iterator).get? round = none

theorem Gathers.ends {sources : Fin n → Seq α} {round : Nat}
    {gather : Gather.State (Fin n) Failure α} {outcome : Outcome Failure (List α)}
    (gathers : Gathers sources round gather) (exited : gather.pc = .exited outcome)
    : RoundEnds sources round gather outcome := by
  obtain ⟨⟨events, reached, undelivered⟩, answered, cutShort⟩ := gathers
  obtain ⟨done, law⟩ := Gather.gather_outcome reached exited
  have done : ∀ iterator, (gather.table iterator).done = true := fun iterator =>
    done iterator (List.mem_finRange iterator)
  refine ⟨done, ?_⟩
  by_cases ended : ∃ iterator, gather.table iterator = .exception .stopAsyncIteration
  · obtain ⟨iterator, failed⟩ := ended
    refine .inr ⟨⟨_, law.failed ⟨.stopAsyncIteration, ?_⟩⟩, iterator, ?_⟩
    · exact failed ▸ List.mem_map_of_mem (List.mem_finRange iterator)
    · rcases answered iterator with pending | cancelled | answer
      · cases pending.symm.trans failed
      · cases cancelled.symm.trans failed
      · exact answer_eq_exception_iff.mp (answer.symm.trans failed)
  · -- Without an end, nothing was cut short, and each query was answered by an item
    have success (iterator : Fin n)
        : ∃ item, gather.table iterator = .success item
            ∧ (sources iterator).get? round = some item := by
      rcases answered iterator with pending | cancelled | answer
      · have := done iterator
        simp [pending] at this
      · exact absurd (cutShort (.inr ⟨iterator, cancelled⟩)) ended
      · cases state : gather.table iterator with
        | success item => exact ⟨item, rfl, answer_eq_success_iff.mp (answer.symm.trans state)⟩
        | exception failure =>
            cases failure
            exact absurd ⟨iterator, state⟩ ended
        | cancelled => exact absurd (answer.symm.trans state) (answer_ne_cancelled _ _)
        | pending =>
            have := done iterator
            simp [state] at this
    have other {state : FutureState Failure α}
        (member : state ∈ (List.finRange n).map gather.table)
        : ∃ item, state = .success item := by
      obtain ⟨iterator, -, rfl⟩ := List.mem_map.mp member
      obtain ⟨item, found, -⟩ := success iterator
      exact ⟨item, found⟩
    obtain ⟨values, returned, states⟩ := law.succeeded
      (fun error member => by
        obtain ⟨item, same⟩ := other member
        cases same)
      (fun delivered => by
        obtain ⟨message, member⟩ := delivered
        exact undelivered message member)
      (fun member => by
        obtain ⟨item, same⟩ := other member
        cases same)
    refine .inl ⟨returned.trans (congrArg _ ?_), fun iterator => ?_⟩
    · have items : (List.finRange n).filterMap (fun iterator => (gather.table iterator).result?)
          = tuple sources round := by
        refine List.filterMap_congr fun iterator _ => ?_
        obtain ⟨item, state, found⟩ := success iterator
        rw [state, found]
        rfl
      have collected := congrArg (List.filterMap FutureState.result?) states
      rw [List.filterMap_map, List.filterMap_map] at collected
      rw [← items]
      exact (collected.trans List.filterMap_some).symm
    · obtain ⟨item, -, found⟩ := success iterator
      simp [found]

-----------------------------------------------------------------------------------------
-- Whole iterations
-----------------------------------------------------------------------------------------

/-- The end of the iteration: `StopAsyncIteration` in a group. -/
def stopGroup : Finish := .raised (.group [.stopAsyncIteration])

/-- What holds of every iteration. -/
structure Sound (sources : Fin n → Seq α) (state : State n α) : Prop where
  reach : AllReach sources state.round
  querying
    : state.place = .querying
      → Gathers sources state.round state.gather ∧ state.yielded = tuples sources state.round
  yielding
    : state.place = .yielding
      → AllReach sources (state.round + 1)
        ∧ state.yielded = tuples sources (state.round + 1)
  finished
    : ∀ finish,
        state.place = .finished finish
        → finish = stopGroup
          ∧ state.yielded = tuples sources state.round
          ∧ (∃ iterator, (sources iterator).get? state.round = none)
          ∧ ∀ iterator, (state.gather.table iterator).done = true

theorem tuples_succ (sources : Fin n → Seq α) (count : Nat)
    : tuples sources (count + 1) = tuples sources count ++ [tuple sources count] := by
  simp [tuples, List.range_succ]

theorem AllReach.succ {sources : Fin n → Seq α} {count : Nat} (reach : AllReach sources count)
    (next : ∀ iterator, (sources iterator).get? count ≠ none)
    : AllReach sources (count + 1) := by
  intro index below iterator
  rcases Nat.lt_succ_iff_lt_or_eq.mp below with earlier | rfl
  · exact reach index earlier iterator
  · exact next iterator

/-- The generator goes on from a `gather()` as its round tells. -/
theorem settle_sound {sources : Fin n → Seq α} {state : State n α}
    (reach : AllReach sources state.round)
    (gathers : Gathers sources state.round state.gather)
    (yielded : state.yielded = tuples sources state.round)
    : Sound sources state.settle := by
  unfold State.settle
  split
  · rename_i items exited
    obtain ⟨-, ⟨returned, next⟩ | ⟨⟨errors, raised⟩, -⟩⟩ := gathers.ends exited
    · obtain rfl := Outcome.returned.inj returned
      refine ⟨reach, by simp, fun _ => ⟨reach.succ next, ?_⟩, by simp⟩
      simp only [yielded, tuples_succ]
    · cases raised
  · rename_i error exited
    obtain ⟨done, ⟨returned, -⟩ | ⟨⟨errors, raised⟩, ended⟩⟩ := gathers.ends exited
    · cases returned
    · obtain rfl := Outcome.raised.inj raised
      refine ⟨reach, by simp, by simp, fun finish here => ?_⟩
      exact ⟨(Place.finished.inj here).symm, yielded, ended, done⟩
  · exact ⟨reach, fun _ => ⟨gathers, yielded⟩, by simp, by simp⟩
  · exact ⟨reach, fun _ => ⟨gathers, yielded⟩, by simp, by simp⟩

theorem initial_sound (sources : Fin n → Seq α) : Sound sources (State.initial : State n α) :=
  settle_sound (fun _ below => absurd below (Nat.not_lt_zero _)) (initial_gathers sources 0) rfl

theorem gatherStep_sound {sources : Fin n → Seq α} {state next : State n α}
    (sound : Sound sources state) {event : Gather.Event (Fin n) Failure α}
    (quiet : ∀ message, event ≠ .cancelCaller message)
    (lawful
      : ∀ iterator ended,
          event = .complete iterator ended
          → ended = answer (sources iterator) state.round
            ∨ (ended = .cancelled ∧ state.gather.requests ≠ []))
    (stepped : state.gatherStep event = some next)
    : Sound sources next := by
  unfold State.gatherStep at stepped
  split at stepped
  · rename_i here
    obtain ⟨gather, gatherStepped, rfl⟩ := Option.map_eq_some_iff.mp stepped
    obtain ⟨gathers, yielded⟩ := sound.querying here
    exact settle_sound sound.reach (gathers.step quiet lawful gatherStepped) yielded
  · cases stepped
  · cases stepped

theorem step_sound {sources : Fin n → Seq α} (state : State n α) (event : Event n)
    (next : State n α) (sound : Sound sources state)
    (stepped : step sources state event = some next)
    : Sound sources next := by
  cases event with
  | answers iterator =>
      refine gatherStep_sound sound (by simp) ?_ stepped
      rintro other ended same
      cases same
      exact .inl rfl
  | cancelled iterator =>
      simp only [step, Option.ite_none_right_eq_some] at stepped
      obtain ⟨requested, stepped⟩ := stepped
      obtain ⟨request, member, -⟩ := List.any_eq_true.mp requested
      refine gatherStep_sound sound (by simp) ?_ stepped
      rintro other ended same
      cases same
      exact .inr ⟨rfl, List.ne_nil_of_mem member⟩
  | waitReturns =>
      exact gatherStep_sound sound (by simp) (by simp) stepped
  | asks =>
      simp only [step] at stepped
      split at stepped
      · rename_i here
        obtain rfl := Option.some.inj stepped
        obtain ⟨reach, yielded⟩ := sound.yielding here
        exact settle_sound reach (initial_gathers sources _) yielded
      · cases stepped
      · cases stepped

/-- An iteration that comes to its end has yielded the tuples of the zip up to the end of the
shortest source, leaves no query running, and ends by the group.
-/
theorem zip_ends {sources : Fin n → Seq α} {events : List (Event n)} {final : State n α}
    {finish : Finish} (reached : Transition.run (step sources) .initial events = some final)
    (finished : final.place = .finished finish)
    : finish = stopGroup
      ∧ (∀ iterator, (final.gather.table iterator).done = true)
      ∧ ∃ count,
          IsLeast {index | ∃ iterator, (sources iterator).get? index = none} count
          ∧ final.yielded = tuples sources count := by
  have sound := Transition.run_preserves (P := Sound sources) step_sound (initial_sound sources)
    reached
  obtain ⟨how, yielded, ended, done⟩ := sound.finished finish finished
  refine ⟨how, done, final.round, ⟨ended, fun index => ?_⟩, yielded⟩
  rintro ⟨iterator, none⟩
  by_contra earlier
  exact sound.reach index (Nat.lt_of_not_le earlier) iterator none

-----------------------------------------------------------------------------------------
-- Iterations that come to their end
-----------------------------------------------------------------------------------------

/-- An iteration with other states of its queries. -/
def State.withTable (state : State n α) (table : TaskTable (Fin n) Failure α) : State n α :=
  { state with gather := { state.gather with table } }

/-- All queries in a list are answered in turn, by induction on the list. -/
theorem run_answers (sources : Fin n → Seq α) (pending : List (Fin n)) (nodup : pending.Nodup)
    {state : State n α} (here : state.place = .querying) (waits : state.gather.pc = .firstWait)
    (unanswered : ∀ iterator ∈ pending, state.gather.table iterator = .pending)
    : ∃ table,
        Transition.run (step sources) state (pending.map .answers) = some (state.withTable table)
        ∧ ∀ iterator ∈ pending, (table iterator).done = true := by
  suffices kept : ∃ table,
      Transition.run (step sources) state (pending.map .answers) = some (state.withTable table)
      ∧ (∀ iterator ∈ pending, (table iterator).done = true)
      ∧ ∀ iterator ∉ pending, table iterator = state.gather.table iterator by
    obtain ⟨table, reached, done, -⟩ := kept
    exact ⟨table, reached, done⟩
  induction pending generalizing state with
  | nil => exact ⟨state.gather.table, rfl, by simp, by simp⟩
  | cons first rest ih =>
      obtain ⟨fresh, nodup⟩ := List.nodup_cons.mp nodup
      let middle := state.withTable
        (Function.update state.gather.table first (answer (sources first) state.round))
      have completed := complete_eq_some_iff.mpr
        ⟨unanswered first List.mem_cons_self, answer_done (sources first) state.round, rfl⟩
      have stepped : step sources state (.answers first) = some middle := by
        simp [step, State.gatherStep, here, Gather.step, completed, State.settle, waits, middle,
          State.withTable]
      have others : ∀ iterator ≠ first,
          middle.gather.table iterator = state.gather.table iterator :=
        fun iterator other => Function.update_of_ne other _ _
      have still : ∀ iterator ∈ rest, middle.gather.table iterator = .pending := by
        intro iterator member
        rw [others iterator (fun same => fresh (same ▸ member))]
        exact unanswered iterator (List.mem_cons_of_mem _ member)
      have here : middle.place = .querying := here
      obtain ⟨table, reached, done, kept⟩ := ih nodup here waits still
      refine ⟨table, Transition.run_cons_iff.mpr ⟨middle, stepped, reached⟩, ?_, ?_⟩
      · intro iterator member
        rcases List.mem_cons.mp member with rfl | later
        · rw [kept iterator fresh]
          simp [middle, State.withTable, answer_done]
        · exact done iterator later
      · intro iterator outside
        rw [List.mem_cons, not_or] at outside
        exact (kept iterator outside.2).trans (others iterator outside.1)

/-- A wait that all tasks are done for returns. -/
theorem gatherStep_waitReturns (state : State n α) (here : state.place = .querying)
    {returnWhen : ReturnWhen} (waits : state.gather.pc.returnWhen = some returnWhen)
    (done : ∀ iterator ∈ state.gather.tasks, (state.gather.table iterator).done = true)
    : state.gatherStep .waitReturns
      = some { state with gather := state.gather.resumeWith .returned }.settle := by
  simp [State.gatherStep, here, Gather.step, waits, Gather.ready_of_done waits done]

/-- The generator yields, or ends, with its `gather()`. -/
theorem settle_place {state : State n α} {outcome : Outcome Failure (List α)}
    (exited : state.gather.pc = .exited outcome)
    : state.settle.place = .yielding ∨ ∃ finish, state.settle.place = .finished finish := by
  cases outcome with
  | returned items => exact .inl (by simp [State.settle, exited])
  | raised error => exact .inr ⟨.ofRaised (exceptStar error), by simp [State.settle, exited]⟩

@[simp] theorem settle_round (state : State n α) : state.settle.round = state.round := by
  unfold State.settle
  split <;> rfl

/-- A round whose queries are all answered ends, by a tuple or by the end of the iteration. -/
theorem run_round (sources : Fin n → Seq α) (positive : 0 < n) (round : Nat)
    (yielded : List (List α))
    : ∃ events next,
        Transition.run (step sources) (.query round yielded) events = some next
        ∧ next.round = round
        ∧ (next.place = .yielding ∨ ∃ finish, next.place = .finished finish) := by
  have nonempty : (List.finRange n).isEmpty = false := by
    simp only [List.isEmpty_eq_false_iff, ne_eq, List.finRange_eq_nil_iff]
    omega
  let start : State n α :=
    { round
      gather :=
        { tasks := List.finRange n, table := fun _ => .pending, pc := .firstWait, requests := [] }
      place := .querying
      yielded }
  have query : State.query round yielded = start := by
    simp [State.query, Gather.State.initial, Gather.start, nonempty, State.settle, start]
  have here : start.place = .querying := rfl
  obtain ⟨table, reached, done⟩ :=
    run_answers sources (List.finRange n) (List.nodup_finRange n) here rfl
      (fun _ _ => rfl)
  -- Both waits return once every query is answered
  let answered := start.withTable table
  let drained := { answered with gather := answered.gather.resumeWith .returned }
  let final := { drained with gather := drained.gather.resumeWith .returned }.settle
  have firstReturns : step sources answered .waitReturns = some drained :=
    gatherStep_waitReturns answered rfl rfl done
  have secondReturns : step sources drained .waitReturns = some final :=
    gatherStep_waitReturns drained rfl rfl done
  have exited : (drained.gather.resumeWith .returned).pc
      = .exited (Gather.finish (List.finRange n) table false) := rfl
  refine ⟨(List.finRange n).map .answers ++ [.waitReturns, .waitReturns], final, ?_,
    settle_round _, settle_place exited⟩
  rw [query]
  refine Transition.run_append_iff.mpr ⟨answered, reached, ?_⟩
  simp [Transition.run, firstReturns, secondReturns]

/-- A zip of which some source ends comes to its end, from any round that is reached; by induction
on the rounds that are left.
-/
theorem exists_end {sources : Fin n → Seq α} {iterator : Fin n} {index : Nat}
    (ended : (sources iterator).get? index = none) (left round : Nat)
    (bound : index < round + left) (yielded : List (List α))
    (sound : Sound sources (.query round yielded))
    : ∃ events final finish,
        Transition.run (step sources) (.query round yielded) events = some final
        ∧ final.place = .finished finish := by
  induction left generalizing round yielded with
  | zero =>
      have reach := sound.reach index (by simpa [State.query] using bound) iterator
      exact absurd ended reach
  | succ left ih =>
      obtain ⟨events, next, reached, same, place⟩ :=
        run_round sources (Nat.pos_of_ne_zero (fun zero => (zero ▸ iterator).elim0)) round yielded
      rcases place with yielding | ⟨finish, finished⟩
      · have asked : step sources next .asks = some (.query (round + 1) next.yielded) := by
          simp [step, yielding, same]
        have more : Transition.run (step sources) (.query round yielded) (events ++ [.asks])
            = some (.query (round + 1) next.yielded) :=
          Transition.run_concat reached asked
        obtain ⟨later, final, finish, tail, finished⟩ := ih (round + 1) (by omega) next.yielded
          (Transition.run_preserves (P := Sound sources) step_sound sound more)
        exact ⟨(events ++ [.asks]) ++ later, final, finish,
          Transition.run_append_iff.mpr ⟨_, more, tail⟩, finished⟩
      · exact ⟨events, next, finish, reached, finished⟩

/-- The tuples of the zip, a normal end and no query left running, however the queries end. -/
def Zips (sources : Fin n → Seq α) : Prop :=
  ∀ events final finish,
    Transition.run (step sources) .initial events = some final
    → final.place = .finished finish
    → finish = .normal
      ∧ (∀ iterator, (final.gather.table iterator).done = true)
      ∧ ∃ count,
          IsLeast {index | ∃ iterator, (sources iterator).get? index = none} count
          ∧ final.yielded = tuples sources count

/-- Whatever the sources, one of which is finite, the consumer's loop never ends normally: it ends
by the group, after all tuples and with no query left running.
-/
theorem zip_concurrently_never_zips {sources : Fin n → Seq α}
    (finite : ∃ iterator index, (sources iterator).get? index = none)
    : ¬Zips sources
      ∧ ∀ events final finish,
          Transition.run (step sources) .initial events = some final
          → final.place = .finished finish
          → finish = stopGroup
            ∧ (∀ iterator, (final.gather.table iterator).done = true)
            ∧ ∃ count,
                IsLeast {index | ∃ iterator, (sources iterator).get? index = none} count
                ∧ final.yielded = tuples sources count := by
  refine ⟨fun zips => ?_, fun _ _ _ reached finished => zip_ends reached finished⟩
  obtain ⟨iterator, index, ended⟩ := finite
  obtain ⟨events, final, finish, reached, finished⟩ :=
    exists_end ended (index + 1) 0 (by omega) [] (initial_sound sources)
  obtain ⟨normal, -⟩ := zips events final finish reached finished
  obtain ⟨group, -⟩ := zip_ends reached finished
  cases normal.symm.trans group

/-- A source of two items, and one of a single item. -/
def twoSources (iterator : Fin 2) : Seq String :=
  if iterator = 0 then .ofList ["a", "b"] else .ofList ["c"]

/-- The loop past the two sources ends by the group, after one tuple. -/
theorem zip_concurrently_never_zips_twoSources
    : ¬Zips twoSources
      ∧ ∀ events final finish,
          Transition.run (step twoSources) .initial events = some final
          → final.place = .finished finish
          → finish = stopGroup
            ∧ (∀ iterator, (final.gather.table iterator).done = true)
            ∧ final.yielded = [["a", "c"]] := by
  obtain ⟨never, ends⟩ := @zip_concurrently_never_zips _ _ twoSources ⟨1, 1, rfl⟩
  refine ⟨never, fun events final finish reached finished => ?_⟩
  obtain ⟨group, done, count, ⟨⟨iterator, ended⟩, least⟩, yielded⟩ :=
    ends events final finish reached finished
  have upper : count ≤ 1 := least ⟨1, rfl⟩
  have lower : count ≠ 0 := by
    rintro rfl
    by_cases first : iterator = 0 <;> simp [twoSources, first] at ended
  obtain rfl : count = 1 := by omega
  exact ⟨group, done, yielded⟩

/-- The loop over one source without items ends by an exception group. -/
theorem zip_nil_raises
    : ∃ final,
        Transition.run (step (fun _ : Fin 1 => (Seq.nil : Seq String))) .initial
            [.answers 0, .waitReturns, .waitReturns]
          = some final
        ∧ final.place = .finished (.raised (.group [.stopAsyncIteration]))
        ∧ ¬Zips (fun _ : Fin 1 => (Seq.nil : Seq String)) := by
  refine ⟨_, rfl, rfl, fun zips => ?_⟩
  have reached : Transition.run (step (fun _ : Fin 1 => (Seq.nil : Seq String))) .initial
      [.answers 0, .waitReturns, .waitReturns] = some _ := rfl
  obtain ⟨normal, -⟩ := zips _ _ stopGroup reached rfl
  cases normal

end Aiodrive.Zip
