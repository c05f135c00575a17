import Aiodrive.Amass.Leaving

/-! What `aclose()` makes of an `amass()` iterator that is suspended at a `yield`. The futures
that the generator cancels on its way out are collected with `gather()`, which reports a
cancelled future by raising: closing is clean unless a cancelled future is all there is to report.
-/

namespace Aiodrive.Amass

variable {ι ε α : Type*}

/-- The futures that the `finally` block collects if the generator leaves its loop now. -/
def State.collects (state : State ι ε α) : List (Created ι) :=
  state.allFutures ++ state.awaitablesIter.mapIdx .terminate

/-- Some of the futures failed with an exception. -/
def SomeFailed (created : List (Created ι)) (table : TaskTable (Created ι) ε α) : Prop :=
  ∃ future ∈ created, ∃ error, table future = .exception error

/-- None of the futures ended as cancelled. -/
def NoneCancelled (created : List (Created ι)) (table : TaskTable (Created ι) ε α) : Prop :=
  ∀ future ∈ created, table future ≠ .cancelled

variable [DecidableEq ι]

/-- An iterator that is closed while it is suspended at a `yield`, from its call to the `yield`
in the state `first`, through `aclose()`, which leads to `second`, and on until nothing more can
happen. The closing task is never cancelled.
-/
structure ClosedRun (maxConcurrentCount : Option Nat) (sensitive : Bool) (awaitables : List ι)
    (table : TaskTable (Created ι) ε α) (before after : List (Event ι ε α))
    (first second final : State ι ε α)
    : Prop where
  reached
    : Transition.run step (.initial maxConcurrentCount sensitive awaitables table) before
      = some first
  atYield : ∃ rest, first.pc = .yielding rest
  closed : step first .close = some second
  uncancelled : ∀ message, .cancelCaller message ∉ after
  collected : Transition.run step second after = some final
  settled : Settled final

/-- `aclose()` ends, and raises nothing unless a future failed; by then every future that the
generator created is done, those that terminate the awaitables not taken among them.
-/
structure CleanClose (after : List (Event ι ε α)) (first second final : State ι ε α)
    : Prop where
  ends
    : ∃ outcome,
        final.pc = .exited outcome
        ∧ (outcome = .returned () ∨ SomeFailed first.collects final.table)
  collected
    : ∀ visited state outcome,
        visited.IsPrefix after
        → Transition.run step second visited = some state
        → state.pc = .exited outcome
        → ∀ created ∈ state.allFutures, (state.table created).done = true
  terminated
    : ∀ position item,
        first.awaitablesIter[position]? = some item
        → .terminate position item ∈ final.allFutures
          ∧ (final.table (.terminate position item)).done = true

/-- `aclose()` at a `yield` starts the `finally` block. -/
theorem leaving_of_close {first second : State ι ε α} (atYield : ∃ rest, first.pc = .yielding rest)
    (closed : step first .close = some second)
    : Leaving .closed first.collects second := by
  obtain ⟨rest, here⟩ := atYield
  simp only [step, here] at closed
  exact Option.some.inj closed ▸ leave_leaving first .closed

/-- Closing at a `yield` is clean exactly when a future failed or none ended as cancelled. The
futures that `amass()` itself has cancelled make `aclose()` raise a `CancelledError`.
-/
theorem amass_closes_iff {maxConcurrentCount : Option Nat} {sensitive : Bool}
    {awaitables : List ι} {table : TaskTable (Created ι) ε α}
    {before after : List (Event ι ε α)} {first second final : State ι ε α}
    (closedRun
      : ClosedRun maxConcurrentCount sensitive awaitables table before after first second final)
    : CleanClose after first second final
      ↔ SomeFailed first.collects final.table ∨ NoneCancelled first.collects final.table := by
  have started := leaving_of_close closedRun.atYield closedRun.closed
  have leaving := run_leaving started closedRun.uncancelled closedRun.collected
  obtain ⟨ended, law, exited⟩ := leaving.exited_of_settled closedRun.settled
  have noException (noneFailed : ¬SomeFailed first.collects final.table)
      : ∀ error, .exception error ∉ first.collects.map final.table := by
    intro error member
    obtain ⟨created, known, found⟩ := List.mem_map.mp member
    exact noneFailed ⟨created, known, error, found⟩
  constructor
  · intro clean
    by_contra dirty
    obtain ⟨noneFailed, someCancelled⟩ := not_or.mp dirty
    obtain ⟨created, known, cancelled⟩
        : ∃ created ∈ first.collects, final.table created = .cancelled := by
      simpa [NoneCancelled] using someCancelled
    have raised := law.cancelled (noException noneFailed)
      (Or.inr (List.mem_map.mpr ⟨created, known, cancelled⟩))
    obtain ⟨outcome, same, returned | failed⟩ := clean.ends
    · rw [exited, raised, returned] at same
      simp [afterGather] at same
    · exact noneFailed failed
  · intro condition
    refine ⟨?_, ?_, ?_⟩
    · by_cases someFailed : SomeFailed first.collects final.table
      · obtain ⟨created, known, error, found⟩ := someFailed
        have raised := law.failed ⟨error, List.mem_map.mpr ⟨created, known, found⟩⟩
        rw [raised] at exited
        exact ⟨_, exited, Or.inr ⟨created, known, error, found⟩⟩
      · have noneCancelled := condition.resolve_left someFailed
        obtain ⟨values, rfl, _⟩ := law.succeeded (noException someFailed) not_false (by
          intro member
          obtain ⟨created, known, found⟩ := List.mem_map.mp member
          exact noneCancelled created known found)
        exact ⟨.returned (), exited, Or.inl rfl⟩
    · intro visited state outcome earlier reached here
      have going := run_leaving started
        (fun message member => closedRun.uncancelled message (earlier.subset member)) reached
      exact going.created_eq ▸ going.done_of_exited here
    · intro position item found
      obtain ⟨inside, same⟩ := List.getElem?_eq_some_iff.mp found
      have known : .terminate position item ∈ final.allFutures := by
        rw [leaving.created_eq]
        apply List.mem_append_right
        exact List.mem_mapIdx.mpr ⟨position, inside, by rw [same]⟩
      exact ⟨known, closedRun.settled.done _ known⟩

/-- A closed iterator with one awaitable pending, which suppresses its cancellation, and one not
taken yet.
-/
theorem amass_closes_suppressedCancellation
    : ∃ first second final : State Nat String Nat,
        first.pc = .yielding []
        ∧ first.pendingFutures = [1]
        ∧ final.pc = .exited (.returned ())
        ∧ CleanClose
            [.complete (.future 1) (.success 11), .complete (.terminate 0 2) (.success 0),
              .gatherReturns]
            first second final := by
  have ⟨first, second, final, reached, here, pending, closed, collected, exited, exhausted, done,
      noneCancelled⟩
      : ∃ first second final : State Nat String Nat,
          Transition.run step (.initial (some 2) true [0, 1, 2] (fun _ => .pending))
              [.next, .complete (.future 0) (.success 10), .waitReturns [0] [1]]
            = some first
          ∧ first.pc = .yielding []
          ∧ first.pendingFutures = [1]
          ∧ step first .close = some second
          ∧ Transition.run step second
              [.complete (.future 1) (.success 11), .complete (.terminate 0 2) (.success 0),
                .gatherReturns]
            = some final
          ∧ final.pc = .exited (.returned ())
          ∧ final.awaitablesIter = []
          ∧ (∀ created ∈ final.allFutures, (final.table created).done = true)
          ∧ ∀ created ∈ first.collects, final.table created ≠ .cancelled :=
    ⟨_, _, _, rfl, rfl, rfl, rfl, rfl, rfl, rfl, by decide, by decide⟩
  refine ⟨first, second, final, here, pending, exited, ?_⟩
  exact (amass_closes_iff ⟨reached, ⟨[], here⟩, closed, by simp, collected,
    settled_of_exited exited exhausted done⟩).mpr (Or.inr noneCancelled)

/-- One result is taken and the iterator closed. The other awaitable ends as cancelled when
`amass()` asks it to, and `aclose()` raises `CancelledError` in a task that nobody cancelled.
-/
theorem amass_close_raises_cancelledError
    : ∃ first second final : State Nat String Nat,
        Transition.run step (.initial none true [0, 1] (fun _ => .pending))
            [.next, .complete (.future 0) (.success 10), .waitReturns [0] [1]]
          = some first
        ∧ first.pc = .yielding []
        ∧ first.pendingFutures = [1]
        ∧ step first .close = some second
        ∧ Transition.run step second [.complete (.future 1) .cancelled, .gatherReturns]
          = some final
        ∧ (∀ created ∈ final.allFutures, (final.table created).exception? = none)
        ∧ final.pc = .exited (.raised .cancelledError) :=
  ⟨_, _, _, rfl, rfl, rfl, rfl, rfl, by decide, rfl⟩

end Aiodrive.Amass
