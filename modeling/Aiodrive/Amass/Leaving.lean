import Aiodrive.Amass.Moves

/-! The `finally` block of `amass()`, however the generator came to it: it ends as its
`gather()` call tells it to, on all the futures that the generator created.
-/

namespace Aiodrive.Amass

variable {ι ε α : Type*}

/-- A `gather()` call that is still waiting is awaited. -/
theorem afterGather_of_waiting {cancelled : Bool} {ending : Ending} {gather : Gather.Pc ε α}
    {returnWhen : ReturnWhen} (suspended : gather.returnWhen = some returnWhen)
    : (afterGather cancelled ending gather : Pc ι ε α) = .closing ending gather := by
  cases gather with
  | firstWait => rfl
  | loopWait cancelled failed => rfl
  | exited outcome => simp [Gather.Pc.returnWhen] at suspended

/-- The end of the loop leads to the wait of `gather()`, or past it. -/
theorem afterGather_cases (cancelled : Bool) (ending : Ending) (gather : Gather.Pc ε α)
    : (afterGather cancelled ending gather : Pc ι ε α) = .closing ending gather
      ∨ ∃ outcome, (afterGather cancelled ending gather : Pc ι ε α) = .exited outcome := by
  cases gather with
  | firstWait => exact Or.inl rfl
  | loopWait cancelled failed => exact Or.inl rfl
  | exited outcome => cases outcome <;> exact Or.inr ⟨_, rfl⟩

/-- The generator has left its `try` block, with nothing left to take. It awaits a `gather()`
call that no cancellation was delivered to, or has ended as that call tells it to.
-/
structure Leaving (ending : Ending) (created : List (Created ι)) (state : State ι ε α)
    : Prop where
  created_eq : state.allFutures = created
  exhausted : state.awaitablesIter = []
  follows
    : ∃ gather : Gather.Pc ε α,
        gather.Agrees False state.allFutures state.table
        ∧ state.pc = afterGather state.cancelled ending gather

/-- The `finally` block starts with one future for each awaitable that was not taken. -/
theorem leave_leaving (state : State ι ε α) (ending : Ending)
    : Leaving ending (state.allFutures ++ state.awaitablesIter.mapIdx .terminate)
        (state.leave ending) :=
  ⟨rfl, rfl, _, Gather.start_agrees false _ _, rfl⟩

/-- A generator that has left its loop waits for its `gather()` call or has ended. -/
theorem Leaving.pc_cases {ending : Ending} {created : List (Created ι)} {state : State ι ε α}
    (leaving : Leaving ending created state)
    : (∃ gather,
          state.pc = .closing ending gather
          ∧ gather.Agrees False state.allFutures state.table)
      ∨ ∃ outcome, state.pc = .exited outcome := by
  obtain ⟨gather, agrees, here⟩ := leaving.follows
  rcases afterGather_cases (ι := ι) state.cancelled ending gather with closing | ⟨outcome, exited⟩
  · exact Or.inl ⟨gather, here.trans closing, agrees⟩
  · exact Or.inr ⟨outcome, here.trans exited⟩

/-- A generator that has left its loop is not in it. -/
theorem Leaving.outside {ending : Ending} {created : List (Created ι)} {state : State ι ε α}
    (leaving : Leaving ending created state)
    : state.pc ≠ .unstarted ∧ state.pc ≠ .waiting ∧ ∀ rest, state.pc ≠ .yielding rest := by
  rcases leaving.pc_cases with ⟨gather, here, _⟩ | ⟨outcome, here⟩
  · simp [here]
  · simp [here]

/-- The `gather()` call that is awaited is the one of the block. -/
theorem Leaving.agrees_of_closing {ending other : Ending} {created : List (Created ι)}
    {state : State ι ε α} {gather : Gather.Pc ε α} (leaving : Leaving ending created state)
    (here : state.pc = .closing other gather)
    : other = ending ∧ gather.Agrees False state.allFutures state.table := by
  rcases leaving.pc_cases with ⟨awaited, closing, agrees⟩ | ⟨outcome, exited⟩
  · obtain ⟨rfl, rfl⟩ := Pc.closing.inj (here.symm.trans closing)
    exact ⟨rfl, agrees⟩
  · simp [here] at exited

/-- Once the block has ended, every future that the generator created is done. -/
theorem Leaving.done_of_exited {ending : Ending} {created : List (Created ι)}
    {state : State ι ε α} {outcome : Outcome ε Unit} (leaving : Leaving ending created state)
    (exited : state.pc = .exited outcome)
    : ∀ future ∈ created, (state.table future).done = true := by
  obtain ⟨created_eq, _, gather, agrees, here⟩ := leaving
  rw [← created_eq]
  cases gather with
  | firstWait => simp [here, afterGather] at exited
  | loopWait cancelled failed => simp [here, afterGather] at exited
  | exited ended => exact agrees.1

variable [DecidableEq ι]

/-- Every step of the block that delivers no cancellation goes on with it. -/
theorem step_leaving {ending : Ending} {created : List (Created ι)} {state next : State ι ε α}
    {event : Event ι ε α} (leaving : Leaving ending created state)
    (uncancelled : ∀ message, event ≠ .cancelCaller message)
    (stepped : step state event = some next)
    : Leaving ending created next := by
  have ⟨created_eq, exhausted, gather, agrees, follows⟩ := leaving
  cases move_of_step stepped with
  | starts here => exact (leaving.outside.1 here).elim
  | continues here => exact (leaving.outside.2.2 _ here).elim
  | closesUnstarted here => exact (leaving.outside.1 here).elim
  | closes here => exact (leaving.outside.2.2 _ here).elim
  | returnsWait here => exact (leaving.outside.2.1 here).elim
  | cancelsWait here => exact (uncancelled _ rfl).elim
  | cancelsGather here => exact (uncancelled _ rfl).elim
  | completes known completed =>
      exact ⟨created_eq, exhausted, gather, agrees.complete completed, follows⟩
  | returnsGather here suspended ready =>
      obtain ⟨rfl, agrees⟩ := leaving.agrees_of_closing here
      exact ⟨created_eq, exhausted, _, Gather.resume_returned_agrees agrees suspended ready, rfl⟩

/-- Every run of the block that delivers no cancellation goes on with it. -/
theorem run_leaving {ending : Ending} {created : List (Created ι)} {state final : State ι ε α}
    {events : List (Event ι ε α)} (leaving : Leaving ending created state)
    (uncancelled : ∀ message, .cancelCaller message ∉ events)
    (reached : Transition.run step state events = some final)
    : Leaving ending created final :=
  Transition.run_preserves_of_mem
    (fun _ _ member _ leaving => step_leaving leaving
      (fun message same => uncancelled message (same ▸ member)))
    leaving reached

-----------------------------------------------------------------------------------------
-- Settled iterators
-----------------------------------------------------------------------------------------

/-- Nothing but a cancellation of the consumer, or its closing the iterator, can happen. -/
def Settled (state : State ι ε α) : Prop :=
  ∀ event,
    event = .close ∨ (∃ message, event = .cancelCaller message) ∨ step state event = none

/-- In a settled state every other event is blocked. -/
theorem Settled.blocked {state : State ι ε α} (settled : Settled state) (event : Event ι ε α)
    (unclosed : event ≠ .close) (uncancelled : ∀ message, event ≠ .cancelCaller message)
    : step state event = none := by
  rcases settled event with closed | ⟨message, cancelled⟩ | blocked
  · exact (unclosed closed).elim
  · exact (uncancelled message cancelled).elim
  · exact blocked

/-- In a settled state every future created is done. -/
theorem Settled.done {state : State ι ε α} (settled : Settled state)
    : ∀ created ∈ state.allFutures, (state.table created).done = true := by
  intro created member
  have known : state.Exists created := by
    cases created with
    | future item => exact Or.inl member
    | terminate position item => exact member
  have blocked := settled.blocked (.complete created .cancelled) (by simp) (by simp)
  by_contra notDone
  simp [step, known, complete, notDone] at blocked

/-- A settled block has ended, as its `gather()` call told it to. -/
theorem Leaving.exited_of_settled {ending : Ending} {created : List (Created ι)}
    {state : State ι ε α} (leaving : Leaving ending created state) (settled : Settled state)
    : ∃ ended,
        Gather.OutcomeLaw False (created.map state.table) ended
        ∧ state.pc = afterGather state.cancelled ending (.exited ended) := by
  have done := settled.done
  obtain ⟨created_eq, _, gather, agrees, here⟩ := leaving
  rw [created_eq] at done agrees
  cases suspended : gather.returnWhen with
  | none =>
      cases gather with
      | firstWait => simp [Gather.Pc.returnWhen] at suspended
      | loopWait cancelled failed => simp [Gather.Pc.returnWhen] at suspended
      | exited ended => exact ⟨ended, agrees.2, here⟩
  | some returnWhen =>
      have ready := Gather.ready_of_done suspended done
      rw [afterGather_of_waiting suspended] at here
      have blocked := settled.blocked .gatherReturns (by simp) (by simp)
      simp [step, here, suspended, created_eq, ready] at blocked

/-- An iterator that has ended with all its futures done is settled. -/
theorem settled_of_exited {state : State ι ε α} {outcome : Outcome ε Unit}
    (exited : state.pc = .exited outcome) (exhausted : state.awaitablesIter = [])
    (done : ∀ created ∈ state.allFutures, (state.table created).done = true)
    : Settled state := by
  intro event
  cases event with
  | close => exact Or.inl rfl
  | cancelCaller message => exact Or.inr (Or.inl ⟨message, rfl⟩)
  | next => simp [step, exited]
  | waitReturns doneFutures pendingFutures => simp [step, exited]
  | gatherReturns => simp [step, exited]
  | complete created ended =>
      apply Or.inr
      apply Or.inr
      simp only [step]
      split
      · rename_i known
        have member : created ∈ state.allFutures := by
          cases created with
          | terminate position item => exact known
          | future item => simpa [State.Exists, exhausted] using known
        simp [complete, done created member]
      · rfl

end Aiodrive.Amass
