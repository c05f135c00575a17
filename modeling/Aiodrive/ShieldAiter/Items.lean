import Aiodrive.ShieldAiter.Model

/-! The items that get through `shield_aiter()`. -/

namespace Aiodrive.ShieldAiter

variable {ε α : Type*} {state next final : State ε α} {event : Event ε α}

/-- The steps, one constructor for each branch. -/
inductive Move (state : State ε α) : Event ε α → State ε α → Prop where
  | asks (here : state.place = .paused) : Move state .asks state.ask
  | asksAgain (here : state.place = .ended)
    : Move state .asks
        { state with received := state.received ++ [.exception .stopAsyncIteration] }
  | closes (here : state.place = .paused ∨ state.place = .ended)
    : Move state .closes { state with place := .ended }
  | cancels {waiter : Shielded (Failure ε) α} (here : state.place = .awaiting waiter)
    : Move state .cancel { state with place := .awaiting waiter.cancel }
  | resumes {waiter : Shielded (Failure ε) α} {result : Answer ε α}
    (here : state.place = .awaiting waiter) (resumed : waiter.result? = some result)
    : Move state .resume (state.goOn result)
  | answers {answer : Answer ε α} (pending : state.request = some .pending)
    (done : answer.done = true)
    : Move state (.answers answer)
        { state with request := some answer, answered := state.answered ++ [answer] }
  | calls {waiter called : Shielded (Failure ε) α} {inner : Answer ε α}
    (here : state.place = .awaiting waiter) (request : state.request = some inner)
    (runs : waiter.innerCallback inner = some called)
    : Move state .innerCallback { state with place := .awaiting called }

theorem move_of_step (stepped : step state event = some next) : Move state event next := by
  cases event with
  | asks =>
      simp only [step] at stepped
      split at stepped
      case h_1 here => exact Option.some.inj stepped ▸ .asks here
      case h_2 here => exact Option.some.inj stepped ▸ .asksAgain here
      case h_3 => contradiction
  | closes =>
      simp only [step] at stepped
      split at stepped
      case h_1 here => exact Option.some.inj stepped ▸ .closes (.inl here)
      case h_2 here => exact Option.some.inj stepped ▸ .closes (.inr here)
      case h_3 => contradiction
  | cancel =>
      simp only [step] at stepped
      split at stepped
      case h_1 here => exact Option.some.inj stepped ▸ .cancels here
      all_goals contradiction
  | resume =>
      simp only [step] at stepped
      split at stepped
      case h_1 here =>
          obtain ⟨result, resumed, rfl⟩ := Option.map_eq_some_iff.mp stepped
          exact .resumes here resumed
      all_goals contradiction
  | answers answer =>
      simp only [step] at stepped
      split at stepped
      case h_1 pending =>
          simp only [Option.ite_none_right_eq_some] at stepped
          exact Option.some.inj stepped.2 ▸ .answers pending stepped.1
      all_goals contradiction
  | innerCallback =>
      simp only [step] at stepped
      split at stepped
      case h_1 here request =>
          obtain ⟨called, runs, rfl⟩ := Option.map_eq_some_iff.mp stepped
          exact .calls here request runs
      all_goals contradiction

/-- The items in a list of answers that are all successes. -/
def given (items : List α) : List (Answer ε α) := items.map .success

/-- The answer of a request, if it has one. -/
def answerOf (inner : Answer ε α) : List (Answer ε α) := if inner.done then [inner] else []

/-- What has been answered and received, in each of the places; `interrupted` tells whether the
consumer was cancelled.
-/
inductive Phase (interrupted : Prop) (state : State ε α) : Prop where
  | paused (items : List α) (here : state.place = .paused)
    (received : state.received = given items) (answered : state.answered = given items)
    (requests : state.requests = items.length) (idle : state.request ≠ some .pending)
  | awaiting (items : List α) (waiter : Shielded (Failure ε) α) (inner : Answer ε α)
    (here : state.place = .awaiting waiter) (request : state.request = some inner)
    (received : state.received = given items)
    (answered : state.answered = given items ++ answerOf inner)
    (requests : state.requests = items.length + 1) (sound : waiter.Sound inner)
    (asked : waiter.interrupted = true → interrupted)
  | ended (items : List α) (rest lost : List (Answer ε α)) (here : state.place = .ended)
    (received : state.received = given items ++ rest)
    (answered : state.answered = given items ++ lost)
    (requests : state.requests ≤ items.length + 1)
    (once : lost.length ≤ 1) (unanswered : state.request = some .pending → lost = [])
    (fails : ∀ answer ∈ rest, answer.result? = none)
    (told
      : lost.IsPrefix rest ∧ state.request ≠ some .pending
        ∨ interrupted ∧ rest.head? = some .cancelled)


@[simp] theorem answerOf_pending : answerOf (.pending : Answer ε α) = [] := rfl

theorem answerOf_of_done {inner : Answer ε α} (done : inner.done = true)
    : answerOf inner = [inner] := by
  simp [answerOf, done]

theorem answerOf_length (inner : Answer ε α) : (answerOf inner).length ≤ 1 := by
  unfold answerOf
  split <;> simp

/-- One more item. -/
theorem given_concat (items : List α) (item : α)
    : given (items ++ [item]) = given items ++ [(.success item : Answer ε α)] := by
  simp [given]

theorem Phase.mono {interrupted later : Prop} (phase : Phase interrupted state)
    (goesOn : interrupted → later)
    : Phase later state := by
  cases phase with
  | paused items here received answered requests idle =>
      exact .paused items here received answered requests idle
  | awaiting items waiter inner here request received answered requests sound asked =>
      exact .awaiting items waiter inner here request received answered requests sound
        (fun waits => goesOn (asked waits))
  | ended items rest lost here received answered requests once unanswered fails told =>
      exact .ended items rest lost here received answered requests once unanswered fails
        (told.imp_right (And.imp_left goesOn))

/-- The `await` goes on: with the answer of the request, or with a cancellation of the consumer. -/
theorem Phase.goOn {interrupted : Prop} {items : List α} {waiter : Shielded (Failure ε) α}
    {inner result : Answer ε α} (request : state.request = some inner)
    (received : state.received = given items)
    (answered : state.answered = given items ++ answerOf inner)
    (requests : state.requests = items.length + 1) (sound : waiter.Sound inner)
    (asked : waiter.interrupted = true → interrupted) (resumed : waiter.result? = some result)
    : Phase interrupted (state.goOn result) := by
  have unanswered (pending : state.request = some .pending) : answerOf inner = [] := by
    rw [Option.some.inj (request.symm.trans pending), answerOf_pending]
  rcases sound.result resumed with ⟨-, rfl, done⟩ | ⟨interruptedHere, rfl⟩
  · have idle : state.request ≠ some .pending := by
      intro pending
      rw [Option.some.inj (request.symm.trans pending)] at done
      contradiction
    rw [answerOf_of_done done] at answered
    cases result with
    | pending => contradiction
    | success item =>
        refine .paused (items ++ [item]) rfl ?_ ?_ (requests.trans (by simp)) idle
        · rw [given_concat, ← received]
          rfl
        · rw [given_concat]
          exact answered
    | cancelled | exception _ =>
        exact .ended items [_] [_] rfl (by rw [← received]; rfl) answered (Nat.le_of_eq requests)
          (Nat.le_refl 1) (fun pending => absurd pending idle)
          (by simp [FutureState.result?]) (.inl ⟨List.prefix_rfl, idle⟩)
  · exact .ended items [.cancelled] (answerOf inner) rfl (by rw [← received]; rfl) answered
      (Nat.le_of_eq requests) (answerOf_length inner) unanswered (by simp [FutureState.result?])
      (.inr ⟨asked interruptedHere, rfl⟩)

/-- The consumer asks a generator that is at a `yield`. -/
theorem Phase.ask {interrupted : Prop} {items : List α} (received : state.received = given items)
    (answered : state.answered = given items) (requests : state.requests = items.length)
    : Phase interrupted state.ask := by
  refine .awaiting items .new .pending rfl rfl received ?_ ?_ (Shielded.sound_new _) ?_
  · simpa [State.ask] using answered
  · simp [State.ask, requests]
  · simp [Shielded.new]

/-- The iterator answers the request that somebody waits for. -/
theorem Phase.answers {interrupted : Prop} {answer : Answer ε α} (phase : Phase interrupted state)
    (pending : state.request = some .pending) (done : answer.done = true)
    : Phase interrupted
        { state with request := some answer, answered := state.answered ++ [answer] } := by
  cases phase with
  | paused _ _ _ _ _ idle => exact absurd pending idle
  | awaiting items waiter inner here request received answered requests sound asked =>
      obtain rfl := Option.some.inj (request.symm.trans pending)
      refine .awaiting items waiter answer here rfl received ?_ requests sound.innerEnds asked
      rw [answerOf_of_done done, answered, answerOf_pending, List.append_nil]
  | ended items rest lost here received answered requests once unanswered fails told =>
      obtain rfl := unanswered pending
      refine .ended items rest [answer] here received ?_ requests (Nat.le_refl 1) ?_ fails
        (.inr (told.resolve_left (fun idle => idle.2 pending)))
      · rw [answered, List.append_nil]
      · intro again
        rw [Option.some.inj again] at done
        contradiction

/-- Every step leads from one of the phases to another, by cases on the moves. -/
theorem Phase.step {interrupted : Prop} (phase : Phase interrupted state)
    (stepped : ShieldAiter.step state event = some next)
    : Phase (interrupted ∨ event = .cancel) next := by
  cases move_of_step stepped with
  | asks paused =>
      cases phase with
      | paused items _ received answered requests => exact .ask received answered requests
      | awaiting _ _ _ here | ended _ _ _ here => simp [here] at paused
  | asksAgain past =>
      cases phase with
      | paused _ here | awaiting _ _ _ here => simp [here] at past
      | ended items rest lost here received answered requests once unanswered fails told =>
          refine .ended items (rest ++ [.exception .stopAsyncIteration]) lost here ?_ answered
            requests once unanswered ?_ ?_
          · rw [received, List.append_assoc]
          · exact List.forall_mem_append.mpr ⟨fails, by simp [FutureState.result?]⟩
          · rcases told with ⟨prefixed, idle⟩ | ⟨before, cancelled⟩
            · exact .inl ⟨prefixed.trans (List.prefix_append _ _), idle⟩
            · exact .inr ⟨.inl before, by simp [cancelled]⟩
  | closes past =>
      cases phase with
      | paused items _ received answered requests idle =>
          exact .ended items [] [] rfl (received.trans (by simp)) (answered.trans (by simp))
            (by simp [requests]) (by simp) (fun _ => rfl) (by simp)
            (.inl ⟨List.prefix_rfl, idle⟩)
      | awaiting _ _ _ here => simp [here] at past
      | ended items rest lost here received answered requests once unanswered fails told =>
          exact .ended items rest lost rfl received answered requests once unanswered fails
            (told.imp_right (And.imp_left .inl))
  | cancels waits =>
      cases phase with
      | paused _ here | ended _ _ _ here => simp [here] at waits
      | awaiting items waiter inner here request received answered requests sound asked =>
          obtain rfl := Place.awaiting.inj (here.symm.trans waits)
          exact .awaiting items _ inner rfl request received answered requests sound.cancel
            (fun _ => .inr rfl)
  | resumes waits resumed =>
      cases phase with
      | paused _ here | ended _ _ _ here => simp [here] at waits
      | awaiting items waiter inner here request received answered requests sound asked =>
          obtain rfl := Place.awaiting.inj (here.symm.trans waits)
          exact .goOn request received answered requests sound (fun own => .inl (asked own)) resumed
  | answers pending done => exact (phase.mono Or.inl).answers pending done
  | calls waits has runs =>
      cases phase with
      | paused _ here | ended _ _ _ here => simp [here] at waits
      | awaiting items waiter inner here request received answered requests sound asked =>
          obtain rfl := Place.awaiting.inj (here.symm.trans waits)
          obtain rfl := Option.some.inj (request.symm.trans has)
          obtain ⟨-, -, rfl⟩ := Shielded.innerCallback_eq_some runs
          exact .awaiting items _ inner rfl request received answered requests
            (Shielded.Sound.innerCallback runs) (fun own => .inl (asked own))

end Aiodrive.ShieldAiter
