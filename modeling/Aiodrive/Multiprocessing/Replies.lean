import Aiodrive.Multiprocessing.Process

/-! `_loop()` knows the task of every reply exactly if no reply comes for a `spawn()` that is in
the `drain()` of its `CreateTaskMessage`, or ended there: the future is registered only after
it.
-/

namespace Aiodrive.MultiprocessingProcess

variable {ε α : Type*} {state next : State ε α}

/-- `_loop()` ended with an exception of its own. -/
def Loop.Failed : Loop → Prop
  | running | closed | recvError => False
  | keyError | assertionError | invalidStateError => True

/-- `_tasks` has a future that is not done for a reply. -/
def Known (state : State ε α) : Event ε α → Prop
  | .receive taskId _ => taskId ∈ state.tasks ∧ (state.futures taskId).done = false
  | .call _ | .callRaises | .drained _ | .drainRaises _ | .cancel _ | .resume _ _
  | .endOfStream _ | .recvRaises => True

/-- A reply is not for a `spawn()` that is in the `drain()` of its `CreateTaskMessage`, or that
was cancelled or failed there.
-/
def PastDrain (state : State ε α) : Event ε α → Prop
  | .receive taskId _ =>
      state.spawns taskId ≠ .draining ∧ state.spawns taskId ≠ .abandoned
  | .call _ | .callRaises | .drained _ | .drainRaises _ | .cancel _ | .resume _ _
  | .endOfStream _ | .recvRaises => True

/-- The future of the `spawn()` was registered. -/
def Spawn.Registered : Spawn → Prop
  | awaiting .. | cancelling | ended => True
  | unused | unsent | draining | abandoned => False

/-- `_tasks` has the futures that were registered and not replied to, and they are not done. -/
structure Expecting (state : State ε α) : Prop where
  nodup : state.tasks.Nodup
  tasks
    : ∀ taskId,
        taskId ∈ state.tasks
        ↔ (state.spawns taskId).Registered ∧ state.replied taskId = false
  replied : ∀ taskId, state.replied taskId = true → (state.spawns taskId).Registered
  pending : ∀ taskId ∈ state.tasks, state.futures taskId = .pending

/-- `_loop()` has the futures it expects replies for while it runs. -/
structure Sound (state : State ε α) : Prop where
  unused : ∀ taskId, state.nextTaskId ≤ taskId → state.spawns taskId = .unused
  expecting : state.loop = .running → Expecting state

theorem sound_initial : Sound (.initial : State ε α) :=
  {
    unused := fun _ _ => rfl
    expecting := fun _ =>
      {
        nodup := List.nodup_nil
        tasks := by simp [State.initial, Spawn.Registered]
        replied := by simp [State.initial]
        pending := by simp [State.initial]
      }
  }

-----------------------------------------------------------------------------------------
-- What a step can do
-----------------------------------------------------------------------------------------

/-- The event is one of the child or the connection, which ends a `recv()` of `_loop()`. -/
def Event.OfLoop : Event ε α → Prop
  | .receive .. | .endOfStream _ | .recvRaises => True
  | .call _ | .callRaises | .drained _ | .drainRaises _ | .cancel _ | .resume _ _ => False

/-- The steps: a `spawn()` moves on, before or after it is registered, or it is registered, or
`_loop()` receives something.
-/
inductive Move (state : State ε α) : Event ε α → State ε α → Prop where
  | moves {event : Event ε α} {count taskId : Nat} {spawn : Spawn} (own : ¬event.OfLoop)
    (grows : state.nextTaskId ≤ count) (used : taskId < count)
    (same : spawn.Registered ↔ (state.spawns taskId).Registered)
    : Move state event ({ state with nextTaskId := count }.setSpawn taskId spawn)
  | registers {event : Event ε α} {count taskId : Nat} (own : ¬event.OfLoop)
    (grows : state.nextTaskId ≤ count) (used : taskId < count)
    (fresh : ¬(state.spawns taskId).Registered)
    : Move state event ({ state with nextTaskId := count }.register taskId)
  | receives {taskId : Nat} {message : FutureState ε α} (running : state.loop = .running)
    (written : (state.spawns taskId).Written) (unreplied : state.replied taskId = false)
    : Move state (.receive taskId message) (state.receive taskId message)
  | ends {error : ε} (running : state.loop = .running)
    : Move state (.endOfStream error) (state.endOfStream error state.tasks)
  | fails (running : state.loop = .running)
    : Move state .recvRaises { state with loop := .recvError }

/-- A `spawn()` that was called moves on. -/
theorem Sound.move_setSpawn (sound : Sound state) {event : Event ε α} {taskId : Nat}
    {spawn : Spawn} (own : ¬event.OfLoop) (called : state.spawns taskId ≠ .unused)
    (same : spawn.Registered ↔ (state.spawns taskId).Registered)
    : Move state event (state.setSpawn taskId spawn) := by
  have used : taskId < state.nextTaskId := by
    by_contra notYet
    exact called (sound.unused taskId (by omega))
  exact .moves own (Nat.le_refl _) used same

theorem Sound.move_of_step (sound : Sound state) {event : Event ε α}
    (stepped : step state event = some next)
    : Move state event next := by
  have unused : state.spawns state.nextTaskId = .unused := sound.unused _ (Nat.le_refl _)
  cases event with
  | call suspends =>
      obtain rfl := Option.some.inj stepped
      cases suspends with
      | true =>
          exact .moves id (Nat.le_succ _) (Nat.lt_succ_self _) (by simp [unused, Spawn.Registered])
      | false =>
          exact .registers id (Nat.le_succ _) (Nat.lt_succ_self _)
            (by simp [unused, Spawn.Registered])
  | callRaises =>
      obtain rfl := Option.some.inj stepped
      exact .moves id (Nat.le_succ _) (Nat.lt_succ_self _) (by simp [unused, Spawn.Registered])
  | drained taskId =>
      cases place : state.spawns taskId with
      | draining =>
          simp only [step, place, Option.some.injEq] at stepped
          subst stepped
          have used : taskId < state.nextTaskId := by
            by_contra notYet
            simp [sound.unused taskId (by omega)] at place
          exact .registers id (Nat.le_refl _) used (by simp [place, Spawn.Registered])
      | cancelling =>
          simp only [step, place, Option.some.injEq] at stepped
          subst stepped
          unfold State.awaitAgain
          split <;>
            exact sound.move_setSpawn id (by simp [place]) (by simp [place, Spawn.Registered])
      | unused | unsent | abandoned | awaiting | ended => simp [step, place] at stepped
  | drainRaises taskId =>
      cases place : state.spawns taskId with
      | draining | cancelling =>
          simp only [step, place, Option.some.injEq] at stepped
          subst stepped
          exact sound.move_setSpawn id (by simp [place]) (by simp [place, Spawn.Registered])
      | unused | unsent | abandoned | awaiting | ended => simp [step, place] at stepped
  | cancel taskId =>
      cases place : state.spawns taskId with
      | draining | awaiting | cancelling =>
          simp only [step, place, Option.some.injEq] at stepped
          subst stepped
          exact sound.move_setSpawn id (by simp [place]) (by simp [place, Spawn.Registered])
      | unused | unsent | abandoned | ended => simp [step, place] at stepped
  | resume taskId suspends =>
      cases place : state.spawns taskId with
      | awaiting cancelled interrupted =>
          have moves
              : ∀ spawn : Spawn,
                  spawn.Registered
                  → Move state (.resume taskId suspends) (state.setSpawn taskId spawn) :=
            fun spawn registered =>
              sound.move_setSpawn id (by simp [place])
                (iff_of_true registered (by simp [place, Spawn.Registered]))
          cases interrupted with
          | true =>
              simp only [step, place, Option.some.injEq] at stepped
              subst stepped
              unfold State.interrupt
              split_ifs <;> exact moves _ trivial
          | false =>
              simp only [step, place] at stepped
              split_ifs at stepped
              exact Option.some.inj stepped ▸ moves _ trivial
      | unused | unsent | draining | abandoned | cancelling | ended =>
          simp [step, place] at stepped
  | receive taskId message =>
      simp only [step] at stepped
      split_ifs at stepped with enabled
      exact Option.some.inj stepped ▸ .receives enabled.1 enabled.2.1 enabled.2.2
  | endOfStream error =>
      simp only [step] at stepped
      split_ifs at stepped with running
      exact Option.some.inj stepped ▸ .ends running
  | recvRaises =>
      simp only [step] at stepped
      split_ifs at stepped with running
      exact Option.some.inj stepped ▸ .fails running

-----------------------------------------------------------------------------------------
-- Steps keep the invariant
-----------------------------------------------------------------------------------------

theorem Sound.moves (sound : Sound state) {count taskId : Nat} {spawn : Spawn}
    (grows : state.nextTaskId ≤ count) (used : taskId < count)
    (same : spawn.Registered ↔ (state.spawns taskId).Registered)
    : Sound ({ state with nextTaskId := count }.setSpawn taskId spawn) := by
  have registered
      : ∀ other,
          ((({ state with nextTaskId := count } : State ε α).setSpawn taskId spawn).spawns
            other).Registered
          ↔ (state.spawns other).Registered := by
    intro other
    rw [State.spawns_setSpawn]
    split
    case isTrue here => exact here ▸ same
    case isFalse => rfl
  refine ⟨?_, fun running => ?_⟩
  · intro other above
    have above : count ≤ other := above
    have different : other ≠ taskId := by omega
    rw [State.spawns_setSpawn, if_neg different]
    exact sound.unused other (Nat.le_trans grows above)
  · have expecting := sound.expecting running
    exact {
      nodup := expecting.nodup
      tasks := fun other => (expecting.tasks other).trans (by rw [registered]; rfl)
      replied := fun other replied => (registered other).mpr (expecting.replied other replied)
      pending := expecting.pending
    }

theorem Expecting.register (expecting : Expecting state) {taskId : Nat}
    (fresh : ¬(state.spawns taskId).Registered)
    : Expecting (state.register taskId) := by
  have absent : taskId ∉ state.tasks :=
    fun listed => fresh ((expecting.tasks taskId).mp listed).1
  have unreplied : state.replied taskId = false := by
    by_contra replied
    exact fresh (expecting.replied taskId (by simpa using replied))
  exact {
    nodup := by
      rw [State.tasks_register]
      refine List.nodup_append.mpr ⟨expecting.nodup, by simp, ?_⟩
      intro other member _ last same
      obtain rfl := List.mem_singleton.mp last
      exact absent (same ▸ member)
    tasks := by
      intro other
      by_cases here : other = taskId
      · subst here
        simp [Spawn.Registered, unreplied]
      · simpa [here] using expecting.tasks other
    replied := by
      intro other replied
      rw [State.spawns_register]
      split
      case isTrue => trivial
      case isFalse => exact expecting.replied other replied
    pending := by
      intro other listed
      rw [State.futures_register]
      split
      case isTrue => rfl
      case isFalse different =>
        apply expecting.pending other
        simpa [different] using listed
  }

theorem Sound.registers (sound : Sound state) {count taskId : Nat}
    (grows : state.nextTaskId ≤ count) (used : taskId < count)
    (fresh : ¬(state.spawns taskId).Registered)
    : Sound ({ state with nextTaskId := count }.register taskId) := by
  refine ⟨?_, fun running => ?_⟩
  · intro other above
    have above : count ≤ other := above
    have different : other ≠ taskId := by omega
    simpa [different] using sound.unused other (Nat.le_trans grows above)
  · obtain ⟨nodup, tasks, replied, pending⟩ := sound.expecting running
    have expecting : Expecting { state with nextTaskId := count } :=
      ⟨nodup, tasks, replied, pending⟩
    exact expecting.register fresh

/-- A reply whose future is found goes to that future. -/
theorem receive_of_known {taskId : Nat} {message : FutureState ε α}
    (listed : taskId ∈ state.tasks) (pending : state.futures taskId = .pending)
    : state.receive taskId message
      = { state with
          tasks := state.tasks.filter (· ≠ taskId)
          futures := Function.update state.futures taskId message
          replied := Function.update state.replied taskId true } := by
  cases message <;> simp [State.receive, listed, pending, FutureState.transfer]

/-- A reply whose future is not found, or done, ends `_loop()`. -/
theorem failed_receive_of_unknown {taskId : Nat} {message : FutureState ε α}
    (unknown : ¬(taskId ∈ state.tasks ∧ (state.futures taskId).done = false))
    : (state.receive taskId message).loop.Failed := by
  unfold State.receive
  by_cases listed : taskId ∈ state.tasks
  · have done : (state.futures taskId).done = true := by
      by_contra notDone
      exact unknown ⟨listed, by simpa using notDone⟩
    simp [listed, FutureState.transfer, done, Loop.Failed]
  · simp [listed, Loop.Failed]

theorem Expecting.receive (expecting : Expecting state) {taskId : Nat}
    (message : FutureState ε α) (listed : taskId ∈ state.tasks)
    : Expecting (state.receive taskId message) := by
  rw [receive_of_known listed (expecting.pending taskId listed)]
  exact {
    nodup := expecting.nodup.filter _
    tasks := by
      intro other
      by_cases here : other = taskId
      · subst here
        simp
      · simpa [here] using expecting.tasks other
    replied := by
      intro other replied
      by_cases here : other = taskId
      · exact here ▸ ((expecting.tasks taskId).mp listed).1
      · exact expecting.replied other (by simpa [here] using replied)
    pending := by
      intro other member
      simp only [List.mem_filter, decide_eq_true_eq] at member
      simpa [member.2] using expecting.pending other member.1
  }

theorem spawns_receive (state : State ε α) (taskId : Nat) (message : FutureState ε α)
    : (state.receive taskId message).spawns = state.spawns
      ∧ (state.receive taskId message).nextTaskId = state.nextTaskId := by
  unfold State.receive
  by_cases listed : taskId ∈ state.tasks
  · cases message.transfer (state.futures taskId) <;> simp [listed]
  · simp [listed]

theorem Sound.receive (sound : Sound state) {taskId : Nat} {message : FutureState ε α}
    (running : state.loop = .running)
    : Sound (state.receive taskId message) := by
  obtain ⟨spawns, count⟩ := spawns_receive state taskId message
  refine ⟨by rw [spawns, count]; exact sound.unused, fun stillRunning => ?_⟩
  by_cases listed : taskId ∈ state.tasks
  · exact (sound.expecting running).receive message listed
  · have failed : (state.receive taskId message).loop.Failed :=
      failed_receive_of_unknown (fun known => listed known.1)
    simp [stillRunning, Loop.Failed] at failed

theorem spawns_endOfStream (state : State ε α) (error : ε) (tasks : List Nat)
    : (state.endOfStream error tasks).spawns = state.spawns
      ∧ (state.endOfStream error tasks).nextTaskId = state.nextTaskId := by
  induction tasks generalizing state with
  | nil => exact ⟨rfl, rfl⟩
  | cons taskId rest ih =>
      unfold State.endOfStream
      split
      · exact ⟨rfl, rfl⟩
      · exact ih _

/-- The futures after the first one stay pending when that one ends. -/
theorem pending_update {futures : Nat → FutureState ε α} {taskId : Nat} {rest : List Nat}
    (nodup : (taskId :: rest).Nodup)
    (pending : ∀ other ∈ taskId :: rest, futures other = .pending) (ended : FutureState ε α)
    : ∀ later ∈ rest, Function.update futures taskId ended later = .pending := by
  intro later member
  have different : later ≠ taskId := by
    rintro rfl
    exact (List.nodup_cons.mp nodup).1 member
  simpa [different] using pending later (List.mem_cons_of_mem _ member)

/-- At the end of the stream every future left gets its exception, by induction on them. -/
theorem loop_of_pending (error : ε) {tasks : List Nat} (nodup : tasks.Nodup)
    (pending : ∀ taskId ∈ tasks, state.futures taskId = .pending)
    : (state.endOfStream error tasks).loop = .closed := by
  induction tasks generalizing state with
  | nil => rfl
  | cons taskId rest ih =>
      have first := pending taskId List.mem_cons_self
      simp only [State.endOfStream, first, FutureState.done_pending]
      exact ih nodup.of_cons (pending_update nodup pending (.exception error))

theorem Sound.loop_endOfStream (sound : Sound state) (running : state.loop = .running)
    (error : ε)
    : (state.endOfStream error state.tasks).loop = .closed :=
  loop_of_pending error (sound.expecting running).nodup (sound.expecting running).pending

theorem Sound.endOfStream (sound : Sound state) (running : state.loop = .running) (error : ε)
    : Sound (state.endOfStream error state.tasks) := by
  have closed := sound.loop_endOfStream running error
  obtain ⟨spawns, count⟩ := spawns_endOfStream state error state.tasks
  refine ⟨by rw [spawns, count]; exact sound.unused, fun stillRunning => ?_⟩
  simp [closed] at stillRunning

theorem Sound.step (sound : Sound state) {event : Event ε α}
    (stepped : step state event = some next)
    : Sound next := by
  cases sound.move_of_step stepped with
  | moves own grows used same => exact sound.moves grows used same
  | registers own grows used fresh => exact sound.registers grows used fresh
  | receives running written unreplied => exact sound.receive running
  | ends running => exact sound.endOfStream running _
  | fails running => exact ⟨sound.unused, fun stillRunning => by simp at stillRunning⟩

-----------------------------------------------------------------------------------------
-- Which runs keep `_loop()` alive
-----------------------------------------------------------------------------------------

/-- A step ends `_loop()` with an exception if it did end so, or at a reply for which `_tasks`
has no future that is not done.
-/
theorem Sound.failed_step_iff_known (sound : Sound state) {event : Event ε α}
    (stepped : MultiprocessingProcess.step state event = some next)
    : next.loop.Failed ↔ state.loop.Failed ∨ ¬Known state event := by
  have own : ¬event.OfLoop → Known state event := by
    intro own
    cases event with
    | receive | endOfStream | recvRaises => exact (own trivial).elim
    | call | callRaises | drained | drainRaises | cancel | resume => trivial
  cases sound.move_of_step stepped with
  | moves notOfLoop => simp [own notOfLoop]
  | registers notOfLoop => simp [own notOfLoop]
  | @receives taskId message running =>
      by_cases known : taskId ∈ state.tasks ∧ (state.futures taskId).done = false
      · have pending := FutureState.done_eq_false_iff.mp known.2
        simp [receive_of_known known.1 pending, Known, known]
      · exact iff_of_true (failed_receive_of_unknown known) (Or.inr known)
  | ends running =>
      simp [sound.loop_endOfStream running, running, Loop.Failed, Known]
  | fails running => simp [running, Loop.Failed, Known]

/-- The future of a reply is found exactly if its `spawn()` is past the `drain()`. -/
theorem Sound.known_iff_pastDrain (sound : Sound state) {event : Event ε α}
    (stepped : MultiprocessingProcess.step state event = some next)
    : Known state event ↔ PastDrain state event := by
  cases event with
  | call | callRaises | drained | drainRaises | cancel | resume | endOfStream | recvRaises => rfl
  | receive taskId message =>
      cases sound.move_of_step stepped with
      | moves own | registers own => exact (own trivial).elim
      | receives running written unreplied =>
          have expecting := sound.expecting running
          have done : taskId ∈ state.tasks → (state.futures taskId).done = false :=
            fun listed => FutureState.done_eq_false_iff.mpr (expecting.pending taskId listed)
          have found
              : Known state (.receive taskId message) ↔ (state.spawns taskId).Registered := by
            simp only [Known, and_iff_left_of_imp done]
            simpa [unreplied] using expecting.tasks taskId
          rw [found]
          cases place : state.spawns taskId with
          | unused | unsent => simp [place, Spawn.Written] at written
          | draining | abandoned => simp [PastDrain, place, Spawn.Registered]
          | awaiting | cancelling | ended => simp [PastDrain, place, Spawn.Registered]

variable {events : List (Event ε α)} {final : State ε α}

theorem loop_failed_iff (condition : State ε α → Event ε α → Prop)
    (same
      : ∀ state event next,
          Sound state
          → step state event = some next
          → (Known state event ↔ condition state event))
    (reached : Transition.run step .initial events = some final)
    : final.loop.Failed ↔ ¬Transition.Meets step condition .initial events := by
  have entered
      : ∀ state, ∀ event ∈ events, ∀ next,
          Sound state
          → step state event = some next
          → (next.loop.Failed ↔ state.loop.Failed ∨ ¬condition state event) := by
    intro state event _ next sound stepped
    rw [sound.failed_step_iff_known stepped, same state event next sound stepped]
  exact Transition.bad_iff_not_meets_of_good condition
    (fun _ _ _ _ sound stepped => Sound.step sound stepped) entered sound_initial id reached

/-- In every run, `_loop()` finds a future that is not done in `_tasks` for each
`FinishTaskMessage` it receives if and only if none of them is for a `spawn()` in the `drain()`
of its `CreateTaskMessage`, or ended there. These are the runs in which `_loop()` does not end
with an exception of its own. The proof follows which futures are registered and not replied to.
-/
theorem reply_known_iff (reached : Transition.run step .initial events = some final)
    : (Transition.Meets step Known .initial events
        ↔ Transition.Meets step PastDrain .initial events)
      ∧ (¬final.loop.Failed ↔ Transition.Meets step PastDrain .initial events) := by
  have known := loop_failed_iff Known (fun _ _ _ _ _ => Iff.rfl) reached
  have pastDrain :=
    loop_failed_iff PastDrain (fun _ _ _ sound stepped => sound.known_iff_pastDrain stepped)
      reached
  exact ⟨not_iff_not.mp (known.symm.trans pastDrain), not_iff_comm.mp pastDrain.symm⟩

/-- Two `spawn()` wait in `drain()` when the child replies to the first, or one was cancelled
there: `_loop()` fails at the reply.
-/
theorem reply_unknown_in_drain
    : ∃ waiting cancelled : State Unit Unit,
        Transition.run step .initial [.call true, .call true, .receive 0 (.success ())]
          = some waiting
        ∧ waiting.loop = .keyError
        ∧ Transition.run step .initial [.call true, .cancel 0, .receive 0 (.success ())]
          = some cancelled
        ∧ cancelled.loop = .keyError :=
  ⟨_, _, rfl, rfl, rfl, rfl⟩

/-- A `spawn()` whose caller is cancelled gets its reply, and one that suspends in its `drain()`
too, if the reply comes after it.
-/
theorem reply_known_iff_twoSpawns
    : ∃ events, ∃ final : State Unit Unit,
        Transition.run step .initial events = some final
        ∧ Transition.Meets step PastDrain .initial events
        ∧ Transition.Meets step Known .initial events
        ∧ ¬final.loop.Failed
        ∧ final.replied 0 = true
        ∧ final.replied 1 = true := by
  have reached
      : Transition.run step (.initial : State Unit Unit)
          [.call false, .call true, .cancel 0, .resume 0 false, .drained 1,
            .receive 0 .cancelled, .receive 1 (.success ())]
        = some _ :=
    rfl
  have replies := reply_known_iff reached
  have alive := replies.2.mp id
  exact ⟨_, _, reached, alive, replies.1.mpr alive, id, rfl, rfl⟩

end Aiodrive.MultiprocessingProcess
