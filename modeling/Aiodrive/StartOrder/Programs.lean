import Aiodrive.Amass.Refill
import Aiodrive.Asyncio.ReadyQueue
import Aiodrive.Race.Model

/-! `gather()`, `race()` and `amass()` as code that the event loop runs in their caller: which
wait each is suspended in, and what its events are to the loop.
-/

namespace Aiodrive

variable {ι ε α : Type*} [DecidableEq ι]

-----------------------------------------------------------------------------------------
-- gather()
-----------------------------------------------------------------------------------------

namespace Gather

/-- The wait that `gather()` is suspended in. -/
def State.wait (state : State ι ε α) : Option (List ι × ReturnWhen) :=
  state.pc.returnWhen.map (fun returnWhen => (state.tasks, returnWhen))

def Event.effect : Event ι ε α → ReadyQueue.Effect ι
  | .complete task _ => .complete task
  | .cancelCaller message => .resumed (.cancelledError message)
  | .waitReturns => .resumed .returned

def program : ReadyQueue.Program (State ι ε α) (Event ι ε α) ι :=
  .ofWaits step Event.effect State.wait State.table State.requests

/-- `gather()` resumes from its waits as the event loop expects. -/
theorem program_lawful : (program : ReadyQueue.Program (State ι ε α) (Event ι ε α) ι).Lawful := by
  apply ReadyQueue.Program.lawful_ofWaits
  · intro state next event task ended stepped
    cases event with
    | cancelCaller message => contradiction
    | waitReturns => contradiction
    | complete other result =>
        obtain rfl := ReadyQueue.Effect.complete.inj ended
        obtain ⟨table, completed, rfl⟩ := Option.map_eq_some_iff.mp stepped
        exact ⟨rfl, rfl, result, completed⟩
  · intro state waited message found
    obtain ⟨returnWhen, suspended, _⟩ := Option.map_eq_some_iff.mp found
    refine ⟨.cancelCaller message, state.resumeWith (.cancelledError message), rfl, ?_⟩
    simp [step, suspended]
  · intro state tasks returnWhen found ready
    obtain ⟨condition, suspended, same⟩ := Option.map_eq_some_iff.mp found
    obtain ⟨rfl, rfl⟩ := Prod.mk.inj same
    refine ⟨.waitReturns, state.resumeWith .returned, rfl, ?_⟩
    simp [step, suspended, ready]

end Gather

-----------------------------------------------------------------------------------------
-- race()
-----------------------------------------------------------------------------------------

namespace Race

/-- The wait that `race()` is suspended in: its own, or that of the awaited `gather()`. -/
def State.wait (state : State ι ε α) : Option (List ι × ReturnWhen) :=
  match state.pc with
  | .firstWait => some (state.tasks, .firstCompleted)
  | pc => pc.gatherWait state.tasks

def Event.effect : Event ι ε α → ReadyQueue.Effect ι
  | .complete task _ => .complete task
  | .cancelCaller message => .resumed (.cancelledError message)
  | .firstReturns _ _ | .gatherReturns => .resumed .returned

def program : ReadyQueue.Program (State ι ε α) (Event ι ε α) ι :=
  .ofWaits step Event.effect State.wait State.table State.requests

/-- `race()` resumes from its waits as the event loop expects. -/
theorem program_lawful : (program : ReadyQueue.Program (State ι ε α) (Event ι ε α) ι).Lawful := by
  apply ReadyQueue.Program.lawful_ofWaits
  · intro state next event task ended stepped
    cases event with
    | cancelCaller message => contradiction
    | firstReturns done pending => contradiction
    | gatherReturns => contradiction
    | complete other result =>
        obtain rfl := ReadyQueue.Effect.complete.inj ended
        obtain ⟨table, completed, rfl⟩ := Option.map_eq_some_iff.mp stepped
        exact ⟨rfl, rfl, result, completed⟩
  · intro state waited message found
    refine ⟨.cancelCaller message, ?_⟩
    cases here : state.pc with
    | firstWait => exact ⟨_, rfl, by simp only [step, here]; rfl⟩
    | cancelledGather gather =>
        exact ⟨_, rfl, by simp only [step, here, State.resumeGather]; rfl⟩
    | losersGather winner pending gather =>
        exact ⟨_, rfl, by simp only [step, here, State.resumeGather]; rfl⟩
    | exited outcome => simp [State.wait, here, Pc.gatherWait] at found
  · intro state tasks returnWhen found ready
    cases here : state.pc with
    | firstWait =>
        simp only [State.wait, here, Option.some.injEq, Prod.mk.injEq] at found
        obtain ⟨rfl, rfl⟩ := found
        obtain ⟨task, member, done⟩ := List.any_eq_true.mp ready
        have returned : task ∈ doneTasks state.tasks state.table :=
          List.mem_filter.mpr ⟨member, done⟩
        obtain ⟨winner, rest, sets⟩ := List.exists_cons_of_ne_nil (List.ne_nil_of_mem returned)
        refine ⟨.firstReturns (winner :: rest) (pendingTasks state.tasks state.table), ?_⟩
        simp only [step, here, sets, List.Perm.refl, and_self, if_true]
        exact ⟨_, rfl, rfl⟩
    | cancelledGather gather =>
        simp only [State.wait, here] at found
        refine ⟨.gatherReturns, ?_⟩
        simp only [step, here, found, Option.bind_some, ready, if_true, State.resumeGather]
        exact ⟨_, rfl, rfl⟩
    | losersGather winner pending gather =>
        simp only [State.wait, here] at found
        refine ⟨.gatherReturns, ?_⟩
        simp only [step, here, found, Option.bind_some, ready, if_true, State.resumeGather]
        exact ⟨_, rfl, rfl⟩
    | exited outcome => simp [State.wait, here, Pc.gatherWait] at found

end Race

-----------------------------------------------------------------------------------------
-- amass()
-----------------------------------------------------------------------------------------

namespace Amass

/-- The wait that the generator is suspended in: its own, or that of the awaited `gather()`. -/
def State.wait (state : State ι ε α) : Option (List (Created ι) × ReturnWhen) :=
  match state.pc with
  | .waiting => some (state.pendingFutures.map .future, .firstCompleted)
  | .closing _ gather => gather.returnWhen.map (fun returnWhen => (state.allFutures, returnWhen))
  | .unstarted | .yielding _ | .exited _ => none

def Event.effect : Event ι ε α → ReadyQueue.Effect (Created ι)
  | .complete created _ => .complete created
  | .cancelCaller message => .resumed (.cancelledError message)
  | .waitReturns _ _ | .gatherReturns => .resumed .returned
  | .next | .close => .acted

def program : ReadyQueue.Program (State ι ε α) (Event ι ε α) (Created ι) :=
  .ofWaits step Event.effect State.wait State.table State.requests

/-- The generator resumes from its waits as the event loop expects. -/
theorem program_lawful
    : (program : ReadyQueue.Program (State ι ε α) (Event ι ε α) (Created ι)).Lawful := by
  apply ReadyQueue.Program.lawful_ofWaits
  · intro state next event task ended stepped
    cases event with
    | next => contradiction
    | close => contradiction
    | cancelCaller message => contradiction
    | waitReturns done pending => contradiction
    | gatherReturns => contradiction
    | complete created result =>
        obtain rfl := ReadyQueue.Effect.complete.inj ended
        simp only [step] at stepped
        split at stepped
        · obtain ⟨table, completed, rfl⟩ := Option.map_eq_some_iff.mp stepped
          exact ⟨rfl, rfl, result, completed⟩
        · contradiction
  · intro state waited message found
    refine ⟨.cancelCaller message, ?_⟩
    cases here : state.pc with
    | waiting => exact ⟨_, rfl, by simp only [step, here]; rfl⟩
    | closing ending gather => exact ⟨_, rfl, by simp only [step, here]; rfl⟩
    | unstarted => simp [State.wait, here] at found
    | yielding rest => simp [State.wait, here] at found
    | exited outcome => simp [State.wait, here] at found
  · intro state tasks returnWhen found ready
    cases here : state.pc with
    | waiting =>
        simp only [State.wait, here, Option.some.injEq, Prod.mk.injEq] at found
        obtain ⟨rfl, rfl⟩ := found
        obtain ⟨created, member, done⟩ := List.any_eq_true.mp ready
        obtain ⟨item, pending, rfl⟩ := List.mem_map.mp member
        have returned : item ∈ doneTasks state.pendingFutures state.futures :=
          List.mem_filter.mpr ⟨pending, done⟩
        refine ⟨.waitReturns (doneTasks state.pendingFutures state.futures)
          (pendingTasks state.pendingFutures state.futures), ?_⟩
        simp only [step, here, ne_eq, List.ne_nil_of_mem returned, not_false_eq_true,
          List.Perm.refl, and_self, if_true]
        exact ⟨_, rfl, rfl⟩
    | closing ending gather =>
        simp only [State.wait, here] at found
        obtain ⟨condition, suspended, same⟩ := Option.map_eq_some_iff.mp found
        obtain ⟨rfl, rfl⟩ := Prod.mk.inj same
        refine ⟨.gatherReturns, state.resumeGather ending gather .returned, rfl, ?_⟩
        simp [step, here, suspended, ready]
    | unstarted => simp [State.wait, here] at found
    | yielding rest => simp [State.wait, here] at found
    | exited outcome => simp [State.wait, here] at found

end Amass

end Aiodrive
