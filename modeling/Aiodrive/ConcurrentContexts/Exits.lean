import Aiodrive.Gather.Outcome
import Aiodrive.Gather.Requests

/-! `exit_contexts()` of `modules/concurrent_contexts.py`: one `gather()` over the exits of the open
managers, in its default mode, which cancels the pending exits once one of them has failed.
-/

namespace Aiodrive.ConcurrentContexts

variable {ι ε : Type*}

/-- The tasks of the `__aexit__` coroutines and the `gather()` over them. -/
structure Exits (ι ε : Type*) where
  gather : Gather.State ι ε Unit
  /-- The managers whose `__aexit__` has been started, in order. -/
  started : List ι
  /-- The managers whose pending `__aexit__` has received a cancellation. -/
  asked : List ι

/-- What can happen to the exits: a task starts its coroutine, or ends; a `CancelledError` is
delivered at a wait of `gather()`, or the wait returns.
-/
inductive ExitEvent (ι ε : Type*) where
  | starts (manager : ι)
  | ends (manager : ι) (state : FutureState ε Unit)
  | cancelled (message : Option String)
  | waitReturns
deriving DecidableEq, Repr

/-- `exit_contexts()` up to its first suspension. -/
def Exits.start (managers : List ι) : Exits ι ε :=
  { gather := .initial true managers (fun _ => .pending), started := [], asked := [] }

section
variable [DecidableEq ι]

/-- A step of the `gather()`, whose requests reach the exits that are pending. -/
def Exits.gatherStep (exits : Exits ι ε) (event : Gather.Event ι ε Unit)
    : Option (Exits ι ε) :=
  (Gather.step exits.gather event).map (fun gather =>
    let made := gather.requests.drop exits.gather.requests.length
    let reached := (made.map CancelRequest.task).filter (fun manager =>
      !(gather.table manager).done)
    { exits with gather, asked := exits.asked ++ reached })

/-- Tasks start in the order of their creation, so that all have started before `gather()`, which
has created them, resumes.
-/
def Exits.allStarted (exits : Exits ι ε) : Bool :=
  exits.gather.tasks.all (fun manager => manager ∈ exits.started)

def Exits.step (exits : Exits ι ε) : ExitEvent ι ε → Option (Exits ι ε)
  | .starts manager =>
      if manager ∈ exits.gather.tasks ∧ manager ∉ exits.started then
        some { exits with started := exits.started ++ [manager] }
      else
        none
  | .ends manager ended =>
      if manager ∈ exits.started then exits.gatherStep (.complete manager ended) else none
  | .cancelled message =>
      if exits.allStarted then exits.gatherStep (.cancelCaller message) else none
  | .waitReturns => if exits.allStarted then exits.gatherStep .waitReturns else none

-----------------------------------------------------------------------------------------
-- What holds of the exits
-----------------------------------------------------------------------------------------

/-- The event of `gather()` that an event of the exits is, if it is one. -/
def ExitEvent.gather? : ExitEvent ι ε → Option (Gather.Event ι ε Unit)
  | starts _ => none
  | ends manager ended => some (.complete manager ended)
  | cancelled message => some (.cancelCaller message)
  | waitReturns => some .waitReturns

/-- A step starts a coroutine that was not started, or is a step of the `gather()`. -/
theorem Exits.step_cases {exits next : Exits ι ε} {event : ExitEvent ι ε}
    (stepped : exits.step event = some next)
    : (∃ manager,
          event = .starts manager
          ∧ manager ∈ exits.gather.tasks
          ∧ manager ∉ exits.started
          ∧ next = { exits with started := exits.started ++ [manager] })
      ∨ ∃ own,
          event.gather? = some own
          ∧ (∀ manager ended, own = .complete manager ended → manager ∈ exits.started)
          ∧ exits.gatherStep own = some next := by
  cases event with
  | starts manager =>
      simp only [Exits.step, Option.ite_none_right_eq_some, Option.some.injEq] at stepped
      obtain ⟨⟨inTasks, fresh⟩, rfl⟩ := stepped
      exact .inl ⟨manager, rfl, inTasks, fresh, rfl⟩
  | ends manager ended =>
      simp only [Exits.step, Option.ite_none_right_eq_some] at stepped
      refine .inr ⟨_, rfl, ?_, stepped.2⟩
      rintro other state ⟨rfl, -⟩
      exact stepped.1
  | cancelled message =>
      simp only [Exits.step, Option.ite_none_right_eq_some] at stepped
      exact .inr ⟨_, rfl, by simp, stepped.2⟩
  | waitReturns =>
      simp only [Exits.step, Option.ite_none_right_eq_some] at stepped
      exact .inr ⟨_, rfl, by simp, stepped.2⟩

/-- The exits of some managers: each is started at most once, and ends only after that. -/
structure Exits.Sound (managers : List ι) (exits : Exits ι ε) : Prop where
  reached
    : ∃ events,
        Transition.run Gather.step (.initial true managers (fun _ => .pending)) events
        = some exits.gather
  nodup : exits.started.Nodup
  started : ∀ manager ∈ exits.started, manager ∈ managers
  done : ∀ manager, (exits.gather.table manager).done = true → manager ∈ exits.started

theorem Exits.start_sound (managers : List ι) : (Exits.start managers : Exits ι ε).Sound managers
    := by
  refine ⟨⟨[], rfl⟩, List.nodup_nil, by simp [Exits.start], ?_⟩
  simp [Exits.start, Gather.State.initial]

theorem Exits.Sound.tasks {managers : List ι} {exits : Exits ι ε} (sound : exits.Sound managers)
    : exits.gather.tasks = managers := by
  obtain ⟨events, reached⟩ := sound.reached
  exact (Gather.run_agrees reached).1

theorem Exits.Sound.step {managers : List ι} {exits next : Exits ι ε} {event : ExitEvent ι ε}
    (sound : exits.Sound managers) (stepped : exits.step event = some next)
    : next.Sound managers := by
  rcases Exits.step_cases stepped with ⟨manager, rfl, inTasks, fresh, rfl⟩ | ⟨own, -, ending, moved⟩
  · refine ⟨sound.reached, ?_, ?_, fun other done => ?_⟩
    · exact sound.nodup.append (List.nodup_singleton _) (by simpa using fresh)
    · intro other member
      rcases List.mem_append.mp member with earlier | last
      · exact sound.started other earlier
      · rw [List.mem_singleton.mp last, ← sound.tasks]
        exact inTasks
    · exact List.mem_append_left _ (sound.done other done)
  · obtain ⟨gather, gatherStepped, rfl⟩ := Option.map_eq_some_iff.mp moved
    refine ⟨?_, sound.nodup, sound.started, fun other done => ?_⟩
    · obtain ⟨events, reached⟩ := sound.reached
      exact ⟨_, Transition.run_concat reached gatherStepped⟩
    · cases Gather.move_of_step gatherStepped with
      | completes completed =>
          rcases complete_cases completed other with kept | ⟨rfl, -⟩
          · exact sound.done other (kept ▸ done)
          · exact ending _ _ rfl
      | interruptsFirst _ => exact sound.done other done
      | absorbs _ => exact sound.done other done
      | forwards _ => exact sound.done other done
      | firstReturns _ _ => exact sound.done other done
      | finishes _ _ => exact sound.done other done

/-- `exit_contexts()` ends once. -/
theorem Exits.step_exited {exits next : Exits ι ε} {event : ExitEvent ι ε}
    {outcome : Outcome ε (List Unit)} (exited : exits.gather.pc = .exited outcome)
    (stepped : exits.step event = some next)
    : next.gather.pc = .exited outcome := by
  rcases Exits.step_cases stepped with ⟨manager, -, -, -, rfl⟩ | ⟨own, -, -, moved⟩
  · exact exited
  · obtain ⟨gather, gatherStepped, rfl⟩ := Option.map_eq_some_iff.mp moved
    cases Gather.move_of_step gatherStepped with
    | completes _ => exact exited
    | interruptsFirst waits | absorbs waits | forwards waits | firstReturns waits _
    | finishes waits _ => simp [waits] at exited

/-- Once `exit_contexts()` has ended, every exit has been started and is done. -/
theorem Exits.Sound.exited {managers : List ι} {exits : Exits ι ε}
    {outcome : Outcome ε (List Unit)} (sound : exits.Sound managers)
    (exited : exits.gather.pc = .exited outcome)
    : ∀ manager ∈ managers,
        (exits.gather.table manager).done = true ∧ manager ∈ exits.started := by
  obtain ⟨events, reached⟩ := sound.reached
  intro manager member
  have done := (Gather.gather_outcome reached exited).1 manager member
  exact ⟨done, sound.done manager done⟩

-----------------------------------------------------------------------------------------
-- Whether a failing exit disturbs the others
-----------------------------------------------------------------------------------------

/-- Where the first wait of `gather()` returns with a failed exit, no exit is pending any more. -/
def Settled (exits : Exits ι ε) (event : ExitEvent ι ε) : Prop :=
  event = .waitReturns
  → exits.gather.firstWaitFails .waitReturns = true
  → ∀ manager ∈ exits.gather.tasks, (exits.gather.table manager).done = true

instance [DecidableEq ε] (exits : Exits ι ε) (event : ExitEvent ι ε)
    : Decidable (Settled exits event) :=
  inferInstanceAs (Decidable (_ → _ → _))

omit [DecidableEq ι] in
theorem filter_pending_ne_nil_iff {managers : List ι} {table : TaskTable ι ε Unit}
    : managers.filter (fun manager => !(table manager).done) ≠ []
      ↔ ¬∀ manager ∈ managers, (table manager).done = true := by
  simp [List.filter_eq_nil_iff]

/-- The requests that a step of `gather()` makes, where it is `made` that it appends. -/
theorem Exits.gatherStep_asked {exits : Exits ι ε} {event : Gather.Event ι ε Unit}
    {gather : Gather.State ι ε Unit} (stepped : Gather.step exits.gather event = some gather)
    {made : List (CancelRequest ι)} (appended : gather.requests = exits.gather.requests ++ made)
    : exits.gatherStep event
      = some { exits with
          gather
          asked :=
            exits.asked
            ++ (made.map CancelRequest.task).filter (fun manager =>
                !(gather.table manager).done) } := by
  simp [Exits.gatherStep, stepped, appended]

/-- The first wait of `gather()` cancels the exits that are pending where it returns with a failed
one.
-/
theorem Exits.asked_of_firstReturns {exits next : Exits ι ε} {gather : Gather.State ι ε Unit}
    (stepped : Gather.step exits.gather .waitReturns = some gather)
    (same : exits.gatherStep .waitReturns = some next) (table : gather.table = exits.gather.table)
    (requests
      : gather.requests
        = exits.gather.requests
          ++ if Gather.anyFailed exits.gather.tasks exits.gather.table then
              cancelAll exits.gather.tasks (some Gather.failedMessage)
            else
              [])
    : next.asked
      = exits.asked
        ++ if Gather.anyFailed exits.gather.tasks exits.gather.table then
            exits.gather.tasks.filter (fun manager => !(exits.gather.table manager).done)
          else
            [] := by
  rw [Exits.gatherStep_asked stepped requests] at same
  rw [← Option.some.inj same]
  split <;> simp [cancelAll, Function.comp_def, table]

/-- A pending exit is cancelled just at the step of a first wait that is not settled. -/
theorem Exits.step_asked {exits next : Exits ι ε} {event : ExitEvent ι ε}
    (uncancelled : ∀ message, event ≠ .cancelled message)
    (stepped : exits.step event = some next)
    : next.asked ≠ [] ↔ exits.asked ≠ [] ∨ ¬Settled exits event := by
  rcases Exits.step_cases stepped with ⟨manager, rfl, -, -, rfl⟩ | ⟨own, same, -, moved⟩
  · simp [Settled]
  · obtain ⟨gather, gatherStepped, -⟩ := Option.map_eq_some_iff.mp moved
    have quiet (none : gather.requests = exits.gather.requests) : next.asked = exits.asked := by
      rw [Exits.gatherStep_asked gatherStepped (none.trans (List.append_nil _).symm)] at moved
      rw [← Option.some.inj moved]
      simp
    cases Gather.move_of_step gatherStepped with
    | completes _ =>
        have other : event ≠ .waitReturns := by
          rintro rfl
          simp [ExitEvent.gather?] at same
        rw [quiet rfl]
        simp [Settled, other]
    | interruptsFirst _ | absorbs _ | forwards _ =>
        cases event with
        | cancelled message => exact absurd rfl (uncancelled message)
        | starts manager => simp [ExitEvent.gather?] at same
        | ends manager ended => simp [ExitEvent.gather?] at same
        | waitReturns => simp [ExitEvent.gather?] at same
    | finishes waits _ =>
        rw [quiet rfl]
        simp [Settled, Gather.State.firstWaitFails, waits]
    | firstReturns waits _ =>
        have here : event = .waitReturns := by
          cases event <;> simp_all [ExitEvent.gather?]
        have fails : exits.gather.firstWaitFails .waitReturns
            = Gather.anyFailed exits.gather.tasks exits.gather.table := by
          simp [Gather.State.firstWaitFails, waits]
        have asked := Exits.asked_of_firstReturns gatherStepped moved rfl rfl
        cases failed : Gather.anyFailed exits.gather.tasks exits.gather.table with
        | false => simp [asked, failed, Settled, fails]
        | true =>
            have settled : Settled exits event
                ↔ ∀ manager ∈ exits.gather.tasks, (exits.gather.table manager).done = true := by
              simp [Settled, here, fails, failed]
            rw [asked, if_pos failed, settled, ← filter_pending_ne_nil_iff, ne_eq,
              List.append_eq_nil_iff, not_and_or]

/-- The exits of some managers as their caller would have them: none that was pending has received
a cancellation, all have ended, and the group that is raised is that of their exceptions.
-/
structure Undisturbed (managers : List ι) (final : Exits ι ε) (outcome : Outcome ε (List Unit))
    : Prop where
  asked : final.asked = []
  done : ∀ manager ∈ managers, (final.gather.table manager).done = true
  group
    : (∃ error, .exception error ∈ managers.map final.gather.table)
      → outcome
        = .raised (.group ((managers.map final.gather.table).filterMap FutureState.exception?))

/-- Exits whose caller is not cancelled do not disturb each other exactly when none is pending any
more where the first wait of `gather()` returns with a failed one.
-/
theorem exits_undisturbed_iff {managers : List ι} {events : List (ExitEvent ι ε)}
    {final : Exits ι ε} {outcome : Outcome ε (List Unit)}
    (uncancelled : ∀ message, .cancelled message ∉ events)
    (reached : Transition.run Exits.step (.start managers) events = some final)
    (exited : final.gather.pc = .exited outcome)
    : Undisturbed managers final outcome
      ↔ Transition.Meets Exits.step Settled (.start managers) events := by
  have sound : final.Sound managers :=
    Transition.run_preserves (fun _ _ _ holds stepped => holds.step stepped)
      (Exits.start_sound managers) reached
  have asked : final.asked ≠ [] ↔ ¬Transition.Meets Exits.step Settled (.start managers) events :=
    Transition.bad_iff_not_meets_of_good Settled
      (fun _ _ _ _ (_ : True) _ => trivial)
      (fun state event member next _ stepped =>
        Exits.step_asked (fun message same => uncancelled message (same ▸ member)) stepped)
      trivial (by simp [Exits.start]) reached
  obtain ⟨own, gatherReached⟩ := sound.reached
  obtain ⟨done, law⟩ := Gather.gather_outcome gatherReached exited
  constructor
  · rintro ⟨none, -, -⟩
    by_contra unmet
    exact asked.mpr unmet none
  · intro met
    refine ⟨?_, done, law.failed⟩
    by_contra some
    exact asked.mp some met

/-- The second exit ends before the failure of the first one is seen. -/
theorem exits_undisturbed_bothEnded
    : ∃ (events : List (ExitEvent Nat String)) (final : Exits Nat String)
        (outcome : Outcome String (List Unit)),
        Transition.run Exits.step (.start [0, 1]) events = some final
        ∧ outcome = .raised (.group ["boom"])
        ∧ Undisturbed [0, 1] final outcome := by
  let events : List (ExitEvent Nat String) :=
    [.starts 0, .starts 1, .ends 0 (.exception "boom"), .ends 1 (.success ()), .waitReturns,
      .waitReturns]
  have reached : Transition.run Exits.step (.start [0, 1]) events = some _ := rfl
  exact ⟨events, _, _, reached, rfl,
    (exits_undisturbed_iff (by simp [events]) reached rfl).mpr (by decide)⟩

/-- A failing exit gets the other one cancelled in the middle of its work. -/
theorem exits_cancel_pending
    : ∃ (events : List (ExitEvent Nat String)) (final : Exits Nat String)
        (outcome : Outcome String (List Unit)),
        (∀ message, .cancelled message ∉ events)
        ∧ Transition.run Exits.step (.start [0, 1]) events = some final
        ∧ final.gather.pc = .exited outcome
        ∧ final.asked = [1]
        ∧ ¬Undisturbed [0, 1] final outcome := by
  let events : List (ExitEvent Nat String) :=
    [.starts 0, .starts 1, .ends 0 (.exception "boom"), .waitReturns, .ends 1 .cancelled,
      .waitReturns]
  have reached : Transition.run Exits.step (.start [0, 1]) events = some _ := rfl
  refine ⟨events, _, _, by simp [events], reached, rfl, rfl, ?_⟩
  intro undisturbed
  exact absurd undisturbed.asked (by decide)

end

end Aiodrive.ConcurrentContexts
