import Aiodrive.PendingDaemon.Model

/-! Whether the generator behind a `PendingDaemonHandle` is resumed at its `yield` before the handle
is closed. A `GuaranteedTask` starts `second_call()` whatever it is asked; a plain task that is
asked to cancel before its first step does not.
-/

namespace Aiodrive.PendingDaemon

open TaskLife (Delivery Ended Phase Target Thrown Waiter)

variable {ε : Type*}

-----------------------------------------------------------------------------------------
-- The daemon task
-----------------------------------------------------------------------------------------

/-- A daemon task that has not taken its first step. -/
def DaemonTask.Fresh : DaemonTask ε → Prop
  | guaranteed task => GuaranteedLife.Waits task
  | plain task => task.phase = .unstarted

/-- A plain task that is to be cancelled in its first step. -/
def DaemonTask.Doomed : DaemonTask ε → Prop
  | guaranteed _ => False
  | plain task => task.mustCancel = true

/-- A daemon task that has been started and has not ended. -/
structure DaemonTask.Begun (task : DaemonTask ε) : Prop where
  phase : task.life.phase ≠ .unstarted
  pending : task.done = false
  ready : ∀ own, task = .guaranteed own → own.ready = true

/-- The future that `second_call()` waits for ends by a cancellation only. -/
def Private (phase : Phase (Error ε) Empty) : Prop :=
  ∃ waiter,
    phase = .waiting waiter
    ∧ waiter.isTask = false
    ∧ ∀ outcome, waiter.outcome = some outcome → ∃ message, outcome = some (.cancelledError message)

@[simp] theorem life_withLife (life : TaskLife.State (Error ε) Empty) (task : DaemonTask ε)
    : (task.withLife life).life = life := by
  cases task <;> rfl

theorem DaemonTask.Begun.withLife {task : DaemonTask ε} (begun : task.Begun)
    {life : TaskLife.State (Error ε) Empty} (phase : life.phase ≠ .unstarted)
    (pending : life.done = false)
    : (task.withLife life).Begun := by
  refine ⟨by simpa using phase, by simpa [DaemonTask.done] using pending, ?_⟩
  cases task with
  | guaranteed task =>
      rintro own ⟨⟩
      exact begun.ready task rfl
  | plain task => exact fun _ => nofun

/-- A request reaches the base class of the task, or does not concern it. -/
theorem life_cancel (task : DaemonTask ε) (message : Option String)
    : (task.cancel message).life = task.life
      ∨ ∃ passed, (task.cancel message).life = (task.life.cancel passed).1 := by
  cases task with
  | plain task => exact .inr ⟨message, rfl⟩
  | guaranteed task =>
      simp only [DaemonTask.cancel, GuaranteedLife.State.cancel]
      split
      · exact .inl rfl
      · split
        · exact .inr ⟨none, rfl⟩
        · exact .inl rfl

@[simp] theorem done_cancel (task : DaemonTask ε) (message : Option String)
    : (task.cancel message).done = task.done := by
  rcases life_cancel task message with same | ⟨passed, same⟩
  · simp [DaemonTask.done, same]
  · simp [DaemonTask.done, same]

theorem DaemonTask.Begun.cancel {task : DaemonTask ε} (begun : task.Begun)
    (message : Option String)
    : (task.cancel message).Begun := by
  refine ⟨fun unstarted => ?_, by simpa using begun.pending, ?_⟩
  · rcases life_cancel task message with same | ⟨passed, same⟩
    · exact begun.phase (same ▸ unstarted)
    · exact begun.phase (TaskLife.cancel_unstarted (same ▸ unstarted))
  · cases task with
    | plain task => exact fun _ => nofun
    | guaranteed task =>
        rintro own ⟨⟩
        have ready := begun.ready task rfl
        simp only [GuaranteedLife.State.cancel, ready, if_true]
        split
        · exact ready
        · rfl

/-- A request cancels the future that `second_call()` waits for, or finds it cancelled. -/
theorem Private.cancel {life : TaskLife.State (Error ε) Empty} (hidden : Private life.phase)
    (message : Option String)
    : Private (life.cancel message).1.phase := by
  obtain ⟨waiter, here, plain, outcomes⟩ := hidden
  cases ended : waiter.outcome with
  | some outcome =>
      simp only [TaskLife.State.cancel, here, Waiter.cancel, ended, TaskLife.State.remember]
      exact ⟨waiter, rfl, plain, outcomes⟩
  | none =>
      simp only [TaskLife.State.cancel, here, Waiter.cancel, ended, plain]
      exact ⟨_, rfl, rfl, fun outcome same => ⟨message, (Option.some.inj same).symm⟩⟩

theorem Private.daemon_cancel {task : DaemonTask ε} (hidden : Private task.life.phase)
    (message : Option String)
    : Private (task.cancel message).life.phase := by
  rcases life_cancel task message with same | ⟨passed, same⟩
  · exact same ▸ hidden
  · exact same ▸ hidden.cancel passed

/-- A request that is already there is passed on to the future that `second_call()` waits for. -/
theorem private_suspend (life : TaskLife.State (Error ε) Empty)
    : Private (life.suspend (.future false)).1.phase := by
  unfold TaskLife.State.suspend
  cases life.mustCancel with
  | false => exact ⟨_, rfl, rfl, nofun⟩
  | true => exact ⟨_, rfl, rfl, fun outcome same => ⟨_, (Option.some.inj same).symm⟩⟩

theorem Private.begun {life : TaskLife.State (Error ε) Empty} (hidden : Private life.phase)
    : life.phase ≠ .unstarted := by
  obtain ⟨waiter, waits, -⟩ := hidden
  simp [waits]

theorem Private.pending {life : TaskLife.State (Error ε) Empty} (hidden : Private life.phase)
    : life.done = false := by
  obtain ⟨waiter, waits, -⟩ := hidden
  simp [TaskLife.State.done, waits]

/-- A task that waits for the private future is resumed with a `CancelledError`. -/
theorem Private.resume {life next : TaskLife.State (Error ε) Empty} {delivery : Delivery (Error ε)}
    (hidden : Private life.phase) (resumed : life.resume false = some (next, delivery))
    : ∃ message, delivery = .threw (.cancelledError message) := by
  obtain ⟨waiter, here, -, outcomes⟩ := hidden
  simp only [TaskLife.State.resume, here, Option.map_eq_some_iff] at resumed
  obtain ⟨outcome, ended, same⟩ := resumed
  obtain ⟨message, rfl⟩ := outcomes outcome ended
  exact ⟨message, (Prod.mk.inj same).2.symm⟩

/-- The first step starts `second_call()`, unless the task is to be cancelled in it. -/
theorem DaemonTask.Fresh.resume {task next : DaemonTask ε} {delivery : Delivery (Error ε)}
    (fresh : task.Fresh) (resumed : task.resume = some (next, delivery))
    : ¬task.Doomed ∧ delivery = .started ∧ next.Begun
      ∨ task.Doomed ∧ delivery ≠ .started ∧ next.done = true := by
  cases task with
  | guaranteed task =>
      have waits : GuaranteedLife.Waits task := fresh
      simp only [DaemonTask.resume, waits.resume, Option.map_some, Option.some.injEq,
        Prod.mk.injEq] at resumed
      obtain ⟨rfl, rfl⟩ := resumed
      refine .inl ⟨id, rfl, ?_, rfl, ?_⟩
      · simp [life, GuaranteedLife.begun]
      · rintro own ⟨⟩
        rfl
  | plain task =>
      have unstarted : task.phase = .unstarted := fresh
      obtain ⟨⟨after, given⟩, stepped, same⟩ := Option.map_eq_some_iff.mp resumed
      obtain ⟨rfl, rfl⟩ := Prod.mk.inj same
      simp only [TaskLife.State.resume, unstarted] at stepped
      split at stepped
      · rename_i doomed
        obtain ⟨rfl, rfl⟩ := Prod.mk.inj (Option.some.inj stepped)
        exact .inr ⟨by simpa [Doomed] using doomed, by simp, rfl⟩
      · rename_i spared
        obtain ⟨rfl, rfl⟩ := Prod.mk.inj (Option.some.inj stepped)
        refine .inl ⟨by simpa [Doomed] using spared, rfl, by simp [life], rfl, ?_⟩
        rintro own ⟨⟩

/-- A later step is one of the base class. -/
theorem DaemonTask.Begun.resume {task next : DaemonTask ε} {delivery : Delivery (Error ε)}
    (begun : task.Begun) (resumed : task.resume = some (next, delivery))
    : next.Begun ∧ task.life.resume false = some (next.life, delivery) := by
  have later {life after : TaskLife.State (Error ε) Empty} {given : Delivery (Error ε)}
      (started : life.phase ≠ .unstarted) (stepped : life.resume false = some (after, given))
      : after.phase ≠ .unstarted ∧ after.done = false ∧ given ≠ .started := by
    obtain ⟨⟨exception, same⟩, -⟩ := TaskLife.resume_started stepped started
    obtain ⟨rfl, rfl⟩ := Prod.mk.inj same
    exact ⟨by simp, by simp [TaskLife.State.done], TaskLife.wakeup_delivery life exception⟩
  cases task with
  | plain task =>
      obtain ⟨⟨after, given⟩, stepped, same⟩ := Option.map_eq_some_iff.mp resumed
      obtain ⟨rfl, rfl⟩ := Prod.mk.inj same
      obtain ⟨started, pending, -⟩ := later begun.phase stepped
      refine ⟨⟨started, pending, ?_⟩, stepped⟩
      rintro own ⟨⟩
  | guaranteed task =>
      obtain ⟨⟨after, given⟩, stepped, same⟩ := Option.map_eq_some_iff.mp resumed
      obtain ⟨rfl, rfl⟩ := Prod.mk.inj same
      obtain ⟨⟨parent, own⟩, parentStepped, same⟩ := Option.map_eq_some_iff.mp stepped
      -- `task_main()` is entered in the first step only
      have moved (other : own ≠ .started) : after = { task with parent } ∧ given = own := by
        cases own with
        | started => exact absurd rfl other
        | sent | cancelled _ | threw _ =>
            obtain ⟨rfl, rfl⟩ := Prod.mk.inj same
            exact ⟨rfl, rfl⟩
      obtain ⟨started, pending, other⟩ := later begun.phase parentStepped
      obtain ⟨rfl, rfl⟩ := moved other
      refine ⟨⟨started, pending, ?_⟩, parentStepped⟩
      rintro own ⟨⟩
      exact begun.ready task rfl

-----------------------------------------------------------------------------------------
-- The generator
-----------------------------------------------------------------------------------------

/-- What the place of `second_call()` says of its task and of the generator. -/
def Placed (state : State ε) : Prop :=
  match state.coroutine with
  | .unstarted => state.task.Fresh ∧ state.resumed = 0
  | .waiting => state.task.Begun ∧ Private state.task.life.phase ∧ state.resumed = 0
  | .finalising _ | .closingGenerator => state.task.Begun ∧ state.resumed = 1
  | .ended => state.task.done = true ∧ state.resumed ≤ 1

/-- What holds of every handle: where `second_call()` is, and that the handle is closed only once it
has ended.
-/
structure Sound (state : State ε) : Prop where
  placed : Placed state
  closed : state.closer = .closed → state.coroutine = .ended

/-- The generator has not been resumed at its `yield` and will not be. -/
def Lost (state : State ε) : Prop :=
  match state.coroutine with
  | .unstarted => state.task.Doomed
  | .waiting | .finalising _ | .closingGenerator => False
  | .ended => state.resumed = 0

theorem initial_sound (way : Way) : Sound (State.initial way : State ε) := by
  refine ⟨?_, nofun⟩
  cases way with
  | contextManager => exact ⟨GuaranteedLife.new_waits, rfl⟩
  | closing => exact ⟨rfl, rfl⟩

theorem not_lost_initial (way : Way) : ¬Lost (State.initial way : State ε) := by
  cases way <;> simp [Lost, State.initial, DaemonTask.new, DaemonTask.Doomed, TaskLife.State.new]

theorem DaemonTask.Fresh.cancel {task : DaemonTask ε} (fresh : task.Fresh)
    (message : Option String)
    : (task.cancel message).Fresh ∧ ((task.cancel message).Doomed ↔ task.way = .closing) := by
  cases task with
  | guaranteed task =>
      have waits : GuaranteedLife.Waits task := fresh
      have same := waits.cancel message
      refine ⟨?_, by simp [DaemonTask.cancel, Doomed, way]⟩
      simp only [DaemonTask.cancel, Fresh, same]
      exact waits
  | plain task =>
      have unstarted : task.phase = .unstarted := fresh
      simp [DaemonTask.cancel, TaskLife.State.cancel, unstarted, TaskLife.State.remember, Fresh,
        Doomed, way]

theorem DaemonTask.Fresh.not_done {task : DaemonTask ε} (fresh : task.Fresh)
    : task.done = false := by
  cases task with
  | guaranteed task =>
      have parent : task.parent = .new := fresh.2
      simp [done, life, parent, TaskLife.State.done, TaskLife.State.new]
  | plain task =>
      have unstarted : task.phase = .unstarted := fresh
      simp [done, life, TaskLife.State.done, unstarted]

/-- A done task takes no step. -/
theorem resume_of_done {task : DaemonTask ε} (done : task.done = true) : task.resume = none := by
  have stuck {life : TaskLife.State (Error ε) Empty} (done : life.done = true)
      : life.resume false = none := by
    unfold TaskLife.State.done at done
    split at done
    · simp [TaskLife.State.resume, *]
    · cases done
  cases task with
  | guaranteed task =>
      have blocked : task.parent.resume false = none := stuck done
      simp [DaemonTask.resume, GuaranteedLife.State.resume, blocked]
  | plain task =>
      have blocked : task.resume false = none := stuck done
      simp [DaemonTask.resume, blocked]

/-- The events by which the task is asked to cancel. -/
def Event.asks : Event ε → Bool
  | cancel _ | closes => true
  | resumes | generatorSuspends _ | waiterEnds _ | generatorYields | generatorEnds _
  | closerResumes => false

/-- A plain task is asked to cancel only after its first step. -/
def AfterFirstStep (state : State ε) (event : Event ε) : Prop :=
  event.asks = true → state.task.way = .closing → state.coroutine ≠ .unstarted

instance (state : State ε) (event : Event ε) : Decidable (AfterFirstStep state event) :=
  inferInstanceAs (Decidable (_ → _ → _))

/-- A request keeps the place of `second_call()`, and loses the generator of a plain task that has
not been started.
-/
theorem Placed.cancel {state : State ε} (placed : Placed state) (message : Option String)
    (closer : Closer)
    : let next := { state with task := state.task.cancel message, closer }
      Placed next
      ∧ (Lost next ↔ Lost state ∨ state.task.way = .closing ∧ state.coroutine = .unstarted) := by
  unfold Placed Lost at *
  cases here : state.coroutine with
  | unstarted =>
      simp only [here] at placed ⊢
      obtain ⟨fresh, doomed⟩ := placed.1.cancel message
      refine ⟨⟨fresh, placed.2⟩, ?_⟩
      simp only [doomed, and_true]
      constructor
      · exact .inr
      · rintro (lost | closing)
        · cases same : state.task with
          | guaranteed task => simp [same, DaemonTask.Doomed] at lost
          | plain task => rfl
        · exact closing
  | waiting =>
      simp only [here] at placed ⊢
      refine ⟨⟨placed.1.cancel message, placed.2.1.daemon_cancel message, placed.2.2⟩, by simp⟩
  | finalising _ | closingGenerator =>
      simp only [here] at placed ⊢
      exact ⟨⟨placed.1.cancel message, placed.2⟩, by simp⟩
  | ended =>
      simp only [here] at placed ⊢
      exact ⟨⟨by simpa using placed.1, placed.2⟩, by simp⟩

/-- A step of the task keeps the place of `second_call()`, and loses no generator that was not lost.
-/
theorem Placed.deliver {state : State ε} {task : DaemonTask ε} {delivery : Delivery (Error ε)}
    (placed : Placed state) (resumed : state.task.resume = some (task, delivery))
    : Placed ({ state with task }.deliver delivery)
      ∧ (Lost ({ state with task }.deliver delivery) ↔ Lost state) := by
  unfold Placed at placed
  cases here : state.coroutine with
  | unstarted =>
      simp only [here] at placed
      rcases placed.1.resume resumed with ⟨spared, rfl, begun⟩ | ⟨doomed, other, done⟩
      · have suspended : (task.suspend (.future false)).Begun :=
          begun.withLife (private_suspend task.life).begun (private_suspend task.life).pending
        have hidden : Private (task.suspend (.future false)).life.phase := by
          simpa [DaemonTask.suspend] using private_suspend task.life
        exact ⟨by simpa [State.deliver, here, Placed] using ⟨suspended, hidden, placed.2⟩,
          by simp [State.deliver, here, Lost, spared]⟩
      · cases delivery with
        | started => exact absurd rfl other
        | sent | cancelled _ | threw _ =>
            simp [State.deliver, here, Placed, Lost, done, placed.2, doomed]
  | waiting =>
      simp only [here] at placed
      obtain ⟨begun, parent⟩ := placed.1.resume resumed
      obtain ⟨message, rfl⟩ := placed.2.1.resume parent
      exact ⟨by simpa [State.deliver, here, Placed, placed.2.2] using begun,
        by simp [State.deliver, here, Lost]⟩
  | finalising _ | closingGenerator =>
      simp only [here] at placed
      obtain ⟨begun, -⟩ := placed.1.resume resumed
      exact ⟨by simpa [State.deliver, here, Placed] using ⟨begun, placed.2⟩,
        by simp [State.deliver, here, Lost]⟩
  | ended =>
      simp only [here] at placed
      simp [resume_of_done placed.1] at resumed

/-- The generator, once resumed, may do what it likes with its task: it stays where it is. -/
theorem Placed.inGenerator {state : State ε} (placed : Placed state)
    (inGenerator : state.coroutine ≠ .unstarted ∧ state.coroutine ≠ .waiting)
    (unended : state.coroutine ≠ .ended)
    : state.task.Begun ∧ state.resumed = 1 ∧ ¬Lost state := by
  unfold Placed at placed
  unfold Lost
  cases here : state.coroutine with
  | unstarted => exact absurd here inGenerator.1
  | waiting => exact absurd here inGenerator.2
  | finalising _ | closingGenerator =>
      simp only [here] at placed
      exact ⟨placed.1, placed.2, id⟩
  | ended => exact absurd here unended

theorem Placed.withLife {state : State ε} (placed : Placed state)
    (inGenerator : state.coroutine ≠ .unstarted ∧ state.coroutine ≠ .waiting)
    (unended : state.coroutine ≠ .ended) {life : TaskLife.State (Error ε) Empty}
    (phase : life.phase ≠ .unstarted) (pending : life.done = false)
    : let next := { state with task := state.task.withLife life }
      Placed next ∧ (Lost next ↔ Lost state) := by
  obtain ⟨begun, once, spared⟩ := placed.inGenerator inGenerator unended
  unfold Placed Lost at *
  cases here : state.coroutine with
  | unstarted => exact absurd here inGenerator.1
  | waiting => exact absurd here inGenerator.2
  | finalising _ | closingGenerator => exact ⟨⟨begun.withLife phase pending, once⟩, Iff.rfl⟩
  | ended => exact absurd here unended

/-- The generator runs only where it has been resumed. -/
theorem inGenerator_of_runs {state : State ε} (runs : state.generatorRuns = true)
    : (state.coroutine ≠ .unstarted ∧ state.coroutine ≠ .waiting) ∧ state.coroutine ≠ .ended := by
  unfold State.generatorRuns at runs
  split at runs <;> simp_all

/-- The task ends with `second_call()`. -/
theorem Placed.ended_of_done {state : State ε} (placed : Placed state)
    (done : state.task.done = true)
    : state.coroutine = .ended := by
  unfold Placed at placed
  cases here : state.coroutine with
  | unstarted =>
      simp only [here] at placed
      simp [placed.1.not_done] at done
  | waiting | finalising _ | closingGenerator =>
      simp only [here] at placed
      simp [placed.1.pending] at done
  | ended => rfl

@[simp] theorem closer_deliver (state : State ε) (delivery : Delivery (Error ε))
    : (state.deliver delivery).closer = state.closer := by
  unfold State.deliver
  split
  · split <;> rfl
  · split <;> rfl
  all_goals rfl

theorem suspend_begun (life : TaskLife.State (Error ε) Empty) (target : Target)
    : (life.suspend target).1.phase ≠ .unstarted ∧ (life.suspend target).1.done = false := by
  cases target with
  | bareYield => simp [TaskLife.State.suspend, TaskLife.State.done]
  | future isTask =>
      simp only [TaskLife.State.suspend]
      split <;> simp [TaskLife.State.done]

/-- One step keeps a handle sound. It loses the generator where a plain task is asked to cancel
before its first step.
-/
theorem step_spec {state next : State ε} {event : Event ε} (sound : Sound state)
    (stepped : step state event = some next)
    : Sound next ∧ (Lost next ↔ Lost state ∨ ¬AfterFirstStep state event) := by
  obtain ⟨placed, closed⟩ := sound
  have asked (asks : event.asks = true)
      : ¬AfterFirstStep state event ↔ state.task.way = .closing ∧ state.coroutine = .unstarted := by
    simp [AfterFirstStep, asks]
  have quiet (quiet : event.asks = false) : AfterFirstStep state event := by
    simp [AfterFirstStep, quiet]
  cases move_of_step stepped with
  | asks =>
      obtain ⟨kept, lost⟩ := placed.cancel _ state.closer
      exact ⟨⟨kept, closed⟩, by rw [asked rfl]; exact lost⟩
  | resumes resumed =>
      obtain ⟨kept, lost⟩ := placed.deliver resumed
      refine ⟨⟨kept, fun passed => ?_⟩, Transition.entered_of_met lost (quiet rfl)⟩
      have ended := closed (by simpa using passed)
      simp only [Placed, ended] at placed
      simp [resume_of_done placed.1] at resumed
  | @suspends target runs =>
      obtain ⟨inGenerator, unended⟩ := inGenerator_of_runs runs
      obtain ⟨phase, pending⟩ := suspend_begun state.task.life target
      obtain ⟨kept, lost⟩ := placed.withLife inGenerator unended phase pending
      exact ⟨⟨kept, closed⟩, Transition.entered_of_met lost (quiet rfl)⟩
  | @waited exception waiter inGenerator unended =>
      let life : TaskLife.State (Error ε) Empty :=
        { state.task.life with phase := .waiting waiter }
      have phase : life.phase ≠ .unstarted := by simp [life]
      obtain ⟨kept, lost⟩ := placed.withLife inGenerator unended phase rfl
      exact ⟨⟨kept, closed⟩, Transition.entered_of_met lost (quiet rfl)⟩
  | yields here =>
      obtain ⟨begun, once, spared⟩ := placed.inGenerator (by simp [here]) (by simp [here])
      refine ⟨⟨⟨begun, once⟩, fun passed => ?_⟩, ?_⟩
      · cases here.symm.trans (closed passed)
      · exact Transition.entered_of_met (by simp [Lost, here]) (quiet rfl)
  | ends runs raised =>
      obtain ⟨inGenerator, unended⟩ := inGenerator_of_runs runs
      obtain ⟨begun, once, spared⟩ := placed.inGenerator inGenerator unended
      obtain ⟨own, rfl⟩ := raised
      refine ⟨⟨⟨?_, Nat.le_of_eq once⟩, fun _ => rfl⟩, ?_⟩
      · simp [State.finish, DaemonTask.finish, DaemonTask.done, TaskLife.State.finish,
          TaskLife.State.done]
      · refine Transition.entered_of_met (iff_of_false ?_ spared) (quiet rfl)
        simp [Lost, State.finish, once]
  | closesDone here done =>
      have ended := placed.ended_of_done done
      refine ⟨⟨placed, fun _ => ended⟩, Transition.entered_of_met Iff.rfl ?_⟩
      simp [AfterFirstStep, ended]
  | closes here pending =>
      obtain ⟨kept, lost⟩ := placed.cancel none .awaiting
      refine ⟨⟨kept, ?_⟩, by rw [asked rfl]; exact lost⟩
      rintro ⟨⟩
  | closed here done =>
      exact ⟨⟨placed, fun _ => placed.ended_of_done done⟩,
        Transition.entered_of_met Iff.rfl (quiet rfl)⟩

/-- Every reachable handle is sound, by induction on the events. -/
theorem run_sound {way : Way} {events : List (Event ε)} {final : State ε}
    (reached : Transition.run step (.initial way) events = some final)
    : Sound final :=
  Transition.run_preserves (fun _ _ _ sound stepped => (step_spec sound stepped).1)
    (initial_sound way) reached

/-- The generator of any handle is resumed at its `yield` once at most. -/
theorem resumed_le_one {way : Way} {events : List (Event ε)} {final : State ε}
    (reached : Transition.run step (.initial way) events = some final)
    : final.resumed ≤ 1 := by
  have placed := (run_sound reached).placed
  unfold Placed at placed
  split at placed <;> omega

/-- The generator is lost in the runs in which a plain task is asked to cancel before its first
step.
-/
theorem run_lost_iff {way : Way} {events : List (Event ε)} {final : State ε}
    (reached : Transition.run step (.initial way) events = some final)
    : Lost final ↔ ¬Transition.Meets step AfterFirstStep (.initial way) events :=
  Transition.bad_iff_not_meets_of_good AfterFirstStep
    (fun _ _ _ _ sound stepped => (step_spec sound stepped).1)
    (fun _ _ _ _ sound stepped => (step_spec sound stepped).2)
    (initial_sound way) (not_lost_initial way) reached

/-- In a closed handle, the generator has been resumed exactly when it has not been lost. -/
theorem resumed_of_closed {way : Way} {events : List (Event ε)} {final : State ε}
    (reached : Transition.run step (.initial way) events = some final)
    (closed : final.closer = .closed)
    : final.resumed = 1 ↔ ¬Lost final := by
  have ended := (run_sound reached).closed closed
  have once := resumed_le_one reached
  simp only [Lost, ended]
  omega

/-- A handle that has been closed has resumed its generator, exactly once, just if a plain daemon
task was asked to cancel only after its first step.
-/
theorem daemon_finalised_iff {way : Way} {events : List (Event ε)} {final : State ε}
    (reached : Transition.run step (.initial way) events = some final)
    (closed : final.closer = .closed)
    : final.resumed = 1 ↔ Transition.Meets step AfterFirstStep (.initial way) events := by
  rw [resumed_of_closed reached closed, run_lost_iff reached, not_not]

/-- A context manager that is left before the daemon task has run its first step. -/
theorem daemon_finalised_leftAtOnce
    : ∃ (events : List (Event String)) (final : State String),
        Transition.run step (.initial .contextManager) events = some final
        ∧ final.closer = .closed
        ∧ final.resumed = 1 := by
  have reached : Transition.run step (.initial .contextManager : State String)
      [.closes, .resumes, .resumes, .generatorEnds none, .closerResumes] = some _ := rfl
  exact ⟨_, _, reached, rfl, (daemon_finalised_iff reached rfl).mpr (by decide)⟩

/-- A started handle that is closed before the daemon task has run its first step. -/
theorem daemon_not_finalised
    : ∃ (events : List (Event String)) (final : State String),
        Transition.run step (.initial .closing) events = some final
        ∧ final.closer = .closed
        ∧ final.resumed = 0 :=
  ⟨[.closes, .resumes, .closerResumes], _, rfl, rfl, rfl⟩

@[simp] theorem way_cancel (task : DaemonTask ε) (message : Option String)
    : (task.cancel message).way = task.way := by
  cases task <;> rfl

@[simp] theorem way_withLife (life : TaskLife.State (Error ε) Empty) (task : DaemonTask ε)
    : (task.withLife life).way = task.way := by
  cases task <;> rfl

theorem way_of_resume {task next : DaemonTask ε} {delivery : Delivery (Error ε)}
    (resumed : task.resume = some (next, delivery))
    : next.way = task.way := by
  cases task with
  | guaranteed task =>
      obtain ⟨⟨after, given⟩, -, same⟩ := Option.map_eq_some_iff.mp resumed
      exact (Prod.mk.inj same).1 ▸ rfl
  | plain task =>
      obtain ⟨⟨after, given⟩, -, same⟩ := Option.map_eq_some_iff.mp resumed
      exact (Prod.mk.inj same).1 ▸ rfl

@[simp] theorem way_deliver (state : State ε) (delivery : Delivery (Error ε))
    : (state.deliver delivery).task.way = state.task.way := by
  unfold State.deliver State.finish DaemonTask.finish DaemonTask.suspend
  split
  · split <;> simp
  · split <;> simp
  all_goals rfl

/-- The kind of the daemon task stays what the way of using the handle makes it. -/
theorem way_of_step {state next : State ε} {event : Event ε}
    (stepped : step state event = some next)
    : next.task.way = state.task.way := by
  cases move_of_step stepped with
  | asks => simp
  | resumes resumed => simpa using way_of_resume resumed
  | suspends _ => simp [DaemonTask.suspend]
  | waited _ _ => simp
  | yields _ => rfl
  | ends _ _ => simp [State.finish, DaemonTask.finish]
  | closesDone _ _ => rfl
  | closes _ _ => simp
  | closed _ _ => rfl

/-- A handle that is used as a context manager always resumes its generator before it is left. -/
theorem resumed_of_contextManager {events : List (Event ε)} {final : State ε}
    (reached : Transition.run step (.initial .contextManager) events = some final)
    (closed : final.closer = .closed)
    : final.resumed = 1 := by
  have met : Transition.Meets step AfterFirstStep (.initial .contextManager : State ε) events := by
    have kept (state : State ε) (event : Event ε) (_ : event ∈ events) (next : State ε)
        (same : state.task.way = .contextManager) (stepped : step state event = some next)
        : next.task.way = .contextManager :=
      (way_of_step stepped).trans same
    refine Transition.meets_of_inv kept ?_ rfl
    intro state event _ same _ closing
    cases same.symm.trans closing
  rw [resumed_of_closed reached closed, run_lost_iff reached]
  exact not_not_intro met

end Aiodrive.PendingDaemon
