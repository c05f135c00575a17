import Aiodrive.Map.Steps
import Mathlib.Algebra.Ring.Nat

/-! Where nothing fails, every step of `map(ordered=True)` is one of its moves. The moves keep
the chain of jobs and bring the run to its end, and one of them is left until then, unless the
chain broke.
-/

namespace Aiodrive.Map

open Channel (Consumer)

variable {α β : Type*} {items : List α} {mapper : α → β} {maxConcurrentCount : Option Nat}
  {state next : State (OrderedQueue β) α β}

/-- The generator enters its loop beside the first job. -/
theorem Sound.begin (sound : Sound items mapper state)
    (generator : state.generator = .notStarted)
    : Sound items mapper
        { state with
          generator := .iterating
          jobs := state.jobs ++ [.created]
          jobCount := state.jobCount + 1 } := by
  cases sound.phase with
  | head iterating _ _ _ => simp [generator] at iterating
  | broken iterating _ _ => simp [generator] at iterating
  | closed started _ _ _ _ => exact (started generator).elim
  | notStarted _ jobs reserved opened consumer =>
      exact {
        queue := sound.queue
        source := sound.source
        bounded := sound.bounded
        slots := by simp [reserved]
        count := by simp [sound.count]
        phase := .head rfl (by simp [jobs, reserved]) (Or.inl (by simp [jobs, reserved])) opened
        running := by simp [consumer]
        left := by simp
        aborting := fun aborting => ((sound.aborting aborting).2 generator).elim
      }

/-- The generator goes on in its loop, or leaves it, with the invariant of the jobs as it is. -/
theorem Sound.consume (sound : Sound items mapper state) {consumed : Channel.Event β}
    {channel : Channel.State (OrderedQueue β) β} (ofConsumer : consumed.OfConsumer)
    (stepped : Channel.step OrderedQueue.operations state.channel consumed = some channel)
    {generator : Generator} {aborting : Bool}
    (phase : Phase { state with channel, generator, aborting })
    (running : generator = .iterating → channel.consumer ≠ .ended)
    (left : generator = .leaving ∨ generator = .ended → channel.consumer = .ended)
    (stopped : aborting = true → generator ≠ .iterating ∧ generator ≠ .notStarted)
    : Sound items mapper { state with channel, generator, aborting } := by
  obtain ⟨reserved, _, puts⟩ := OrderedQueue.consumer_step_keeps ofConsumer stepped
  exact {
    queue := OrderedQueue.step_sound sound.queue stepped
    source := by simpa only [reserved] using sound.source
    bounded := reserved ▸ sound.bounded
    slots := by
      intro index early
      exact (sound.slots index (by simpa only [reserved] using early)).congr rfl (by rw [puts])
    count := sound.count
    phase
    running
    left
    aborting := stopped
  }

theorem move_of_start
    (stepped : step OrderedQueue.operations maxConcurrentCount mapper state .start = some next)
    : Move maxConcurrentCount mapper state .start next := by
  simp only [step] at stepped
  split at stepped
  · rename_i inJobs
    obtain rfl := Option.some.inj stepped
    refine .starts ?_
    rw [List.getElem?_eq_getElem inJobs]
    have isCreated := List.findIdx_getElem (w := inJobs)
    cases found : state.jobs[state.jobs.findIdx Job.isCreated] with
    | created => rfl
    | fetching => simp [found, Job.isCreated] at isCreated
    | mapping reservation item => simp [found, Job.isCreated] at isCreated
    | finished => simp [found, Job.isCreated] at isCreated
  · contradiction

/-- The source supplies an item, or the queue is closed at its end. -/
theorem Sound.move_of_supply (sound : Sound items mapper state) {job : Nat}
    (stepped
      : step OrderedQueue.operations maxConcurrentCount mapper state (.supply job) = some next)
    : Move maxConcurrentCount mapper state (.supply job) next := by
  simp only [step] at stepped
  split at stepped
  · rename_i found exhausted
    have opened := (sound.head_of_unserved (Or.inr found)).2.2.2
    cases closed : state.channel.queue.close with
    | none =>
        simp only [OrderedQueue.close, opened, Bool.false_eq_true, if_false] at closed
        split at closed <;> contradiction
    | some queue =>
        simp only [OrderedQueue.operations, closed] at stepped
        exact Option.some.inj stepped ▸ .closes found exhausted closed
  · rename_i item source found supplied
    exact Option.some.inj stepped ▸ .receives found supplied
  · contradiction

/-- The first `__anext__()` starts the chain, and the queue is open after it. -/
theorem Sound.move_of_next (sound : Sound items mapper state)
    (stepped : step OrderedQueue.operations maxConcurrentCount mapper state .next = some next)
    : Move maxConcurrentCount mapper state .next next := by
  simp only [step] at stepped
  split at stepped
  · rename_i generator
    have goesOn : state.aborting = false := by
      by_contra aborting
      exact (sound.aborting (by simpa using aborting)).2 generator
    have begun := sound.begin generator
    simp only [State.createJob, goesOn, Bool.false_eq_true, if_false, Option.bind_some,
      State.stepChannel, if_true] at stepped
    obtain ⟨channel, consumedStep, rfl⟩ := Option.map_eq_some_iff.mp stepped
    have running : channel.consumer ≠ .ended := by
      intro ended
      have started := (begun.started_of_ended (by trivial) consumedStep ended).1
      have opened := (begun.head_of_unserved
        (Or.inl (List.getElem?_concat_length))).2.2.2
      simp only at started opened
      simp [started] at opened
    cases consumer : channel.consumer with
    | ended => exact (running consumer).elim
    | ready => exact goesOn ▸ .begins generator consumedStep running
    | suspended waiter => exact goesOn ▸ .begins generator consumedStep running
  · exact sound.move_of_stepChannel (by simp) (by trivial) stepped

/-- Every step of a run in which nothing fails is a move. -/
theorem Sound.move_of_step (sound : Sound items mapper state) {event : Event}
    (noFailure : ∀ job, event ≠ .fail job)
    (stepped
      : step OrderedQueue.operations maxConcurrentCount mapper state event = some next)
    : Move maxConcurrentCount mapper state event next := by
  cases event with
  | fail job => exact (noFailure job rfl).elim
  | callback => exact sound.move_of_stepChannel (by simp) (by trivial) stepped
  | wake => exact sound.move_of_stepChannel (by simp) (by trivial) stepped
  | start => exact move_of_start stepped
  | supply job => exact sound.move_of_supply stepped
  | next => exact sound.move_of_next stepped
  | finish job =>
      simp only [step] at stepped
      split at stepped
      · rename_i reservation item found
        exact Option.some.inj stepped ▸ .finishes found
      · contradiction
  | interrupt =>
      simp only [step] at stepped
      split at stepped
      · rename_i generator _
        split at stepped
        · rename_i aborting
          exact ((sound.aborting aborting).1 generator).elim
        · contradiction
      · contradiction
  | exit =>
      simp only [step] at stepped
      split at stepped
      · rename_i allowed
        exact Option.some.inj stepped ▸ .exits allowed.1
      · contradiction

-----------------------------------------------------------------------------------------
-- The moves keep the chain
-----------------------------------------------------------------------------------------

/-- A chain that runs or was closed stays so while the consumer goes on. -/
theorem Phase.consume (phase : Phase state) (generator : state.generator = .iterating)
    {channel : Channel.State (OrderedQueue β) β}
    (reserved : channel.queue.reservedCount = state.channel.queue.reservedCount)
    (closed : channel.queue.closed = state.channel.queue.closed)
    : Phase { state with channel } := by
  cases phase with
  | notStarted notStarted _ _ _ _ => simp [generator] at notStarted
  | head _ length job opened =>
      exact .head generator (by simpa only [reserved] using length)
        (by simpa only [reserved] using job) (closed.trans opened)
  | broken _ length opened =>
      exact .broken generator (by simpa only [reserved] using length) (closed.trans opened)
  | closed started length job done source =>
      exact .closed started (by simpa only [reserved] using length)
        (by simpa only [reserved] using job) (closed.trans done) source

theorem Sound.move (sound : Sound items mapper state) {event : Event}
    (move : Move maxConcurrentCount mapper state event next)
    : Sound items mapper next := by
  cases move with
  | starts found => exact sound.start found
  | closes found exhausted closed => exact sound.close found exhausted closed
  | receives found supplied => exact (sound.receive found supplied).1
  | finishes found => exact sound.finish found
  | begins generator stepped running =>
      have begun := sound.begin generator
      obtain ⟨reserved, closed, _⟩ :=
        OrderedQueue.consumer_step_keeps (by trivial) stepped
      exact begun.consume (by trivial) stepped (begun.phase.consume rfl reserved closed)
        (fun _ => running) (by simp) begun.aborting
  | advances generator ofGenerator ofConsumer stepped running =>
      obtain ⟨reserved, closed, _⟩ := OrderedQueue.consumer_step_keeps ofConsumer stepped
      exact sound.consume ofConsumer stepped (sound.phase.consume generator reserved closed)
        (fun _ => running) (by simp [generator]) sound.aborting
  | leaves generator ofGenerator ofConsumer stepped ended =>
      obtain ⟨reserved, closed, _⟩ := OrderedQueue.consumer_step_keeps ofConsumer stepped
      have finished := (sound.started_of_ended ofConsumer stepped ended).1
      refine sound.consume ofConsumer stepped ?_ (by simp) (fun _ => ended) (by simp)
      cases sound.phase with
      | notStarted notStarted _ _ _ _ => simp [generator] at notStarted
      | head _ _ _ opened => simp [finished] at opened
      | broken _ _ opened => simp [finished] at opened
      | closed _ length job _ source =>
          exact .closed (by simp) (by simpa only [reserved] using length)
            (by simpa only [reserved] using job) (closed.trans finished) source
  | exits generator =>
      exact { sound with
        phase := by
          cases sound.phase with
          | notStarted notStarted _ _ _ _ => simp [generator] at notStarted
          | head iterating _ _ _ => simp [generator] at iterating
          | broken iterating _ _ => simp [generator] at iterating
          | closed _ length job closed source => exact .closed (by simp) length job closed source
        running := by simp
        left := fun _ => sound.left (Or.inl generator)
        aborting := by simp }

-----------------------------------------------------------------------------------------
-- The moves bring the run to its end
-----------------------------------------------------------------------------------------

/-- The moves that a job has left. -/
def Job.movesLeft : Job α → Nat
  | .created => 3
  | .fetching => 2
  | .mapping _ _ => 1
  | .finished => 0

/-- The moves that the generator has left outside its queue. -/
def Generator.movesLeft : Generator → Nat
  | .notStarted => 6
  | .iterating => 2
  | .leaving => 1
  | .ended => 0

def jobMovesLeft (jobs : List (Job α)) : Nat :=
  (jobs.map Job.movesLeft).sum

/-- A bound on the moves left, in a run over as many items as `count`. -/
def movesLeft (count : Nat) (state : State (OrderedQueue β) α β) : Nat :=
  6 * state.source.length + jobMovesLeft state.jobs
    + OrderedQueue.remaining state.channel.consumer
    + 4 * (count - state.channel.yielded.length) + state.generator.movesLeft

theorem jobMovesLeft_append (jobs others : List (Job α))
    : jobMovesLeft (jobs ++ others) = jobMovesLeft jobs + jobMovesLeft others := by
  simp [jobMovesLeft]

/-- A job that changes alone changes the moves left by its own, by induction on the jobs. -/
theorem jobMovesLeft_set {jobs : List (Job α)} {job : Nat} {before : Job α} (after : Job α)
    (found : jobs[job]? = some before)
    : jobMovesLeft (jobs.set job after) + before.movesLeft
      = jobMovesLeft jobs + after.movesLeft := by
  induction jobs generalizing job with
  | nil => simp at found
  | cons head rest ih =>
      cases job with
      | zero =>
          obtain rfl : head = before := by simpa using found
          simp only [jobMovesLeft, List.set_cons_zero, List.map_cons, List.sum_cons]
          omega
      | succ job =>
          have later := ih (by simpa using found)
          simp only [jobMovesLeft, List.set_cons_succ, List.map_cons, List.sum_cons] at later ⊢
          omega

/-- No more items are yielded than the source has. -/
theorem Sound.length_yielded_le (sound : Sound items mapper state)
    : state.channel.yielded.length ≤ items.length := by
  have yielded := sound.queue.length_yielded
  have bounded := sound.queue.bounded
  have reserved := sound.bounded
  omega

/-- Every move leaves fewer. -/
theorem Sound.move_shrinks (sound : Sound items mapper state) {event : Event}
    (move : Move maxConcurrentCount mapper state event next)
    : movesLeft items.length next < movesLeft items.length state := by
  have yielded := (sound.move move).length_yielded_le
  unfold movesLeft
  cases move with
  | starts found =>
      have fewer := jobMovesLeft_set .fetching found
      simp only [Job.movesLeft] at fewer ⊢
      omega
  | closes found exhausted closed =>
      have fewer := jobMovesLeft_set .finished found
      simp only [State.endJob, Job.movesLeft] at fewer ⊢
      omega
  | finishes found =>
      have fewer := jobMovesLeft_set .finished found
      simp only [State.endJob, Channel.State.put, Job.movesLeft] at fewer ⊢
      omega
  | @receives job item source found supplied =>
      rw [sound.receive_eq found]
      generalize created
        : (if mayCreate maxConcurrentCount state.jobCount then [Job.created] else [])
          = successor
      have few : jobMovesLeft successor ≤ 3 := by
        cases allowed : mayCreate maxConcurrentCount state.jobCount with
        | false =>
            obtain rfl : [] = successor := by simpa [allowed] using created
            simp [jobMovesLeft]
        | true =>
            obtain rfl : [Job.created] = successor := by simpa [allowed] using created
            simp [jobMovesLeft, Job.movesLeft]
      have inJobs := (List.getElem?_eq_some_iff.mp found).1
      have found : (state.jobs ++ successor)[job]? = some .fetching :=
        (List.getElem?_append_left inJobs).trans found
      have fewer := jobMovesLeft_set (.mapping state.channel.queue.reservedCount item) found
      rw [jobMovesLeft_append] at fewer
      simp only [supplied, Job.movesLeft, List.length_cons] at fewer ⊢
      omega
  | begins generator stepped running =>
      have fewer := OrderedQueue.consumer_step_shrinks sound.queue (by trivial) stepped
      have first : jobMovesLeft [(Job.created : Job α)] = 3 := rfl
      simp only [generator, jobMovesLeft_append, first, Generator.movesLeft] at yielded ⊢
      omega
  | advances generator ofGenerator ofConsumer stepped running =>
      have fewer := OrderedQueue.consumer_step_shrinks sound.queue ofConsumer stepped
      simp only at yielded ⊢
      omega
  | leaves generator ofGenerator ofConsumer stepped ended =>
      have fewer := OrderedQueue.consumer_step_shrinks sound.queue ofConsumer stepped
      simp only [generator, Generator.movesLeft] at yielded ⊢
      omega
  | exits generator =>
      simp only [generator, Generator.movesLeft]
      omega

end Aiodrive.Map
