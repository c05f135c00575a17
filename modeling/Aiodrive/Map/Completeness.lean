import Aiodrive.Map.Progress

/-! When `map(ordered=True)` is complete: it goes on until every mapped item was yielded,
except where an item comes while `max_concurrent_count` jobs are alive. No job is left then
to fetch the next item, and the consumer waits for ever.
-/

namespace Aiodrive.Map

open Channel (Consumer)

variable {α β : Type*} {items : List α} {mapper : α → β} {maxConcurrentCount : Option Nat}
  {state next : State (OrderedQueue β) α β}

/-- The consumer sleeps in the queue, which is not closed, beside no job that could wake it. -/
def State.Stranded (state : State (OrderedQueue β) α β) : Prop :=
  state.channel.Asleep OrderedQueue.operations
  ∧ (∀ job ∈ state.jobs, job.alive = false)
  ∧ state.channel.queue.closed = false

/-- The job that receives an item may create the next job. -/
def HasSuccessor (maxConcurrentCount : Option Nat) (state : State (OrderedQueue β) α β)
    : Event → Prop
  | .supply _ => state.source = [] ∨ mayCreate maxConcurrentCount state.jobCount = true
  | .start | .finish _ | .fail _ | .next | .callback | .wake | .interrupt | .exit => True

instance (state : State (OrderedQueue β) α β) (event : Event)
    : Decidable (HasSuccessor maxConcurrentCount state event) :=
  match event with
  | .supply _ => inferInstanceAs (Decidable (_ ∨ _))
  | .start | .finish _ | .fail _ | .next | .callback | .wake | .interrupt | .exit =>
      isTrue trivial

/-- The chain breaks exactly where a job that receives an item creates no other, and a broken
chain stays so.
-/
theorem Sound.broken_move_iff (sound : Sound items mapper state) {event : Event}
    (move : Move maxConcurrentCount mapper state event next)
    : Broken next ↔ Broken state ∨ ¬HasSuccessor maxConcurrentCount state event := by
  have unbroken {job : Nat}
      (found : state.jobs[job]? = some .created ∨ state.jobs[job]? = some .fetching)
      : ¬Broken state := by
    rintro ⟨_, _, length⟩
    have longer := (sound.head_of_unserved found).2.2.1
    omega
  cases move with
  | starts found => simp [Broken, HasSuccessor]
  | closes found exhausted closed =>
      have done := (OrderedQueue.close_eq_some closed).2.2
      refine iff_of_false ?_ (by simp [HasSuccessor, exhausted, unbroken (Or.inr found)])
      simp [Broken, State.endJob, done]
  | receives found supplied =>
      rw [(sound.receive found supplied).2]
      simp [HasSuccessor, supplied, unbroken (Or.inr found)]
  | finishes found =>
      simp [Broken, HasSuccessor, State.endJob, Channel.State.put, OrderedQueue.operations]
  | begins generator stepped running =>
      obtain ⟨reserved, _, _⟩ := OrderedQueue.consumer_step_keeps (by trivial) stepped
      have length := ((sound.begin generator).head_of_unserved
        (Or.inl List.getElem?_concat_length)).2.2.1
      refine iff_of_false (fun broken => ?_) (by simp [HasSuccessor, Broken, generator])
      have short := broken.2.2
      simp only [reserved] at short length
      omega
  | advances generator ofGenerator ofConsumer stepped running =>
      obtain ⟨reserved, closed, _⟩ := OrderedQueue.consumer_step_keeps ofConsumer stepped
      rcases ofGenerator with rfl | rfl | rfl <;> simp [Broken, HasSuccessor, reserved, closed]
  | leaves generator ofGenerator ofConsumer stepped ended =>
      have finished := (sound.started_of_ended ofConsumer stepped ended).1
      rcases ofGenerator with rfl | rfl | rfl <;> simp [Broken, HasSuccessor, finished]
  | exits generator => simp [Broken, HasSuccessor, generator]

-----------------------------------------------------------------------------------------
-- What was yielded
-----------------------------------------------------------------------------------------

/-- A reservation that was put has the mapped item of its index. -/
theorem Sound.lookup_put (sound : Sound items mapper state) {index : Nat} {value : β}
    (put : state.channel.puts.lookup index = some value)
    : (items.map mapper)[index]? = some value := by
  obtain ⟨item, here, ⟨_, absent⟩ | ⟨_, found⟩⟩ :=
    sound.slots index (sound.queue.known index value put)
  · simp [absent] at put
  · obtain rfl := Option.some.inj (found.symm.trans put)
    simp [here]

/-- The items yielded so far are the first of the mapped items. -/
theorem Sound.yielded_prefix (sound : Sound items mapper state)
    : state.channel.yielded <+: items.map mapper := by
  rw [List.prefix_iff_getElem?]
  intro index inYielded
  have delivered := congrArg (fun values => values[index]?) sound.queue.delivered
  have earlier := sound.queue.length_yielded ▸ inYielded
  simp only [List.getElem?_map, List.getElem?_range earlier, Option.map_some,
    List.getElem?_eq_getElem inYielded, Option.some.injEq] at delivered
  exact sound.lookup_put delivered.symm

/-- A generator that left its loop yielded every mapped item. -/
theorem Sound.yielded_of_ended (sound : Sound items mapper state)
    (ended : state.generator = .leaving ∨ state.generator = .ended)
    : state.channel.yielded = items.map mapper := by
  obtain ⟨_, all⟩ := sound.queue.ended (sound.left ended)
  have exhausted : items.length ≤ state.channel.queue.reservedCount := by
    cases sound.phase with
    | notStarted notStarted _ _ _ _ => simp [notStarted] at ended
    | head iterating _ _ _ => simp [iterating] at ended
    | broken iterating _ _ => simp [iterating] at ended
    | closed _ _ _ _ source => exact List.drop_eq_nil_iff.mp (sound.source.symm.trans source)
  apply sound.yielded_prefix.eq_of_length
  have bounded := sound.bounded
  rw [sound.queue.length_yielded, List.length_map]
  omega

-----------------------------------------------------------------------------------------
-- Where a run can stop
-----------------------------------------------------------------------------------------

/-- A consumer stranded in the queue is one whose chain of jobs broke. -/
theorem Sound.broken_of_stranded (sound : Sound items mapper state)
    (stranded : state.Stranded)
    : Broken state := by
  obtain ⟨⟨waiter, suspended, _⟩, dead, opened⟩ := stranded
  cases sound.phase with
  | notStarted _ _ _ _ ready => simp [suspended] at ready
  | broken generator length _ => exact ⟨generator, opened, length⟩
  | closed _ _ _ closed _ => simp [opened] at closed
  | head _ _ job _ =>
      rcases job with job | job
      · simpa using dead _ (List.mem_of_getElem? job)
      · simpa using dead _ (List.mem_of_getElem? job)

/-- A living job can take a step. -/
theorem job_goes_on {job : Nat} {working : Job α} (found : state.jobs[job]? = some working)
    (alive : working.alive = true)
    : ∃ event,
        (∀ failed, event ≠ .fail failed)
        ∧ (step OrderedQueue.operations maxConcurrentCount mapper state event).isSome
          = true := by
  cases working with
  | finished => contradiction
  | mapping reservation item => exact ⟨.finish job, by simp, by simp [step, found]⟩
  | fetching =>
      refine ⟨.supply job, by simp, ?_⟩
      cases supplied : state.source with
      | cons item source => simp [step, found, supplied]
      | nil =>
          cases closed : state.channel.queue.close <;>
            simp [step, found, supplied, OrderedQueue.operations, closed]
  | created =>
      have inJobs : state.jobs.findIdx Job.isCreated < state.jobs.length :=
        List.findIdx_lt_length_of_exists ⟨_, List.mem_of_getElem? found, rfl⟩
      exact ⟨.start, by simp, by simp [step, inJobs]⟩

/-- A generator in its loop can take the steps of its queue. -/
theorem stepChannel_isSome (generator : state.generator = .iterating)
    {consumed : Channel.Event β} {channel : Channel.State (OrderedQueue β) β}
    (stepped : Channel.step OrderedQueue.operations state.channel consumed = some channel)
    : (state.stepChannel OrderedQueue.operations consumed).isSome = true := by
  simp [State.stepChannel, generator, stepped]

/-- A generator in its loop goes on unless its consumer sleeps. -/
theorem Sound.generator_goes_on (sound : Sound items mapper state)
    (generator : state.generator = .iterating)
    (awake : ¬state.channel.Asleep OrderedQueue.operations)
    : ∃ event,
        (∀ failed, event ≠ .fail failed)
        ∧ (step OrderedQueue.operations maxConcurrentCount mapper state event).isSome
          = true := by
  obtain ⟨consumed, channel, ofConsumer, stepped⟩ :=
    Channel.consumer_goes_on (sound.running generator) awake
  have enabled := stepChannel_isSome generator stepped
  cases consumed with
  | reserve => exact ofConsumer.elim
  | put reservation item => exact ofConsumer.elim
  | close => exact ofConsumer.elim
  | next => exact ⟨.next, by simp, by simpa [step, generator] using enabled⟩
  | callback => exact ⟨.callback, by simp, enabled⟩
  | wake => exact ⟨.wake, by simp, enabled⟩

/-- A consumer sleeps beside a closed queue only while a job is at work for it. -/
theorem Sound.alive_of_asleep (sound : Sound items mapper state)
    (asleep : state.channel.Asleep OrderedQueue.operations)
    (closed : state.channel.queue.closed = true)
    : ∃ job ∈ state.jobs, job.alive = true := by
  obtain ⟨waiter, suspended, resting⟩ := asleep
  obtain ⟨missing, unfinished⟩ := (sound.queue.asleep waiter suspended).mp resting
  have early : state.channel.queue.currentIndex < state.channel.queue.reservedCount :=
    Nat.lt_of_le_of_ne sound.queue.bounded (fun same => unfinished ⟨closed, same⟩)
  have absent := (sound.queue.stored _ (Nat.le_refl _)).symm.trans missing
  obtain ⟨item, _, ⟨working, _⟩ | ⟨_, put⟩⟩ := sound.slots _ early
  · exact ⟨_, List.mem_of_getElem? working, rfl⟩
  · simp [absent] at put

/-- Nothing can happen any more, failures aside. -/
def Settled (maxConcurrentCount : Option Nat) (mapper : α → β)
    (state : State (OrderedQueue β) α β)
    : Prop :=
  ∀ event,
    (step OrderedQueue.operations maxConcurrentCount mapper state event).isSome = true
    → ∃ job, event = .fail job

/-- A run that can take no step has ended, or stranded its consumer beside a broken chain. -/
theorem Sound.settled_cases (sound : Sound items mapper state)
    (settled : Settled maxConcurrentCount mapper state)
    : state.generator = .ended ∨ Broken state ∧ state.Stranded := by
  have stuck (event : Event) (noFailure : ∀ failed, event ≠ .fail failed)
      : ¬(step OrderedQueue.operations maxConcurrentCount mapper state event).isSome
          = true := by
    intro enabled
    obtain ⟨job, same⟩ := settled event enabled
    exact noFailure job same
  have dead : ∀ job ∈ state.jobs, job.alive = false := by
    intro job member
    by_contra alive
    obtain ⟨index, inJobs, rfl⟩ := List.getElem_of_mem member
    obtain ⟨event, noFailure, enabled⟩ :=
      job_goes_on (List.getElem?_eq_getElem inJobs) (by simpa using alive)
    exact stuck event noFailure enabled
  cases generator : state.generator with
  | ended => exact Or.inl rfl
  | leaving => exact (stuck .exit (by simp) (by simpa [step, generator] using dead)).elim
  | notStarted =>
      refine (stuck .next (by simp) ?_).elim
      have goesOn : state.aborting = false := by
        by_contra aborting
        exact (sound.aborting (by simpa using aborting)).2 generator
      cases sound.phase with
      | head iterating _ _ _ => simp [generator] at iterating
      | broken iterating _ _ => simp [generator] at iterating
      | closed started _ _ _ _ => exact (started generator).elim
      | notStarted _ _ _ _ ready =>
          simp [step, generator, State.createJob, goesOn, State.stepChannel, Channel.step, ready]
  | iterating =>
      have asleep : state.channel.Asleep OrderedQueue.operations := by
        by_contra awake
        obtain ⟨event, noFailure, enabled⟩ := sound.generator_goes_on generator awake
        exact stuck event noFailure enabled
      have opened : state.channel.queue.closed = false := by
        by_contra closed
        obtain ⟨job, member, alive⟩ := sound.alive_of_asleep asleep (by simpa using closed)
        simp [dead job member] at alive
      have stranded : state.Stranded := ⟨asleep, dead, opened⟩
      exact Or.inr ⟨sound.broken_of_stranded stranded, stranded⟩

-----------------------------------------------------------------------------------------
-- Complete runs
-----------------------------------------------------------------------------------------

variable {events : List Event} {final : State (OrderedQueue β) α β}

/-- Every step of a run in which nothing fails keeps the invariant. -/
theorem sound_of_step {state next : State (OrderedQueue β) α β} {event : Event}
    (noFailure : ∀ job, Event.fail job ∉ events) (member : event ∈ events)
    (sound : Sound items mapper state)
    (stepped
      : step OrderedQueue.operations maxConcurrentCount mapper state event = some next)
    : Move maxConcurrentCount mapper state event next ∧ Sound items mapper next := by
  have move := sound.move_of_step (fun job same => noFailure job (same ▸ member)) stepped
  exact ⟨move, sound.move move⟩

/-- Fewer jobs are alive than the bound, where that is above the number of items. -/
theorem Sound.hasSuccessor_of_lt (sound : Sound items mapper state)
    (above : ∀ bound, maxConcurrentCount = some bound → items.length < bound) (event : Event)
    : HasSuccessor maxConcurrentCount state event := by
  cases event with
  | supply job =>
      by_cases exhausted : state.source = []
      · exact Or.inl exhausted
      · right
        have remaining : state.channel.queue.reservedCount < items.length := by
          rw [sound.source, List.drop_eq_nil_iff] at exhausted
          omega
        have counted : state.jobCount ≤ items.length := by
          have alive := List.countP_le_length (p := Job.alive) (l := state.jobs)
          have jobs := sound.length_le
          have count := sound.count
          omega
        cases limit : maxConcurrentCount with
        | none => rfl
        | some bound =>
            have room := above bound limit
            simp only [mayCreate, decide_eq_true_eq]
            omega
  | start | finish | fail | next | callback | wake | interrupt | exit => trivial

/-- Without a bound, and with one above the number of items, every job that receives an item
can create the next one.
-/
theorem meets_of_lt (noFailure : ∀ job, Event.fail job ∉ events)
    (above : ∀ bound, maxConcurrentCount = some bound → items.length < bound)
    : Transition.Meets (step OrderedQueue.operations maxConcurrentCount mapper)
        (HasSuccessor maxConcurrentCount) (.initial OrderedQueue.operations items) events :=
  Transition.meets_of_inv
    (fun _ _ member _ sound stepped => (sound_of_step noFailure member sound stepped).2)
    (fun _ event _ sound => sound.hasSuccessor_of_lt above event)
    (sound_initial items mapper)

/-- In every run in which nothing fails, what was yielded is a prefix of the mapped items, and
all of them once the generator has ended. Where each job that received an item could create
the next one, no consumer is stranded and the run goes on until the generator has ended;
and a run that cannot go on is complete exactly in that case. No run is longer than a linear
bound. The proof follows the chain of jobs, which breaks exactly at an item whose job creates
no other.
-/
theorem map_complete_iff (noFailure : ∀ job, Event.fail job ∉ events)
    (reached
      : Transition.run (step OrderedQueue.operations maxConcurrentCount mapper)
          (.initial OrderedQueue.operations items) events
        = some final)
    : final.channel.yielded <+: items.map mapper
      ∧ (final.generator = .ended → final.channel.yielded = items.map mapper)
      ∧ (Transition.Meets (step OrderedQueue.operations maxConcurrentCount mapper)
            (HasSuccessor maxConcurrentCount) (.initial OrderedQueue.operations items) events
          → ¬final.Stranded
            ∧ (final.generator ≠ .ended → ¬Settled maxConcurrentCount mapper final))
      ∧ (Settled maxConcurrentCount mapper final
          → (¬final.Stranded
              ∧ final.generator = .ended
              ∧ final.channel.yielded = items.map mapper
            ↔ Transition.Meets (step OrderedQueue.operations maxConcurrentCount mapper)
                (HasSuccessor maxConcurrentCount) (.initial OrderedQueue.operations items)
                events))
      ∧ events.length ≤ 10 * items.length + 9 := by
  have sound : Sound items mapper final :=
    Transition.run_preserves_of_mem
      (fun _ _ member _ sound stepped => (sound_of_step noFailure member sound stepped).2)
      (sound_initial items mapper) reached
  have broken
      : Broken final
        ↔ ¬Transition.Meets (step OrderedQueue.operations maxConcurrentCount mapper)
            (HasSuccessor maxConcurrentCount) (.initial OrderedQueue.operations items)
            events :=
    Transition.bad_iff_not_meets_of_good (HasSuccessor maxConcurrentCount)
      (fun _ _ member _ sound stepped => (sound_of_step noFailure member sound stepped).2)
      (fun _ _ member _ sound stepped =>
        sound.broken_move_iff (sound_of_step noFailure member sound stepped).1)
      (sound_initial items mapper) (by simp [Broken, State.initial]) reached
  have short := Transition.run_length_le (movesLeft items.length)
    (fun _ _ member _ sound stepped => (sound_of_step noFailure member sound stepped).2)
    (fun _ _ member _ sound stepped =>
      sound.move_shrinks (sound_of_step noFailure member sound stepped).1)
    (sound_initial items mapper) reached
  refine ⟨sound.yielded_prefix, fun ended => sound.yielded_of_ended (Or.inr ended), ?_, ?_, ?_⟩
  · intro met
    have unbroken : ¬Broken final := fun isBroken => broken.mp isBroken met
    refine ⟨fun stranded => unbroken (sound.broken_of_stranded stranded), ?_⟩
    intro running settled
    rcases sound.settled_cases settled with ended | ⟨isBroken, _⟩
    · exact running ended
    · exact unbroken isBroken
  · intro settled
    constructor
    · rintro ⟨notStranded, _, _⟩
      by_contra unmet
      have iterating := (broken.mpr unmet).1
      rcases sound.settled_cases settled with ended | ⟨_, stranded⟩
      · simp [iterating] at ended
      · exact notStranded stranded
    · intro met
      have unbroken : ¬Broken final := fun isBroken => broken.mp isBroken met
      rcases sound.settled_cases settled with ended | ⟨isBroken, _⟩
      · exact ⟨fun stranded => unbroken (sound.broken_of_stranded stranded), ended,
          sound.yielded_of_ended (Or.inr ended)⟩
      · exact (unbroken isBroken).elim
  · have start : movesLeft items.length (.initial OrderedQueue.operations items
        : State (OrderedQueue β) α β) = 10 * items.length + 9 := by
      simp only [movesLeft, State.initial, jobMovesLeft, Channel.State.initial,
        OrderedQueue.remaining, Generator.movesLeft, List.map_nil, List.sum_nil, List.length_nil]
      omega
    omega

/-- Under a bound of one, a single item leaves the consumer waiting for ever after it. -/
theorem map_strands_consumer
    : ∃ events, ∃ final : State (OrderedQueue Nat) Nat Nat,
        (∀ job, Event.fail job ∉ events)
        ∧ Transition.run (step OrderedQueue.operations (some 1) (· + 1))
            (.initial OrderedQueue.operations [5]) events
          = some final
        ∧ Settled (some 1) (· + 1) final
        ∧ final.channel.yielded = [6]
        ∧ final.generator = .iterating
        ∧ final.Stranded := by
  have reached
      : Transition.run (step OrderedQueue.operations (some 1) (· + 1))
          (.initial OrderedQueue.operations [5] : State (OrderedQueue Nat) Nat Nat)
          [.next, .start, .supply 0, .finish 0, .callback, .wake, .next]
        = some _ :=
    rfl
  refine ⟨_, _, by simp, reached, ?_, rfl, rfl, ⟨_, rfl, rfl⟩, ?_, rfl⟩
  · intro event enabled
    cases event with
    | fail job => exact ⟨job, rfl⟩
    | start => contradiction
    | next => contradiction
    | callback => contradiction
    | wake => contradiction
    | interrupt => contradiction
    | exit => contradiction
    | supply job => cases job <;> contradiction
    | finish job => cases job <;> contradiction
  · intro job member
    obtain rfl := List.mem_singleton.mp member
    rfl

/-- Three items under a bound of three, which is met, and the first is mapped last. -/
theorem map_complete_iff_boundMet
    : ∃ events, ∃ final : State (OrderedQueue Nat) Nat Nat,
        Transition.run (step OrderedQueue.operations (some 3) (· + 1))
            (.initial OrderedQueue.operations [5, 6, 7]) events
          = some final
        ∧ Transition.Meets (step OrderedQueue.operations (some 3) (· + 1))
            (HasSuccessor (some 3)) (.initial OrderedQueue.operations [5, 6, 7]) events
        ∧ final.channel.puts = [(1, 7), (2, 8), (0, 6)]
        ∧ final.generator = .ended
        ∧ final.channel.yielded = [6, 7, 8]
        ∧ ¬final.Stranded := by
  have reached
      : Transition.run (step OrderedQueue.operations (some 3) (· + 1))
          (.initial OrderedQueue.operations [5, 6, 7] : State (OrderedQueue Nat) Nat Nat)
          [.next, .start, .supply 0, .start, .supply 1, .finish 1, .start, .supply 2, .finish 2,
            .start, .supply 3, .finish 0, .callback, .wake, .next, .next, .next, .exit]
        = some _ :=
    rfl
  obtain ⟨_, all, unstranded, _, _⟩ := map_complete_iff (by simp) reached
  refine ⟨_, _, reached, ?_, rfl, rfl, all rfl, (unstranded ?_).1⟩
  · decide
  · decide

end Aiodrive.Map
