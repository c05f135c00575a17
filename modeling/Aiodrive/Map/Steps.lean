import Aiodrive.Map.Chain

/-! Every step of `map(ordered=True)` keeps the chain of jobs, where neither the source nor the
mapper fails; and an item that comes while the next job may be created does not break it.
-/

namespace Aiodrive.Map

open Channel (Consumer)

variable {α β : Type*} {items : List α} {mapper : α → β}
  {state next : State (OrderedQueue β) α β}

/-- A slot looks only at its own job and at its own put. -/
theorem Slot.congr {index : Nat} (slot : Slot items mapper state index)
    (job : next.jobs[index]? = state.jobs[index]?)
    (put : next.channel.puts.lookup index = state.channel.puts.lookup index)
    : Slot items mapper next index := by
  unfold Slot
  rwa [job, put]

/-- A job that changes while it lives keeps the count. -/
theorem count_set_alive {jobs : List (Job α)} {job : Nat} {before after : Job α}
    (found : jobs[job]? = some before) (lives : before.alive = true)
    (stays : after.alive = true)
    : (jobs.set job after).countP Job.alive = jobs.countP Job.alive := by
  obtain ⟨inJobs, rfl⟩ := List.getElem?_eq_some_iff.mp found
  have positive : 0 < jobs.countP Job.alive :=
    List.countP_pos_iff.mpr ⟨_, List.getElem_mem inJobs, lives⟩
  rw [List.countP_set inJobs]
  simp only [lives, stays, if_true]
  omega

-----------------------------------------------------------------------------------------
-- The steps of the jobs
-----------------------------------------------------------------------------------------

/-- The head of the chain starts. -/
theorem Sound.start (sound : Sound items mapper state) {job : Nat}
    (found : state.jobs[job]? = some .created)
    : Sound items mapper { state with jobs := state.jobs.set job .fetching } := by
  obtain ⟨rfl, generator, length, opened⟩ := sound.head_of_unserved (Or.inl found)
  exact { sound with
    slots := by
      intro index early
      refine (sound.slots index early).congr ?_ rfl
      exact List.getElem?_set_ne (Nat.ne_of_gt early)
    count := sound.count.trans (by rw [count_set_alive found rfl rfl])
    phase := .head generator (by simpa using length)
      (Or.inr (List.getElem?_set_self (by omega))) opened }

/-- The end of the source closes the queue and ends the chain. -/
theorem Sound.close (sound : Sound items mapper state) {job : Nat}
    (found : state.jobs[job]? = some .fetching) (exhausted : state.source = [])
    {queue : OrderedQueue β} (closed : state.channel.queue.close = some queue)
    : Sound items mapper
        (({ state with channel := { state.channel with queue } } : State _ α β).endJob job) := by
  obtain ⟨rfl, generator, length, opened⟩ := sound.head_of_unserved (Or.inr found)
  have kept := (OrderedQueue.close_eq_some closed).2
  exact {
    queue := sound.queue.close closed
    source := by simpa only [State.endJob, kept.1] using sound.source
    bounded := kept.1 ▸ sound.bounded
    slots := by
      intro index early
      simp only [State.endJob, kept.1] at early
      refine (sound.slots index early).congr ?_ rfl
      exact List.getElem?_set_ne (Nat.ne_of_gt early)
    count := count_endJob sound.count found rfl
    phase := by
      refine .closed (by simp [State.endJob, generator]) ?_ ?_ kept.2 exhausted
      · simpa [State.endJob, kept.1] using length
      · simp only [State.endJob, kept.1]
        exact List.getElem?_set_self (by omega)
    running := sound.running
    left := sound.left
    aborting := sound.aborting
  }

/-- The head of the chain receives an item with the reservation of its index, after creating
the next job if it may.
-/
theorem Sound.receive_eq (sound : Sound items mapper state) {maxConcurrentCount : Option Nat}
    {job : Nat} {item : α} {source : List α} (found : state.jobs[job]? = some .fetching)
    : ({ state with source } : State _ α β).receive OrderedQueue.operations
        maxConcurrentCount job item
      = { state with
          source
          channel :=
            { state.channel with
              queue :=
                { state.channel.queue with
                  reservedCount := state.channel.queue.reservedCount + 1 } }
          jobs :=
            (state.jobs
                ++ if mayCreate maxConcurrentCount state.jobCount then [Job.created] else []).set
              job (.mapping state.channel.queue.reservedCount item)
          jobCount :=
            state.jobCount + if mayCreate maxConcurrentCount state.jobCount then 1 else 0 } := by
  obtain ⟨_, generator, _, opened⟩ := sound.head_of_unserved (Or.inr found)
  have goesOn : state.aborting = false := by
    by_contra aborting
    exact (sound.aborting (by simpa using aborting)).1 generator
  have reserved : state.channel.queue.reserve
      = some { state.channel.queue with
          reservedCount := state.channel.queue.reservedCount + 1 } := by
    simp [OrderedQueue.reserve, opened]
  cases allowed : mayCreate maxConcurrentCount state.jobCount with
  | false => simp [State.receive, allowed, OrderedQueue.operations, reserved]
  | true =>
      simp [State.receive, allowed, State.createJob, goesOn, OrderedQueue.operations, reserved]

/-- The next item of the source is the one of the next reservation. -/
theorem Sound.supplied (sound : Sound items mapper state) {item : α} {source : List α}
    (supplied : state.source = item :: source)
    : items[state.channel.queue.reservedCount]? = some item
      ∧ source = items.drop (state.channel.queue.reservedCount + 1) := by
  have same := sound.source.symm.trans supplied
  refine ⟨?_, ?_⟩
  · have first := congrArg List.head? same
    simpa [List.head?_drop] using first
  · have tail := congrArg List.tail same
    simpa [List.tail_drop] using tail.symm

/-- Once the head of the chain has its item, that item and those before it have their slots. -/
theorem Sound.slot_receive (sound : Sound items mapper state) {item : α}
    {successor : List (Job α)}
    (found : state.jobs[state.channel.queue.reservedCount]? = some .fetching)
    (inItems : items[state.channel.queue.reservedCount]? = some item)
    (jobs
      : next.jobs
        = (state.jobs ++ successor).set state.channel.queue.reservedCount
            (.mapping state.channel.queue.reservedCount item))
    (puts : next.channel.puts = state.channel.puts) {index : Nat}
    (early : index < state.channel.queue.reservedCount + 1)
    : Slot items mapper next index := by
  have length := (List.getElem?_eq_some_iff.mp found).1
  by_cases last : index = state.channel.queue.reservedCount
  · subst last
    have fresh : state.channel.puts.lookup state.channel.queue.reservedCount = none := by
      cases put : state.channel.puts.lookup state.channel.queue.reservedCount with
      | none => rfl
      | some value => exact absurd (sound.queue.known _ _ put) (Nat.lt_irrefl _)
    refine ⟨item, inItems, Or.inl ⟨?_, puts ▸ fresh⟩⟩
    rw [jobs, List.getElem?_set_self (by simp only [List.length_append]; omega)]
  · refine (sound.slots index (by omega)).congr ?_ (by rw [puts])
    rw [jobs, List.getElem?_set_ne (Ne.symm last), List.getElem?_append_left (by omega)]

/-- An item is handed out to the head of the chain. The chain goes on at a new job, or breaks.
-/
theorem Sound.receive (sound : Sound items mapper state) {maxConcurrentCount : Option Nat}
    {job : Nat} {item : α} {source : List α} (found : state.jobs[job]? = some .fetching)
    (supplied : state.source = item :: source)
    : Sound items mapper
        (({ state with source } : State _ α β).receive OrderedQueue.operations
          maxConcurrentCount job item)
      ∧ (Broken
          (({ state with source } : State _ α β).receive OrderedQueue.operations
            maxConcurrentCount job item)
        ↔ mayCreate maxConcurrentCount state.jobCount = false) := by
  rw [sound.receive_eq found]
  obtain ⟨rfl, generator, length, opened⟩ := sound.head_of_unserved (Or.inr found)
  obtain ⟨inItems, rest⟩ := sound.supplied supplied
  have reserved : state.channel.queue.reserve
      = some { state.channel.queue with
          reservedCount := state.channel.queue.reservedCount + 1 } := by
    simp [OrderedQueue.reserve, opened]
  generalize created
    : (if mayCreate maxConcurrentCount state.jobCount then [Job.created] else []) = successor
  have here : (state.jobs ++ successor)[state.channel.queue.reservedCount]? = some .fetching :=
    (List.getElem?_append_left (by omega)).trans found
  refine ⟨?_, ?_⟩
  · exact {
      queue := sound.queue.reserve reserved
      source := rest
      bounded := (List.getElem?_eq_some_iff.mp inItems).1
      slots := fun index early => sound.slot_receive found inItems (by rfl) (by rfl) early
      count := by
        rw [count_set_alive here rfl rfl, List.countP_append, ← created]
        split <;> simp [sound.count]
      phase := by
        cases allowed : mayCreate maxConcurrentCount state.jobCount with
        | false =>
            obtain rfl : [] = successor := by simpa [allowed] using created
            exact .broken generator (by simp [length]) opened
        | true =>
            obtain rfl : [Job.created] = successor := by simpa [allowed] using created
            refine .head generator (by simp [length]) (Or.inl ?_) opened
            dsimp only
            rw [List.getElem?_set_ne (Nat.ne_of_lt (Nat.lt_succ_self _)),
              List.getElem?_append_right (by omega)]
            simp [length]
      running := sound.running
      left := sound.left
      aborting := sound.aborting
    }
  · cases allowed : mayCreate maxConcurrentCount state.jobCount with
    | false =>
        obtain rfl : [] = successor := by simpa [allowed] using created
        exact iff_of_true ⟨generator, opened, by simp [length]⟩ rfl
    | true =>
        obtain rfl : [Job.created] = successor := by simpa [allowed] using created
        refine iff_of_false (fun broken => ?_) Bool.noConfusion
        have tooShort := broken.2.2
        simp [length] at tooShort

/-- A mapper call returns, and its value is put for the reservation of its item. -/
theorem Sound.finish (sound : Sound items mapper state) {job reservation : Nat} {item : α}
    (found : state.jobs[job]? = some (.mapping reservation item))
    : Sound items mapper
        (({ state with
            channel := state.channel.put OrderedQueue.operations reservation (mapper item) }
          : State _ α β).endJob job) := by
  obtain ⟨early, rfl, here, absent⟩ := sound.mapping found
  have inJobs := (List.getElem?_eq_some_iff.mp found).1
  have fresh : reservation ∉ state.channel.puts.map Prod.fst := by
    intro member
    obtain ⟨pair, inPuts, same⟩ := List.mem_map.mp member
    have different := List.lookup_eq_none_iff.mp absent pair inPuts
    simp [same] at different
  have reserved
      : (state.channel.put OrderedQueue.operations reservation (mapper item)).queue.reservedCount
        = state.channel.queue.reservedCount :=
    state.channel.queue.reservedCount_put reservation (mapper item)
  have closedAfter
      : (state.channel.put OrderedQueue.operations reservation (mapper item)).queue.closed
        = state.channel.queue.closed :=
    state.channel.queue.closed_put reservation (mapper item)
  exact {
    queue := sound.queue.put early fresh
    source := by simpa only [State.endJob, reserved] using sound.source
    bounded := by simpa only [State.endJob, reserved] using sound.bounded
    slots := by
      intro index inReserved
      simp only [State.endJob, reserved] at inReserved
      by_cases same : index = reservation
      · subst same
        refine ⟨item, here, Or.inr ⟨List.getElem?_set_self inJobs, ?_⟩⟩
        simp [State.endJob, Channel.State.put, Channel.lookup_append_put fresh]
      · refine (sound.slots index inReserved).congr ?_ ?_
        · exact List.getElem?_set_ne (Ne.symm same)
        · simp [State.endJob, Channel.State.put, Channel.lookup_append_put fresh, same]
    count := count_endJob sound.count found rfl
    phase := by
      have last : (state.jobs.set reservation .finished)[state.channel.queue.reservedCount]?
          = state.jobs[state.channel.queue.reservedCount]? :=
        List.getElem?_set_ne (Nat.ne_of_lt early)
      cases sound.phase with
      | notStarted _ jobs _ _ _ => simp [jobs] at inJobs
      | head generator length head opened =>
          refine .head generator ?_ ?_ (closedAfter.trans opened)
          · simpa only [State.endJob, reserved, List.length_set] using length
          · simpa only [State.endJob, reserved, last] using head
      | broken generator length opened =>
          refine .broken generator ?_ (closedAfter.trans opened)
          simpa only [State.endJob, reserved, List.length_set] using length
      | closed generator length job closed source =>
          refine .closed generator ?_ ?_ (closedAfter.trans closed) source
          · simpa only [State.endJob, reserved, List.length_set] using length
          · simpa only [State.endJob, reserved, last] using job
    running := sound.running
    left := sound.left
    aborting := sound.aborting
  }

-----------------------------------------------------------------------------------------
-- What a step can do
-----------------------------------------------------------------------------------------

/-- The steps of `map()` while nothing fails: the generator begins with the first job, the head
of the chain starts, finds the source exhausted or receives an item, a job puts its value,
the generator goes on or leaves its loop, or the empty task group ends.
-/
inductive Move (maxConcurrentCount : Option Nat) (mapper : α → β)
    (state : State (OrderedQueue β) α β)
    : Event → State (OrderedQueue β) α β → Prop
  | begins {channel : Channel.State (OrderedQueue β) β}
    (generator : state.generator = .notStarted)
    (stepped : Channel.step OrderedQueue.operations state.channel .next = some channel)
    (running : channel.consumer ≠ .ended)
    : Move maxConcurrentCount mapper state .next
        { state with
          generator := .iterating
          jobs := state.jobs ++ [.created]
          jobCount := state.jobCount + 1
          channel }
  | starts {job : Nat} (found : state.jobs[job]? = some .created)
    : Move maxConcurrentCount mapper state .start
        { state with jobs := state.jobs.set job .fetching }
  | closes {job : Nat} {queue : OrderedQueue β}
    (found : state.jobs[job]? = some .fetching) (exhausted : state.source = [])
    (closed : state.channel.queue.close = some queue)
    : Move maxConcurrentCount mapper state (.supply job)
        (({ state with channel := { state.channel with queue } } : State _ α β).endJob job)
  | receives {job : Nat} {item : α} {source : List α}
    (found : state.jobs[job]? = some .fetching) (supplied : state.source = item :: source)
    : Move maxConcurrentCount mapper state (.supply job)
        (({ state with source } : State _ α β).receive OrderedQueue.operations
          maxConcurrentCount job item)
  | finishes {job reservation : Nat} {item : α}
    (found : state.jobs[job]? = some (.mapping reservation item))
    : Move maxConcurrentCount mapper state (.finish job)
        (({ state with
            channel := state.channel.put OrderedQueue.operations reservation (mapper item) }
          : State _ α β).endJob job)
  | advances {event : Event} {consumed : Channel.Event β}
    {channel : Channel.State (OrderedQueue β) β} (generator : state.generator = .iterating)
    (ofGenerator : event = .next ∨ event = .callback ∨ event = .wake)
    (ofConsumer : consumed.OfConsumer)
    (stepped : Channel.step OrderedQueue.operations state.channel consumed = some channel)
    (running : channel.consumer ≠ .ended)
    : Move maxConcurrentCount mapper state event { state with channel }
  | leaves {event : Event} {consumed : Channel.Event β}
    {channel : Channel.State (OrderedQueue β) β} (generator : state.generator = .iterating)
    (ofGenerator : event = .next ∨ event = .callback ∨ event = .wake)
    (ofConsumer : consumed.OfConsumer)
    (stepped : Channel.step OrderedQueue.operations state.channel consumed = some channel)
    (ended : channel.consumer = .ended)
    : Move maxConcurrentCount mapper state event
        { state with channel, generator := .leaving, aborting := true }
  | exits (generator : state.generator = .leaving)
    : Move maxConcurrentCount mapper state .exit { state with generator := .ended }

/-- An aborting group changes no job once every job has started. -/
theorem map_cancelUnstarted {jobs : List (Job α)}
    (started : ∀ index : Nat, jobs[index]? ≠ some .created)
    : jobs.map Job.cancelUnstarted = jobs := by
  conv_rhs => rw [← List.map_id jobs]
  apply List.map_congr_left
  intro job member
  obtain ⟨index, inJobs, rfl⟩ := List.getElem_of_mem member
  have notCreated := started index
  rw [List.getElem?_eq_getElem inJobs] at notCreated
  cases found : jobs[index] with
  | created => simp [found] at notCreated
  | fetching => rfl
  | mapping reservation item => rfl
  | finished => rfl

/-- A consumer that ends finds the queue closed, and then every job has started. -/
theorem Sound.started_of_ended (sound : Sound items mapper state)
    {consumed : Channel.Event β} {channel : Channel.State (OrderedQueue β) β}
    (ofConsumer : consumed.OfConsumer)
    (stepped : Channel.step OrderedQueue.operations state.channel consumed = some channel)
    (ended : channel.consumer = .ended)
    : state.channel.queue.closed = true
      ∧ ∀ index : Nat, state.jobs[index]? ≠ some .created := by
  have kept := (OrderedQueue.consumer_step_keeps ofConsumer stepped).2.1
  have closed : state.channel.queue.closed = true :=
    kept ▸ ((OrderedQueue.step_sound sound.queue stepped).ended ended).1
  refine ⟨closed, fun index found => ?_⟩
  have opened := (sound.head_of_unserved (Or.inl found)).2.2.2
  simp [closed] at opened

/-- A step of the generator on its queue is one of the two moves of an iterating generator. -/
theorem Sound.move_of_stepChannel (sound : Sound items mapper state)
    {maxConcurrentCount : Option Nat} {event : Event} {consumed : Channel.Event β}
    (ofGenerator : event = .next ∨ event = .callback ∨ event = .wake)
    (ofConsumer : consumed.OfConsumer)
    (stepped : state.stepChannel OrderedQueue.operations consumed = some next)
    : Move maxConcurrentCount mapper state event next := by
  unfold State.stepChannel at stepped
  split at stepped
  case isFalse => contradiction
  rename_i generator
  obtain ⟨channel, consumedStep, rfl⟩ := Option.map_eq_some_iff.mp stepped
  cases consumer : channel.consumer with
  | ready =>
      exact .advances generator ofGenerator ofConsumer consumedStep (by simp [consumer])
  | suspended waiter =>
      exact .advances generator ofGenerator ofConsumer consumedStep (by simp [consumer])
  | ended =>
      have started := (sound.started_of_ended ofConsumer consumedStep consumer).2
      simp only [State.abort, map_cancelUnstarted started]
      exact .leaves generator ofGenerator ofConsumer consumedStep consumer

end Aiodrive.Map
