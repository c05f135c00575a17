import Aiodrive.Map.Model
import Aiodrive.Queue.Ordered
import Aiodrive.Queue.Unordered

/-! How `map()` schedules its jobs, ordered or not, whatever fails: one job at most is to fetch an
item, and it is the only one that calls its queue.
-/

namespace Aiodrive.Map

variable {Q α β : Type*}

/-- A call of the queue by a job, where a reservation is named by the item of the job. -/
inductive Call (α : Type*) where
  | reserve (item : α)
  | close
deriving DecidableEq, Repr

/-- `map()` with the calls of its queue so far. -/
structure Recorded (Q α β : Type*) where
  state : State Q α β
  calls : List (Call α)

/-- What can happen to `map()`, also from outside: its generator is closed at a `yield`, or
cancelled where it is suspended.
-/
inductive Occurrence where
  | step (event : Event)
  | leave
deriving DecidableEq, Repr

/-- The job has not received an item, and has not ended. -/
def Job.isHead : Job α → Bool
  | .created | .fetching => true
  | .mapping _ _ | .finished => false

/-- The job has an `__anext__()` call pending on the source. -/
def Job.isFetching : Job α → Bool
  | .fetching => true
  | .created | .mapping _ _ | .finished => false

/-- The job has a call of `mapper` in progress. -/
def Job.isMapping : Job α → Bool
  | .mapping _ _ => true
  | .created | .fetching | .finished => false

/-- A job at work has the slot of its own item. -/
def Job.Owns (items : List α) : Job α → Prop
  | .mapping reservation item => items[reservation]? = some item
  | .created | .fetching | .finished => True

section

variable (ops : Channel.Operations Q β) (maxConcurrentCount : Option Nat) (mapper : α → β)

/-- The calls of the queue that a step makes. An aborting group raises before `queue.reserve()`. -/
def State.calls (state : State Q α β) : Occurrence → List (Call α)
  | .step (.supply job) =>
      match state.jobs[job]?, state.source with
      | some .fetching, [] => [.close]
      | some .fetching, item :: _ =>
          if mayCreate maxConcurrentCount state.jobCount && state.aborting then []
          else [.reserve item]
      | _, _ => []
  | .step _ | .leave => []

/-- An exception is thrown into the generator, and leaves the body of its task group. -/
def State.leave (state : State Q α β) : Option (State Q α β) :=
  if state.generator = .iterating then some { state with generator := .leaving }.abort else none

def Recorded.initial (source : List α) : Recorded Q α β :=
  { state := .initial ops source, calls := [] }

def occur (recorded : Recorded Q α β) (occurrence : Occurrence) : Option (Recorded Q α β) :=
  let next :=
    match occurrence with
    | .step event => step ops maxConcurrentCount mapper recorded.state event
    | .leave => recorded.state.leave
  next.map (fun state =>
    { state, calls := recorded.calls ++ recorded.state.calls maxConcurrentCount occurrence })

end

/-- What `map()` guarantees of its schedule: one pending `__anext__()` at most, no more mapper calls
than allowed, each slot for its own item, and reservations in the order of the items with one
`close()` at most, after them.
-/
structure Schedules (maxConcurrentCount : Option Nat) (items : List α) (mapper : α → β)
    (recorded : Recorded Q α β)
    : Prop where
  fetching : recorded.state.jobs.countP Job.isFetching ≤ 1
  mapping
    : ∀ bound,
        maxConcurrentCount = some bound → recorded.state.jobs.countP Job.isMapping ≤ bound
  slots : ∀ job ∈ recorded.state.jobs, job.Owns items
  puts
    : ∀ put ∈ recorded.state.channel.puts,
        ∃ item, items[put.1]? = some item ∧ put.2 = mapper item
  calls
    : ∃ count,
        recorded.calls = (items.take count).map .reserve
        ∨ recorded.calls = (items.take count).map .reserve ++ [.close]

-----------------------------------------------------------------------------------------
-- The invariant
-----------------------------------------------------------------------------------------

/-- The head of the chain, or a generator that is to create it, finds the queue open and the source
at the item of the next reservation.
-/
structure Scheduled (ops : Channel.Operations Q β) (maxConcurrentCount : Option Nat)
    (items : List α) (mapper : α → β) (recorded : Recorded Q α β)
    : Prop where
  heads : recorded.state.jobs.countP Job.isHead ≤ 1
  counted : recorded.state.jobs.countP Job.alive ≤ recorded.state.jobCount
  bounded : ∀ bound, maxConcurrentCount = some bound → recorded.state.jobCount ≤ bound
  fresh
    : recorded.state.generator = .notStarted
      → recorded.state.jobs = [] ∧ recorded.state.jobCount = 0
  goesOn
    : recorded.state.generator = .notStarted
        ∨ (∃ job ∈ recorded.state.jobs, job.isHead = true)
      → ops.closed recorded.state.channel.queue = false
        ∧ recorded.state.source
          = items.drop (ops.reservedCount recorded.state.channel.queue)
  slots : ∀ job ∈ recorded.state.jobs, job.Owns items
  puts
    : ∀ put ∈ recorded.state.channel.puts,
        ∃ item, items[put.1]? = some item ∧ put.2 = mapper item
  calls
    : recorded.calls
      = (items.take (ops.reservedCount recorded.state.channel.queue)).map .reserve
        ++ if ops.closed recorded.state.channel.queue then [.close] else []

variable {ops : Channel.Operations Q β} {maxConcurrentCount : Option Nat} {mapper : α → β}
  {items : List α} {recorded next : Recorded Q α β}

theorem scheduled_initial (lawful : ops.Lawful)
    : Scheduled ops maxConcurrentCount items mapper (.initial ops items) := by
  obtain ⟨opened, reserved⟩ := lawful.new
  exact {
    heads := by simp [Recorded.initial, State.initial]
    counted := by simp [Recorded.initial, State.initial]
    bounded := by simp [Recorded.initial, State.initial]
    fresh := fun _ => ⟨rfl, rfl⟩
    goesOn := fun _ => by
      simp [Recorded.initial, State.initial, Channel.State.initial, opened, reserved]
    slots := by simp [Recorded.initial, State.initial]
    puts := by simp [Recorded.initial, State.initial, Channel.State.initial]
    calls := by
      simp [Recorded.initial, State.initial, Channel.State.initial, opened, reserved]
  }

/-- No more jobs satisfy one predicate than another that it implies. -/
theorem Scheduled.schedules (scheduled : Scheduled ops maxConcurrentCount items mapper recorded)
    : Schedules maxConcurrentCount items mapper recorded where
  fetching := by
    have fewer : recorded.state.jobs.countP Job.isFetching
        ≤ recorded.state.jobs.countP Job.isHead :=
      List.countP_mono_left (fun job _ fetches => by
        cases job <;> first | rfl | contradiction)
    exact Nat.le_trans fewer scheduled.heads
  mapping := by
    intro bound same
    have fewer : recorded.state.jobs.countP Job.isMapping
        ≤ recorded.state.jobs.countP Job.alive :=
      List.countP_mono_left (fun job _ maps => by
        cases job <;> first | rfl | contradiction)
    have counted := scheduled.counted
    have bounded := scheduled.bounded bound same
    omega
  slots := scheduled.slots
  puts := scheduled.puts
  calls := by
    refine ⟨ops.reservedCount recorded.state.channel.queue, ?_⟩
    rw [scheduled.calls]
    cases ops.closed recorded.state.channel.queue <;> simp

-----------------------------------------------------------------------------------------
-- The jobs
-----------------------------------------------------------------------------------------

/-- One job changes, and with it the number of those that satisfy a predicate. -/
theorem countP_set_add {jobs : List (Job α)} {job : Nat} {before : Job α}
    (found : jobs[job]? = some before) (after : Job α) (p : Job α → Bool)
    : (jobs.set job after).countP p + (if p before then 1 else 0)
      = jobs.countP p + if p after then 1 else 0 := by
  obtain ⟨inJobs, rfl⟩ := List.getElem?_eq_some_iff.mp found
  rw [List.countP_set inJobs]
  by_cases counts : p jobs[job] = true
  · have positive : 0 < jobs.countP p :=
      List.countP_pos_iff.mpr ⟨_, List.getElem_mem inJobs, counts⟩
    simp only [counts, if_true]
    omega
  · simp [counts]

/-- A change of the jobs that makes no new head. -/
theorem Scheduled.withJobs (scheduled : Scheduled ops maxConcurrentCount items mapper recorded)
    {jobs : List (Job α)} {jobCount : Int} {aborting : Bool} {generator : Generator}
    (heads : jobs.countP Job.isHead ≤ recorded.state.jobs.countP Job.isHead)
    (counted : jobs.countP Job.alive ≤ jobCount) (bounded : jobCount ≤ recorded.state.jobCount)
    (started : generator ≠ .notStarted) (slots : ∀ job ∈ jobs, job.Owns items)
    : Scheduled ops maxConcurrentCount items mapper
        { recorded with state := { recorded.state with jobs, jobCount, aborting, generator } } where
  heads := Nat.le_trans heads scheduled.heads
  counted := counted
  bounded := fun bound same => Int.le_trans bounded (scheduled.bounded bound same)
  fresh := fun notStarted => (started notStarted).elim
  goesOn := by
    intro ready
    have head := List.countP_pos_iff.mpr (ready.resolve_left started)
    exact scheduled.goesOn (.inr (List.countP_pos_iff.mp (Nat.lt_of_lt_of_le head heads)))
  slots := slots
  puts := scheduled.puts
  calls := scheduled.calls

/-- A change of the queue that neither reserves nor closes. -/
theorem Scheduled.withChannel
    (scheduled : Scheduled ops maxConcurrentCount items mapper recorded)
    {channel : Channel.State Q β}
    (reserved
      : ops.reservedCount channel.queue = ops.reservedCount recorded.state.channel.queue)
    (closed : ops.closed channel.queue = ops.closed recorded.state.channel.queue)
    (puts
      : ∀ put ∈ channel.puts, ∃ item, items[put.1]? = some item ∧ put.2 = mapper item)
    : Scheduled ops maxConcurrentCount items mapper
        { recorded with state := { recorded.state with channel } } where
  heads := scheduled.heads
  counted := scheduled.counted
  bounded := scheduled.bounded
  fresh := scheduled.fresh
  goesOn := by simpa only [reserved, closed] using scheduled.goesOn
  slots := scheduled.slots
  puts := puts
  calls := by simpa only [reserved, closed] using scheduled.calls

/-- A job is there only once the generator has started. -/
theorem Scheduled.started (scheduled : Scheduled ops maxConcurrentCount items mapper recorded)
    {job : Nat} {found : Job α} (here : recorded.state.jobs[job]? = some found)
    : recorded.state.generator ≠ .notStarted := by
  intro notStarted
  simp [(scheduled.fresh notStarted).1] at here

theorem Scheduled.abort (scheduled : Scheduled ops maxConcurrentCount items mapper recorded)
    {generator : Generator} (started : generator ≠ .notStarted)
    : Scheduled ops maxConcurrentCount items mapper
        { recorded with state := { recorded.state with generator }.abort } := by
  have fewer (p : Job α → Bool) (finished : p .finished = false)
      : (recorded.state.jobs.map Job.cancelUnstarted).countP p ≤ recorded.state.jobs.countP p := by
    rw [List.countP_map]
    refine List.countP_mono_left (fun job _ counts => ?_)
    cases job with
    | created => simp [Job.cancelUnstarted, finished] at counts
    | fetching | mapping | finished => exact counts
  have counted
      : (recorded.state.jobs.map Job.cancelUnstarted).countP Job.alive
        ≤ recorded.state.jobCount :=
    Int.le_trans (Int.ofNat_le.mpr (fewer Job.alive rfl)) scheduled.counted
  refine scheduled.withJobs (fewer Job.isHead rfl) counted (Int.le_refl _) started ?_
  intro job member
  obtain ⟨before, inJobs, rfl⟩ := List.mem_map.mp member
  have owns := scheduled.slots before inJobs
  cases before <;> exact owns

theorem Scheduled.endJob (scheduled : Scheduled ops maxConcurrentCount items mapper recorded)
    {job : Nat} {working : Job α} (here : recorded.state.jobs[job]? = some working)
    (alive : working.alive = true)
    : Scheduled ops maxConcurrentCount items mapper
        { recorded with state := recorded.state.endJob job } := by
  have counted := scheduled.counted
  have heads := countP_set_add here .finished Job.isHead
  have living := countP_set_add here .finished Job.alive
  simp only [alive, Job.isHead, Job.alive_finished, if_true, Bool.false_eq_true, if_false]
    at heads living
  refine scheduled.withJobs (by omega) (by omega) (by omega) (scheduled.started here) ?_
  intro other member
  rcases List.mem_or_eq_of_mem_set member with inJobs | rfl
  · exact scheduled.slots other inJobs
  · trivial

theorem Scheduled.failJob (scheduled : Scheduled ops maxConcurrentCount items mapper recorded)
    {job : Nat} {working : Job α} (here : recorded.state.jobs[job]? = some working)
    (alive : working.alive = true)
    : Scheduled ops maxConcurrentCount items mapper
        { recorded with state := recorded.state.failJob job } :=
  (scheduled.endJob here alive).abort (scheduled.started here)

theorem Scheduled.withGenerator
    (scheduled : Scheduled ops maxConcurrentCount items mapper recorded) {generator : Generator}
    (started : generator ≠ .notStarted)
    : Scheduled ops maxConcurrentCount items mapper
        { recorded with state := { recorded.state with generator } } :=
  scheduled.withJobs (Nat.le_refl _) scheduled.counted (Int.le_refl _) started scheduled.slots

/-- A job starts. -/
theorem Scheduled.start (scheduled : Scheduled ops maxConcurrentCount items mapper recorded)
    (inJobs : recorded.state.jobs.findIdx Job.isCreated < recorded.state.jobs.length)
    : Scheduled ops maxConcurrentCount items mapper
        { recorded with
          state :=
            { recorded.state with
              jobs := recorded.state.jobs.set (recorded.state.jobs.findIdx Job.isCreated)
                .fetching } } := by
  have here := List.getElem?_eq_getElem inJobs
  have isCreated := List.findIdx_getElem (w := inJobs)
  have created : recorded.state.jobs[recorded.state.jobs.findIdx Job.isCreated] = .created := by
    cases found : recorded.state.jobs[recorded.state.jobs.findIdx Job.isCreated] with
    | created => rfl
    | fetching | mapping | finished => simp [found, Job.isCreated] at isCreated
  rw [created] at here
  have heads := countP_set_add here .fetching Job.isHead
  have living := countP_set_add here .fetching Job.alive
  simp only [Job.isHead, Job.alive_created, Job.alive_fetching, if_true] at heads living
  have counted := scheduled.counted
  refine scheduled.withJobs (by omega) (by omega) (Int.le_refl _) (scheduled.started here) ?_
  intro other member
  rcases List.mem_or_eq_of_mem_set member with inJobs | rfl
  · exact scheduled.slots other inJobs
  · trivial

/-- A mapper call returns, and its value is put for the item of the job. -/
theorem Scheduled.finish (scheduled : Scheduled ops maxConcurrentCount items mapper recorded)
    (lawful : ops.Lawful) {job reservation : Nat} {item : α}
    (here : recorded.state.jobs[job]? = some (.mapping reservation item))
    : Scheduled ops maxConcurrentCount items mapper
        { recorded with
          state :=
            ({ recorded.state with
                channel := recorded.state.channel.put ops reservation (mapper item) }
              : State Q α β).endJob job } := by
  obtain ⟨closed, reserved⟩ := lawful.put recorded.state.channel.queue reservation (mapper item)
  have owns := scheduled.slots _ (List.mem_of_getElem? here)
  have put : Scheduled ops maxConcurrentCount items mapper
      { recorded with
        state :=
          { recorded.state with
            channel := recorded.state.channel.put ops reservation (mapper item) } } := by
    refine scheduled.withChannel reserved closed (fun put member => ?_)
    rcases List.mem_append.mp member with old | new
    · exact scheduled.puts put old
    · obtain rfl := List.mem_singleton.mp new
      exact ⟨item, owns, rfl⟩
  exact put.endJob here rfl

/-- The generator starts and creates the first job. -/
theorem Scheduled.begin (scheduled : Scheduled ops maxConcurrentCount items mapper recorded)
    (atLeastOne : ∀ bound, maxConcurrentCount = some bound → 1 ≤ bound)
    (notStarted : recorded.state.generator = .notStarted)
    {state : State Q α β}
    (created : { recorded.state with generator := .iterating }.createJob = some state)
    : Scheduled ops maxConcurrentCount items mapper { recorded with state } := by
  obtain ⟨jobs, jobCount⟩ := scheduled.fresh notStarted
  simp only [State.createJob, jobs, jobCount, Option.ite_none_left_eq_some] at created
  obtain ⟨_, same⟩ := created
  obtain rfl := Option.some.inj same
  exact {
    heads := by simp [Job.isHead]
    counted := by simp
    bounded := by
      intro bound same
      have positive := atLeastOne bound same
      simp only
      omega
    fresh := by simp
    goesOn := fun _ => scheduled.goesOn (.inl notStarted)
    slots := by simp [Job.Owns]
    puts := scheduled.puts
    calls := scheduled.calls
  }

-----------------------------------------------------------------------------------------
-- The head of the chain meets the source
-----------------------------------------------------------------------------------------

/-- Where the head of the chain is replaced by a job that is none, no head is left. -/
theorem no_head_of_set {jobs : List (Job α)} (heads : jobs.countP Job.isHead ≤ 1) {job : Nat}
    {before : Job α} (here : jobs[job]? = some before) (head : before.isHead = true)
    (after : Job α) (served : after.isHead = false)
    : (jobs.set job after).countP Job.isHead = 0 := by
  have counts := countP_set_add here after Job.isHead
  simp only [head, served, if_true, Bool.false_eq_true, if_false] at counts
  omega

/-- The head finds the source at its end and closes the queue. -/
theorem Scheduled.close (scheduled : Scheduled ops maxConcurrentCount items mapper recorded)
    {job : Nat} (here : recorded.state.jobs[job]? = some .fetching) {queue : Q}
    (opened : ops.closed recorded.state.channel.queue = false)
    (closed : ops.closed queue = true)
    (reserved : ops.reservedCount queue = ops.reservedCount recorded.state.channel.queue)
    : Scheduled ops maxConcurrentCount items mapper
        {
          state :=
            ({ recorded.state with
                channel := { recorded.state.channel with queue } } : State Q α β).endJob job
          calls := recorded.calls ++ [.close]
        } := by
  have ended := scheduled.endJob here rfl
  have noHead := no_head_of_set scheduled.heads here rfl .finished rfl
  exact {
    heads := ended.heads
    counted := ended.counted
    bounded := ended.bounded
    fresh := ended.fresh
    goesOn := by
      rintro (notStarted | head)
      · exact (scheduled.started here notStarted).elim
      · exact (Nat.ne_of_gt (List.countP_pos_iff.mpr head) noHead).elim
    slots := ended.slots
    puts := scheduled.puts
    calls := by
      have calls := scheduled.calls
      simp only [opened, Bool.false_eq_true, if_false, List.append_nil] at calls
      simp [State.endJob, closed, reserved, calls]
  }

/-- Nobody looks at the source where no head is left. -/
theorem Scheduled.withSource
    (scheduled : Scheduled ops maxConcurrentCount items mapper recorded)
    (noHead : recorded.state.jobs.countP Job.isHead = 0)
    (started : recorded.state.generator ≠ .notStarted) (source : List α)
    : Scheduled ops maxConcurrentCount items mapper
        { recorded with state := { recorded.state with source } } :=
  { scheduled with
    goesOn := by
      rintro (notStarted | head)
      · exact (started notStarted).elim
      · exact (Nat.ne_of_gt (List.countP_pos_iff.mpr head) noHead).elim }

/-- A job that receives an item, may create the next one only in a group that goes on, and reserves
its slot.
-/
theorem receive_eq (state : State Q α β) {job : Nat} {item : α} {queue : Q}
    (goesOn : (mayCreate maxConcurrentCount state.jobCount && state.aborting) = false)
    (reserved : ops.reserve state.channel.queue = some queue)
    : state.receive ops maxConcurrentCount job item
      = { state with
          channel := { state.channel with queue }
          jobs :=
            (state.jobs
                ++ if mayCreate maxConcurrentCount state.jobCount then [Job.created] else []).set
              job (.mapping (ops.reservedCount state.channel.queue) item)
          jobCount :=
            state.jobCount + if mayCreate maxConcurrentCount state.jobCount then 1 else 0 } := by
  cases allowed : mayCreate maxConcurrentCount state.jobCount with
  | false => simp [State.receive, allowed, reserved]
  | true =>
      have running : state.aborting = false := by simpa [allowed] using goesOn
      simp [State.receive, allowed, State.createJob, running, reserved]

/-- The state after the reservation, with the next head or without. -/
theorem Scheduled.received (scheduled : Scheduled ops maxConcurrentCount items mapper recorded)
    {job : Nat} (here : recorded.state.jobs[job]? = some .fetching) {item : α} {source : List α}
    {queue : Q} (inItems : items[ops.reservedCount recorded.state.channel.queue]? = some item)
    (rest : source = items.drop (ops.reservedCount recorded.state.channel.queue + 1))
    (opened : ops.closed recorded.state.channel.queue = false)
    (stillOpen : ops.closed queue = false)
    (count : ops.reservedCount queue = ops.reservedCount recorded.state.channel.queue + 1)
    : Scheduled ops maxConcurrentCount items mapper
        {
          state :=
            { recorded.state with
              source
              channel := { recorded.state.channel with queue }
              jobs :=
                (recorded.state.jobs
                    ++ if mayCreate maxConcurrentCount recorded.state.jobCount then [Job.created]
                      else []).set
                  job (.mapping (ops.reservedCount recorded.state.channel.queue) item)
              jobCount :=
                recorded.state.jobCount
                  + if mayCreate maxConcurrentCount recorded.state.jobCount then 1 else 0 }
          calls := recorded.calls ++ [.reserve item]
        } := by
  have inJobs := (List.getElem?_eq_some_iff.mp here).1
  generalize allowed : mayCreate maxConcurrentCount recorded.state.jobCount = mayAdd
  generalize added : (if mayAdd then [Job.created] else []) = successor
  have stillHere : (recorded.state.jobs ++ successor)[job]? = some .fetching :=
    (List.getElem?_append_left inJobs).trans here
  have counts (p : Job α → Bool) :=
    countP_set_add stillHere (.mapping (ops.reservedCount recorded.state.channel.queue) item) p
  have heads := counts Job.isHead
  have living := counts Job.alive
  simp only [Job.isHead, if_true, Bool.false_eq_true, if_false, List.countP_append] at heads
  simp only [Job.alive_fetching, Job.alive_mapping, if_true, List.countP_append] at living
  have addedHeads : successor.countP Job.isHead = if mayAdd then 1 else 0 := by
    cases mayAdd <;> simp [← added, Job.isHead]
  have addedJobs : successor.countP Job.alive = if mayAdd then 1 else 0 := by
    cases mayAdd <;> simp [← added]
  exact {
    heads := by
      have before := scheduled.heads
      have atMostOne : (if mayAdd then 1 else 0) ≤ 1 := by cases mayAdd <;> simp
      simp only
      omega
    counted := by
      have before := scheduled.counted
      rw [addedJobs] at living
      cases mayAdd with
      | false =>
          simp only [Bool.false_eq_true, if_false] at living ⊢
          omega
      | true =>
          simp only [if_true] at living ⊢
          omega
    bounded := by
      intro bound same
      have before := scheduled.bounded bound same
      cases mayAdd with
      | false => simpa using before
      | true =>
          have room : recorded.state.jobCount < bound := by
            simpa [mayCreate, same] using allowed
          simp only [if_true]
          omega
    fresh := fun notStarted => (scheduled.started here notStarted).elim
    goesOn := fun _ => ⟨stillOpen, by simp only [count]; exact rest⟩
    slots := by
      intro other member
      rcases List.mem_or_eq_of_mem_set member with inAll | rfl
      · rcases List.mem_append.mp inAll with old | new
        · exact scheduled.slots other old
        · cases mayAdd with
          | false => simp [← added] at new
          | true =>
              obtain rfl : other = .created := by simpa [← added] using new
              trivial
      · exact inItems
    puts := scheduled.puts
    calls := by
      have calls := scheduled.calls
      simp only [opened, Bool.false_eq_true, if_false, List.append_nil] at calls
      simp [calls, stillOpen, count, List.take_add_one, inItems]
  }

/-- The head receives the item of the next reservation and makes that, after creating the next
head if it may.
-/
theorem Scheduled.receive (scheduled : Scheduled ops maxConcurrentCount items mapper recorded)
    (lawful : ops.Lawful) {job : Nat} (here : recorded.state.jobs[job]? = some .fetching)
    {item : α} {source : List α} (supplied : recorded.state.source = item :: source)
    : Scheduled ops maxConcurrentCount items mapper
        {
          state :=
            ({ recorded.state with source } : State Q α β).receive ops maxConcurrentCount job item
          calls :=
            recorded.calls
              ++ recorded.state.calls maxConcurrentCount (.step (.supply job))
        } := by
  have started := scheduled.started here
  obtain ⟨opened, atNext⟩ :=
    scheduled.goesOn (.inr ⟨.fetching, List.mem_of_getElem? here, rfl⟩)
  rw [supplied] at atNext
  have inItems : items[ops.reservedCount recorded.state.channel.queue]? = some item := by
    have first := congrArg List.head? atNext
    simpa [List.head?_drop] using first.symm
  have rest : source = items.drop (ops.reservedCount recorded.state.channel.queue + 1) := by
    have tail := congrArg List.tail atNext
    simpa [List.tail_drop] using tail
  have made : recorded.state.calls maxConcurrentCount (.step (.supply job))
      = if mayCreate maxConcurrentCount recorded.state.jobCount && recorded.state.aborting then []
        else [.reserve item] := by
    simp only [State.calls, here, supplied]
  rw [made]
  cases refused
    : mayCreate maxConcurrentCount recorded.state.jobCount && recorded.state.aborting with
  | true =>
      obtain ⟨allowed, aborting⟩ := Bool.and_eq_true_iff.mp refused
      have failed
          : ({ recorded.state with source } : State Q α β).receive ops maxConcurrentCount job item
            = ({ recorded.state with source } : State Q α β).failJob job := by
        simp [State.receive, allowed, State.createJob, aborting]
      rw [failed, if_pos rfl, List.append_nil]
      have noHead := no_head_of_set scheduled.heads here rfl .finished rfl
      exact ((scheduled.endJob here rfl).withSource noHead started source).abort started
  | false =>
      obtain ⟨queue, reserved, stillOpen, count⟩ := lawful.reserve _ opened
      rw [receive_eq { recorded.state with source } refused reserved, if_neg Bool.false_ne_true]
      exact scheduled.received here inItems rest opened stillOpen count

-----------------------------------------------------------------------------------------
-- Whole runs
-----------------------------------------------------------------------------------------

/-- The generator goes on in its loop, or leaves it and aborts its group. -/
theorem Scheduled.stepChannel
    (scheduled : Scheduled ops maxConcurrentCount items mapper recorded) (lawful : ops.Lawful)
    {consumed : Channel.Event β} {state : State Q α β}
    (stepped : recorded.state.stepChannel ops consumed = some state)
    (ofConsumer : consumed.OfConsumer)
    : Scheduled ops maxConcurrentCount items mapper { recorded with state } := by
  simp only [State.stepChannel, Option.ite_none_right_eq_some] at stepped
  obtain ⟨_, stepped⟩ := stepped
  obtain ⟨channel, moved, rfl⟩ := Option.map_eq_some_iff.mp stepped
  obtain ⟨reserved, closed, puts⟩ := lawful.consumer_step ofConsumer moved
  have consumed := scheduled.withChannel reserved closed (puts ▸ scheduled.puts)
  cases channel.consumer with
  | ended => exact consumed.abort Generator.noConfusion
  | ready | suspended => exact consumed

theorem Scheduled.step (scheduled : Scheduled ops maxConcurrentCount items mapper recorded)
    (lawful : ops.Lawful) (atLeastOne : ∀ bound, maxConcurrentCount = some bound → 1 ≤ bound)
    {event : Event} {state : State Q α β}
    (stepped : Map.step ops maxConcurrentCount mapper recorded.state event = some state)
    : Scheduled ops maxConcurrentCount items mapper
        {
          state
          calls := recorded.calls ++ recorded.state.calls maxConcurrentCount (.step event)
        } := by
  have quiet (none : recorded.state.calls maxConcurrentCount (.step event) = [])
      : ({
          state
          calls := recorded.calls ++ recorded.state.calls maxConcurrentCount (.step event)
        } : Recorded Q α β) = { recorded with state } := by
    rw [none, List.append_nil]
  cases event with
  | start =>
      rw [quiet rfl]
      simp only [Map.step, Option.ite_none_right_eq_some] at stepped
      obtain ⟨inJobs, same⟩ := stepped
      obtain rfl := Option.some.inj same
      exact scheduled.start inJobs
  | supply job =>
      simp only [Map.step] at stepped
      split at stepped
      case h_1 here exhausted =>
          obtain ⟨opened, _⟩ :=
            scheduled.goesOn (.inr ⟨.fetching, List.mem_of_getElem? here, rfl⟩)
          obtain ⟨queue, closes, closed, reserved⟩ := lawful.close _ opened
          simp only [closes, Option.some.injEq] at stepped
          obtain rfl := stepped
          have made : recorded.state.calls maxConcurrentCount (.step (.supply job)) = [.close] := by
            simp only [State.calls, here, exhausted]
          rw [made]
          exact scheduled.close here opened closed reserved
      case h_2 item source here supplied =>
          obtain rfl := Option.some.inj stepped
          exact scheduled.receive lawful here supplied
      case h_3 => contradiction
  | finish job =>
      rw [quiet rfl]
      simp only [Map.step] at stepped
      split at stepped
      case h_1 reservation item here =>
          obtain rfl := Option.some.inj stepped
          exact scheduled.finish lawful here
      case h_2 => contradiction
  | fail job =>
      rw [quiet rfl]
      simp only [Map.step] at stepped
      split at stepped
      case h_1 here | h_2 here =>
          obtain rfl := Option.some.inj stepped
          exact scheduled.failJob here rfl
      case h_3 => contradiction
  | next =>
      rw [quiet rfl]
      simp only [Map.step] at stepped
      split at stepped
      case isTrue notStarted =>
          obtain ⟨begun, created, moved⟩ := Option.bind_eq_some_iff.mp stepped
          exact (scheduled.begin atLeastOne notStarted created).stepChannel lawful moved trivial
      case isFalse => exact scheduled.stepChannel lawful stepped trivial
  | callback =>
      rw [quiet rfl]
      exact scheduled.stepChannel lawful stepped trivial
  | wake =>
      rw [quiet rfl]
      exact scheduled.stepChannel lawful stepped trivial
  | interrupt =>
      rw [quiet rfl]
      simp only [Map.step] at stepped
      split at stepped
      case h_1 =>
          split_ifs at stepped
          obtain rfl := Option.some.inj stepped
          exact scheduled.withGenerator Generator.noConfusion
      case h_2 => contradiction
  | exit =>
      rw [quiet rfl]
      simp only [Map.step, Option.ite_none_right_eq_some] at stepped
      obtain rfl := Option.some.inj stepped.2
      exact scheduled.withGenerator Generator.noConfusion

theorem Scheduled.occur (scheduled : Scheduled ops maxConcurrentCount items mapper recorded)
    (lawful : ops.Lawful) (atLeastOne : ∀ bound, maxConcurrentCount = some bound → 1 ≤ bound)
    {occurrence : Occurrence}
    (occurred : Map.occur ops maxConcurrentCount mapper recorded occurrence = some next)
    : Scheduled ops maxConcurrentCount items mapper next := by
  obtain ⟨state, stepped, rfl⟩ := Option.map_eq_some_iff.mp occurred
  cases occurrence with
  | step event => exact scheduled.step lawful atLeastOne stepped
  | leave =>
      simp only [State.leave, Option.ite_none_right_eq_some] at stepped
      obtain rfl := Option.some.inj stepped.2
      simpa only [State.calls, List.append_nil] using scheduled.abort Generator.noConfusion

theorem schedules_of_lawful (lawful : ops.Lawful)
    (atLeastOne : ∀ bound, maxConcurrentCount = some bound → 1 ≤ bound)
    {occurrences : List Occurrence} {final : Recorded Q α β}
    (reached
      : Transition.run (occur ops maxConcurrentCount mapper) (.initial ops items) occurrences
        = some final)
    : Schedules maxConcurrentCount items mapper final := by
  have scheduled : Scheduled ops maxConcurrentCount items mapper final :=
    Transition.run_preserves
      (fun _ _ _ scheduled occurred => Scheduled.occur scheduled lawful atLeastOne occurred)
      (scheduled_initial lawful) reached
  exact scheduled.schedules

/-- In every reachable state of `map()`, ordered or not, at most one job fetches an item, at most
`max_concurrent_count` mapper calls are in progress, each slot is that of its item, and the queue
was reserved for the items in order and closed at most once, after that. The proof follows the
one job that may still fetch.
-/
theorem map_schedules (items : List α) (mapper : α → β) (maxConcurrentCount : Option Nat)
    (atLeastOne : ∀ bound, maxConcurrentCount = some bound → 1 ≤ bound)
    (occurrences : List Occurrence)
    : (∀ final,
        Transition.run (occur OrderedQueue.operations maxConcurrentCount mapper)
            (.initial OrderedQueue.operations items) occurrences
          = some final
        → Schedules maxConcurrentCount items mapper final)
      ∧ ∀ final,
        Transition.run (occur UnorderedQueue.operations maxConcurrentCount mapper)
            (.initial UnorderedQueue.operations items) occurrences
          = some final
        → Schedules maxConcurrentCount items mapper final :=
  ⟨fun _ reached => schedules_of_lawful OrderedQueue.lawful atLeastOne reached,
    fun _ reached => schedules_of_lawful UnorderedQueue.lawful atLeastOne reached⟩

/-- Two mapper calls are in progress when the generator is closed, and the later one returns. -/
theorem map_schedules_closedEarly
    : ∃ occurrences, ∃ final : Recorded (OrderedQueue Nat) Nat Nat,
        Transition.run (occur OrderedQueue.operations (some 2) (· * 10))
            (.initial OrderedQueue.operations [1, 2, 3]) occurrences
          = some final
        ∧ final.calls = [.reserve 1, .reserve 2]
        ∧ final.state.channel.puts = [(1, 20)]
        ∧ final.state.jobs.countP Job.isMapping = 1
        ∧ Schedules (some 2) [1, 2, 3] (· * 10) final := by
  have reached
      : Transition.run (occur OrderedQueue.operations (some 2) (· * 10))
          (.initial OrderedQueue.operations [1, 2, 3])
          [.step .next, .step .start, .step (.supply 0), .step .start, .step (.supply 1), .leave,
            .step (.finish 1)]
        = some _ :=
    rfl
  have atLeastOne (bound : Nat) (same : some 2 = some bound) : 1 ≤ bound := by
    obtain rfl := Option.some.inj same
    decide
  exact ⟨_, _, reached, rfl, rfl, rfl,
    (map_schedules [1, 2, 3] (· * 10) (some 2) atLeastOne _).1 _ reached⟩

end Aiodrive.Map
