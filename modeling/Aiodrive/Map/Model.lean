import Aiodrive.Queue.Channel

/-! `map()` of `modules/map.py`: the generator that iterates the queue, and the chain of jobs
that its task group runs. A job that receives an item creates the next job, unless
`max_concurrent_count` jobs are alive at that moment.
-/

namespace Aiodrive.Map

variable {Q α β : Type*}

/-- A job task: created but not started, awaiting `anext(iterator)`, awaiting `mapper(item)`
with the closure of a reservation in `put_item`, or finished.
-/
inductive Job (α : Type*) where
  | created
  | fetching
  | mapping (reservation : Nat) (item : α)
  | finished
deriving DecidableEq, Repr

def Job.alive : Job α → Bool
  | .created | .fetching | .mapping _ _ => true
  | .finished => false

@[simp] theorem Job.alive_created : (created : Job α).alive = true := rfl

@[simp] theorem Job.alive_fetching : (fetching : Job α).alive = true := rfl

@[simp] theorem Job.alive_mapping (reservation : Nat) (item : α)
    : (mapping reservation item).alive = true :=
  rfl

@[simp] theorem Job.alive_finished : (finished : Job α).alive = false := rfl

def Job.isCreated : Job α → Bool
  | .created => true
  | .fetching | .mapping _ _ | .finished => false

/-- `Task.cancel()` on a job as the group aborts: a task that has not started never runs its
body, and any other one is free to end as it likes.
-/
def Job.cancelUnstarted : Job α → Job α
  | .created => .finished
  | .fetching => .fetching
  | .mapping reservation item => .mapping reservation item
  | .finished => .finished

/-- The generator has not started, is in its `async for`, waits for the task group to end, or
has ended.
-/
inductive Generator where
  | notStarted
  | iterating
  | leaving
  | ended
deriving DecidableEq, Repr

/-- `source` holds the items still to come, and `aborting` tells that the task group has
cancelled its tasks and accepts no new ones.
-/
structure State (Q α β : Type*) where
  source : List α
  jobCount : Int
  jobs : List (Job α)
  channel : Channel.State Q β
  aborting : Bool
  generator : Generator

/-- What can happen: the first job not started starts, the source answers the `anext()` of a
job, the mapper call of a job returns, a job fails in one of the two, the generator takes
a step on the queue, its suspension is cancelled by the group, or the group ends.
-/
inductive Event where
  | start
  | supply (job : Nat)
  | finish (job : Nat)
  | fail (job : Nat)
  | next
  | callback
  | wake
  | interrupt
  | exit
deriving DecidableEq, Repr

variable (ops : Channel.Operations Q β) (maxConcurrentCount : Option Nat) (mapper : α → β)

def State.initial (source : List α) : State Q α β :=
  { source, jobCount := 0, jobs := [], channel := .initial ops, aborting := false,
    generator := .notStarted }

/-- `(max_concurrent_count is None) or (job_count < max_concurrent_count)` -/
def mayCreate (jobCount : Int) : Bool :=
  match maxConcurrentCount with
  | none => true
  | some bound => jobCount < bound

/-- `group.create_task(job()); job_count += 1`; an aborting group raises. -/
def State.createJob (state : State Q α β) : Option (State Q α β) :=
  if state.aborting then none
  else some { state with jobs := state.jobs ++ [.created], jobCount := state.jobCount + 1 }

/-- A job leaves its `finally: job_count -= 1`. -/
def State.endJob (state : State Q α β) (job : Nat) : State Q α β :=
  { state with jobs := state.jobs.set job .finished, jobCount := state.jobCount - 1 }

/-- The group cancels its tasks and takes no new ones. -/
def State.abort (state : State Q α β) : State Q α β :=
  { state with
    aborting := true
    jobs := state.jobs.map Job.cancelUnstarted }

/-- An exception leaves a job and makes the group abort. -/
def State.failJob (state : State Q α β) (job : Nat) : State Q α β :=
  (state.endJob job).abort

/-- The `else` branch of a job that received an item, up to `await mapper(item)`. -/
def State.receive (state : State Q α β) (job : Nat) (item : α) : State Q α β :=
  match if mayCreate maxConcurrentCount state.jobCount then state.createJob else some state with
  | none => state.failJob job
  | some state =>
      match ops.reserve state.channel.queue with
      | none => state.failJob job
      | some queue =>
          let reservation := ops.reservedCount state.channel.queue
          { state with
            channel := { state.channel with queue }
            jobs := state.jobs.set job (.mapping reservation item) }

/-- A step of the generator on its queue; the group aborts when the loop is left. -/
def State.stepChannel (state : State Q α β) (event : Channel.Event β)
    : Option (State Q α β) :=
  if state.generator = .iterating then
    (Channel.step ops state.channel event).map (fun channel =>
      match channel.consumer with
      | .ended => { state with channel, generator := .leaving }.abort
      | .ready | .suspended _ => { state with channel })
  else
    none

def step (state : State Q α β) : Event → Option (State Q α β)
  | .start =>
      let job := state.jobs.findIdx Job.isCreated
      if job < state.jobs.length then
        some { state with jobs := state.jobs.set job .fetching }
      else
        none
  | .supply job =>
      match state.jobs[job]?, state.source with
      | some .fetching, [] =>
          match ops.close state.channel.queue with
          | some queue => some ({ state with channel := { state.channel with queue } }.endJob job)
          | none => some (state.failJob job)
      | some .fetching, item :: source =>
          some ({ state with source }.receive ops maxConcurrentCount job item)
      | _, _ => none
  | .finish job =>
      match state.jobs[job]? with
      | some (.mapping reservation item) =>
          some ({ state with
            channel := state.channel.put ops reservation (mapper item) }.endJob job)
      | _ => none
  | .fail job =>
      match state.jobs[job]? with
      | some .fetching | some (.mapping _ _) => some (state.failJob job)
      | _ => none
  | .next =>
      if state.generator = .notStarted then
        { state with generator := .iterating }.createJob.bind
          (fun state => state.stepChannel ops .next)
      else
        state.stepChannel ops .next
  | .callback => state.stepChannel ops .callback
  | .wake => state.stepChannel ops .wake
  | .interrupt =>
      match state.generator, state.channel.consumer with
      | .iterating, .suspended _ =>
          if state.aborting then some { state with generator := .leaving } else none
      | _, _ => none
  | .exit =>
      if state.generator = .leaving ∧ ∀ job ∈ state.jobs, job.alive = false then
        some { state with generator := .ended }
      else
        none

end Aiodrive.Map
