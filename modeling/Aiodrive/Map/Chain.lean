import Aiodrive.Map.Model
import Aiodrive.Queue.OrderedDelivery

/-! The chain of jobs of `map(ordered=True)`: the job after those that received an item is the
one that will fetch the next item, until the queue is closed or the chain breaks.
-/

namespace Aiodrive.Map

open Channel (Consumer)

variable {α β : Type*}

/-- Where the chain stands, beside the number `reserved` of items handed out: not started; at
the job that will fetch the next item; broken, with no such job; or closed by the end of
the source.
-/
inductive Phase (state : State (OrderedQueue β) α β) : Prop where
  | notStarted (generator : state.generator = .notStarted) (jobs : state.jobs = [])
    (reserved : state.channel.queue.reservedCount = 0)
    (opened : state.channel.queue.closed = false)
    (consumer : state.channel.consumer = .ready)
  | head (generator : state.generator = .iterating)
    (length : state.jobs.length = state.channel.queue.reservedCount + 1)
    (job
      : state.jobs[state.channel.queue.reservedCount]? = some .created
        ∨ state.jobs[state.channel.queue.reservedCount]? = some .fetching)
    (opened : state.channel.queue.closed = false)
  | broken (generator : state.generator = .iterating)
    (length : state.jobs.length = state.channel.queue.reservedCount)
    (opened : state.channel.queue.closed = false)
  | closed (generator : state.generator ≠ .notStarted)
    (length : state.jobs.length = state.channel.queue.reservedCount + 1)
    (job : state.jobs[state.channel.queue.reservedCount]? = some .finished)
    (closed : state.channel.queue.closed = true)
    (source : state.source = [])

/-- The chain broke: no job is left that would fetch the next item or close the queue. -/
def Broken (state : State (OrderedQueue β) α β) : Prop :=
  state.generator = .iterating
  ∧ state.channel.queue.closed = false
  ∧ state.jobs.length = state.channel.queue.reservedCount

/-- Each item handed out is at work in its own job, or was put as mapped for its reservation. -/
def Slot (items : List α) (mapper : α → β) (state : State (OrderedQueue β) α β)
    (index : Nat)
    : Prop :=
  ∃ item,
    items[index]? = some item
    ∧ (state.jobs[index]? = some (.mapping index item)
        ∧ state.channel.puts.lookup index = none
      ∨ state.jobs[index]? = some .finished
        ∧ state.channel.puts.lookup index = some (mapper item))

/-- The invariant of `map()` over the items of a source that does not fail, with a mapper that
does not fail either.
-/
structure Sound (items : List α) (mapper : α → β) (state : State (OrderedQueue β) α β)
    : Prop where
  queue : OrderedQueue.Sound state.channel
  source : state.source = items.drop state.channel.queue.reservedCount
  bounded : state.channel.queue.reservedCount ≤ items.length
  slots : ∀ index < state.channel.queue.reservedCount, Slot items mapper state index
  count : state.jobCount = state.jobs.countP Job.alive
  phase : Phase state
  running : state.generator = .iterating → state.channel.consumer ≠ .ended
  left
    : state.generator = .leaving ∨ state.generator = .ended → state.channel.consumer = .ended
  aborting : state.aborting = true → state.generator ≠ .iterating ∧ state.generator ≠ .notStarted

theorem sound_initial (items : List α) (mapper : α → β)
    : Sound items mapper (.initial OrderedQueue.operations items) :=
  {
    queue := OrderedQueue.sound_initial
    source := rfl
    bounded := Nat.zero_le _
    slots := fun _ impossible => (Nat.not_lt_zero _ impossible).elim
    count := rfl
    phase := .notStarted rfl rfl rfl rfl rfl
    running := by simp [State.initial]
    left := by simp [State.initial]
    aborting := by simp [State.initial]
  }

-----------------------------------------------------------------------------------------
-- Which job is where
-----------------------------------------------------------------------------------------

variable {items : List α} {mapper : α → β} {state : State (OrderedQueue β) α β}

/-- There is at most one job that did not receive an item. -/
theorem Sound.length_le (sound : Sound items mapper state)
    : state.jobs.length ≤ state.channel.queue.reservedCount + 1 := by
  cases sound.phase with
  | notStarted _ jobs _ _ _ => simp [jobs]
  | head _ length _ _ => omega
  | broken _ length _ => omega
  | closed _ length _ _ _ => omega

/-- A job that is yet to receive an item is the head of the chain. -/
theorem Sound.head_of_unserved (sound : Sound items mapper state) {job : Nat}
    (found : state.jobs[job]? = some .created ∨ state.jobs[job]? = some .fetching)
    : job = state.channel.queue.reservedCount
      ∧ state.generator = .iterating
      ∧ state.jobs.length = state.channel.queue.reservedCount + 1
      ∧ state.channel.queue.closed = false := by
  have inJobs : job < state.jobs.length := by
    rcases found with found | found <;> exact (List.getElem?_eq_some_iff.mp found).1
  have late : state.channel.queue.reservedCount ≤ job := by
    by_contra early
    obtain ⟨item, _, ⟨working, _⟩ | ⟨finished, _⟩⟩ := sound.slots job (by omega)
    · simp [working] at found
    · simp [finished] at found
  have here : job = state.channel.queue.reservedCount := by
    have := sound.length_le
    omega
  subst here
  cases sound.phase with
  | notStarted _ jobs _ _ _ => simp [jobs] at inJobs
  | head generator length _ opened => exact ⟨rfl, generator, length, opened⟩
  | broken _ length _ => omega
  | closed _ _ job _ _ => simp [job] at found

/-- A job at work on an item holds the reservation of that item, and has not put yet. -/
theorem Sound.mapping (sound : Sound items mapper state) {job reservation : Nat} {item : α}
    (found : state.jobs[job]? = some (.mapping reservation item))
    : job < state.channel.queue.reservedCount
      ∧ reservation = job
      ∧ items[job]? = some item
      ∧ state.channel.puts.lookup job = none := by
  have inJobs := (List.getElem?_eq_some_iff.mp found).1
  have early : job < state.channel.queue.reservedCount := by
    by_contra late
    have here : job = state.channel.queue.reservedCount := by
      have := sound.length_le
      omega
    cases sound.phase with
    | notStarted _ jobs _ _ _ => simp [jobs] at inJobs
    | head _ _ head _ => rw [← here, found] at head; simp at head
    | broken _ length _ => omega
    | closed _ _ last _ _ => rw [← here, found] at last; simp at last
  obtain ⟨other, inItems, ⟨working, absent⟩ | ⟨finished, _⟩⟩ := sound.slots job early
  · have same := found.symm.trans working
    simp only [Option.some.injEq, Job.mapping.injEq] at same
    exact ⟨early, same.1, same.2 ▸ inItems, absent⟩
  · simp [finished] at found

/-- A job leaves the chain as finished and gives its place in the count back. -/
theorem count_endJob {jobs : List (Job α)} {count : Int} {job : Nat} {working : Job α}
    (counted : count = jobs.countP Job.alive) (found : jobs[job]? = some working)
    (alive : working.alive = true)
    : count - 1 = (jobs.set job .finished).countP Job.alive := by
  obtain ⟨inJobs, rfl⟩ := List.getElem?_eq_some_iff.mp found
  have positive : 0 < jobs.countP Job.alive :=
    List.countP_pos_iff.mpr ⟨_, List.getElem_mem inJobs, alive⟩
  rw [List.countP_set inJobs, counted]
  simp only [alive, if_true, Job.alive_finished, Bool.false_eq_true, if_false]
  omega

end Aiodrive.Map
