import Aiodrive.ThreadsafeState.Model

/-! No waiter of a `ThreadsafeState` misses a change. The invariant has two parts: each future is
either registered or signalled, once; and each suspended task either has its future registered
for a value that does not satisfy its predicate, or has it signalled.
-/

namespace Aiodrive.ThreadsafeState

variable {κ T : Type*} {state next : State κ T}

-----------------------------------------------------------------------------------------
-- The futures
-----------------------------------------------------------------------------------------

/-- The futures of `_futures`, in its order. -/
def State.registered (state : State κ T) : List Nat := state.futures.map Prod.snd

/-- Every future is registered or signalled at most once, and pending until `set_result` runs. -/
structure Flights (state : State κ T) : Prop where
  distinct : (state.history ++ state.registered).Nodup
  created : ∀ future ∈ state.history ++ state.registered, future < state.futureCount
  keyed : ∀ entry ∈ state.futures, state.loopOf entry.2 = entry.1
  fresh : ∀ future, state.futureCount ≤ future → state.states future = .pending
  registered : ∀ future ∈ state.registered, state.states future = .pending
  scheduled
    : ∀ future ∈ state.scheduled,
        future ∈ state.history ∧ state.states future = .pending
  scheduledOnce : state.scheduled.Nodup
  noError : state.errors = 0

theorem flights_initial (value : T) : Flights (.initial value : State κ T) where
  distinct := by simp [State.initial, State.registered]
  created := by simp [State.initial, State.registered]
  keyed := by simp [State.initial]
  fresh := fun _ _ => rfl
  registered := by simp [State.initial, State.registered]
  scheduled := by simp [State.initial]
  scheduledOnce := by simp [State.initial]
  noError := rfl

/-- A step that touches no future. -/
theorem Flights.congr (flights : Flights state) (futures : next.futures = state.futures)
    (futureCount : next.futureCount = state.futureCount)
    (loopOf : next.loopOf = state.loopOf) (states : next.states = state.states)
    (scheduled : next.scheduled = state.scheduled) (history : next.history = state.history)
    (errors : next.errors = state.errors)
    : Flights next where
  distinct := by simpa only [State.registered, futures, history] using flights.distinct
  created := by
    simpa only [State.registered, futures, history, futureCount] using flights.created
  keyed := by simpa only [futures, loopOf] using flights.keyed
  fresh := by simpa only [futureCount, states] using flights.fresh
  registered := by simpa only [State.registered, futures, states] using flights.registered
  scheduled := by simpa only [scheduled, history, states] using flights.scheduled
  scheduledOnce := scheduled ▸ flights.scheduledOnce
  noError := errors.trans flights.noError

/-- The futures that are signalled are some of those registered. -/
theorem accepting_sublist (state : State κ T) : state.accepting.Sublist state.registered :=
  List.filter_sublist

/-- A change of the value takes all futures out of `_futures` and signals those whose loops run. -/
theorem Flights.updateValue (flights : Flights state) (differs : T → T → Bool) (fn : T → T)
    : Flights (state.updateValue differs fn) := by
  unfold State.updateValue
  simp only
  split
  · have signalled := accepting_sublist state
    exact {
      distinct := by
        simpa [State.registered]
          using flights.distinct.sublist ((List.Sublist.refl state.history).append signalled)
      created := by
        intro future member
        simp only [State.registered, List.map_nil, List.append_nil] at member
        exact flights.created future
          (((List.Sublist.refl state.history).append signalled).subset member)
      keyed := by simp
      fresh := flights.fresh
      registered := by simp [State.registered]
      scheduled := by
        intro future member
        rcases List.mem_append.mp member with old | new
        · obtain ⟨past, pending⟩ := flights.scheduled future old
          exact ⟨List.mem_append_left _ past, pending⟩
        · exact ⟨List.mem_append_right _ new,
            flights.registered future (signalled.subset new)⟩
      scheduledOnce := by
        have unregistered := List.nodup_append.mp flights.distinct
        apply List.nodup_append.mpr
        refine ⟨flights.scheduledOnce, unregistered.2.1.sublist signalled, ?_⟩
        intro old inFlight new member
        exact unregistered.2.2 old (flights.scheduled old inFlight).1 new
          (signalled.subset member)
      noError := flights.noError
    }
  · exact flights

/-- A signal that is in flight meets a pending future. -/
theorem Flights.setResult (flights : Flights state) {future : Nat}
    (inFlight : future ∈ state.scheduled)
    : Flights (state.setResult future)
      ∧ (state.setResult future).states
        = Function.update state.states future (.success ()) := by
  obtain ⟨past, pending⟩ := flights.scheduled future inFlight
  have result : state.setResult future
      = { state with
          scheduled := state.scheduled.erase future
          states := Function.update state.states future (.success ()) } := by
    simp [State.setResult, pending]
  have other {own : Nat} (different : own ≠ future)
      : Function.update state.states future (.success ()) own = state.states own :=
    Function.update_of_ne different ..
  rw [result]
  refine ⟨?_, rfl⟩
  exact {
    distinct := flights.distinct
    created := flights.created
    keyed := flights.keyed
    fresh := by
      intro own new
      have created := flights.created future (List.mem_append_left _ past)
      have different : own ≠ future := Nat.ne_of_gt (Nat.lt_of_lt_of_le created new)
      exact (other different).trans (flights.fresh own new)
    registered := by
      intro own member
      have different : own ≠ future := by
        intro same
        exact (List.nodup_append.mp flights.distinct).2.2 future past own member same.symm
      exact (other different).trans (flights.registered own member)
    scheduled := by
      intro own member
      obtain ⟨different, member⟩ := (flights.scheduledOnce.mem_erase_iff).mp member
      obtain ⟨past, pending⟩ := flights.scheduled own member
      exact ⟨past, (other different).trans pending⟩
    scheduledOnce := flights.scheduledOnce.erase future
    noError := flights.noError
  }

section
variable [DecidableEq κ]

/-- A task that finds no future for its loop registers a new one. -/
theorem Flights.observe (flights : Flights state) (client : κ) (fn : T → Bool) (loop : Nat)
    : Flights (state.observe client fn loop) := by
  unfold State.observe
  split
  · exact flights.congr rfl rfl rfl rfl rfl rfl rfl
  · have registered : (state.futures ++ [(loop, state.futureCount)]).map Prod.snd
        = state.registered ++ [state.futureCount] := by
      simp [State.registered]
    have new : state.futureCount ∉ state.history ++ state.registered := by
      intro member
      exact Nat.lt_irrefl _ (flights.created _ member)
    exact {
      distinct := by
        simp only [State.registered, State.setClient, registered, ← List.append_assoc]
        apply List.nodup_append.mpr
        refine ⟨flights.distinct, by simp, ?_⟩
        intro old member other same
        rw [List.mem_singleton.mp same]
        exact fun same => new (same ▸ member)
      created := by
        simp only [State.registered, State.setClient, registered, ← List.append_assoc]
        intro future member
        rcases List.mem_append.mp member with old | same
        · exact Nat.lt_succ_of_lt (flights.created future old)
        · rw [List.mem_singleton.mp same]
          exact Nat.lt_succ_self _
      keyed := by
        intro entry member
        rcases List.mem_append.mp member with old | same
        · have different : entry.2 ≠ state.futureCount := by
            intro same
            exact new (same ▸ List.mem_append_right _ (List.mem_map_of_mem old))
          exact (Function.update_of_ne different ..).trans (flights.keyed entry old)
        · rw [List.mem_singleton.mp same]
          exact Function.update_self ..
      fresh := fun future new => flights.fresh future (Nat.le_of_succ_le new)
      registered := by
        simp only [State.registered, State.setClient, registered]
        intro future member
        rcases List.mem_append.mp member with old | same
        · exact flights.registered future old
        · rw [List.mem_singleton.mp same]
          exact flights.fresh _ (Nat.le_refl _)
      scheduled := flights.scheduled
      scheduledOnce := flights.scheduledOnce
      noError := flights.noError
    }

/-- One step keeps the futures in order, by cases on the event. -/
theorem step_flights {differs : T → T → Bool} {event : Event κ T} (flights : Flights state)
    (stepped : step differs state event = some next)
    : Flights next := by
  cases move_of_step stepped with
  | checks here =>
      unfold State.check
      split
      · exact flights.congr rfl rfl rfl rfl rfl rfl rfl
      · split
        · exact flights.observe ..
        · exact flights.congr rfl rfl rfl rfl rfl rfl rfl
  | setsValue => exact flights.updateValue differs _
  | updates => exact flights.updateValue differs _
  | setsResult inFlight opened => exact (flights.setResult inFlight).1
  | begins => exact flights.congr rfl rfl rfl rfl rfl rfl rfl
  | beginsSync => exact flights.congr rfl rfl rfl rfl rfl rfl rfl
  | throws here => exact flights.congr rfl rfl rfl rfl rfl rfl rfl
  | resumes here done => exact flights.congr rfl rfl rfl rfl rfl rfl rfl
  | resumesSync here => exact flights.congr rfl rfl rfl rfl rfl rfl rfl
  | closes => exact flights.congr rfl rfl rfl rfl rfl rfl rfl
  | cancels here => exact flights.congr rfl rfl rfl rfl rfl rfl rfl

end

-----------------------------------------------------------------------------------------
-- The clients
-----------------------------------------------------------------------------------------

/-- What a client can rely on where it is. A value that it returns satisfies its predicate and
was there during its call, like the present value during a call that goes on. A suspended
task of an open loop has its future registered while the predicate is false, or signalled.
-/
structure Served (state : State κ T) (client : κ) : Prop where
  present : (state.clients client).inCall = true → state.value ∈ state.held client
  returned
    : ∀ fn value,
        state.clients client = .returned fn value
        → fn value = true ∧ value ∈ state.held client
  created
    : ∀ fn loop future mustCancel,
        state.clients client = .suspended fn loop future mustCancel
        → future < state.futureCount ∧ state.loopOf future = loop
  suspended
    : ∀ fn loop future mustCancel,
        state.clients client = .suspended fn loop future mustCancel
        → state.closedLoop loop = false
        → (fn state.value = false ∧ state.futures.lookup loop = some future)
          ∨ state.Signalled future

theorem served_initial (value : T) (client : κ)
    : Served (.initial value : State κ T) client where
  present := by simp [State.initial, Client.inCall]
  returned := by simp [State.initial]
  created := by simp [State.initial]
  suspended := by simp [State.initial]

/-- A step that leaves the client and all that it relies on alone. -/
theorem Served.congr {client : κ} (served : Served state client)
    (place : next.clients client = state.clients client)
    (held : next.held client = state.held client) (value : next.value = state.value)
    (loopOf
      : ∀ future < state.futureCount, next.loopOf future = state.loopOf future)
    (futureCount : state.futureCount ≤ next.futureCount)
    (opened : ∀ loop, next.closedLoop loop = false → state.closedLoop loop = false)
    (futures
      : ∀ loop future,
          state.futures.lookup loop = some future → next.futures.lookup loop = some future)
    (signalled : ∀ future, state.Signalled future → next.Signalled future)
    : Served next client where
  present := by simpa only [place, held, value] using served.present
  returned := by simpa only [place, held] using served.returned
  created := by
    intro fn loop future mustCancel here
    rw [place] at here
    obtain ⟨created, own⟩ := served.created fn loop future mustCancel here
    exact ⟨Nat.lt_of_lt_of_le created futureCount, (loopOf future created).trans own⟩
  suspended := by
    intro fn loop future mustCancel here isOpen
    rw [place] at here
    rcases served.suspended fn loop future mustCancel here (opened loop isOpen) with
      waits | already
    · exact .inl ⟨value ▸ waits.1, futures loop future waits.2⟩
    · exact .inr (signalled future already)

/-- A future that is in `_futures` for a loop is one of the registered ones. -/
theorem mem_registered_of_lookup {loop future : Nat}
    (found : state.futures.lookup loop = some future)
    : (loop, future) ∈ state.futures := by
  obtain ⟨before, after, split, _⟩ := List.lookup_eq_some_iff.mp found
  simp [split]

/-- A change of the value signals the future of every suspended task. -/
theorem Served.updateValue {client : κ} (served : Served state client)
    (differs : T → T → Bool) (fn : T → T)
    : Served (state.updateValue differs fn) client := by
  unfold State.updateValue
  simp only
  split
  · have suspended {fn : T → Bool} {loop future : Nat} {mustCancel : Bool}
        (here : (state.clients client).notify = .suspended fn loop future mustCancel)
        : state.clients client = .suspended fn loop future mustCancel := by
      cases place : state.clients client <;> simp_all [Client.notify]
    refine ⟨?_, ?_, ?_, ?_⟩
    · intro inCall
      have inCall : (state.clients client).inCall = true := by
        cases place : state.clients client <;> simp_all [Client.notify, Client.inCall]
      simp [inCall]
    · intro own value here
      have here : state.clients client = .returned own value := by
        cases place : state.clients client <;> simp_all [Client.notify]
      simpa [here, Client.inCall] using served.returned own value here
    · intro own loop future mustCancel here
      exact served.created own loop future mustCancel (suspended here)
    · intro own loop future mustCancel here isOpen
      have here := suspended here
      refine .inr ?_
      rcases served.suspended own loop future mustCancel here isOpen with waits | already
      · obtain ⟨_, loopEq⟩ := served.created own loop future mustCancel here
        refine .inl (List.mem_append_right _ (List.mem_filter.mpr ⟨?_, ?_⟩))
        · exact List.mem_map_of_mem (mem_registered_of_lookup waits.2)
        · simpa only [loopEq, Bool.not_eq_true'] using isOpen
      · exact already.imp_left (List.mem_append_left _)
  · exact served

/-- A signal that is executed stays one. -/
theorem State.Signalled.setResult (flights : Flights state) {future own : Nat}
    (inFlight : future ∈ state.scheduled) (signalled : state.Signalled own)
    : (state.setResult future).Signalled own := by
  have states := (flights.setResult inFlight).2
  by_cases same : own = future
  · subst same
    right
    rw [states]
    simp
  · rcases signalled with scheduled | done
    · left
      have kept : (state.setResult future).scheduled = state.scheduled.erase future := by
        unfold State.setResult
        simp only
        split <;> rfl
      rw [kept]
      exact (List.mem_erase_of_ne same).mpr scheduled
    · right
      rw [states, Function.update_of_ne same]
      exact done

section
variable [DecidableEq κ]

/-- Another client's move leaves the client alone. -/
theorem Served.ofOther {client other : κ} (served : Served state other)
    (different : other ≠ client) (place : Client T)
    : Served (state.setClient client place) other :=
  served.congr (Function.update_of_ne different ..) rfl rfl (fun _ _ => rfl) (Nat.le_refl _)
    (fun _ => id) (fun _ _ => id) (fun _ => id)

/-- A client that moves to a place where it neither has a result nor awaits a future. -/
theorem Served.toPlace {client : κ} (place : Client T)
    (present : place.inCall = true → state.value ∈ state.held client)
    (unreturned : ∀ fn value, place ≠ .returned fn value)
    (unsuspended : ∀ fn loop future mustCancel, place ≠ .suspended fn loop future mustCancel)
    : Served (state.setClient client place) client := by
  have here : (state.setClient client place).clients client = place := Function.update_self ..
  exact {
    present := fun inCall => present (by rwa [here] at inCall)
    returned := fun fn value same => (unreturned fn value (here.symm.trans same)).elim
    created := fun fn loop future mustCancel same =>
      (unsuspended fn loop future mustCancel (here.symm.trans same)).elim
    suspended := fun fn loop future mustCancel same =>
      (unsuspended fn loop future mustCancel (here.symm.trans same)).elim
  }

/-- The call of a client that has none. -/
theorem Served.begin {client : κ} (served : ∀ own, Served state own) (fn : T → Bool)
    (loop : Option Nat) (own : κ)
    : Served (state.begin client (.checking fn loop)) own := by
  by_cases same : own = client
  · subst own
    have started : Served ({ state with
        held := Function.update state.held client [state.value] }.setClient client
          (.checking fn loop)) client :=
      Served.toPlace _ (fun _ => by simp) (by simp) (by simp)
    exact started
  · exact (served own).congr (Function.update_of_ne same ..) (Function.update_of_ne same ..) rfl
      (fun _ _ => rfl) (Nat.le_refl _) (fun _ => id) (fun _ _ => id) (fun _ => id)

/-- A client that awaits a future of its loop. -/
theorem Served.toSuspended {client : κ} (present : state.value ∈ state.held client)
    {fn : T → Bool} {loop future : Nat} (mustCancel : Bool)
    (created : future < state.futureCount ∧ state.loopOf future = loop)
    (waits
      : state.closedLoop loop = false
        → (fn state.value = false ∧ state.futures.lookup loop = some future)
          ∨ state.Signalled future)
    : Served (state.setClient client (.suspended fn loop future mustCancel)) client := by
  have here : (state.setClient client (.suspended fn loop future mustCancel)).clients client
      = .suspended fn loop future mustCancel := Function.update_self ..
  refine ⟨fun _ => present, ?_, ?_, ?_⟩
  · intro other value returned
    cases here.symm.trans returned
  · intro other own third late suspended
    cases here.symm.trans suspended
    exact created
  · intro other own third late suspended
    cases here.symm.trans suspended
    exact waits

/-- A task whose predicate is false finds the future of its loop, or registers one. -/
theorem Served.observe {client : κ} (flights : Flights state)
    (served : ∀ own, Served state own) (present : state.value ∈ state.held client)
    {fn : T → Bool} (refused : fn state.value = false) (loop : Nat) (own : κ)
    : Served (state.observe client fn loop) own := by
  unfold State.observe
  split
  · rename_i future found
    by_cases same : own = client
    · subst own
      have member := mem_registered_of_lookup found
      have registered : future ∈ state.registered := List.mem_map_of_mem member
      apply Served.toSuspended present false
      · exact ⟨flights.created future (List.mem_append_right _ registered),
          flights.keyed _ member⟩
      · exact fun _ => .inl ⟨refused, found⟩
    · exact (served own).ofOther same _
  · rename_i absent
    by_cases same : own = client
    · subst own
      refine Served.toSuspended ?_ false ?_ ?_
      · exact present
      · exact ⟨Nat.lt_succ_self _, Function.update_self ..⟩
      · refine fun _ => .inl ⟨refused, ?_⟩
        rw [List.lookup_append, absent]
        simp
    · refine (served own).congr (Function.update_of_ne same ..) rfl rfl
        (fun future created => Function.update_of_ne (Nat.ne_of_lt created) ..)
        (Nat.le_succ _) (fun _ => id) ?_ (fun _ => id)
      intro other future found
      show (state.futures ++ _).lookup other = some future
      rw [List.lookup_append, found]
      rfl

/-- The check of a client serves every client as before. -/
theorem Served.check {client : κ} (flights : Flights state)
    (served : ∀ own, Served state own) {fn : T → Bool} {loop : Option Nat}
    (here : state.clients client = .checking fn loop) (own : κ)
    : Served (state.check client fn loop) own := by
  have present : state.value ∈ state.held client :=
    (served client).present (by rw [here]; rfl)
  unfold State.check
  split
  · rename_i accepted
    by_cases same : own = client
    · subst own
      have there : (state.setClient client (.returned fn state.value)).clients client
          = .returned fn state.value := Function.update_self ..
      refine ⟨?_, ?_, ?_, ?_⟩
      · intro inCall
        rw [there] at inCall
        contradiction
      · intro other value returned
        cases there.symm.trans returned
        exact ⟨accepted, present⟩
      · intro other loop future mustCancel suspended
        cases there.symm.trans suspended
      · intro other loop future mustCancel suspended
        cases there.symm.trans suspended
    · exact (served own).ofOther same _
  · rename_i refused
    cases loop with
    | some loop => exact Served.observe flights served present (by simpa using refused) loop own
    | none =>
        by_cases same : own = client
        · subst own
          exact Served.toPlace _ (fun _ => present) (by simp) (by simp)
        · exact (served own).ofOther same _

/-- One step serves every client as before, by cases on the event. -/
theorem step_served {differs : T → T → Bool} {event : Event κ T} (flights : Flights state)
    (served : ∀ own, Served state own) (stepped : step differs state event = some next)
    (own : κ)
    : Served next own := by
  have moves {client : κ} {place : Client T}
      (present : place.inCall = true → state.value ∈ state.held client)
      (unreturned : ∀ fn value, place ≠ .returned fn value)
      (unsuspended
        : ∀ fn loop future mustCancel, place ≠ .suspended fn loop future mustCancel)
      : Served (state.setClient client place) own := by
    by_cases same : own = client
    · subst own
      exact Served.toPlace place present unreturned unsuspended
    · exact (served own).ofOther same place
  cases move_of_step stepped with
  | @begins client loop fn => exact Served.begin served fn (some loop) own
  | @beginsSync client fn => exact Served.begin served fn none own
  | checks here => exact Served.check flights served here own
  | throws here => exact moves (fun inCall => nomatch inCall) (by simp) (by simp)
  | @resumes client fn loop future here done =>
      have present := (served client).present (by rw [here]; rfl)
      exact moves (fun _ => present) (by simp) (by simp)
  | @resumesSync client fn here =>
      have present := (served client).present (by rw [here]; rfl)
      exact moves (fun _ => present) (by simp) (by simp)
  | setsValue => exact (served own).updateValue differs _
  | updates => exact (served own).updateValue differs _
  | @setsResult future inFlight opened =>
      have frame : (state.setResult future).clients = state.clients
          ∧ (state.setResult future).held = state.held
          ∧ (state.setResult future).value = state.value
          ∧ (state.setResult future).loopOf = state.loopOf
          ∧ (state.setResult future).futureCount = state.futureCount
          ∧ (state.setResult future).closedLoop = state.closedLoop
          ∧ (state.setResult future).futures = state.futures := by
        unfold State.setResult
        simp only
        split <;> exact ⟨rfl, rfl, rfl, rfl, rfl, rfl, rfl⟩
      obtain ⟨clients, held, value, loopOf, futureCount, closedLoop, futures⟩ := frame
      exact (served own).congr (congrFun clients own) (congrFun held own) value
        (fun future _ => congrFun loopOf future) (Nat.le_of_eq futureCount.symm)
        (fun loop isOpen => closedLoop ▸ isOpen)
        (fun loop future found => futures ▸ found)
        (fun _ signalled => signalled.setResult flights inFlight)
  | @closes loop =>
      refine (served own).congr rfl rfl rfl (fun _ _ => rfl) (Nat.le_refl _) ?_ (fun _ _ => id)
        (fun _ => id)
      intro other isOpen
      by_cases same : other = loop
      · simp [same] at isOpen
      · simpa [same] using isOpen
  | @cancels client fn loop future mustCancel here =>
      by_cases same : own = client
      · subst own
        have present := (served client).present (by rw [here]; rfl)
        exact Served.toSuspended present true ((served client).created _ _ _ _ here)
          ((served client).suspended _ _ _ _ here)
      · exact (served own).ofOther same _

-----------------------------------------------------------------------------------------
-- Every run
-----------------------------------------------------------------------------------------

theorem run_served {differs : T → T → Bool} {value : T} {events : List (Event κ T)}
    {final : State κ T}
    (reached : Transition.run (step differs) (.initial value) events = some final)
    : Flights final ∧ ∀ client, Served final client :=
  Transition.run_preserves
    (P := fun state => Flights state ∧ ∀ client, Served state client)
    (fun _ _ _ sound stepped =>
      ⟨step_flights sound.1 stepped, step_served sound.1 sound.2 stepped⟩)
    ⟨flights_initial value, served_initial value⟩ reached

/-- In every run, whatever the values, the predicates and the cancellations: a waiter returns
only a value that satisfies its predicate and was there during its call; a suspended task
whose loop is open has its future registered for its loop while the predicate is false of the
value, or signalled; and every future is signalled at most once, before it is done.
-/
theorem state_misses_no_change {differs : T → T → Bool} {value : T}
    {events : List (Event κ T)} {final : State κ T}
    (reached : Transition.run (step differs) (.initial value) events = some final)
    : (∀ client fn result,
        final.clients client = .returned fn result
        → fn result = true ∧ result ∈ final.held client)
      ∧ (∀ client fn loop future mustCancel,
          final.clients client = .suspended fn loop future mustCancel
          → final.closedLoop loop = false
          → (fn final.value = false ∧ final.futures.lookup loop = some future)
            ∨ final.Signalled future)
      ∧ final.history.Nodup
      ∧ (∀ future ∈ final.scheduled, final.states future = .pending)
      ∧ final.errors = 0 := by
  obtain ⟨flights, served⟩ := run_served reached
  refine ⟨?_, ?_, ?_, ?_, flights.noError⟩
  · exact fun client => (served client).returned
  · exact fun client => (served client).suspended
  · exact (List.nodup_append.mp flights.distinct).1
  · exact fun future inFlight => (flights.scheduled future inFlight).2

/-- Two tasks of one loop share a future; one of them is cancelled, and the value changes and
changes back before the other one resumes.
-/
theorem state_misses_no_change_shared
    : ∃ final : State Nat Nat,
        Transition.run (step bne) (.initial 0)
            [.waitUntil 0 5 (· == 1), .check 0, .waitUntil 1 5 (· == 2), .check 1, .cancel 0,
              .updateValue (· + 1), .setValue 0, .setResult 0, .resume 0, .resume 1, .check 1]
          = some final
        ∧ final.held 1 = [0, 1, 0]
        ∧ final.history.Nodup
        ∧ final.errors = 0 := by
  have reached
      : Transition.run (step bne) (.initial 0 : State Nat Nat)
          [.waitUntil 0 5 (· == 1), .check 0, .waitUntil 1 5 (· == 2), .check 1, .cancel 0,
            .updateValue (· + 1), .setValue 0, .setResult 0, .resume 0, .resume 1, .check 1]
        = some _ :=
    rfl
  exact ⟨_, reached, rfl, (state_misses_no_change reached).2.2.1,
    (state_misses_no_change reached).2.2.2.2⟩

end

end Aiodrive.ThreadsafeState
