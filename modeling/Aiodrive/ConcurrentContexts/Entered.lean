import Aiodrive.ConcurrentContexts.Model

/-! `concurrent_contexts()` exits what it has entered: the record of its open managers matches the
entries that have completed, and no manager is added to it once the exits have begun.
-/

namespace Aiodrive.ConcurrentContexts

variable {ε α : Type*}

/-- The `__aenter__` of the manager has completed. -/
def Entered (events : List (Event ε α)) (manager : Nat) : Prop :=
  ∃ ended, Event.entryEnds manager true ended ∈ events

theorem entered_append_iff {past : List (Event ε α)} {event : Event ε α} {manager : Nat}
    : Entered (past ++ [event]) manager
      ↔ Entered past manager ∨ ∃ ended, event = .entryEnds manager true ended := by
  simp only [Entered, List.mem_append, List.mem_singleton, exists_or]
  exact or_congr Iff.rfl (exists_congr (fun _ => eq_comm))

/-- The `gather()` of the entries has ended. -/
def EntryOver (entry : Gather.State Nat ε α) : Prop :=
  ∃ outcome, entry.pc = .exited outcome

/-- The exits are those of the open managers, and their task does not end before them. -/
def Phase.Sound (entry : Gather.State Nat ε α) (openManagers : List Nat) : Phase ε → Prop
  | .entering => True
  | .body => EntryOver entry
  | .shielding none wait =>
      EntryOver entry ∧ ShieldWait.Sound 1 wait ∧ wait.inner = .pending
  | .shielding (some exits) wait =>
      EntryOver entry
      ∧ exits.Sound openManagers
      ∧ ShieldWait.Sound 1 wait
      ∧ (wait.inner.done = true → ∃ outcome, exits.gather.pc = .exited outcome)
  | .awaiting exits => EntryOver entry ∧ exits.Sound openManagers

structure Sound (count : Nat) (past : List (Event ε α)) (state : State ε α) : Prop where
  entry
    : ∃ events,
        Transition.run Gather.step (.initial true (List.range count) (fun _ => .pending)) events
        = some state.entry
  opened : ∀ manager, manager ∈ state.openManagers ↔ Entered past manager
  nodup : state.openManagers.Nodup
  done : ∀ manager ∈ state.openManagers, (state.entry.table manager).done = true
  phase : state.phase.Sound state.entry state.openManagers

/-- Once the `gather()` of the entries has ended, so have all entries. -/
theorem Sound.entries_done {count : Nat} {past : List (Event ε α)} {state : State ε α}
    (sound : Sound count past state) (finished : EntryOver state.entry)
    : ∀ manager ∈ state.entry.tasks, (state.entry.table manager).done = true := by
  obtain ⟨events, reached⟩ := sound.entry
  obtain ⟨outcome, exited⟩ := finished
  rw [(Gather.run_agrees reached).1]
  exact (Gather.gather_outcome reached exited).1

/-- A step of the `gather()` of the entries is not taken once that has ended. -/
theorem not_over_of_waits {entry next : Gather.State Nat ε α} {event : Gather.Event Nat ε α}
    (other : ∀ manager ended, event ≠ .complete manager ended)
    (stepped : Gather.step entry event = some next)
    : ¬EntryOver entry := by
  rintro ⟨outcome, exited⟩
  cases Gather.move_of_step stepped with
  | completes _ => exact other _ _ rfl
  | interruptsFirst waits | absorbs waits | forwards waits | firstReturns waits _
  | finishes waits _ => simp [waits] at exited

/-- Only the entries are under way while their `gather()` has not ended. -/
theorem Phase.Sound.entering {entry : Gather.State Nat ε α} {openManagers : List Nat}
    {phase : Phase ε} (sound : phase.Sound entry openManagers) (running : ¬EntryOver entry)
    : phase = .entering := by
  cases phase with
  | entering => rfl
  | body => exact absurd sound running
  | shielding exits wait =>
      cases exits with
      | none => exact absurd sound.1 running
      | some exits => exact absurd sound.1 running
  | awaiting exits => exact absurd sound.1 running

-----------------------------------------------------------------------------------------
-- The operations
-----------------------------------------------------------------------------------------

/-- A change of the phase alone keeps the record of the open managers. -/
theorem Sound.move {count : Nat} {past : List (Event ε α)} {state : State ε α}
    {event : Event ε α} {phase : Phase ε} (sound : Sound count past state)
    (other : ∀ manager ended, event ≠ .entryEnds manager true ended)
    (next : phase.Sound state.entry state.openManagers)
    : Sound count (past ++ [event]) { state with phase } := by
  refine ⟨sound.entry, fun manager => ?_, sound.nodup, sound.done, next⟩
  rw [sound.opened, entered_append_iff, or_iff_left]
  rintro ⟨ended, same⟩
  exact other manager ended same

theorem cleanUp_phase_sound {state : State ε α} (finished : EntryOver state.entry)
    : state.cleanUp.phase.Sound state.entry state.openManagers := by
  simp only [State.cleanUp]
  split
  · exact ⟨finished, Exits.start_sound _⟩
  · rename_i budget
    obtain ⟨-, one⟩ := ShieldContext.shieldCount_of_pos (Int.not_le.mp budget)
    rw [one]
    exact ⟨finished, ShieldWait.initial_sound Nat.one_pos _, rfl⟩

/-- An entry ends before their `gather()` does, and is added to the record at most once. -/
theorem enterContext_sound {count : Nat} {past : List (Event ε α)} {state next : State ε α}
    {manager : Nat} {entered : Bool} {ended : FutureState ε α} (sound : Sound count past state)
    (stepped : state.enterContext manager entered ended = some next)
    : Sound count (past ++ [.entryEnds manager entered ended]) next := by
  simp only [State.enterContext, Option.ite_none_right_eq_some] at stepped
  obtain ⟨⟨inTasks, -⟩, moved⟩ := stepped
  obtain ⟨entry, ends, rfl⟩ := Option.map_eq_some_iff.mp moved
  obtain ⟨events, reached⟩ := sound.entry
  cases Gather.move_of_step ends with
  | @completes _ _ table completed =>
      obtain ⟨pending, done, -⟩ := complete_eq_some_iff.mp completed
      have running : ¬EntryOver state.entry := by
        intro finished
        simpa [pending] using sound.entries_done finished manager inTasks
      have fresh : manager ∉ state.openManagers := by
        intro member
        simpa [pending] using sound.done manager member
      have kept (other : Nat) (member : other ∈ state.openManagers)
          : (table other).done = true :=
        complete_of_done completed (sound.done other member) ▸ sound.done other member
      have here : (table manager).done = true := by
        obtain ⟨-, -, rfl⟩ := complete_eq_some_iff.mp completed
        simpa using done
      refine ⟨⟨_, Transition.run_concat reached ends⟩, fun other => ?_, ?_, ?_, ?_⟩
      · rw [entered_append_iff]
        cases entered with
        | true => simp [sound.opened, eq_comm]
        | false => simp [sound.opened]
      · cases entered with
        | true => exact sound.nodup.append (List.nodup_singleton _) (by simpa using fresh)
        | false => exact sound.nodup
      · cases entered with
        | true =>
            intro other member
            rcases List.mem_append.mp member with earlier | last
            · exact kept other earlier
            · exact List.mem_singleton.mp last ▸ here
        | false => exact kept
      · rw [sound.phase.entering running]
        trivial

/-- A step of the `gather()` of the entries that is not the end of one. -/
theorem Sound.entryStep {count : Nat} {past : List (Event ε α)} {state : State ε α}
    {event : Event ε α} {own : Gather.Event Nat ε α} {entry : Gather.State Nat ε α}
    (sound : Sound count past state)
    (other : ∀ manager ended, event ≠ .entryEnds manager true ended)
    (unended : ∀ manager ended, own ≠ .complete manager ended)
    (stepped : Gather.step state.entry own = some entry)
    : state.phase = .entering ∧ Sound count (past ++ [event]) { state with entry } := by
  have entering := sound.phase.entering (not_over_of_waits unended stepped)
  obtain ⟨events, reached⟩ := sound.entry
  refine ⟨entering, ⟨_, Transition.run_concat reached stepped⟩, ?_, sound.nodup, ?_, ?_⟩
  · exact (sound.move other sound.phase).opened
  · rw [Gather.table_of_step unended stepped]
    exact sound.done
  · rw [entering]
    trivial

/-- The `gather()` of the entries goes on, or ends and lets the body begin or be skipped. -/
theorem afterEntry_sound {count : Nat} {past : List (Event ε α)} {state : State ε α}
    (sound : Sound count past state) (entering : state.phase = .entering)
    : Sound count past state.afterEntry := by
  obtain ⟨entry, opened, nodup, done, -⟩ := sound
  unfold State.afterEntry
  split
  · exact ⟨entry, opened, nodup, done, entering ▸ trivial⟩
  · exact ⟨entry, opened, nodup, done, entering ▸ trivial⟩
  · rename_i values exited
    exact ⟨entry, opened, nodup, done, ⟨_, exited⟩⟩
  · rename_i error exited
    exact ⟨entry, opened, nodup, done, cleanUp_phase_sound ⟨_, exited⟩⟩

/-- The task of `exit_contexts()` ends only with its `gather()`. -/
theorem endTask_sound {exits : Exits Nat ε} {wait next : ShieldWait.State (Raised ε) Unit}
    (shielded : ShieldWait.Sound 1 wait)
    (finished : wait.inner.done = true → ∃ outcome, exits.gather.pc = .exited outcome)
    (ended : endTask exits wait = some next)
    : ShieldWait.Sound 1 next
      ∧ (next.inner.done = true → ∃ outcome, exits.gather.pc = .exited outcome) := by
  unfold endTask at ended
  split at ended
  · rename_i outcome exited
    exact ⟨ShieldWait.step_sound Nat.one_pos shielded ended, fun _ => ⟨outcome, exited⟩⟩
  · exact Option.some.inj ended ▸ ⟨shielded, finished⟩
  · exact Option.some.inj ended ▸ ⟨shielded, finished⟩

/-- A step of `shield_wait()` that is not the end of its task keeps the phase sound. -/
theorem waitStep_phase_sound {entry : Gather.State Nat ε α} {openManagers : List Nat}
    {exits : Option (Exits Nat ε)} {wait next : ShieldWait.State (Raised ε) Unit}
    {event : ShieldWait.Event (Raised ε) Unit}
    (sound : (Phase.shielding exits wait).Sound entry openManagers)
    (own : ∀ ended, event ≠ .innerEnds ended) (stepped : ShieldWait.step wait event = some next)
    : (Phase.shielding exits next).Sound entry openManagers := by
  have same := ShieldWait.inner_of_step own stepped
  cases exits with
  | none =>
      obtain ⟨finished, shielded, pending⟩ := sound
      exact ⟨finished, ShieldWait.step_sound Nat.one_pos shielded stepped, same.trans pending⟩
  | some exits =>
      obtain ⟨finished, exiting, shielded, ends⟩ := sound
      exact ⟨finished, exiting, ShieldWait.step_sound Nat.one_pos shielded stepped, same ▸ ends⟩

theorem waitStep_sound {count : Nat} {past : List (Event ε α)} {state next : State ε α}
    {event : Event ε α} {exits : Option (Exits Nat ε)}
    {wait : ShieldWait.State (Raised ε) Unit} {own : ShieldWait.Event (Raised ε) Unit}
    (sound : Sound count past state)
    (other : ∀ manager ended, event ≠ .entryEnds manager true ended)
    (here : state.phase = .shielding exits wait) (unended : ∀ ended, own ≠ .innerEnds ended)
    (stepped : state.waitStep exits wait own = some next)
    : Sound count (past ++ [event]) next := by
  obtain ⟨after, waited, rfl⟩ := Option.map_eq_some_iff.mp stepped
  exact sound.move other (waitStep_phase_sound (here ▸ sound.phase) unended waited)

-----------------------------------------------------------------------------------------
-- Steps and runs
-----------------------------------------------------------------------------------------

theorem initial_sound (count cancelling : Nat)
    : Sound count [] (.initial count cancelling : State ε α) := by
  refine afterEntry_sound ⟨⟨[], rfl⟩, ?_, List.nodup_nil, by simp, trivial⟩ rfl
  simp [Entered]

/-- Every step keeps the record of the open managers, one case for each event. -/
theorem step_sound {count : Nat} {past : List (Event ε α)} {state next : State ε α}
    {event : Event ε α} (sound : Sound count past state) (stepped : step state event = some next)
    : Sound count (past ++ [event]) next := by
  cases event with
  | entryEnds manager entered ended => exact enterContext_sound sound stepped
  | entryCancelled message =>
      obtain ⟨entry, cancelled, rfl⟩ := Option.map_eq_some_iff.mp stepped
      exact (sound.entryStep (by simp) (by simp) cancelled).2
  | entryReturns =>
      obtain ⟨entry, returned, rfl⟩ := Option.map_eq_some_iff.mp stepped
      obtain ⟨entering, later⟩
          : state.phase = .entering ∧ Sound count (past ++ [.entryReturns]) { state with entry } :=
        sound.entryStep (by simp) (by simp) returned
      exact afterEntry_sound later entering
  | bodyEnds =>
      cases here : state.phase with
      | body =>
          have finished := sound.phase
          simp only [step, here, Option.some.injEq] at stepped finished
          exact stepped ▸ sound.move (by simp) (cleanUp_phase_sound finished)
      | entering | shielding _ _ | awaiting _ => simp [step, here] at stepped
  | exitTaskStarts =>
      match here : state.phase with
      | .shielding none wait =>
          have phase := sound.phase
          simp only [step, here] at stepped phase
          obtain ⟨finished, shielded, pending⟩ := phase
          obtain ⟨after, ended, rfl⟩ := Option.map_eq_some_iff.mp stepped
          obtain ⟨later, ends⟩ := endTask_sound shielded (by simp [pending]) ended
          exact sound.move (by simp) ⟨finished, Exits.start_sound _, later, ends⟩
      | .shielding (some _) _ | .entering | .body | .awaiting _ => simp [step, here] at stepped
  | exit event =>
      match here : state.phase with
      | .shielding (some exits) wait =>
          have phase := sound.phase
          simp only [step, here] at stepped phase
          obtain ⟨finished, exiting, shielded, ends⟩ := phase
          obtain ⟨next, moved, ending⟩ := Option.bind_eq_some_iff.mp stepped
          obtain ⟨after, ended, rfl⟩ := Option.map_eq_some_iff.mp ending
          obtain ⟨later, ends⟩ := endTask_sound shielded
            (fun done => (ends done).imp (fun _ exited => Exits.step_exited exited moved)) ended
          exact sound.move (by simp) ⟨finished, exiting.step moved, later, ends⟩
      | .awaiting exits =>
          have phase := sound.phase
          simp only [step, here] at stepped phase
          obtain ⟨after, moved, rfl⟩ := Option.map_eq_some_iff.mp stepped
          exact sound.move (by simp) ⟨phase.1, phase.2.step moved⟩
      | .shielding none _ | .entering | .body => simp [step, here] at stepped
  | innerCallback =>
      cases here : state.phase with
      | shielding exits wait =>
          simp only [step, here] at stepped
          exact waitStep_sound sound (by simp) here (by simp) stepped
      | entering | body | awaiting _ => simp [step, here] at stepped
  | cancel =>
      cases here : state.phase with
      | shielding exits wait =>
          simp only [step, here] at stepped
          exact waitStep_sound sound (by simp) here (by simp) stepped
      | entering | body | awaiting _ => simp [step, here] at stepped
  | resume =>
      match here : state.phase with
      | .shielding (some exits) wait =>
          simp only [step, here] at stepped
          exact waitStep_sound sound (by simp) here (by simp) stepped
      | .shielding none _ | .entering | .body | .awaiting _ => simp [step, here] at stepped

theorem run_sound {count cancelling : Nat} {events : List (Event ε α)} {final : State ε α}
    (reached : Transition.run step (.initial count cancelling) events = some final)
    : Sound count events final :=
  Transition.run_preserves_history (fun _ _ _ _ => step_sound) (initial_sound count cancelling)
    reached

/-- The exits are those of the open managers, from the beginning of `exit_contexts()` on. -/
theorem Sound.exits {count : Nat} {past : List (Event ε α)} {state : State ε α}
    (sound : Sound count past state) {exits : Exits Nat ε} (begun : state.exits? = some exits)
    : exits.Sound state.openManagers := by
  have phase := sound.phase
  match here : state.phase with
  | .shielding (some _) wait =>
      simp only [State.exits?, here, Option.some.injEq] at begun phase
      exact begun ▸ phase.2.1
  | .awaiting _ =>
      simp only [State.exits?, here, Option.some.injEq] at begun phase
      exact begun ▸ phase.2
  | .shielding none _ | .entering | .body => simp [State.exits?, here] at begun

/-- The context is left only once `exit_contexts()` has ended. -/
theorem Sound.exited_of_left {count : Nat} {past : List (Event ε α)} {state : State ε α}
    (sound : Sound count past state) (left : state.Left)
    : ∃ exits outcome, state.exits? = some exits ∧ exits.gather.pc = .exited outcome := by
  have phase := sound.phase
  match here : state.phase with
  | .shielding none wait =>
      simp only [State.Left, here] at left phase
      obtain ⟨finished, shielded, pending⟩ := phase
      obtain ⟨outcome, exited⟩ := left
      have place := shielded.place
      rw [exited] at place
      simp [ShieldWait.Place.Sound, pending] at place
  | .shielding (some exits) wait =>
      simp only [State.Left, here] at left phase
      obtain ⟨-, -, shielded, ends⟩ := phase
      obtain ⟨outcome, exited⟩ := left
      have place := shielded.place
      rw [exited] at place
      obtain ⟨own, ended⟩ := ends place.1
      exact ⟨exits, own, by simp [State.exits?, here], ended⟩
  | .awaiting exits =>
      simp only [State.Left, here] at left
      obtain ⟨outcome, exited⟩ := left
      exact ⟨exits, outcome, by simp [State.exits?, here], exited⟩
  | .entering | .body => simp [State.Left, here] at left

/-- However its entries end, its body ends and its caller is cancelled, `concurrent_contexts()`
starts an exit only of a manager that it has entered, and once; and where it is left, it has
started the exits of all of these, and they are done.
-/
theorem exits_what_it_entered {count cancelling : Nat} {events : List (Event ε α)}
    {final : State ε α}
    (reached : Transition.run step (.initial count cancelling) events = some final)
    : (∀ exits,
          final.exits? = some exits
          → exits.started.Nodup ∧ ∀ manager ∈ exits.started, Entered events manager)
      ∧ (final.Left
        → ∃ exits,
            final.exits? = some exits
            ∧ ∀ manager,
                (Entered events manager
                  → exits.started.count manager = 1
                    ∧ (exits.gather.table manager).done = true)
                ∧ (¬Entered events manager → exits.started.count manager = 0)) := by
  have sound := run_sound reached
  have limited (exits : Exits Nat ε) (begun : final.exits? = some exits)
      : exits.started.Nodup ∧ ∀ manager ∈ exits.started, Entered events manager := by
    have exiting := sound.exits begun
    exact ⟨exiting.nodup, fun manager member =>
      (sound.opened manager).mp (exiting.started manager member)⟩
  refine ⟨limited, fun left => ?_⟩
  obtain ⟨exits, outcome, begun, exited⟩ := sound.exited_of_left left
  obtain ⟨nodup, onlyEntered⟩ := limited exits begun
  refine ⟨exits, begun, fun manager => ⟨fun entered => ?_, fun unentered => ?_⟩⟩
  · obtain ⟨done, started⟩ := (sound.exits begun).exited exited manager
      ((sound.opened manager).mpr entered)
    exact ⟨List.count_eq_one_of_mem nodup started, done⟩
  · exact List.count_eq_zero.mpr (fun member => unentered (onlyEntered manager member))

/-- One manager fails to enter, and a cancellation comes while the other one is about to exit. -/
theorem exits_what_it_entered_oneFails
    : ∃ (events : List (Event String Nat)) (final : State String Nat) (exits : Exits Nat String),
        Transition.run step (.initial 2 0) events = some final
        ∧ final.Left
        ∧ Entered events 0
        ∧ final.exits? = some exits
        ∧ exits.started.count 0 = 1
        ∧ exits.started.count 1 = 0 := by
  let events : List (Event String Nat) :=
    [.entryEnds 0 true (.success 7), .entryEnds 1 false (.exception "boom"), .entryReturns,
      .entryReturns, .cancel, .exitTaskStarts, .exit (.starts 0), .resume,
      .exit (.ends 0 (.success ())), .exit .waitReturns, .exit .waitReturns, .resume]
  obtain ⟨final, reached, left⟩
      : ∃ final, Transition.run step (.initial 2 0) events = some final ∧ final.Left :=
    ⟨_, rfl, Exists.intro (.raised .cancelledError) rfl⟩
  have entered : Entered events 0 := ⟨.success 7, by simp [events]⟩
  have unentered : ¬Entered events 1 := by
    rintro ⟨ended, member⟩
    simp [events] at member
  obtain ⟨exits, begun, each⟩ := (exits_what_it_entered reached).2 left
  exact ⟨events, final, exits, reached, left, entered, begun, ((each 0).1 entered).1,
    (each 1).2 unentered⟩

end Aiodrive.ConcurrentContexts
