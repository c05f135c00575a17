import Mathlib.Data.List.Basic
import Mathlib.Tactic.TypeStar

/-! Runs of a machine given by a guarded step: `step state event` is `some next` where the
event is enabled in `state`, and `none` elsewhere. The rules here carry an invariant or a
measure from one step to a whole run.
-/

namespace Transition

variable {σ ε : Type*}

/-- The state after a whole schedule; `none` if some event of it is not enabled in turn. -/
def run (step : σ → ε → Option σ) : σ → List ε → Option σ
  | state, [] => some state
  | state, event :: rest => (step state event).bind (fun next => run step next rest)

@[simp] theorem run_nil (step : σ → ε → Option σ) (state : σ)
    : run step state [] = some state :=
  rfl

/-- A nonempty run is its first step followed by the remaining run. -/
theorem run_cons_iff {step : σ → ε → Option σ} {state final : σ} {event : ε}
    {rest : List ε}
    : run step state (event :: rest) = some final
      ↔ ∃ next, step state event = some next ∧ run step next rest = some final := by
  simp only [run, Option.bind_eq_some_iff]

/-- A schedule in two parts is run in two parts, by induction on the first. -/
theorem run_append_iff {step : σ → ε → Option σ} {state final : σ} {earlier later : List ε}
    : run step state (earlier ++ later) = some final
      ↔ ∃ middle, run step state earlier = some middle ∧ run step middle later = some final := by
  induction earlier generalizing state with
  | nil => simp
  | cons event rest ih =>
      simp only [List.cons_append, run_cons_iff, ih]
      constructor
      · intro split
        obtain ⟨next, stepped, middle, first, second⟩ := split
        exact ⟨middle, ⟨next, stepped, first⟩, second⟩
      · intro split
        obtain ⟨middle, ⟨next, stepped, first⟩, second⟩ := split
        exact ⟨next, stepped, middle, first, second⟩

/-- A run goes on by one step. -/
theorem run_concat {step : σ → ε → Option σ} {state middle final : σ} {events : List ε}
    {event : ε} (reached : run step state events = some middle)
    (stepped : step middle event = some final)
    : run step state (events ++ [event]) = some final :=
  run_append_iff.mpr ⟨middle, reached, run_cons_iff.mpr ⟨final, stepped, rfl⟩⟩

/-- A machine that is given its events under other names, by induction on the schedule. -/
theorem run_map {δ : Type*} {step : σ → ε → Option σ} (name : δ → ε) (state : σ) (events : List δ)
    : run (fun state event => step state (name event)) state events
      = run step state (events.map name) := by
  induction events generalizing state with
  | nil => rfl
  | cons event rest ih => simp only [List.map_cons, run, ih]

/-- What some of the events do to a machine is what they do on their own, where a relation to the
machine that takes only these is kept by every step; by induction on the schedule.
-/
theorem run_filter {step : σ → ε → Option σ} (Agree : σ → σ → Prop) {keep : ε → Bool}
    {events : List ε}
    (kept
      : ∀ state alone, ∀ event ∈ events, ∀ next,
          Agree state alone
          → keep event = true
          → step state event = some next
          → ∃ after, step alone event = some after ∧ Agree next after)
    (skipped
      : ∀ state alone, ∀ event ∈ events, ∀ next,
          Agree state alone
          → keep event = false
          → step state event = some next
          → Agree next alone)
    {state alone final : σ} (start : Agree state alone)
    (reached : run step state events = some final)
    : ∃ last, run step alone (events.filter keep) = some last ∧ Agree final last := by
  induction events generalizing state alone with
  | nil => exact ⟨alone, rfl, Option.some.inj reached ▸ start⟩
  | cons event rest ih =>
      obtain ⟨next, stepped, tail⟩ := run_cons_iff.mp reached
      have onwards {after : σ} (agree : Agree next after)
          : ∃ last, run step after (rest.filter keep) = some last ∧ Agree final last :=
        ih (fun state alone event inRest => kept state alone event (List.mem_cons_of_mem _ inRest))
          (fun state alone event inRest =>
            skipped state alone event (List.mem_cons_of_mem _ inRest))
          agree tail
      cases concerns : keep event with
      | true =>
          obtain ⟨after, same, agree⟩ :=
            kept state alone event List.mem_cons_self next start concerns stepped
          obtain ⟨last, run, agreeLast⟩ := onwards agree
          rw [List.filter_cons_of_pos concerns]
          exact ⟨last, run_cons_iff.mpr ⟨after, same, run⟩, agreeLast⟩
      | false =>
          rw [List.filter_cons_of_neg (by simp [concerns])]
          exact onwards (skipped state alone event List.mem_cons_self next start concerns stepped)

-----------------------------------------------------------------------------------------
-- Invariants, over all runs and over the runs whose steps meet a condition
-----------------------------------------------------------------------------------------

/-- Every event of the schedule meets `condition` in the state it is taken in. -/
def Meets (step : σ → ε → Option σ) (condition : σ → ε → Prop) : σ → List ε → Prop
  | _, [] => True
  | state, event :: rest =>
      condition state event ∧ ∀ next, step state event = some next → Meets step condition next rest

/-- A schedule that goes on from a step meets the condition there and afterwards. -/
theorem meets_cons_iff {step : σ → ε → Option σ} {condition : σ → ε → Prop} {state next : σ}
    {event : ε} {rest : List ε} (stepped : step state event = some next)
    : Meets step condition state (event :: rest)
      ↔ condition state event ∧ Meets step condition next rest := by
  simp only [Meets, stepped, Option.some.injEq, forall_eq']

/-- Meeting a decidable condition is decided along the run. -/
instance decidableMeets {step : σ → ε → Option σ} {condition : σ → ε → Prop}
    [∀ state event, Decidable (condition state event)]
    : ∀ state events, Decidable (Meets step condition state events)
  | _, [] => isTrue trivial
  | state, event :: rest =>
      match stepped : step state event with
      | none =>
          decidable_of_iff (condition state event)
            ⟨fun met => ⟨met, fun _ same => by simp [stepped] at same⟩, And.left⟩
      | some next =>
          have : Decidable (Meets step condition next rest) := decidableMeets next rest
          decidable_of_iff (condition state event ∧ Meets step condition next rest)
            ⟨fun met => ⟨met.1, fun _ same => Option.some.inj (stepped.symm.trans same) ▸ met.2⟩,
              fun met => ⟨met.1, met.2 next stepped⟩⟩

/-- A schedule that meets the condition meets it at each of its events, by induction on those
before.
-/
theorem Meets.condition {step : σ → ε → Option σ} {condition : σ → ε → Prop}
    {state middle : σ} {event : ε} {earlier later : List ε}
    (met : Meets step condition state (earlier ++ event :: later))
    (reached : run step state earlier = some middle)
    : condition middle event := by
  induction earlier generalizing state with
  | nil => exact Option.some.inj reached ▸ met.1
  | cons first rest ih =>
      obtain ⟨next, stepped, tail⟩ := run_cons_iff.mp reached
      exact ih (met.2 next stepped) tail

/-- A condition that an invariant implies is met by every schedule. -/
theorem meets_of_inv {step : σ → ε → Option σ} {condition : σ → ε → Prop} {inv : σ → Prop}
    {events : List ε}
    (preserved
      : ∀ state, ∀ event ∈ events, ∀ next,
          inv state → step state event = some next → inv next)
    (holds : ∀ state, ∀ event ∈ events, inv state → condition state event)
    {state : σ} (start : inv state)
    : Meets step condition state events := by
  induction events generalizing state with
  | nil => trivial
  | cons event rest ih =>
      refine ⟨holds state event List.mem_cons_self start, fun next stepped => ?_⟩
      exact ih (fun state event inRest => preserved state event (List.mem_cons_of_mem _ inRest))
        (fun state event inRest => holds state event (List.mem_cons_of_mem _ inRest))
        (preserved state event List.mem_cons_self next start stepped)

/-- A predicate that every step of the schedule preserves holds after the run. -/
theorem run_preserves_of_mem {step : σ → ε → Option σ} {P : σ → Prop} {events : List ε}
    (preserved
      : ∀ state, ∀ event ∈ events, ∀ next,
          P state → step state event = some next → P next)
    {state final : σ} (start : P state) (reached : run step state events = some final)
    : P final := by
  induction events generalizing state with
  | nil => exact Option.some.inj reached ▸ start
  | cons event rest ih =>
      obtain ⟨next, stepped, tail⟩ := run_cons_iff.mp reached
      have later := preserved state event List.mem_cons_self next start stepped
      exact ih (fun state event inRest => preserved state event (List.mem_cons_of_mem _ inRest))
        later tail

/-- A predicate that every step preserves holds after every run. -/
theorem run_preserves {step : σ → ε → Option σ} {P : σ → Prop}
    (preserved : ∀ state event next, P state → step state event = some next → P next)
    {state final : σ} {events : List ε} (start : P state)
    (reached : run step state events = some final)
    : P final :=
  run_preserves_of_mem (fun state event _ => preserved state event) start reached

/-- A predicate that the steps meeting a condition preserve holds after every run whose steps
all meet it, by induction on the schedule.
-/
theorem run_preserves_of_meets {step : σ → ε → Option σ} {condition : σ → ε → Prop}
    {P : σ → Prop} {events : List ε}
    (preserved
      : ∀ state event next,
          P state → condition state event → step state event = some next → P next)
    {state final : σ} (start : P state) (met : Meets step condition state events)
    (reached : run step state events = some final)
    : P final := by
  induction events generalizing state with
  | nil => exact Option.some.inj reached ▸ start
  | cons event rest ih =>
      obtain ⟨next, stepped, tail⟩ := run_cons_iff.mp reached
      exact ih (preserved state event next start met.1 stepped) (met.2 next stepped) tail

/-- A step that meets the condition makes nothing bad if it keeps what is bad. -/
theorem entered_of_met {before after condition : Prop} (kept : after ↔ before)
    (met : condition)
    : after ↔ before ∨ ¬condition := by
  rw [kept, or_iff_left (not_not_intro met)]

/-- Where a state goes bad at exactly the steps that do not meet a condition, and stays so, a
run ends well exactly when all its steps meet the condition, by induction on the schedule.
-/
theorem bad_iff_not_meets {step : σ → ε → Option σ} (condition : σ → ε → Prop)
    {inv bad : σ → Prop} {events : List ε}
    (preserved
      : ∀ state, ∀ event ∈ events, ∀ next,
          inv state → step state event = some next → inv next)
    (entered
      : ∀ state, ∀ event ∈ events, ∀ next,
          inv state
          → step state event = some next
          → (bad next ↔ bad state ∨ ¬condition state event))
    {state final : σ} (start : inv state) (reached : run step state events = some final)
    : bad final ↔ bad state ∨ ¬Meets step condition state events := by
  induction events generalizing state with
  | nil =>
      obtain rfl := Option.some.inj reached
      simp [Meets]
  | cons event rest ih =>
      obtain ⟨next, stepped, tail⟩ := run_cons_iff.mp reached
      have later := preserved state event List.mem_cons_self next start stepped
      rw [ih
          (fun state event inRest => preserved state event (List.mem_cons_of_mem _ inRest))
          (fun state event inRest => entered state event (List.mem_cons_of_mem _ inRest))
          later tail,
        entered state event List.mem_cons_self next start stepped]
      rw [meets_cons_iff stepped, not_and_or, or_assoc]

/-- A run from a state that is not bad ends badly exactly when some step of it does not meet the
condition.
-/
theorem bad_iff_not_meets_of_good {step : σ → ε → Option σ} (condition : σ → ε → Prop)
    {inv bad : σ → Prop} {events : List ε}
    (preserved
      : ∀ state, ∀ event ∈ events, ∀ next,
          inv state → step state event = some next → inv next)
    (entered
      : ∀ state, ∀ event ∈ events, ∀ next,
          inv state
          → step state event = some next
          → (bad next ↔ bad state ∨ ¬condition state event))
    {state final : σ} (start : inv state) (good : ¬bad state)
    (reached : run step state events = some final)
    : bad final ↔ ¬Meets step condition state events := by
  rw [bad_iff_not_meets condition preserved entered start reached, or_iff_right good]

/-- Where a violated condition shows in the next state, the runs whose states are all good are
exactly those whose steps all meet the condition, by induction on the schedule.
-/
theorem good_iff_meets {step : σ → ε → Option σ} {condition : σ → ε → Prop}
    {inv good : σ → Prop} (sound : ∀ state, inv state → good state)
    (preserved
      : ∀ state event next,
          inv state → condition state event → step state event = some next → inv next)
    (violated
      : ∀ state event next,
          inv state → ¬condition state event → step state event = some next → ¬good next)
    {state final : σ} {events : List ε} (start : inv state)
    (reached : run step state events = some final)
    : (∀ visited middle,
        visited.IsPrefix events → run step state visited = some middle → good middle)
      ↔ Meets step condition state events := by
  induction events generalizing state with
  | nil =>
      simp only [List.prefix_nil, Meets, iff_true]
      rintro visited middle rfl here
      exact Option.some.inj here ▸ sound state start
  | cons event rest ih =>
      obtain ⟨next, stepped, tail⟩ := run_cons_iff.mp reached
      constructor
      · intro allGood
        have met : condition state event := by
          by_contra unmet
          refine violated state event next start unmet stepped (allGood [event] next ?_ ?_)
          · exact ⟨rest, rfl⟩
          · simp [run, stepped]
        refine ⟨met, fun other same => ?_⟩
        obtain rfl := Option.some.inj (stepped.symm.trans same)
        apply (ih (preserved state event next start met stepped) tail).mp
        intro visited middle earlier here
        exact allGood (event :: visited) middle (List.cons_prefix_cons.mpr ⟨rfl, earlier⟩)
          (run_cons_iff.mpr ⟨next, stepped, here⟩)
      · intro met visited middle earlier here
        cases visited with
        | nil => exact Option.some.inj here ▸ sound state start
        | cons head visited =>
            obtain ⟨rfl, inRest⟩ := List.cons_prefix_cons.mp earlier
            obtain ⟨other, same, here⟩ := run_cons_iff.mp here
            obtain rfl := Option.some.inj (stepped.symm.trans same)
            exact (ih (preserved state head next start met.1 stepped) tail).mpr
              (met.2 next stepped) visited middle inRest here

/-- A relation between the events so far and the state that every step preserves holds
between a whole schedule and its final state.
-/
theorem run_preserves_history {step : σ → ε → Option σ} {P : List ε → σ → Prop}
    (preserved
      : ∀ past state event next,
          P past state → step state event = some next → P (past ++ [event]) next)
    {state final : σ} {events : List ε} (start : P [] state)
    (reached : run step state events = some final)
    : P events final := by
  suffices extended : ∀ past state, P past state → run step state events = some final
      → P (past ++ events) final from extended [] state start reached
  clear start reached
  induction events with
  | nil =>
      intro past state holds reached
      obtain rfl := Option.some.inj reached
      simpa using holds
  | cons event rest ih =>
      intro past state holds reached
      obtain ⟨next, stepped, tail⟩ := run_cons_iff.mp reached
      simpa using ih (past ++ [event]) next (preserved past state event next holds stepped) tail

/-- A count that rises by at most one in a step takes every value between the first and the last one
of a run; by induction on the schedule.
-/
theorem run_passes {step : σ → ε → Option σ} (count : σ → Nat)
    (slow : ∀ state event next, step state event = some next → count next ≤ count state + 1)
    {state final : σ} {events : List ε} {value : Nat} (reached : run step state events = some final)
    (above : count state ≤ value) (below : value ≤ count final)
    : ∃ visited middle,
        visited.IsPrefix events ∧ run step state visited = some middle ∧ count middle = value := by
  induction events generalizing state with
  | nil =>
      obtain rfl := Option.some.inj reached
      exact ⟨[], state, List.prefix_rfl, rfl, Nat.le_antisymm above below⟩
  | cons event rest ih =>
      obtain ⟨next, stepped, tail⟩ := run_cons_iff.mp reached
      rcases Nat.eq_or_lt_of_le above with here | later
      · exact ⟨[], state, List.nil_prefix, rfl, here⟩
      · have close := slow state event next stepped
        obtain ⟨visited, middle, earlier, passed, here⟩ := ih tail (by omega)
        refine ⟨event :: visited, middle, List.cons_prefix_cons.mpr ⟨rfl, earlier⟩, ?_, here⟩
        exact run_cons_iff.mpr ⟨next, stepped, passed⟩

/-- Some event of the schedule is taken in a state where `condition` holds of it. -/
def Took (step : σ → ε → Option σ) (condition : σ → ε → Prop) (state : σ) (events : List ε)
    : Prop :=
  ∃ earlier event later middle,
    events = earlier ++ event :: later
    ∧ run step state earlier = some middle
    ∧ condition middle event

theorem not_took_nil {step : σ → ε → Option σ} {condition : σ → ε → Prop} {state : σ}
    : ¬Took step condition state [] := by
  rintro ⟨earlier, event, later, middle, split, -⟩
  simp at split

/-- A schedule that goes on by one event took what it took before, or takes it now. -/
theorem took_concat_iff {step : σ → ε → Option σ} {condition : σ → ε → Prop} {state middle : σ}
    {past : List ε} {event : ε} (reached : run step state past = some middle)
    : Took step condition state (past ++ [event])
      ↔ Took step condition state past ∨ condition middle event := by
  constructor
  · rintro ⟨earlier, taken, later, before, split, here, holds⟩
    rcases List.eq_nil_or_concat later with rfl | ⟨rest, last, rfl⟩
    · obtain ⟨rfl, same⟩ := List.append_inj' split rfl
      obtain rfl := Option.some.inj (here.symm.trans reached)
      exact .inr ((List.cons.inj same).1 ▸ holds)
    · rw [List.concat_eq_append, ← List.cons_append, ← List.append_assoc] at split
      obtain ⟨rfl, -⟩ := List.append_inj' split rfl
      exact .inl ⟨earlier, taken, rest, before, rfl, here, holds⟩
  · rintro (⟨earlier, taken, later, before, rfl, here, holds⟩ | holds)
    · exact ⟨earlier, taken, later ++ [event], before, by simp, here, holds⟩
    · exact ⟨past, event, [], middle, rfl, reached, holds⟩

-----------------------------------------------------------------------------------------
-- Bounds on the length of a run
-----------------------------------------------------------------------------------------

/-- A measure that every step decreases where an invariant holds bounds the length of the run.
-/
theorem run_length_le {step : σ → ε → Option σ} {P : σ → Prop} (measure : σ → Nat)
    {events : List ε}
    (preserved
      : ∀ state, ∀ event ∈ events, ∀ next,
          P state → step state event = some next → P next)
    (decreases
      : ∀ state, ∀ event ∈ events, ∀ next,
          P state → step state event = some next → measure next < measure state)
    {state final : σ} (start : P state) (reached : run step state events = some final)
    : events.length + measure final ≤ measure state := by
  induction events generalizing state with
  | nil =>
      obtain rfl := Option.some.inj reached
      simp
  | cons event rest ih =>
      obtain ⟨next, stepped, tail⟩ := run_cons_iff.mp reached
      have first := decreases state event List.mem_cons_self next start stepped
      have later := ih
        (fun state event inRest => preserved state event (List.mem_cons_of_mem _ inRest))
        (fun state event inRest => decreases state event (List.mem_cons_of_mem _ inRest))
        (preserved state event List.mem_cons_self next start stepped) tail
      simp only [List.length_cons]
      omega

-----------------------------------------------------------------------------------------
-- Termination
-----------------------------------------------------------------------------------------

/-- However the allowed events go on from the state, they come to an end, and no earlier than
where `stopped` holds.
-/
structure Terminates (step : σ → ε → Option σ) (allowed : ε → Prop) (stopped : σ → Prop)
    (state : σ)
    : Prop where
  bounded
    : ∃ bound, ∀ events final,
        (∀ event ∈ events, allowed event)
        → run step state events = some final
        → events.length ≤ bound
  goesOn
    : ∀ events final,
        (∀ event ∈ events, allowed event)
        → run step state events = some final
        → stopped final ∨ ∃ event, allowed event ∧ (step final event).isSome = true

/-- A measure that the allowed steps decrease makes a machine terminate that goes on until it is
stopped.
-/
theorem terminates_of_measure {step : σ → ε → Option σ} {allowed : ε → Prop}
    {stopped : σ → Prop} {P : σ → Prop} (measure : σ → Nat)
    (preserved
      : ∀ state event next,
          P state → allowed event → step state event = some next → P next)
    (decreases
      : ∀ state event next,
          P state
          → allowed event
          → step state event = some next
          → measure next < measure state)
    (goesOn
      : ∀ state,
          P state → stopped state ∨ ∃ event, allowed event ∧ (step state event).isSome = true)
    {state : σ} (start : P state)
    : Terminates step allowed stopped state := by
  refine ⟨⟨measure state, ?_⟩, ?_⟩
  · intro events final all reached
    have bound := run_length_le measure
      (fun state event member next holds => preserved state event next holds (all event member))
      (fun state event member next holds => decreases state event next holds (all event member))
      start reached
    omega
  · intro events final all reached
    apply goesOn
    exact run_preserves_of_mem
      (fun state event member next holds => preserved state event next holds (all event member))
      start reached

/-- A machine that can always go on has runs of every length, by induction on the length. -/
theorem exists_run_of_length {step : σ → ε → Option σ} {allowed : ε → Prop} {P : σ → Prop}
    (goesOn
      : ∀ state, P state → ∃ event next, allowed event ∧ step state event = some next ∧ P next)
    {state : σ} (start : P state) (length : Nat)
    : ∃ events final,
        events.length = length
        ∧ (∀ event ∈ events, allowed event)
        ∧ run step state events = some final := by
  induction length generalizing state with
  | zero => exact ⟨[], state, rfl, by simp, rfl⟩
  | succ length ih =>
      obtain ⟨event, next, admitted, stepped, holds⟩ := goesOn state start
      obtain ⟨events, final, same, all, reached⟩ := ih holds
      refine ⟨event :: events, final, by simp [same], ?_, ?_⟩
      · exact List.forall_mem_cons.mpr ⟨admitted, all⟩
      · exact run_cons_iff.mpr ⟨next, stepped, reached⟩

/-- Such a machine does not terminate. -/
theorem not_terminates_of_goesOn {step : σ → ε → Option σ} {allowed : ε → Prop}
    {stopped : σ → Prop} {P : σ → Prop}
    (goesOn
      : ∀ state, P state → ∃ event next, allowed event ∧ step state event = some next ∧ P next)
    {state : σ} (start : P state)
    : ¬Terminates step allowed stopped state := by
  intro terminates
  obtain ⟨bound, bounded⟩ := terminates.bounded
  obtain ⟨events, final, same, all, reached⟩ := exists_run_of_length goesOn start (bound + 1)
  have short := bounded events final all reached
  omega

end Transition
