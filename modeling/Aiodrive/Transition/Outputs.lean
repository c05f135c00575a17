import Aiodrive.Transition.Runs

/-! Machines that answer each event: `step state event` is `some (next, output)` where the event
is enabled. The rules here compare what two such machines answer, over a simulation between
their states.
-/

namespace Transition

variable {σ τ ε ω : Type*}

/-- The state after a whole schedule, with the answers in order. -/
def respond (step : σ → ε → Option (σ × ω)) : σ → List ε → Option (σ × List ω)
  | state, [] => some (state, [])
  | state, event :: rest =>
      (step state event).bind (fun (next, output) =>
        (respond step next rest).map (fun (final, outputs) => (final, output :: outputs)))

/-- What a machine answers to a schedule. -/
def outputs (step : σ → ε → Option (σ × ω)) (state : σ) (events : List ε) : Option (List ω) :=
  (respond step state events).map Prod.snd

/-- A machine without its answers. -/
def silent (step : σ → ε → Option (σ × ω)) (state : σ) (event : ε) : Option σ :=
  (step state event).map Prod.fst

@[simp] theorem respond_nil (step : σ → ε → Option (σ × ω)) (state : σ)
    : respond step state [] = some (state, []) :=
  rfl

theorem respond_cons_iff {step : σ → ε → Option (σ × ω)} {state final : σ} {event : ε}
    {rest : List ε} {answers : List ω}
    : respond step state (event :: rest) = some (final, answers)
      ↔ ∃ next output later,
          step state event = some (next, output)
          ∧ respond step next rest = some (final, later)
          ∧ answers = output :: later := by
  simp only [respond, Option.bind_eq_some_iff, Option.map_eq_some_iff, Prod.exists,
    Prod.mk.injEq, ↓existsAndEq, true_and]
  constructor
  · rintro ⟨next, output, stepped, later, responded, same⟩
    exact ⟨next, output, later, stepped, responded, same.symm⟩
  · rintro ⟨next, output, later, stepped, responded, same⟩
    exact ⟨next, output, stepped, later, responded, same.symm⟩

theorem outputs_cons {step : σ → ε → Option (σ × ω)} {state next : σ} {event : ε} {output : ω}
    (stepped : step state event = some (next, output)) (rest : List ε)
    : outputs step state (event :: rest) = (outputs step next rest).map (List.cons output) := by
  simp [outputs, respond, stepped, Function.comp_def]

/-- Answering a schedule is running it. -/
theorem run_silent {step : σ → ε → Option (σ × ω)} {state final : σ} {events : List ε}
    {answers : List ω} (responded : respond step state events = some (final, answers))
    : run (silent step) state events = some final := by
  induction events generalizing state answers with
  | nil =>
      obtain ⟨rfl, -⟩ := Prod.mk.inj (Option.some.inj responded)
      rfl
  | cons event rest ih =>
      obtain ⟨next, output, later, stepped, tail, -⟩ := respond_cons_iff.mp responded
      exact run_cons_iff.mpr ⟨next, by simp [silent, stepped], ih tail⟩

/-- What is preserved by every step, and answered at every step from where it holds. -/
theorem respond_preserves {step : σ → ε → Option (σ × ω)} {P : σ → Prop} {Q : ω → Prop}
    {events : List ε}
    (preserved
      : ∀ state, ∀ event ∈ events, ∀ next output,
          P state → step state event = some (next, output) → P next ∧ Q output)
    {state final : σ} {answers : List ω} (start : P state)
    (responded : respond step state events = some (final, answers))
    : P final ∧ ∀ output ∈ answers, Q output := by
  induction events generalizing state answers with
  | nil =>
      obtain ⟨rfl, rfl⟩ := Prod.mk.inj (Option.some.inj responded)
      exact ⟨start, by simp⟩
  | cons event rest ih =>
      obtain ⟨next, output, later, stepped, tail, rfl⟩ := respond_cons_iff.mp responded
      obtain ⟨holds, answered⟩ :=
        preserved state event List.mem_cons_self next output start stepped
      obtain ⟨final, all⟩ :=
        ih (fun state event inRest => preserved state event (List.mem_cons_of_mem _ inRest))
          holds tail
      exact ⟨final, List.forall_mem_cons.mpr ⟨answered, all⟩⟩

/-- A schedule whose events are enabled wherever a preserved predicate holds is run to its end. -/
theorem exists_respond {step : σ → ε → Option (σ × ω)} {P : σ → Prop} {Q : ω → Prop}
    {events : List ε}
    (enabled
      : ∀ state, ∀ event ∈ events,
          P state → ∃ next output, step state event = some (next, output) ∧ P next ∧ Q output)
    {state : σ} (start : P state)
    : ∃ final answers,
        respond step state events = some (final, answers)
        ∧ P final
        ∧ ∀ output ∈ answers, Q output := by
  induction events generalizing state with
  | nil => exact ⟨state, [], rfl, start, by simp⟩
  | cons event rest ih =>
      obtain ⟨next, output, stepped, holds, answered⟩ :=
        enabled state event List.mem_cons_self start
      obtain ⟨final, answers, responded, last, all⟩ :=
        ih (fun state event inRest => enabled state event (List.mem_cons_of_mem _ inRest)) holds
      refine ⟨final, output :: answers, ?_, last, List.forall_mem_cons.mpr ⟨answered, all⟩⟩
      exact respond_cons_iff.mpr ⟨next, output, answers, stepped, responded, rfl⟩

/-- Two machines both refuse an event, or give the same answer and stay related. -/
def Matches (Sim : σ → τ → Prop) : Option (σ × ω) → Option (τ × ω) → Prop
  | none, none => True
  | some (left, output), some (right, answer) => Sim left right ∧ output = answer
  | _, _ => False

/-- Machines that match at each event which meets a condition answer every schedule alike that
meets it throughout; by induction on the schedule.
-/
theorem outputs_eq_of_matches {step : σ → ε → Option (σ × ω)} {other : τ → ε → Option (τ × ω)}
    {condition : σ → ε → Prop} (Sim : σ → τ → Prop)
    (matched
      : ∀ left right event,
          Sim left right
          → condition left event
          → Matches Sim (step left event) (other right event))
    {left : σ} {right : τ} {events : List ε} (start : Sim left right)
    (met : Meets (silent step) condition left events)
    : outputs step left events = outputs other right events := by
  induction events generalizing left right with
  | nil => rfl
  | cons event rest ih =>
      have first := matched left right event start met.1
      cases stepped : step left event with
      | none =>
          cases answered : other right event with
          | none => simp [outputs, respond, stepped, answered]
          | some pair =>
              rw [stepped, answered] at first
              exact first.elim
      | some pair =>
          cases answered : other right event with
          | none =>
              rw [stepped, answered] at first
              exact first.elim
          | some twin =>
              rw [stepped, answered] at first
              obtain ⟨related, same⟩ := first
              have later := ih related (met.2 pair.1 (by simp [silent, stepped]))
              rw [outputs_cons stepped, outputs_cons answered, later, same]

end Transition
