import Aiodrive.Amass.Model

/-! What each event does to an `amass()` iterator, with the guards it has passed. -/

namespace Aiodrive.Amass

variable {ι ε α : Type*} [DecidableEq ι]

/-- The steps of an iterator, one constructor for each branch. -/
inductive Move (state : State ι ε α) : Event ι ε α → State ι ε α → Prop where
  | starts (here : state.pc = .unstarted) : Move state .next state.turn
  | continues {rest : List ι} (here : state.pc = .yielding rest)
    : Move state .next (state.iterate rest)
  | closesUnstarted (here : state.pc = .unstarted)
    : Move state .close { state with pc := .exited (.returned ()) }
  | closes {rest : List ι} (here : state.pc = .yielding rest)
    : Move state .close (state.leave .closed)
  | completes {created : Created ι} {ended : FutureState ε α}
    {table : TaskTable (Created ι) ε α} (known : state.Exists created)
    (completed : complete state.table created ended = some table)
    : Move state (.complete created ended) { state with table }
  | cancelsWait {message : Option String} (here : state.pc = .waiting)
    : Move state (.cancelCaller message) ({ state with cancelled := true }.leave .returned)
  | cancelsGather {message : Option String} {ending : Ending} {gather : Gather.Pc ε α}
    (here : state.pc = .closing ending gather)
    : Move state (.cancelCaller message)
        (state.resumeGather ending gather (.cancelledError message))
  | returnsWait {done pending : List ι} (here : state.pc = .waiting) (someDone : done ≠ [])
    (doneSet : done.Perm (doneTasks state.pendingFutures state.futures))
    (pendingSet : pending.Perm (pendingTasks state.pendingFutures state.futures))
    : Move state (.waitReturns done pending) ((state.assignWait done pending).iterate done)
  | returnsGather {ending : Ending} {gather : Gather.Pc ε α} {returnWhen : ReturnWhen}
    (here : state.pc = .closing ending gather) (suspended : gather.returnWhen = some returnWhen)
    (ready : waitReady state.allFutures state.table returnWhen = true)
    : Move state .gatherReturns (state.resumeGather ending gather .returned)

/-- Every step is one of the moves. -/
theorem move_of_step {state next : State ι ε α} {event : Event ι ε α}
    (stepped : step state event = some next)
    : Move state event next := by
  cases event with
  | next =>
      simp only [step] at stepped
      split at stepped
      · rename_i here
        exact Option.some.inj stepped ▸ .starts here
      · rename_i rest here
        exact Option.some.inj stepped ▸ .continues here
      all_goals contradiction
  | close =>
      simp only [step] at stepped
      split at stepped
      · rename_i here
        exact Option.some.inj stepped ▸ .closesUnstarted here
      · rename_i rest here
        exact Option.some.inj stepped ▸ .closes here
      all_goals contradiction
  | complete created ended =>
      simp only [step] at stepped
      split at stepped
      · rename_i known
        obtain ⟨table, completed, rfl⟩ := Option.map_eq_some_iff.mp stepped
        exact .completes known completed
      · contradiction
  | cancelCaller message =>
      simp only [step] at stepped
      split at stepped
      · rename_i here
        exact Option.some.inj stepped ▸ .cancelsWait here
      · rename_i ending gather here
        exact Option.some.inj stepped ▸ .cancelsGather here
      all_goals contradiction
  | waitReturns done pending =>
      simp only [step] at stepped
      split at stepped
      · rename_i here
        split at stepped
        · rename_i sets
          exact Option.some.inj stepped ▸ .returnsWait here sets.1 sets.2.1 sets.2.2
        · contradiction
      all_goals contradiction
  | gatherReturns =>
      simp only [step] at stepped
      split at stepped
      · rename_i ending gather here
        obtain ⟨returnWhen, suspended, stepped⟩ := Option.bind_eq_some_iff.mp stepped
        split at stepped
        · rename_i ready
          exact Option.some.inj stepped ▸ .returnsGather here suspended ready
        · contradiction
      all_goals contradiction

end Aiodrive.Amass
