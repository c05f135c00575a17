import Aiodrive.Amass.Moves

/-! What the refill loop of `amass()` does to the input: it never takes more than the bound
allows, it loses and repeats nothing, and it leaves nothing behind while there is room.
-/

namespace Aiodrive.Amass

variable {ι ε α : Type*}

-----------------------------------------------------------------------------------------
-- The bound
-----------------------------------------------------------------------------------------

/-- The bound is the one of the call, and the pending futures respect it, if there is one. -/
structure State.Bounded (maxConcurrentCount : Option Nat) (state : State ι ε α) : Prop where
  same : state.maxConcurrentCount = maxConcurrentCount
  length_le : ∀ count, maxConcurrentCount = some count → state.pendingFutures.length ≤ count

/-- Leaving keeps the pending futures and the bound. -/
theorem leave_bounded {maxConcurrentCount : Option Nat} {state : State ι ε α} {ending : Ending}
    (bounded : state.Bounded maxConcurrentCount)
    : (state.leave ending).Bounded maxConcurrentCount :=
  ⟨bounded.same, bounded.length_le⟩

/-- A wait returns at most the futures that it was given as pending ones. -/
theorem length_le_of_perm_pendingTasks {pending returned : List ι} {table : TaskTable ι ε α}
    (same : returned.Perm (pendingTasks pending table))
    : returned.length ≤ pending.length := by
  rw [same.length_eq]
  exact List.length_filter_le _ _

section
variable [DecidableEq ι]

/-- The loop stops at the bound, by induction on what is left to take. -/
theorem refill_length_le {count : Nat} {source pending : List ι} {all : List (Created ι)}
    (bounded : pending.length ≤ count)
    : (refill (some count) source pending all).2.1.length ≤ count := by
  induction source generalizing pending all with
  | nil => exact bounded
  | cons item rest ih =>
      unfold refill
      split
      · rename_i room
        apply ih
        have room : pending.length < count := by simpa using room
        by_cases member : item ∈ pending
        · rwa [List.insert_of_mem member]
        · rwa [List.insert_of_not_mem member, List.length_cons]
      · exact bounded

/-- A turn of the outer loop refills up to the bound. -/
theorem turn_bounded {maxConcurrentCount : Option Nat} {state : State ι ε α}
    (bounded : state.Bounded maxConcurrentCount)
    : state.turn.Bounded maxConcurrentCount := by
  have refilled : state.refill.Bounded maxConcurrentCount := by
    refine ⟨bounded.same, fun count limit => ?_⟩
    simp only [State.refill, bounded.same, limit]
    exact refill_length_le (bounded.length_le count limit)
  unfold State.turn
  split
  · exact leave_bounded refilled
  · exact ⟨refilled.same, refilled.length_le⟩

/-- Visiting the done futures keeps the bound, by induction on those still to visit. -/
theorem iterate_bounded {maxConcurrentCount : Option Nat} {state : State ι ε α}
    {rest : List ι} (bounded : state.Bounded maxConcurrentCount)
    : (state.iterate rest).Bounded maxConcurrentCount := by
  induction rest with
  | nil => exact turn_bounded bounded
  | cons future rest ih =>
      unfold State.iterate
      split
      · exact ⟨bounded.same, bounded.length_le⟩
      · split
        · exact leave_bounded bounded
        · exact ih

/-- Every step keeps the bound. -/
theorem step_bounded {maxConcurrentCount : Option Nat} {state next : State ι ε α}
    {event : Event ι ε α} (bounded : state.Bounded maxConcurrentCount)
    (stepped : step state event = some next)
    : next.Bounded maxConcurrentCount := by
  have ⟨same, length_le⟩ := bounded
  cases move_of_step stepped with
  | starts here => exact turn_bounded bounded
  | continues here => exact iterate_bounded bounded
  | closesUnstarted here => exact ⟨same, length_le⟩
  | closes here => exact leave_bounded bounded
  | completes known completed => exact ⟨same, length_le⟩
  | cancelsWait here => exact leave_bounded ⟨same, length_le⟩
  | cancelsGather here => exact ⟨same, length_le⟩
  | returnsGather here suspended ready => exact ⟨same, length_le⟩
  | returnsWait here someDone doneSet pendingSet =>
      apply iterate_bounded
      refine ⟨same, fun count limit => ?_⟩
      exact Nat.le_trans (length_le_of_perm_pendingTasks pendingSet) (length_le count limit)

/-- The pending futures respect the bound in every run. -/
theorem run_bounded {maxConcurrentCount : Option Nat} {sensitive : Bool}
    {awaitables : List ι} {table : TaskTable (Created ι) ε α} {events : List (Event ι ε α)}
    {final : State ι ε α}
    (reached
      : Transition.run step (.initial maxConcurrentCount sensitive awaitables table) events
        = some final)
    : final.Bounded maxConcurrentCount :=
  Transition.run_preserves (P := State.Bounded maxConcurrentCount)
    (fun _ _ _ => step_bounded) ⟨rfl, fun _ _ => Nat.zero_le _⟩ reached

end

-----------------------------------------------------------------------------------------
-- The partition of the input
-----------------------------------------------------------------------------------------

/-- Every awaitable is once among those that a wait returned as done, those pending and those
not taken; the futures created are those of the first two kinds.
-/
structure Partition (awaitables visited pending source : List ι) (all : List (Created ι))
    : Prop where
  distinct : awaitables.Nodup
  parts : (visited ++ (pending ++ source)).Perm awaitables
  created : all.Perm ((visited ++ pending).map .future)

/-- The next awaitable of the iterator is not pending and has no future yet. -/
theorem Partition.fresh {awaitables visited pending source : List ι}
    {all : List (Created ι)} {item : ι}
    (partition : Partition awaitables visited pending (item :: source) all)
    : item ∉ pending ∧ .future item ∉ all := by
  have distinct := partition.parts.nodup_iff.mpr partition.distinct
  rw [← List.append_assoc, List.nodup_append] at distinct
  have absent : item ∉ visited ++ pending := fun member =>
    distinct.2.2 item member item List.mem_cons_self rfl
  refine ⟨fun member => absent (List.mem_append_right _ member), fun member => ?_⟩
  apply absent
  simpa using partition.created.mem_iff.mp member

variable [DecidableEq ι]

/-- Taking the next awaitable keeps the partition. -/
theorem Partition.take {awaitables visited pending source : List ι}
    {all : List (Created ι)} {item : ι}
    (partition : Partition awaitables visited pending (item :: source) all)
    : Partition awaitables visited (pending.insert item) source
        (all.insert (.future item)) := by
  obtain ⟨notPending, notCreated⟩ := partition.fresh
  rw [List.insert_of_not_mem notPending, List.insert_of_not_mem notCreated]
  refine ⟨partition.distinct, ?_, ?_⟩
  · refine List.Perm.trans (List.Perm.append_left visited ?_) partition.parts
    exact List.perm_middle.symm
  · have moved : ((visited ++ item :: pending).map Created.future).Perm
        (.future item :: (visited ++ pending).map .future) :=
      (List.perm_middle (a := item)).map Created.future
    exact (partition.created.cons _).trans moved.symm

/-- The refill loop keeps the partition, by induction on what is left to take. -/
theorem refill_partition {maxConcurrentCount : Option Nat}
    {awaitables visited pending source : List ι} {all : List (Created ι)}
    (partition : Partition awaitables visited pending source all)
    : Partition awaitables visited (refill maxConcurrentCount source pending all).2.1
        (refill maxConcurrentCount source pending all).1
        (refill maxConcurrentCount source pending all).2.2 := by
  induction source generalizing pending all with
  | nil => exact partition
  | cons item rest ih =>
      unfold refill
      split
      · exact ih partition.take
      · exact partition

/-- The refill loop only ends early when there is no room. -/
theorem refill_exhausts (maxConcurrentCount : Option Nat) (source pending : List ι)
    (all : List (Created ι))
    : (refill maxConcurrentCount source pending all).1 = []
      ∨ maxConcurrentCount.all
          (fun count => (refill maxConcurrentCount source pending all).2.1.length < count)
        = false := by
  induction source generalizing pending all with
  | nil => exact Or.inl rfl
  | cons item rest ih =>
      unfold refill
      split
      · exact ih _ _
      · rename_i full
        exact Or.inr (Bool.eq_false_iff.mpr full)

/-- With room for one future, the loop leaves nothing pending only when it has taken everything.
-/
theorem refill_nil {maxConcurrentCount : Option Nat} {source pending : List ι}
    {all : List (Created ι)} (admits : maxConcurrentCount ≠ some 0)
    (empty : (refill maxConcurrentCount source pending all).2.1 = [])
    : (refill maxConcurrentCount source pending all).1 = [] := by
  rcases refill_exhausts maxConcurrentCount source pending all with exhausted | full
  · exact exhausted
  · rw [empty] at full
    cases maxConcurrentCount with
    | none => simp at full
    | some count => simp_all

end Aiodrive.Amass
