import Aiodrive.Queue.Channel
import Mathlib.Data.List.Basic

/-! `OrderedQueue` of `internal/queue.py`: items are yielded in the order of reservations. -/

namespace Aiodrive

variable {α : Type*}

structure OrderedQueue (α : Type*) where
  button : Button
  closed : Bool
  currentIndex : Nat
  items : Nat → Option α
  reservedCount : Nat

namespace OrderedQueue

def new : OrderedQueue α :=
  { button := .new, closed := false, currentIndex := 0, items := fun _ => none,
    reservedCount := 0 }

/-- `__aiter__` from the head of its loop -/
def iterate (queue : OrderedQueue α) : OrderedQueue α × Channel.Iteration α :=
  if !queue.closed || queue.currentIndex < queue.reservedCount then
    match queue.items queue.currentIndex with
    | none => (queue, .awaits queue.button.wait)
    | some item =>
        ({ queue with
            items := Function.update queue.items queue.currentIndex none
            currentIndex := queue.currentIndex + 1 },
          .yields item)
  else
    (queue, .ends)

def close (queue : OrderedQueue α) : Option (OrderedQueue α) :=
  if queue.closed then
    none
  else if queue.currentIndex = queue.reservedCount then
    some { queue with closed := true, button := queue.button.press }
  else
    some { queue with closed := true }

/-- The closure returned captures the count before as its `index`. -/
def reserve (queue : OrderedQueue α) : Option (OrderedQueue α) :=
  if queue.closed then none else some { queue with reservedCount := queue.reservedCount + 1 }

def put (queue : OrderedQueue α) (index : Nat) (item : α) : OrderedQueue α :=
  let items := Function.update queue.items index (some item)
  if index = queue.currentIndex then { queue with items, button := queue.button.press }
  else { queue with items }

theorem close_eq_some {queue next : OrderedQueue α} (closed : queue.close = some next)
    : queue.closed = false
      ∧ next.reservedCount = queue.reservedCount
      ∧ next.closed = true := by
  unfold close at closed
  split at closed
  · contradiction
  · rename_i opened
    refine ⟨by simpa using opened, ?_⟩
    split at closed <;> obtain rfl := Option.some.inj closed <;> exact ⟨rfl, rfl⟩

@[simp] theorem reservedCount_put (queue : OrderedQueue α) (index : Nat) (item : α)
    : (queue.put index item).reservedCount = queue.reservedCount := by
  unfold put
  dsimp only
  split <;> rfl

@[simp] theorem closed_put (queue : OrderedQueue α) (index : Nat) (item : α)
    : (queue.put index item).closed = queue.closed := by
  unfold put
  dsimp only
  split <;> rfl

def operations : Channel.Operations (OrderedQueue α) α :=
  { new, button, closed, reservedCount, reserve, put, close, iterate }

theorem lawful : (operations : Channel.Operations (OrderedQueue α) α).Lawful where
  new := ⟨rfl, rfl⟩
  reserve := by
    intro queue opened
    have opened : queue.closed = false := opened
    exact ⟨{ queue with reservedCount := queue.reservedCount + 1 },
      by simp [operations, reserve, opened], opened, rfl⟩
  close := by
    intro queue opened
    have opened : queue.closed = false := opened
    cases closed : queue.close with
    | none =>
        simp only [close, opened, Bool.false_eq_true, if_false] at closed
        split at closed <;> contradiction
    | some next =>
        obtain ⟨_, reserved, closed⟩ := close_eq_some closed
        exact ⟨next, ‹_›, closed, reserved⟩
  put := fun queue reservation item =>
    ⟨closed_put queue reservation item, reservedCount_put queue reservation item⟩
  iterate := by
    intro queue
    simp only [operations, iterate]
    split_ifs
    · split <;> exact ⟨rfl, rfl⟩
    · exact ⟨rfl, rfl⟩

end OrderedQueue

end Aiodrive
