import Aiodrive.Queue.Channel

/-! `UnorderedQueue` of `internal/queue.py`: items are yielded in the order of the puts. -/

namespace Aiodrive

variable {α : Type*}

structure UnorderedQueue (α : Type*) where
  button : Button
  closed : Bool
  items : List α
  reservedCount : Nat

namespace UnorderedQueue

def new : UnorderedQueue α :=
  { button := .new, closed := false, items := [], reservedCount := 0 }

/-- `__aiter__` from the head of its loop -/
def iterate (queue : UnorderedQueue α) : UnorderedQueue α × Channel.Iteration α :=
  if !queue.closed || !queue.items.isEmpty then
    match queue.items with
    | [] => (queue, .awaits queue.button.wait)
    | item :: rest => ({ queue with items := rest }, .yields item)
  else
    (queue, .ends)

def close (queue : UnorderedQueue α) : Option (UnorderedQueue α) :=
  if queue.closed then none else some { queue with closed := true }

def reserve (queue : UnorderedQueue α) : Option (UnorderedQueue α) :=
  if queue.closed then none else some { queue with reservedCount := queue.reservedCount + 1 }

/-- The closure returned captures nothing: items queue up in the order of the puts. -/
def put (queue : UnorderedQueue α) (_reservation : Nat) (item : α) : UnorderedQueue α :=
  { queue with items := queue.items ++ [item], button := queue.button.press }

def operations : Channel.Operations (UnorderedQueue α) α :=
  { new, button, closed, reservedCount, reserve, put, close, iterate }

theorem lawful : (operations : Channel.Operations (UnorderedQueue α) α).Lawful where
  new := ⟨rfl, rfl⟩
  reserve := by
    intro queue opened
    have opened : queue.closed = false := opened
    exact ⟨{ queue with reservedCount := queue.reservedCount + 1 },
      by simp [operations, reserve, opened], opened, rfl⟩
  close := by
    intro queue opened
    have opened : queue.closed = false := opened
    exact ⟨{ queue with closed := true }, by simp [operations, close, opened], rfl, rfl⟩
  put := fun _ _ _ => ⟨rfl, rfl⟩
  iterate := by
    intro queue
    simp only [operations, iterate]
    split_ifs
    · split <;> exact ⟨rfl, rfl⟩
    · exact ⟨rfl, rfl⟩

end UnorderedQueue

end Aiodrive
