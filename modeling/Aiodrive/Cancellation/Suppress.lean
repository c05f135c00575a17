import Aiodrive.Asyncio.Task
import Aiodrive.ExceptionGroups.Rest

/-! `ensure_correct_cancellation()` and `suppress()` of `modules/cancel.py` and `checkpoint()` of
`modules/checkpoint.py`, around the code of a task that others may cancel while it runs. Its
exception groups are plain ones, of no class that a manager could catch apart from their members.
-/

namespace Aiodrive.Suppress

open ExceptionGroups (Thrown)
open ExceptionGroups.Thrown (leavesOf leavesOf_rest? rest?_bind_rest?)

/-- The single exceptions; `raised` is any that none of the managers raises. -/
inductive Error (ε : Type*) where
  | cancelledError
  | suppressFailureError (message : String)
  | assertionError
  | raised (error : ε)
deriving DecidableEq, Repr

/-- Where code runs: where there is no event loop, in a callback of a loop, or in a task. -/
inductive Place where
  | noLoop
  | callback
  | task
deriving DecidableEq, Repr

variable {ε : Type*}

/-- What code makes of the requests on its task, and what it raises. -/
abbrev Code (ε : Type*) := Task → Task × Option (Thrown (Error ε))

/-- The check of `ensure_correct_cancellation()`, which comes after a body that does not raise. -/
def checkRequests (initialCancellationCount : Nat)
    : Task × Option (Thrown (Error ε)) → Task × Option (Thrown (Error ε))
  | (task, some thrown) => (task, some thrown)
  | (task, none) =>
      (task,
        if initialCancellationCount < task.cancelling then some (.single .cancelledError) else none)

/-- `ensure_correct_cancellation()` -/
def ensureCorrectCancellation (place : Place) (body : Code ε) : Code ε := fun task =>
  if place = .task then checkRequests task.cancelling (body task)
  else (task, some (.single .assertionError))

/-- `except* exceptions: pass`, and the `else` of a body that raises nothing. -/
def exceptStar (exceptions : Error ε → Bool) (strict : Bool)
    : Task × Option (Thrown (Error ε)) → Task × Option (Thrown (Error ε))
  | (task, some thrown) => (task, thrown.rest? exceptions)
  | (task, none) =>
      (task,
        if strict then some (.single (.suppressFailureError "No exception to suppress")) else none)

/-- `suppress(*exceptions, strict)`; the predicate tells what its classes match. None of them is a
class of groups, which `except*` refuses.
-/
def suppress (place : Place) (exceptions : Error ε → Bool) (strict : Bool) (body : Code ε)
    : Code ε :=
  let caught : Code ε := fun task => exceptStar exceptions strict (body task)
  if place = .noLoop then caught else ensureCorrectCancellation place caught

/-- `checkpoint()` in a task -/
def checkpoint : Code ε := fun task =>
  (task, if 0 < task.cancelling then some (.single .cancelledError) else none)

/-- Code made of statements, checkpoints and blocks under `suppress()`. -/
inductive Block (ε : Type*) where
  | statement (perform : Code ε)
  | checkpoint
  | sequence (first second : Block ε)
  | suppress (exceptions : Error ε → Bool) (strict : Bool) (body : Block ε)

/-- A run of a block. -/
def Block.run (place : Place) : Block ε → Code ε
  | statement perform => perform
  | checkpoint => Suppress.checkpoint
  | sequence first second => fun task =>
      match first.run place task with
      | (after, some thrown) => (after, some thrown)
      | (after, none) => second.run place after
  | suppress exceptions strict body => Suppress.suppress place exceptions strict (body.run place)

-----------------------------------------------------------------------------------------
-- Nested managers
-----------------------------------------------------------------------------------------

/-- Two clauses in turn are one that catches what either does. -/
theorem exceptStar_exceptStar (outer inner : Error ε → Bool)
    (ending : Task × Option (Thrown (Error ε)))
    : exceptStar outer false (exceptStar inner false ending)
      = exceptStar (fun error => inner error || outer error) false ending := by
  rcases ending with ⟨task, raised⟩
  cases raised with
  | none => rfl
  | some thrown =>
      simp only [exceptStar, ← rest?_bind_rest? inner outer thrown]
      cases thrown.rest? inner <;> rfl

/-- A check between two clauses changes nothing that the check after them does not: where it raises,
the outer clause passes the `CancelledError` on or the second check raises it again.
-/
theorem checkRequests_exceptStar (count : Nat) (outer : Error ε → Bool)
    (ending : Task × Option (Thrown (Error ε)))
    : checkRequests count (exceptStar outer false (checkRequests count ending))
      = checkRequests count (exceptStar outer false ending) := by
  rcases ending with ⟨task, raised⟩
  cases raised with
  | some thrown => rfl
  | none =>
      by_cases asked : count < task.cancelling
      · cases caught : outer .cancelledError <;>
          simp [checkRequests, exceptStar, asked, Thrown.rest?, caught]
      · simp [checkRequests, exceptStar, asked]

/-- Two managers around a body are one that suppresses what either does. -/
theorem suppress_suppress (place : Place) (outer inner : Error ε → Bool) (body : Code ε)
    : suppress place outer false (suppress place inner false body)
      = suppress place (fun error => inner error || outer error) false body := by
  funext task
  cases place with
  | callback => rfl
  | noLoop => simp [suppress, exceptStar_exceptStar]
  | task =>
      simp [suppress, ensureCorrectCancellation, checkRequests_exceptStar, exceptStar_exceptStar]

/-- `with suppress(…), …, suppress(…):`, the first manager outermost. -/
def nest (managers : List (Error ε → Bool)) (body : Block ε) : Block ε :=
  managers.foldr (fun exceptions body => .suppress exceptions false body) body

/-- Any number of nested managers, over any block whose groups are plain, are one that suppresses
what any of them does: the same exceptions are raised again, in the same groups, and the same
requests are noticed; by induction on the managers.
-/
theorem run_nest (place : Place) (first : Error ε → Bool) (others : List (Error ε → Bool))
    (body : Block ε)
    : (nest (first :: others) body).run place
      = (Block.suppress (fun error => (first :: others).any (fun catches => catches error)) false
          body).run place := by
  induction others generalizing first with
  | nil => simp [nest, Block.run]
  | cons second rest ih =>
      have inner := ih second
      simp only [nest, List.foldr_cons, Block.run] at inner ⊢
      rw [inner, suppress_suppress]
      simp [List.any_cons, Bool.or_comm]

-----------------------------------------------------------------------------------------
-- What gets past the managers
-----------------------------------------------------------------------------------------

/-- Code that returns only if no new request came while it ran, or that took it back. -/
def Honest (code : Code ε) : Prop :=
  ∀ task, (code task).2 = none → (code task).1.cancelling ≤ task.cancelling

/-- The statements outside all managers are honest. -/
def Block.StatementsHonest : Block ε → Prop
  | statement perform => Honest perform
  | checkpoint | suppress _ _ _ => True
  | sequence first second => first.StatementsHonest ∧ second.StatementsHonest

theorem honest_ensureCorrectCancellation (body : Code ε)
    : Honest (ensureCorrectCancellation .task body) := by
  intro task returned
  simp only [ensureCorrectCancellation, if_true] at returned ⊢
  rcases ended : body task with ⟨after, raised⟩
  rw [ended] at returned
  cases raised with
  | some thrown => simp [checkRequests] at returned
  | none => simpa [checkRequests] using returned

/-- A single exception that a block can raise: one of a statement that no manager around it catches,
or one that a manager or a checkpoint raises itself.
-/
def Block.Escapes (place : Place) : Block ε → Error ε → Prop
  | statement perform, error => ∃ task, error ∈ leavesOf (perform task).2
  | checkpoint, error => error = .cancelledError
  | sequence first second, error => first.Escapes place error ∨ second.Escapes place error
  | suppress exceptions strict body, error =>
      (body.Escapes place error ∧ exceptions error = false)
      ∨ (strict = true ∧ error = .suppressFailureError "No exception to suppress")
      ∨ (place = .task ∧ error = .cancelledError)
      ∨ (place = .callback ∧ error = .assertionError)

theorem leaves_exceptStar {exceptions : Error ε → Bool} {strict : Bool}
    {ending : Task × Option (Thrown (Error ε))} {error : Error ε}
    (raised : error ∈ leavesOf (exceptStar exceptions strict ending).2)
    : (error ∈ leavesOf ending.2 ∧ exceptions error = false)
      ∨ (strict = true ∧ error = .suppressFailureError "No exception to suppress") := by
  rcases ending with ⟨task, thrown⟩
  cases thrown with
  | some thrown =>
      simp only [exceptStar, leavesOf_rest?, List.mem_filter, Bool.not_eq_true'] at raised
      exact .inl raised
  | none =>
      cases strict with
      | false => simp [exceptStar, leavesOf] at raised
      | true => exact .inr ⟨rfl, by simpa [exceptStar, leavesOf, Thrown.leaves] using raised⟩

theorem leaves_checkRequests {count : Nat} {ending : Task × Option (Thrown (Error ε))}
    {error : Error ε} (raised : error ∈ leavesOf (checkRequests count ending).2)
    : error ∈ leavesOf ending.2 ∨ error = .cancelledError := by
  rcases ending with ⟨task, thrown⟩
  cases thrown with
  | some thrown => exact .inl raised
  | none =>
      by_cases asked : count < task.cancelling
      · exact .inr (by simpa [checkRequests, asked, leavesOf, Thrown.leaves] using raised)
      · simp [checkRequests, asked, leavesOf] at raised

/-- What a block raises escapes it, by induction on the block. -/
theorem escapes_of_raised {place : Place} {block : Block ε} {task : Task} {error : Error ε}
    (raised : error ∈ leavesOf (block.run place task).2)
    : block.Escapes place error := by
  induction block generalizing task error with
  | statement perform => exact ⟨task, raised⟩
  | checkpoint =>
      simp only [Block.run, Suppress.checkpoint] at raised
      split at raised
      · exact List.mem_singleton.mp raised
      · simp [leavesOf] at raised
  | sequence first second ihFirst ihSecond =>
      simp only [Block.run] at raised
      rcases ended : first.run place task with ⟨after, thrown⟩
      cases thrown with
      | some thrown =>
          rw [ended] at raised
          have here : error ∈ leavesOf (first.run place task).2 := by
            rw [ended]
            exact raised
          exact .inl (ihFirst here)
      | none =>
          rw [ended] at raised
          exact .inr (ihSecond raised)
  | suppress exceptions strict body ih =>
      have caught
          (raised : error ∈ leavesOf (exceptStar exceptions strict (body.run place task)).2)
          : (body.Escapes place error ∧ exceptions error = false)
            ∨ (strict = true ∧ error = .suppressFailureError "No exception to suppress") :=
        (leaves_exceptStar raised).imp_left (And.imp_left ih)
      cases place with
      | noLoop =>
          rcases caught raised with passed | failed
          · exact .inl passed
          · exact .inr (.inl failed)
      | callback =>
          refine .inr (.inr (.inr ⟨rfl, ?_⟩))
          simpa [Block.run, Suppress.suppress, ensureCorrectCancellation, leavesOf, Thrown.leaves]
            using raised
      | task =>
          rcases leaves_checkRequests raised with inner | own
          · rcases caught inner with passed | failed
            · exact .inl passed
            · exact .inr (.inl failed)
          · exact .inr (.inr (.inl ⟨rfl, own⟩))

/-- A block of honest statements in a task, under any managers, is honest; by induction on it. -/
theorem honest_run {block : Block ε} (honest : block.StatementsHonest)
    : Honest (block.run .task) := by
  induction block with
  | statement perform => exact honest
  | checkpoint => exact fun task _ => Nat.le_refl _
  | sequence first second ihFirst ihSecond =>
      intro task returned
      simp only [Block.run] at returned ⊢
      rcases ended : first.run .task task with ⟨after, thrown⟩
      have before := ihFirst honest.1 task
      rw [ended] at before returned
      cases thrown with
      | some thrown => cases returned
      | none => exact Nat.le_trans (ihSecond honest.2 after returned) (before rfl)
  | suppress exceptions strict body ih => exact honest_ensureCorrectCancellation _

/-- No request on a task goes unnoticed under `suppress()`, whatever the managers catch and however
they are nested: a block returns only with as many requests as it began with, or fewer. And what it
raises, alone or in a group, was raised by a statement that is under no manager which catches it, or
by one of the managers and checkpoints.
-/
theorem block_sound {block : Block ε} (honest : block.StatementsHonest) (task : Task)
    : ((block.run .task task).2 = none
        → (block.run .task task).1.cancelling ≤ task.cancelling)
      ∧ ∀ error ∈ leavesOf (block.run .task task).2, block.Escapes .task error :=
  ⟨honest_run honest task, fun _ => escapes_of_raised⟩

/-- A request that comes while a statement runs which swallows it. -/
theorem block_sound_swallowed
    : let body : Block String :=
        .suppress (fun error => error == .cancelledError) false
          (.statement fun task => (task.cancel none, none))
      ((body.run .task { cancelling := 0, message := none }).2 = none
        → (body.run .task { cancelling := 0, message := none }).1.cancelling ≤ 0)
      ∧ ∀ error ∈ leavesOf (body.run .task { cancelling := 0, message := none }).2,
          body.Escapes .task error := by
  intro body
  have honest : body.StatementsHonest := trivial
  exact block_sound honest _

end Aiodrive.Suppress
