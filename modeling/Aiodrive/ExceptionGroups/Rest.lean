import Mathlib.Data.List.Basic
import Mathlib.Tactic.TypeStar

/-! Nested exception groups, and what is left of one when the exceptions that a predicate catches
are taken out of it, as a clause `except*` whose body passes does. Groups keep their shape and
their message, and a group of which nothing is left is dropped.

The groups are plain ones. A clause compares the class of a group before it looks at the members,
so a subclass that also derives from another exception is caught as a whole, and what is left of
it by another clause is no longer of that class. With a plain group the comparison decides nothing:
a clause that catches the class of one catches each member that it can have.
-/

namespace ExceptionGroups

/-- An exception that is thrown: a single one, or a plain group of others (`ExceptionGroup` or
`BaseExceptionGroup` itself, no subclass).
-/
inductive Thrown (ε : Type*) where
  | single (error : ε)
  | group (message : String) (errors : List (Thrown ε))
deriving Repr

namespace Thrown

variable {ε : Type*}

mutual
/-- The single exceptions of a thrown one, in order. -/
def leaves : Thrown ε → List ε
  | single error => [error]
  | group _ errors => leavesAll errors

def leavesAll : List (Thrown ε) → List ε
  | [] => []
  | error :: rest => error.leaves ++ leavesAll rest
end

mutual
/-- What is raised again past a clause that catches some of the single exceptions. -/
def rest? (caught : ε → Bool) : Thrown ε → Option (Thrown ε)
  | single error => if caught error then none else some (single error)
  | group message errors =>
      match restAll caught errors with
      | [] => none
      | first :: others => some (group message (first :: others))

def restAll (caught : ε → Bool) : List (Thrown ε) → List (Thrown ε)
  | [] => []
  | error :: rest => (error.rest? caught).toList ++ restAll caught rest
end

/-- A group is left as the group of what is left of its members. -/
theorem rest?_group (caught : ε → Bool) (message : String) (errors : List (Thrown ε))
    : (group message errors).rest? caught
      = if restAll caught errors = [] then none
        else some (group message (restAll caught errors)) := by
  simp only [rest?]
  split <;> simp [*]

theorem restAll_append (caught : ε → Bool) (errors more : List (Thrown ε))
    : restAll caught (errors ++ more) = restAll caught errors ++ restAll caught more := by
  induction errors with
  | nil => rfl
  | cons error rest ih => simp [restAll, ih]

mutual
/-- Two clauses in turn are one that catches what either does, by mutual induction on the exception.
-/
theorem rest?_bind_rest? (inner outer : ε → Bool) (thrown : Thrown ε)
    : (thrown.rest? inner).bind (rest? outer)
      = thrown.rest? (fun error => inner error || outer error) := by
  cases thrown with
  | single error =>
      cases first : inner error with
      | true => simp [rest?, first]
      | false => simp [rest?, first]
  | group message errors =>
      rw [rest?_group, rest?_group, ← restAll_restAll inner outer errors]
      by_cases none : restAll inner errors = []
      · simp [none, restAll]
      · rw [if_neg none, Option.bind_some, rest?_group]

theorem restAll_restAll (inner outer : ε → Bool) (errors : List (Thrown ε))
    : restAll outer (restAll inner errors)
      = restAll (fun error => inner error || outer error) errors := by
  cases errors with
  | nil => rfl
  | cons error rest =>
      simp only [restAll, restAll_append, restAll_restAll inner outer rest,
        ← rest?_bind_rest? inner outer error]
      cases error.rest? inner <;> simp [restAll]
end

/-- The single exceptions of what is left, if anything is. -/
def leavesOf : Option (Thrown ε) → List ε
  | none => []
  | some thrown => thrown.leaves

theorem leavesAll_append (errors more : List (Thrown ε))
    : leavesAll (errors ++ more) = leavesAll errors ++ leavesAll more := by
  induction errors with
  | nil => rfl
  | cons error rest ih => simp [leavesAll, ih]

theorem leavesAll_toList (thrown : Option (Thrown ε))
    : leavesAll thrown.toList = leavesOf thrown := by
  cases thrown <;> simp [leavesAll, leavesOf]

mutual
/-- What is left has the single exceptions that are not caught, in their order. -/
theorem leavesOf_rest? (caught : ε → Bool) (thrown : Thrown ε)
    : leavesOf (thrown.rest? caught) = thrown.leaves.filter (fun error => !caught error) := by
  cases thrown with
  | single error =>
      cases matched : caught error <;> simp [rest?, leaves, leavesOf, matched]
  | group message errors =>
      rw [rest?_group, leaves, ← leavesAll_restAll caught errors]
      by_cases none : restAll caught errors = []
      · simp [none, leavesOf, leavesAll]
      · rw [if_neg none]
        rfl

theorem leavesAll_restAll (caught : ε → Bool) (errors : List (Thrown ε))
    : leavesAll (restAll caught errors)
      = (leavesAll errors).filter (fun error => !caught error) := by
  cases errors with
  | nil => rfl
  | cons error rest =>
      simp only [restAll, leavesAll, leavesAll_append, leavesAll_toList, List.filter_append,
        leavesAll_restAll caught rest, leavesOf_rest? caught error]
end

mutual
/-- Nothing is left exactly when every single exception is caught. -/
theorem rest?_eq_none_iff (caught : ε → Bool) (thrown : Thrown ε)
    : thrown.rest? caught = none ↔ ∀ error ∈ thrown.leaves, caught error = true := by
  cases thrown with
  | single error => simp [rest?, leaves]
  | group message errors =>
      rw [rest?_group, leaves, ← restAll_eq_nil_iff caught errors]
      by_cases none : restAll caught errors = [] <;> simp [none]

theorem restAll_eq_nil_iff (caught : ε → Bool) (errors : List (Thrown ε))
    : restAll caught errors = [] ↔ ∀ error ∈ leavesAll errors, caught error = true := by
  cases errors with
  | nil => simp [restAll, leavesAll]
  | cons error rest =>
      simp only [restAll, leavesAll, List.append_eq_nil_iff, List.forall_mem_append,
        restAll_eq_nil_iff caught rest, ← rest?_eq_none_iff caught error,
        Option.toList_eq_nil_iff]
end

end Thrown

end ExceptionGroups
