import Aiodrive.Framing.LengthPrefix
import Aiodrive.Transition.Runs

/-! `Connection` of `modules/multiprocessing.py`: its senders write to one end of a socket, and
its reader calls `recv()` again and again at the other end. The two `write()` of a `send()`
have no suspension between them, so frames of concurrent senders do not mix.
-/

namespace Aiodrive.Connection

open LengthPrefix

variable {ε Obj : Type*}

/-- What `recv()` raises: `EOFError`, or another exception of `pickle.loads`. -/
inductive Failure (ε : Type*) where
  | eofError
  | unpickling (error : ε)
deriving DecidableEq, Repr

/-- `transit` was written and did not arrive, `buffer` and `eof` are those of the
`StreamReader`, and `receiving` is the `size` of a `recv()` at its second `read()`. The
data of the `send()` calls, the data handed to `pickle.loads` and the results of the `recv()`
calls are recorded.
-/
structure State (ε Obj : Type*) where
  transit : List UInt8
  buffer : List UInt8
  eof : Bool
  receiving : Option Nat
  sent : List (List UInt8)
  loaded : List (List UInt8)
  results : List (Except (Failure ε) Obj)

def State.initial : State ε Obj :=
  { transit := [], buffer := [], eof := false, receiving := none, sent := [], loaded := [],
    results := [] }

/-- A sender sends, some bytes arrive, the stream ends at the last byte that arrived, or one
of the two `read()` of `recv()` returns.
-/
inductive Event where
  | send (data : List UInt8)
  | arrive (count : Nat)
  | endStream
  | recvSize
  | recvData
deriving DecidableEq, Repr

/-- `StreamReader.read(n)` waits while it has nothing and the stream goes on, and returns what
it has, up to `n` bytes: the bytes read and those left.
-/
def State.read (state : State ε Obj) (count : Nat) : Option (List UInt8 × List UInt8) :=
  if count = 0 then some ([], state.buffer)
  else if state.buffer = [] ∧ state.eof = false then none
  else some (state.buffer.take count, state.buffer.drop count)

theorem read_eq_some_iff {state : State ε Obj} {count : Nat}
    {result : List UInt8 × List UInt8}
    : state.read count = some result
      ↔ (count = 0 ∨ state.buffer ≠ [] ∨ state.eof = true)
        ∧ result = (state.buffer.take count, state.buffer.drop count) := by
  unfold State.read
  split_ifs with zero waits
  · subst zero
    simp only [List.take_zero, List.drop_zero, Option.some.injEq, true_or, true_and]
    exact eq_comm
  · simp [zero, waits]
  · have ready : state.buffer ≠ [] ∨ state.eof = true := by
      by_contra nothing
      simp only [not_or, not_not, Bool.not_eq_true] at nothing
      exact waits nothing
    simp only [ready, or_true, true_and, Option.some.injEq]
    exact eq_comm

/-- `size.to_bytes(4)` raises `OverflowError` where the size does not fit. -/
def State.send (state : State ε Obj) (data : List UInt8) : Option (State ε Obj) :=
  if data.length < 2 ^ 32 then
    some { state with
      transit := state.transit ++ frame 4 data
      sent := state.sent ++ [data] }
  else
    none

/-- The first `read()` of `recv()`, up to its second one. -/
def State.recvSize (state : State ε Obj) : Option (State ε Obj) :=
  (state.read 4).map (fun (sizeBytes, buffer) =>
    if sizeBytes = [] then { state with buffer, results := state.results ++ [.error .eofError] }
    else { state with buffer, receiving := some (fromBytes sizeBytes) })

/-- The second `read()` of `recv()`, and `pickle.loads`. -/
def State.recvData (loads : List UInt8 → Except (Failure ε) Obj) (state : State ε Obj)
    (size : Nat)
    : Option (State ε Obj) :=
  (state.read size).map (fun (data, buffer) =>
    { state with
      buffer
      receiving := none
      loaded := state.loaded ++ [data]
      results := state.results ++ [loads data] })

def step (loads : List UInt8 → Except (Failure ε) Obj) (state : State ε Obj)
    : Event → Option (State ε Obj)
  | .send data => if state.eof then none else state.send data
  | .arrive count =>
      if 0 < count ∧ count ≤ state.transit.length then
        some { state with
          buffer := state.buffer ++ state.transit.take count
          transit := state.transit.drop count }
      else
        none
  | .endStream => if state.eof then none else some { state with eof := true, transit := [] }
  | .recvSize =>
      match state.receiving with
      | none => state.recvSize
      | some _ => none
  | .recvData =>
      match state.receiving with
      | none => none
      | some size => state.recvData loads size

end Aiodrive.Connection
