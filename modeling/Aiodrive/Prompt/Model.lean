import Aiodrive.Asyncio.Future
import Aiodrive.Transition.Runs

/-! `prompt()` of `modules/io.py`: the reader callback, one iteration of its loop after the
other, the input whose bytes come in bursts, and the coroutine at `await future`.
-/

namespace Aiodrive.Prompt

/-- `b'\n'` -/
def newline : UInt8 := 0x0A

/-- `b'\x04'` -/
def endOfTransmission : UInt8 := 0x04

/-- The exceptions that the future, or the decoding of a line, can end with. -/
inductive PromptError where
  | eofError
  | unicodeDecodeError
deriving DecidableEq, Repr

/-- `bytes.decode()`; `none` is a `UnicodeDecodeError`. -/
def decode (bytes : List UInt8) : Option String := String.fromUTF8? (ByteArray.mk bytes.toArray)

/-- The input, with the bytes that came and were not read, the bursts that are still to come, and
whether its end has been reached; the variables of `prompt()`; whether the callback is in its loop;
and the outcome of the coroutine once it has ended.
-/
structure State where
  available : List UInt8
  coming : List (List UInt8)
  atEnd : Bool
  result : List UInt8
  future : FutureState PromptError String
  written : List UInt8
  inCallback : Bool
  outcome : Option (Outcome PromptError String)
deriving DecidableEq

/-- What can happen: the next burst comes, or the end of file after the last one; the event loop
calls the callback; the callback runs its loop once; and the coroutine resumes.
-/
inductive Event where
  | arrives
  | readable
  | iterates
  | resumes
deriving DecidableEq, Repr

/-- `message.encode() + b'\n> '` -/
def header (message : String) : List UInt8 :=
  message.toUTF8.toList ++ [newline, '>'.toUInt8, ' '.toUInt8]

def State.initial (message : String) (bursts : List (List UInt8)) : State :=
  { available := [], coming := bursts, atEnd := false, result := [], future := .pending,
    written := header message, inCallback := false, outcome := none }

/-- The bytes that the callback has not read. -/
def State.unread (state : State) : List UInt8 := state.available ++ state.coming.flatten

/-- The coroutine has ended. -/
def State.ended (state : State) : Prop := state.outcome.isSome = true

/-- `input.read(1)` -/
def State.read (state : State) : Option (List UInt8) × State :=
  match state.available with
  | byte :: rest => (some [byte], { state with available := rest })
  | [] => (if state.atEnd then some [] else none, state)

/-- The body of the `while` loop. -/
def State.iterate (state : State) : State :=
  match state.read with
  | (none, state) => { state with inCallback := false }
  | (some char, state) =>
      if char = [endOfTransmission] then
        { state with
          future := .exception .eofError
          written := state.written ++ [newline]
          inCallback := false }
      else if char = [newline] then
        match decode state.result with
        | some text =>
            { state with
              written := state.written ++ char
              future := .success text
              inCallback := false }
        -- The exception goes to the event loop, which logs it
        | none => { state with written := state.written ++ char, inCallback := false }
      else
        { state with written := state.written ++ char, result := state.result ++ char }

def step (state : State) : Event → Option State
  | .arrives =>
      match state.coming with
      | burst :: rest => some { state with available := state.available ++ burst, coming := rest }
      | [] => if state.atEnd then none else some { state with atEnd := true }
  | .readable =>
      -- The wake-up of a done future comes before the next call, and removes the reader
      if state.inCallback = false ∧ state.future.done = false
          ∧ (state.available ≠ [] ∨ state.atEnd = true) then
        some { state with inCallback := true }
      else
        none
  | .iterates => if state.inCallback then some state.iterate else none
  | .resumes =>
      if state.future.done ∧ state.inCallback = false ∧ state.outcome = none then
        some { state with outcome := some state.future.result }
      else
        none

-----------------------------------------------------------------------------------------
-- The moves of a prompt
-----------------------------------------------------------------------------------------

/-- The bytes that `prompt()` ends at. -/
def isTerminator (byte : UInt8) : Bool := byte == endOfTransmission || byte == newline

/-- The steps, one constructor for each branch. -/
inductive Move (state : State) : Event → State → Prop where
  | arrives {burst : List UInt8} {rest : List (List UInt8)} (next : state.coming = burst :: rest)
    : Move state .arrives { state with available := state.available ++ burst, coming := rest }
  | ends (last : state.coming = []) (more : state.atEnd = false)
    : Move state .arrives { state with atEnd := true }
  | calls (idle : state.inCallback = false) (pending : state.future.done = false)
    (ready : state.available ≠ [] ∨ state.atEnd = true)
    : Move state .readable { state with inCallback := true }
  | breaks (called : state.inCallback = true) (none : state.available = [])
    (more : state.atEnd = false)
    : Move state .iterates { state with inCallback := false }
  /-- `b''` is neither of the terminators and adds nothing to `result`. -/
  | spins (called : state.inCallback = true) (none : state.available = [])
    (atEnd : state.atEnd = true)
    : Move state .iterates state
  | reads {byte : UInt8} {rest : List UInt8} (called : state.inCallback = true)
    (first : state.available = byte :: rest) (plain : isTerminator byte = false)
    : Move state .iterates
        { state with
          available := rest
          written := state.written ++ [byte]
          result := state.result ++ [byte] }
  | leaves {rest : List UInt8} (called : state.inCallback = true)
    (first : state.available = endOfTransmission :: rest)
    : Move state .iterates
        { state with
          available := rest
          future := .exception .eofError
          written := state.written ++ [newline]
          inCallback := false }
  | returns {rest : List UInt8} {text : String} (called : state.inCallback = true)
    (first : state.available = newline :: rest) (decoded : decode state.result = some text)
    : Move state .iterates
        { state with
          available := rest
          written := state.written ++ [newline]
          future := .success text
          inCallback := false }
  | fails {rest : List UInt8} (called : state.inCallback = true)
    (first : state.available = newline :: rest) (undecodable : decode state.result = none)
    : Move state .iterates
        { state with
          available := rest
          written := state.written ++ [newline]
          inCallback := false }
  | resumes (done : state.future.done = true) (idle : state.inCallback = false)
    (awaiting : state.outcome = none)
    : Move state .resumes { state with outcome := some state.future.result }

/-- An iteration that has a byte to read. -/
theorem move_iterate_cons {state : State} (called : state.inCallback = true) {byte : UInt8}
    {rest : List UInt8} (first : state.available = byte :: rest)
    : Move state .iterates state.iterate := by
  have read : state.read = (some [byte], { state with available := rest }) := by
    simp [State.read, first]
  simp only [State.iterate, read, List.cons.injEq, and_true]
  split
  · rename_i leaves
    exact .leaves called (leaves ▸ first)
  · rename_i stays
    split
    · rename_i ends
      subst ends
      split
      · rename_i text decoded
        exact .returns called first decoded
      · rename_i undecodable
        exact .fails called first undecodable
    · rename_i plain
      exact .reads called first (by simp [isTerminator, stays, plain])

/-- An iteration that has none. -/
theorem move_iterate_nil {state : State} (called : state.inCallback = true)
    (none : state.available = [])
    : Move state .iterates state.iterate := by
  cases atEnd : state.atEnd with
  | false =>
      have read : state.read = (Option.none, state) := by simp [State.read, none, atEnd]
      simp only [State.iterate, read]
      exact .breaks called none atEnd
  | true =>
      have read : state.read = (some [], state) := by simp [State.read, none, atEnd]
      have same : state.iterate = state := by simp [State.iterate, read]
      rw [same]
      exact .spins called none atEnd

/-- Every step is one of the moves. -/
theorem move_of_step {state next : State} {event : Event} (stepped : step state event = some next)
    : Move state event next := by
  cases event with
  | arrives =>
      simp only [step] at stepped
      split at stepped
      · rename_i burst rest coming
        exact Option.some.inj stepped ▸ .arrives coming
      · rename_i last
        obtain ⟨more, same⟩ := Option.ite_none_left_eq_some.mp stepped
        exact Option.some.inj same ▸ .ends last (by simpa using more)
  | readable =>
      obtain ⟨⟨idle, pending, ready⟩, same⟩ := Option.ite_none_right_eq_some.mp stepped
      exact Option.some.inj same ▸ .calls idle pending ready
  | iterates =>
      obtain ⟨called, same⟩ := Option.ite_none_right_eq_some.mp stepped
      obtain rfl := Option.some.inj same
      cases here : state.available with
      | nil => exact move_iterate_nil called here
      | cons byte rest => exact move_iterate_cons called here
  | resumes =>
      obtain ⟨⟨done, idle, awaiting⟩, same⟩ := Option.ite_none_right_eq_some.mp stepped
      exact Option.some.inj same ▸ .resumes done idle awaiting

end Aiodrive.Prompt
