import Aiodrive.Prompt.Model
import Mathlib.Data.List.TakeWhile

/-! Which streams `prompt()` reads a line from. A line that cannot be decoded leaves its future
pending, and at the end of the file the callback stays in its loop.
-/

namespace Aiodrive.Prompt

-----------------------------------------------------------------------------------------
-- What a stream holds
-----------------------------------------------------------------------------------------

/-- The first newline or byte 0x04. -/
def terminator? (bytes : List UInt8) : Option UInt8 := bytes.find? isTerminator

/-- The bytes before it. -/
def line (bytes : List UInt8) : List UInt8 := bytes.takeWhile (fun byte => !isTerminator byte)

/-- How `prompt()` is to end: with the line, with the error of decoding it, or with `EOFError` where
there is no newline before byte 0x04 or the end of the stream.
-/
def lineOutcome (bytes : List UInt8) : Outcome PromptError String :=
  if terminator? bytes = some newline then
    match decode (line bytes) with
    | some text => .returned text
    | none => .raised (.exception .unicodeDecodeError)
  else
    .raised (.exception .eofError)

/-- A newline or byte 0x04 comes before the end of the stream, and if it is a newline, the bytes
before it are valid UTF-8.
-/
def Readable (bytes : List UInt8) : Prop :=
  terminator? bytes = some endOfTransmission
  ∨ terminator? bytes = some newline ∧ (ByteArray.mk (line bytes).toArray).IsValidUTF8

theorem decode_eq_none_iff {bytes : List UInt8}
    : decode bytes = none ↔ ¬(ByteArray.mk bytes.toArray).IsValidUTF8 := by
  simp [decode, String.fromUTF8?]

/-- A stream up to its first terminator. -/
theorem terminator?_append {before after : List UInt8} {byte : UInt8}
    (plain : ∀ byte ∈ before, isTerminator byte = false) (ends : isTerminator byte = true)
    : terminator? (before ++ byte :: after) = some byte := by
  have none : before.find? isTerminator = none :=
    List.find?_eq_none.mpr (fun byte member => by simp [plain byte member])
  simp [terminator?, List.find?_append, none, ends]

theorem line_append {before after : List UInt8} {byte : UInt8}
    (plain : ∀ byte ∈ before, isTerminator byte = false) (ends : isTerminator byte = true)
    : line (before ++ byte :: after) = before := by
  rw [line, List.takeWhile_append_of_pos (fun byte member => by simp [plain byte member])]
  simp [ends]

theorem terminator?_eq_none {bytes : List UInt8}
    (plain : ∀ byte ∈ bytes, isTerminator byte = false)
    : terminator? bytes = none :=
  List.find?_eq_none.mpr (fun byte member => by simp [plain byte member])

/-- The terminator of a stream is one of the two. -/
theorem terminator_cases {bytes : List UInt8} {byte : UInt8} (first : terminator? bytes = some byte)
    : byte = endOfTransmission ∨ byte = newline := by
  have ends := List.find?_some first
  simpa [isTerminator] using ends

/-- A readable stream has a terminator, and a newline only after bytes that can be decoded. -/
theorem readable_iff {bytes : List UInt8}
    : Readable bytes
      ↔ ∃ byte,
          terminator? bytes = some byte ∧ (byte = newline → decode (line bytes) ≠ none) := by
  have distinct : endOfTransmission ≠ newline := by decide
  constructor
  · rintro (left | ⟨ends, valid⟩)
    · exact ⟨_, left, fun same => absurd same distinct⟩
    · exact ⟨_, ends, fun _ undecodable => decode_eq_none_iff.mp undecodable valid⟩
  · rintro ⟨byte, first, decodable⟩
    rcases terminator_cases first with rfl | rfl
    · exact .inl first
    · exact .inr ⟨first, not_not.mp (fun invalid => decodable rfl (decode_eq_none_iff.mpr invalid))⟩

-----------------------------------------------------------------------------------------
-- Up to the terminator
-----------------------------------------------------------------------------------------

/-- The prompt has read a part of the stream that holds no terminator, and echoed it. -/
structure Reading (message : String) (bytes : List UInt8) (state : State) : Prop where
  pending : state.future = .pending
  awaiting : state.outcome = none
  split : bytes = state.result ++ state.unread
  plain : ∀ byte ∈ state.result, isTerminator byte = false
  written : state.written = header message ++ state.result
  atEnd : state.atEnd = true → state.coming = []

/-- The future is done with what the stream calls for, and so is the coroutine if it has ended.
Either way the output is left on a new line.
-/
structure Settled (message : String) (bytes : List UInt8) (state : State) : Prop where
  done : state.future.done = true
  result : state.future.result = lineOutcome bytes
  left : state.inCallback = false
  outcome : ∀ outcome, state.outcome = some outcome → outcome = lineOutcome bytes
  written : state.written = header message ++ line bytes ++ [newline]

theorem reading_initial (message : String) (bursts : List (List UInt8))
    : Reading message bursts.flatten (.initial message bursts) where
  pending := rfl
  awaiting := rfl
  split := rfl
  plain := nofun
  written := by simp [State.initial]
  atEnd := nofun

section

variable {message : String} {bytes : List UInt8} {state next : State} {event : Event}

/-- What has been read when a terminator comes. -/
theorem Reading.terminator (reading : Reading message bytes state) {byte : UInt8}
    {rest : List UInt8} (first : state.available = byte :: rest)
    (ends : isTerminator byte = true)
    : terminator? bytes = some byte ∧ line bytes = state.result := by
  have split : bytes = state.result ++ byte :: (rest ++ state.coming.flatten) := by
    rw [reading.split, State.unread, first, List.cons_append]
  rw [split]
  exact ⟨terminator?_append reading.plain ends, line_append reading.plain ends⟩

/-- At the end of the file a prompt that has found no terminator has read a stream without one. -/
theorem Reading.terminator?_at_end (reading : Reading message bytes state)
    (none : state.available = []) (atEnd : state.atEnd = true)
    : terminator? bytes = Option.none := by
  have split : bytes = state.result := by
    rw [reading.split, State.unread, none, reading.atEnd atEnd]
    simp
  exact terminator?_eq_none (split ▸ reading.plain)

/-- One step goes on reading or comes to a terminator, and past it to the outcome unless there the
line is not valid.
-/
theorem Reading.step (reading : Reading message bytes state)
    (stepped : Prompt.step state event = some next)
    : Reading message bytes next
      ∨ terminator? bytes ≠ none ∧ (Readable bytes → Settled message bytes next) := by
  cases move_of_step stepped with
  | @arrives burst rest coming =>
      refine .inl { reading with split := ?_, atEnd := fun atEnd => ?_ }
      · rw [reading.split, State.unread, State.unread, coming, List.flatten_cons,
          List.append_assoc]
      · have last := reading.atEnd atEnd
        rw [coming] at last
        contradiction
  | ends last more => exact .inl { reading with atEnd := fun _ => last }
  | calls idle pending ready => exact .inl { reading with }
  | breaks called none more => exact .inl { reading with }
  | spins called none atEnd => exact .inl reading
  | @reads byte rest called first plain =>
      refine .inl { reading with split := ?_, plain := ?_, written := ?_ }
      · rw [reading.split, State.unread, State.unread, first, List.append_assoc]
        rfl
      · exact List.forall_mem_append.mpr ⟨reading.plain, by simpa using plain⟩
      · rw [reading.written, List.append_assoc]
  | leaves called first =>
      obtain ⟨ends, read⟩ := reading.terminator first rfl
      have distinct : endOfTransmission ≠ newline := by decide
      refine .inr ⟨by simp [ends], fun _ => ⟨rfl, ?_, rfl, ?_, ?_⟩⟩
      · simp [lineOutcome, ends, distinct, FutureState.result]
      · simp [reading.awaiting]
      · rw [read, reading.written]
  | @returns rest text called first decoded =>
      obtain ⟨ends, read⟩ := reading.terminator first rfl
      refine .inr ⟨by simp [ends], fun _ => ⟨rfl, ?_, rfl, ?_, ?_⟩⟩
      · simp [lineOutcome, ends, read, decoded, FutureState.result]
      · simp [reading.awaiting]
      · rw [read, reading.written]
  | fails called first undecodable =>
      obtain ⟨ends, read⟩ := reading.terminator first rfl
      refine .inr ⟨by simp [ends], fun readable => ?_⟩
      obtain ⟨byte, found, decodable⟩ := readable_iff.mp readable
      obtain rfl := Option.some.inj (ends.symm.trans found)
      exact absurd (read ▸ undecodable) (decodable rfl)
  | resumes done idle awaiting => simp [reading.pending] at done

/-- A settled prompt stays settled. -/
theorem Settled.step (settled : Settled message bytes state)
    (stepped : Prompt.step state event = some next)
    : Settled message bytes next := by
  have left := settled.left
  cases move_of_step stepped with
  | arrives coming => exact { settled with }
  | ends last more => exact { settled with }
  | calls idle pending ready => simp [settled.done] at pending
  | resumes done idle awaiting =>
      exact { settled with outcome := fun _ same => Option.some.inj same ▸ settled.result }
  | breaks called | spins called | reads called | leaves called | returns called
  | fails called => simp [left] at called

end

/-- What holds of every prompt on a readable stream. -/
def Sound (message : String) (bytes : List UInt8) (state : State) : Prop :=
  Reading message bytes state ∨ Settled message bytes state

theorem Sound.step {message : String} {bytes : List UInt8} {state next : State} {event : Event}
    (readable : Readable bytes) (sound : Sound message bytes state)
    (stepped : Prompt.step state event = some next)
    : Sound message bytes next := by
  rcases sound with reading | settled
  · rcases reading.step stepped with reading | ⟨_, settled⟩
    · exact .inl reading
    · exact .inr (settled readable)
  · exact .inr (settled.step stepped)

-----------------------------------------------------------------------------------------
-- Termination
-----------------------------------------------------------------------------------------

/-- The calls of the callback that the bytes at hand, or the lack of them, still make. -/
def State.callbackSteps (state : State) : Nat :=
  match state.inCallback, state.available with
  | false, _ => 1
  | true, [] => 2
  | true, _ :: _ => 0

/-- The steps that are left at most. Reading a byte can lead to a call that finds none. -/
def State.remaining (state : State) : Nat :=
  3 * state.unread.length + state.coming.length + (if state.atEnd then 0 else 1)
    + (if state.outcome.isSome then 0 else 1) + state.callbackSteps

theorem callbackSteps_le (state : State) : state.callbackSteps ≤ 2 := by
  unfold State.callbackSteps
  split <;> simp

/-- More bytes at hand do not lead to more calls. -/
theorem callbackSteps_append_le (state : State) (burst : List UInt8)
    (rest : List (List UInt8))
    : { state with available := state.available ++ burst, coming := rest }.callbackSteps
      ≤ state.callbackSteps := by
  cases called : state.inCallback with
  | false => simp [State.callbackSteps, called]
  | true =>
      cases here : state.available with
      | nil => cases burst <;> simp [State.callbackSteps, called, here]
      | cons byte rest => simp [State.callbackSteps, called, here]

/-- On a readable stream every step leaves fewer. -/
theorem remaining_lt {message : String} {bytes : List UInt8} {state next : State}
    {event : Event} (readable : Readable bytes) (sound : Sound message bytes state)
    (stepped : step state event = some next)
    : next.remaining < state.remaining := by
  have unended (none : state.available = []) (atEnd : state.atEnd = true)
      (called : state.inCallback = true ∨ state.future.done = false)
      : False := by
    rcases sound with reading | settled
    · obtain ⟨byte, found, -⟩ := readable_iff.mp readable
      rw [reading.terminator?_at_end none atEnd] at found
      contradiction
    · simp [settled.left, settled.done] at called
  cases move_of_step stepped with
  | @arrives burst rest coming =>
      have calls := callbackSteps_append_le state burst rest
      have same : (state.available ++ burst ++ rest.flatten).length = state.unread.length := by
        simp [State.unread, coming]
      simp only [State.remaining, State.unread, coming, List.length_cons] at calls same ⊢
      rw [same]
      omega
  | ends last more =>
      have calls : { state with atEnd := true }.callbackSteps = state.callbackSteps := rfl
      simp only [State.remaining, State.unread, more] at calls ⊢
      simp only [calls, ite_true, Bool.false_eq_true, ite_false]
      omega
  | calls idle pending ready =>
      cases here : state.available with
      | nil =>
          have atEnd : state.atEnd = true := by simpa [here] using ready
          exact (unended here atEnd (.inr pending)).elim
      | cons byte rest =>
          simp [State.remaining, State.unread, State.callbackSteps, here, idle]
  | breaks called none more =>
      simp [State.remaining, State.unread, State.callbackSteps, none, called]
  | spins called none atEnd => exact (unended none atEnd (.inl called)).elim
  | @reads byte rest called first plain =>
      have calls := callbackSteps_le
        { state with
          available := rest
          written := state.written ++ [byte]
          result := state.result ++ [byte] }
      simp only [State.remaining, State.unread, first, List.length_append, List.length_cons]
        at calls ⊢
      omega
  | leaves called first | returns called first | fails called first =>
      simp only [State.remaining, State.unread, State.callbackSteps, first, called,
        List.length_append, List.length_cons]
      omega
  | resumes done idle awaiting =>
      simp [State.remaining, State.unread, State.callbackSteps, idle, awaiting]

/-- Every reachable prompt on a readable stream is sound, by induction on the events. -/
theorem run_sound {message : String} {bursts : List (List UInt8)} {events : List Event}
    {final : State} (readable : Readable bursts.flatten)
    (reached : Transition.run step (.initial message bursts) events = some final)
    : Sound message bursts.flatten final :=
  Transition.run_preserves (fun _ _ _ sound stepped => Sound.step readable sound stepped)
    (.inl (reading_initial message bursts)) reached

/-- A prompt that has ended has settled. -/
theorem Sound.settled {message : String} {bytes : List UInt8} {state : State}
    (sound : Sound message bytes state) (ended : state.ended)
    : Settled message bytes state := by
  rcases sound with reading | settled
  · simp [State.ended, reading.awaiting] at ended
  · exact settled

/-- A prompt that reads its line echoes it, and leaves the output on a new line even where the line
ends at byte 0x04.
-/
theorem written_of_ended {message : String} {bursts : List (List UInt8)} {events : List Event}
    {final : State} (readable : Readable bursts.flatten)
    (reached : Transition.run step (.initial message bursts) events = some final)
    (ended : final.ended)
    : final.written = header message ++ line bursts.flatten ++ [newline] :=
  ((run_sound readable reached).settled ended).written

-----------------------------------------------------------------------------------------
-- The other streams
-----------------------------------------------------------------------------------------

/-- The callback sets no decoding error. -/
def Undecoded (state : State) : Prop :=
  state.future.result ≠ .raised (.exception .unicodeDecodeError)
  ∧ state.outcome ≠ some (.raised (.exception .unicodeDecodeError))

theorem Undecoded.step {state next : State} {event : Event} (undecoded : Undecoded state)
    (stepped : Prompt.step state event = some next)
    : Undecoded next := by
  obtain ⟨future, outcome⟩ := undecoded
  cases move_of_step stepped with
  | arrives | ends | calls | breaks | spins | reads | fails => exact ⟨future, outcome⟩
  | leaves | returns => exact ⟨by simp [FutureState.result], outcome⟩
  | resumes done idle awaiting => exact ⟨future, by simpa using future⟩

end Aiodrive.Prompt
