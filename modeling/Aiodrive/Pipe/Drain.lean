import Aiodrive.Pipe.Copy

/-! What `await destination.drain()` is for: how much `pipe()` leaves its destination to send,
and that the call ends once the source has.
-/

namespace Aiodrive.Pipe

variable {limits : WriteLimits} {chunkSize : Int}

-----------------------------------------------------------------------------------------
-- How much is left to send
-----------------------------------------------------------------------------------------

/-- Where the next chunk is written with no further `drain()`. -/
def Place.beforeWrite : Place → Bool
  | reading | awaitingData _ | awaitingDrain (.success _) => true
  | draining | yielding _ | awaitingDrain _ | ended _ => false

/-- What is left to send goes past a bound by one chunk, and is within it before the next one. -/
structure Pressed (bound chunk : Nat) (state : State limits) : Prop where
  within : state.destination.unsent ≤ bound + chunk
  before
    : state.place.beforeWrite = true
      → state.destination.connection.sends = true
      → state.destination.unsent ≤ bound

variable {bound chunk : Nat} {state : State limits}

theorem unsent_write (writer : StreamWriter limits) (length : Nat) (sent : Option Nat)
    : (writer.write length sent).unsent ≤ writer.unsent + length := by
  simp only [StreamWriter.write]
  split
  · split
    · simp only [StreamWriter.unsentAfter]
      split <;> omega
    · exact Nat.le_add_right _ _
  · exact Nat.le_add_right _ _

theorem unsent_write_of_shut {writer : StreamWriter limits} (length : Nat) (sent : Option Nat)
    (shut : ¬writer.takes = true)
    : (writer.write length sent).unsent = writer.unsent := by
  rw [StreamWriter.write, dif_neg shut]

/-- A call that moves on without its destination. -/
theorem Pressed.moves (pressed : Pressed bound chunk state) (source : StreamReader)
    (blocks : List UInt8) {place : Place}
    (before : place.beforeWrite = true → state.place.beforeWrite = true)
    : Pressed bound chunk { state with source, blocks, place } where
  within := pressed.within
  before here := pressed.before (before here)

theorem Pressed.raise (pressed : Pressed bound chunk state) (error : Raised StreamError)
    : Pressed bound chunk (state.raise error) :=
  pressed.moves state.source state.blocks (by simp [Place.beforeWrite])

theorem Pressed.deliver (pressed : Pressed bound chunk state)
    (here : state.place.beforeWrite = true) {data : List UInt8} (sent : Option Nat)
    (short : data.length ≤ chunk)
    : Pressed bound chunk (state.deliver data sent) := by
  unfold State.deliver
  split
  · exact pressed.moves state.source state.blocks
      (by simp [Place.beforeWrite])
  · split
    · exact ⟨pressed.within, by simp [Place.beforeWrite]⟩
    · refine ⟨?_, by simp [Place.beforeWrite]⟩
      by_cases takes : state.destination.takes = true
      · have before := pressed.before here (StreamWriter.sends_of_takes takes)
        have more := unsent_write state.destination data.length sent
        dsimp only
        omega
      · simpa [unsent_write_of_shut data.length sent takes] using pressed.within

theorem Pressed.take (pressed : Pressed bound chunkSize.toNat state)
    (here : state.place.beforeWrite = true) (positive : 0 ≤ chunkSize) (sent : Option Nat)
    : Pressed bound chunkSize.toNat (state.take chunkSize sent) := by
  simp only [State.take, positive, ↓reduceIte]
  apply Pressed.deliver
  · exact pressed.moves _ _ id
  · exact here
  · exact List.length_take_le _ _

theorem Pressed.read (pressed : Pressed bound chunkSize.toNat state)
    (here : state.place.beforeWrite = true) (positive : 0 ≤ chunkSize) (sent : Option Nat)
    : Pressed bound chunkSize.toNat (state.read chunkSize sent) := by
  unfold State.read
  split
  · exact pressed.raise _
  · split
    · exact pressed.deliver here sent (by simp)
    · split
      · exact pressed.moves state.source state.blocks fun _ => here
      · exact pressed.take here positive sent

/-- A transport that has not paused its protocol has little to send. -/
theorem StreamWriter.unsent_le_high {writer : StreamWriter limits}
    (sends : writer.connection.sends = true) (ready : writer.paused = false)
    : writer.unsent ≤ limits.high := by
  by_contra above
  have paused := writer.paused_of_high sends (by omega)
  simp [ready] at paused

theorem Pressed.drainHelper (pressed : Pressed bound chunk state) (high_le : limits.high ≤ bound)
    : Pressed bound chunk state.drainHelper := by
  unfold State.drainHelper
  split
  · exact pressed.raise _
  · split
    · exact pressed.moves state.source state.blocks
        (by simp [Place.beforeWrite])
    · rename_i ready
      refine ⟨pressed.within, fun _ sends => ?_⟩
      exact Nat.le_trans (StreamWriter.unsent_le_high sends (by simpa using ready)) high_le

theorem Pressed.drain (pressed : Pressed bound chunk state) (high_le : limits.high ≤ bound)
    : Pressed bound chunk state.drain := by
  unfold State.drain
  split
  · exact pressed.raise _
  · split
    · exact pressed.drainHelper high_le
    · exact pressed.moves state.source state.blocks
        (by simp [Place.beforeWrite])

theorem Pressed.goOn {next : State limits} {sent : Option Nat}
    (pressed : Pressed bound chunkSize.toNat state) (positive : 0 ≤ chunkSize)
    (high_le : limits.high ≤ bound) (went : state.goOn chunkSize sent = some next)
    : Pressed bound chunkSize.toNat next := by
  unfold State.goOn at went
  split at went <;> cases went
  case h_1 here => exact pressed.read (by simp [here, Place.beforeWrite]) positive sent
  case h_2 here => exact pressed.take (by simp [here, Place.beforeWrite]) positive sent
  case h_3 => exact pressed.drain high_le
  case h_4 => exact pressed.drainHelper high_le
  case h_5 here =>
    exact pressed.moves state.source state.blocks
      fun _ => by simp [here, Place.beforeWrite]
  all_goals exact pressed.raise _

theorem beforeWrite_wakeReader (place : Place) (result : FutureState StreamError Unit)
    : (place.wakeReader result).beforeWrite = place.beforeWrite := by
  unfold Place.wakeReader
  split <;> rfl

theorem beforeWrite_of_cancel {place : Place} (before : place.cancel.beforeWrite = true)
    : place.beforeWrite = true := by
  cases place with
  | reading | awaitingData => rfl
  | draining | yielding | awaitingDrain | ended => contradiction

theorem unsent_flush_le (writer : StreamWriter limits) (count : Nat)
    : (writer.flush count).unsent ≤ writer.unsent := by
  unfold StreamWriter.flush
  split
  · exact Nat.zero_le _
  · exact Nat.sub_le _ _

theorem sends_of_flush {writer : StreamWriter limits} {count : Nat}
    (sends : (writer.flush count).connection.sends = true)
    : writer.connection.sends = true := by
  unfold StreamWriter.flush at sends
  split at sends
  · contradiction
  · exact sends

/-- A transport that is closed has no more to send than before. -/
theorem unsent_close (writer : StreamWriter limits) : writer.close.unsent = writer.unsent := by
  unfold StreamWriter.close
  split
  · split <;> rfl
  · rfl

theorem sends_of_close {writer : StreamWriter limits}
    (sends : writer.close.connection.sends = true)
    : writer.connection.sends = true := by
  by_cases isOpen : writer.connection = .opened
  · simp [isOpen, Connection.sends]
  · simpa [StreamWriter.close, isOpen] using sends

theorem unsent_writeEof (writer : StreamWriter limits)
    : writer.writeEof.unsent = writer.unsent := by
  unfold StreamWriter.writeEof
  split
  · rfl
  · exact unsent_close writer

theorem sends_of_writeEof {writer : StreamWriter limits}
    (sends : writer.writeEof.connection.sends = true)
    : writer.connection.sends = true := by
  unfold StreamWriter.writeEof at sends
  split at sends
  · exact sends
  · exact sends_of_close sends

/-- A destination that has no more to send, and sends only if it did. -/
theorem Pressed.eases (pressed : Pressed bound chunk state) {destination : StreamWriter limits}
    (fewer : destination.unsent ≤ state.destination.unsent)
    (sent : destination.connection.sends = true → state.destination.connection.sends = true)
    : Pressed bound chunk { state with destination } where
  within := Nat.le_trans fewer pressed.within
  before before sends := Nat.le_trans fewer (pressed.before before (sent sends))

theorem Pressed.flush (pressed : Pressed bound chunk state) (high_le : limits.high ≤ bound)
    (count : Nat)
    : Pressed bound chunk (state.flush count) := by
  constructor
  · exact Nat.le_trans (unsent_flush_le _ _) pressed.within
  · intro before sends
    cases paused : (state.destination.flush count).paused with
    | true =>
        simp only [State.flush, paused, ↓reduceIte] at before
        exact Nat.le_trans (unsent_flush_le _ _) (pressed.before before (sends_of_flush sends))
    | false => exact Nat.le_trans (StreamWriter.unsent_le_high sends paused) high_le

theorem Pressed.apply (pressed : Pressed bound chunk state) (high_le : limits.high ≤ bound)
    (event : Event)
    : Pressed bound chunk (state.apply event) := by
  cases event with
  | feeds | feedsEof | fails =>
      exact pressed.moves _ state.blocks fun before =>
        (beforeWrite_wakeReader _ _).symm.trans before
  | cancels =>
      exact pressed.moves state.source state.blocks beforeWrite_of_cancel
  | flushes count => exact pressed.flush high_le count
  | writesEof => exact pressed.eases (Nat.le_of_eq (unsent_writeEof _)) sends_of_writeEof
  | closes => exact pressed.eases (Nat.le_of_eq (unsent_close _)) sends_of_close
  | aborts => exact ⟨Nat.zero_le _, fun _ sends => by contradiction⟩
  | loses exception => exact ⟨pressed.within, fun _ sends => by contradiction⟩
  | readerFails | goesOn => exact ⟨pressed.within, pressed.before⟩

/-- In every order of events the destination is left with no more to send than one chunk above its
high limit, or above what it had to send before the call.
-/
theorem pipe_drains {source : StreamReader} {destination : StreamWriter limits}
    {events : List Event} {final : State limits} (positive : 0 ≤ chunkSize)
    (reached
      : Transition.run (step chunkSize) (State.initial source destination) events = some final)
    : final.destination.unsent ≤ max destination.unsent limits.high + chunkSize.toNat := by
  have start
      : Pressed (max destination.unsent limits.high) chunkSize.toNat
          (State.initial source destination) :=
    ⟨Nat.le_trans (Nat.le_max_left _ _) (Nat.le_add_right _ _), fun _ _ => Nat.le_max_left _ _⟩
  refine (Transition.run_preserves ?_ start reached).within
  intro state event next pressed stepped
  have high_le := Nat.le_max_right destination.unsent limits.high
  rcases step_cases stepped with ⟨sent, rfl, went⟩ | ⟨-, -, rfl⟩
  · exact pressed.goOn positive high_le went
  · exact pressed.apply high_le event

/-- A chunk of three bytes that an idle destination cannot send yet. -/
theorem pipe_drains_oneChunk
    : ∃ final : State .zero,
        Transition.run (step 3)
            (State.initial (.holding 4 (Nat.zero_lt_succ 3) [1, 2, 3, 4]) (.idle .pipe .zero))
            [.goesOn (some 0), .goesOn none]
          = some final
        ∧ final.place = .awaitingDrain .pending
        ∧ final.destination.unsent ≤ 3 := by
  have reached
      : Transition.run (step 3)
          (State.initial (.holding 4 (Nat.zero_lt_succ 3) [1, 2, 3, 4]) (.idle .pipe .zero)
            : State .zero)
          [.goesOn (some 0), .goesOn none]
        = some _ :=
    rfl
  exact ⟨_, reached, rfl, pipe_drains (by decide) reached⟩

end Aiodrive.Pipe
