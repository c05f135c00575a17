import Aiodrive.Pipe.Drain

/-! `pipe()` comes to an end once its source has. -/

namespace Aiodrive.Pipe

variable {limits : WriteLimits} {chunkSize : Int}

-----------------------------------------------------------------------------------------
-- What is left to do
-----------------------------------------------------------------------------------------

/-- The steps of one turn of the loop, from a place on. -/
def Place.stepsLeft : Place → Nat
  | draining => 5
  | yielding _ => 4
  | awaitingDrain .pending => 3
  | awaitingDrain _ | awaitingData _ => 2
  | reading => 1
  | ended _ => 0

/-- How often a connection can still change. -/
def Connection.stepsLeft : Connection → Nat
  | .opened => 3
  | .flushing => 2
  | .closing => 1
  | .lost _ => 0

/-- What can happen to the bytes that are on their way: one in the source is held in a block,
given to the destination, and sent.
-/
def State.onTheWay (state : State limits) : Nat :=
  7 * state.source.buffer.length + 6 * state.blocks.length + state.destination.unsent
    + Connection.stepsLeft state.destination.connection + (!state.destination.eof).toNat
    + (!state.source.failed).toNat + (!state.destination.readerFailed).toNat

def State.stepsLeft (state : State limits) : Nat :=
  state.onTheWay + state.place.stepsLeft

theorem connection_write (writer : StreamWriter limits) (length : Nat) (sent : Option Nat)
    : (writer.write length sent).readerFailed = writer.readerFailed
      ∧ (writer.write length sent).eof = writer.eof
      ∧ (Connection.stepsLeft (writer.write length sent).connection
        ≤ Connection.stepsLeft writer.connection) := by
  simp only [StreamWriter.write]
  split
  · rename_i takes
    have sends := StreamWriter.sends_of_takes takes
    split
    · simp
    · cases connection : writer.connection <;>
        simp [connection, Connection.sends, Connection.stepsLeft] at sends ⊢
  · simp

variable {state : State limits}

/-- A chunk is given to the destination, or the call ends. -/
theorem stepsLeft_deliver (state : State limits) (chunk : List UInt8) (sent : Option Nat)
    : (state.deliver chunk sent).stepsLeft
      ≤ state.onTheWay + 6 * chunk.length := by
  unfold State.deliver
  split
  · exact Nat.le_add_right _ _
  · rename_i nonempty
    split
    · exact Nat.le_add_right _ _
    · have written := unsent_write state.destination chunk.length sent
      obtain ⟨readerFailed, eof, connection⟩ := connection_write state.destination chunk.length sent
      have some_byte : 0 < chunk.length := List.length_pos_iff.mpr (by simpa using nonempty)
      simp only [State.stepsLeft, State.onTheWay, Place.stepsLeft, readerFailed, eof]
      omega

theorem stepsLeft_take (state : State limits) (sent : Option Nat)
    : (state.take chunkSize sent).stepsLeft ≤ state.onTheWay := by
  unfold State.take
  split
  · refine Nat.le_trans (stepsLeft_deliver _ _ sent) ?_
    simp only [State.onTheWay, StreamReader.discard, List.length_drop, List.length_take]
    omega
  · split
    · refine Nat.le_trans (stepsLeft_deliver _ _ sent) ?_
      simp only [State.onTheWay, List.length_nil]
      omega
    · rename_i nonempty
      have some_byte : 0 < state.source.buffer.length :=
        List.length_pos_iff.mpr (by simpa using nonempty)
      have limit_pos := state.source.limit_pos
      simp only [State.stepsLeft, State.onTheWay, Place.stepsLeft, StreamReader.discard,
        List.length_append, List.length_drop, List.length_take]
      omega

theorem stepsLeft_raise (state : State limits) (error : Raised StreamError)
    : (state.raise error).stepsLeft = state.onTheWay :=
  rfl

theorem stepsLeft_read (state : State limits) (sent : Option Nat)
    (fed : state.source.starved = false)
    : (state.read chunkSize sent).stepsLeft ≤ state.onTheWay := by
  unfold State.read
  split
  · exact Nat.le_of_eq (stepsLeft_raise state _)
  · split
    · exact stepsLeft_deliver state [] sent
    · simp only [fed, Bool.false_eq_true, ↓reduceIte]
      exact stepsLeft_take state sent

theorem stepsLeft_drainHelper (state : State limits)
    : state.drainHelper.stepsLeft ≤ state.onTheWay + 3 := by
  unfold State.drainHelper
  split
  · exact Nat.le_add_right _ _
  · split
    · exact Nat.le_refl _
    · exact Nat.add_le_add_left (show 1 ≤ 3 by decide) state.onTheWay

theorem stepsLeft_drain (state : State limits)
    : state.drain.stepsLeft ≤ state.onTheWay + 4 := by
  unfold State.drain
  split
  · exact Nat.le_add_right _ _
  · split
    · exact Nat.le_trans (stepsLeft_drainHelper state) (Nat.add_le_add_left (by decide) _)
    · exact Nat.le_refl _

-----------------------------------------------------------------------------------------
-- Whoever waits will be told
-----------------------------------------------------------------------------------------

/-- A call waits for data only before the end of the source, and for the destination to drain only
where the transport has paused its protocol and is not lost yet.
-/
structure Hanging (state : State limits) : Prop where
  data : state.place = .awaitingData .pending → state.source.eof = false
  drain
    : state.place = .awaitingDrain .pending
      → state.destination.connection.isLost = false ∧ state.destination.paused = true

theorem Hanging.of_place {place : Place} (here : state.place = place)
    (data : place ≠ .awaitingData .pending) (drain : place ≠ .awaitingDrain .pending)
    : Hanging state :=
  ⟨fun same => absurd (here.symm.trans same) data, fun same => absurd (here.symm.trans same) drain⟩

theorem hanging_raise (state : State limits) (error : Raised StreamError)
    : Hanging (state.raise error) :=
  .of_place (rfl : _ = Place.ended (.raised error)) (by simp) (by simp)

theorem hanging_deliver (state : State limits) (chunk : List UInt8) (sent : Option Nat)
    : Hanging (state.deliver chunk sent) := by
  unfold State.deliver
  split
  · exact .of_place rfl (by simp) (by simp)
  · split
    all_goals exact .of_place rfl (by simp) (by simp)

theorem hanging_take (state : State limits) (sent : Option Nat)
    : Hanging (state.take chunkSize sent) := by
  unfold State.take
  split
  · exact hanging_deliver _ _ sent
  · split
    · exact hanging_deliver _ _ sent
    · exact .of_place rfl (by simp) (by simp)

theorem hanging_read (state : State limits) (sent : Option Nat)
    : Hanging (state.read chunkSize sent) := by
  unfold State.read
  split
  · exact hanging_raise state _
  · split
    · exact hanging_deliver state [] sent
    · split
      · rename_i starved
        refine ⟨fun _ => ?_, by simp⟩
        simpa using (Bool.and_eq_true_iff.mp starved).2
      · exact hanging_take state sent

theorem hanging_drainHelper (state : State limits) : Hanging state.drainHelper := by
  unfold State.drainHelper
  split
  · exact hanging_raise state _
  · rename_i kept
    split
    · rename_i paused
      exact ⟨by simp, fun _ => ⟨by simpa using kept, paused⟩⟩
    · exact .of_place rfl (by simp) (by simp)

theorem hanging_drain (state : State limits) : Hanging state.drain := by
  unfold State.drain
  split
  · exact hanging_raise state _
  · split
    · exact hanging_drainHelper state
    · exact .of_place rfl (by simp) (by simp)

theorem hanging_goOn {next : State limits} {sent : Option Nat}
    (went : state.goOn chunkSize sent = some next)
    : Hanging next := by
  unfold State.goOn at went
  split at went <;> cases went
  case h_1 => exact hanging_read state sent
  case h_2 => exact hanging_take state sent
  case h_3 => exact hanging_drain state
  case h_4 => exact hanging_drainHelper state
  case h_5 => exact .of_place rfl (by simp) (by simp)
  all_goals exact hanging_raise state _

theorem wakeReader_ne_pending {place : Place} {result : FutureState StreamError Unit}
    (known : result ≠ .pending)
    : place.wakeReader result ≠ .awaitingData .pending := by
  intro here
  rcases awaitingData_of_wakeReader here with before | same
  · subst before
    exact known (Place.awaitingData.inj here)
  · exact known same.symm

theorem wakeWriter_ne_pending {place : Place} {result : FutureState StreamError Unit}
    (known : result ≠ .pending)
    : place.wakeWriter result ≠ .awaitingDrain .pending := by
  unfold Place.wakeWriter
  split
  · simpa using known
  · assumption

theorem awaitingDrain_of_wakeReader {place : Place} {result waiter : FutureState StreamError Unit}
    (here : place.wakeReader result = .awaitingDrain waiter)
    : place = .awaitingDrain waiter := by
  unfold Place.wakeReader at here
  split at here
  · contradiction
  · exact here

theorem cancel_ne_pending (place : Place)
    : place.cancel ≠ .awaitingData .pending ∧ place.cancel ≠ .awaitingDrain .pending := by
  cases place <;> simp [Place.cancel]

/-- A transport that stays paused is not lost with the bytes it sends. -/
theorem flush_of_paused {writer : StreamWriter limits} {count : Nat}
    (paused : (writer.flush count).paused = true)
    : (writer.flush count).connection = writer.connection := by
  unfold StreamWriter.flush at paused ⊢
  split at paused
  · contradiction
  · rename_i going
    rw [dif_neg going]

theorem close_paused (writer : StreamWriter limits)
    : writer.close.paused = writer.paused
      ∧ writer.close.connection.isLost = writer.connection.isLost := by
  unfold StreamWriter.close
  split
  · rename_i isOpen
    split <;> simp [isOpen, Connection.isLost]
  · exact ⟨rfl, rfl⟩

theorem writeEof_paused (writer : StreamWriter limits)
    : writer.writeEof.paused = writer.paused
      ∧ writer.writeEof.connection.isLost = writer.connection.isLost := by
  unfold StreamWriter.writeEof
  split
  · exact ⟨rfl, rfl⟩
  · exact close_paused writer

theorem Hanging.apply (hanging : Hanging state) (event : Event) : Hanging (state.apply event) := by
  cases event with
  | feeds | feedsEof | fails =>
      refine ⟨fun here => ?_, fun here => hanging.drain (awaitingDrain_of_wakeReader here)⟩
      exact absurd here (wakeReader_ne_pending (by simp))
  | flushes count =>
      simp only [State.apply, State.flush]
      split
      · rename_i paused
        refine ⟨hanging.data, fun here => ⟨?_, paused⟩⟩
        rw [flush_of_paused paused]
        exact (hanging.drain here).1
      · refine ⟨fun here => hanging.data (awaitingData_of_wakeWriter here), fun here => ?_⟩
        exact absurd here (wakeWriter_ne_pending (by simp))
  | loses exception =>
      simp only [State.apply, State.lose]
      split
      · refine ⟨fun here => hanging.data (awaitingData_of_wakeWriter here), fun here => ?_⟩
        exact absurd here (wakeWriter_ne_pending (by cases exception <;> simp))
      · rename_i ready
        exact ⟨hanging.data, fun here => absurd (hanging.drain here).2 ready⟩
  | cancels => exact .of_place rfl (cancel_ne_pending _).1 (cancel_ne_pending _).2
  | closes =>
      obtain ⟨paused, lost⟩ := close_paused state.destination
      exact ⟨hanging.data, fun here => by simpa [State.apply, paused, lost] using hanging.drain here⟩
  | writesEof =>
      obtain ⟨paused, lost⟩ := writeEof_paused state.destination
      exact ⟨hanging.data, fun here => by simpa [State.apply, paused, lost] using hanging.drain here⟩
  | aborts => exact ⟨hanging.data, fun here => ⟨rfl, (hanging.drain here).2⟩⟩
  | readerFails | goesOn => exact ⟨hanging.data, hanging.drain⟩

theorem Hanging.step {next : State limits} {event : Event} (hanging : Hanging state)
    (stepped : Pipe.step chunkSize state event = some next)
    : Hanging next := by
  rcases step_cases stepped with ⟨sent, rfl, went⟩ | ⟨-, -, rfl⟩
  · exact hanging_goOn went
  · exact hanging.apply event

-----------------------------------------------------------------------------------------
-- A source at its end
-----------------------------------------------------------------------------------------

/-- The call goes on by itself with fewer steps left. -/
theorem goOn_stepsLeft_lt {next : State limits} {sent : Option Nat}
    (eof : state.source.eof = true) (went : state.goOn chunkSize sent = some next)
    : next.stepsLeft < state.stepsLeft := by
  have left (place : Place) (here : state.place = place)
      : state.stepsLeft = state.onTheWay + place.stepsLeft := by
    rw [State.stepsLeft, here]
  unfold State.goOn at went
  split at went <;> cases went
  case h_1 here =>
    have fed := StreamReader.not_starved_iff.mpr fun _ => eof
    exact left _ here ▸ Nat.lt_succ_of_le (stepsLeft_read state sent fed)
  case h_2 here =>
    have fewer : (state.take chunkSize sent).stepsLeft ≤ state.onTheWay := stepsLeft_take state sent
    have more := left _ here
    simp only [Place.stepsLeft] at more
    omega
  case h_3 here => exact left _ here ▸ Nat.lt_succ_of_le (stepsLeft_drain state)
  case h_4 here => exact left _ here ▸ Nat.lt_succ_of_le (stepsLeft_drainHelper state)
  case h_5 here =>
    rw [left _ here]
    exact Nat.lt_succ_self (state.onTheWay + 1)
  all_goals
    rename_i here
    rw [left _ here, stepsLeft_raise]
    simp [Place.stepsLeft]

theorem stepsLeft_wakeReader (place : Place) (result : FutureState StreamError Unit)
    : (place.wakeReader result).stepsLeft = place.stepsLeft := by
  unfold Place.wakeReader
  split <;> rfl

theorem stepsLeft_wakeWriter_le {place : Place} {result : FutureState StreamError Unit}
    : (place.wakeWriter result).stepsLeft ≤ place.stepsLeft := by
  unfold Place.wakeWriter
  split
  · cases result <;> simp [Place.stepsLeft]
  · exact Nat.le_refl _

theorem onTheWay_flush_lt {count : Nat} (some_byte : 0 < count)
    (few : count ≤ state.destination.unsent)
    : (state.flush count).onTheWay < state.onTheWay := by
  simp only [State.onTheWay, State.flush, StreamWriter.flush]
  split
  · rename_i last
    simp only [StreamWriter.finish, last.1, Connection.stepsLeft]
    omega
  · simp only
    omega

theorem onTheWay_close_lt (isOpen : state.destination.connection = .opened)
    : State.onTheWay { state with destination := state.destination.close } < state.onTheWay := by
  simp only [State.onTheWay, StreamWriter.close, isOpen, ↓reduceDIte]
  split
  all_goals
    simp only [Connection.stepsLeft]
    omega

theorem onTheWay_writeEof_lt (isOpen : state.destination.connection = .opened)
    (unknown : state.destination.eof = false)
    : State.onTheWay { state with destination := state.destination.writeEof }
      < state.onTheWay := by
  cases transport : state.destination.transport with
  | pipe => simpa only [StreamWriter.writeEof, transport] using onTheWay_close_lt isOpen
  | socket =>
      simp [State.onTheWay, StreamWriter.writeEof, transport, isOpen, unknown]

/-- So do the streams. -/
theorem apply_stepsLeft_lt {event : Event} (eof : state.source.eof = true)
    (enabled : state.enables event = true) (allowed : event ≠ .cancels)
    : (state.apply event).stepsLeft < state.stepsLeft := by
  cases event with
  | feeds data => simp [State.enables, eof] at enabled
  | feedsEof => simp [State.enables, eof] at enabled
  | fails =>
      simp only [State.enables, Bool.not_eq_true'] at enabled
      simp only [State.stepsLeft, State.onTheWay, State.apply, StreamReader.setException, enabled,
        stepsLeft_wakeReader, Bool.not_true, Bool.not_false, Bool.toNat_true, Bool.toNat_false]
      omega
  | flushes count =>
      have fewer
          : (state.flush count).place.stepsLeft ≤ state.place.stepsLeft := by
        simp only [State.flush]
        split
        · exact Nat.le_refl _
        · exact stepsLeft_wakeWriter_le
      simp only [State.enables, Bool.and_eq_true, decide_eq_true_eq] at enabled
      have sent := onTheWay_flush_lt enabled.1.2 enabled.2
      exact Nat.add_lt_add_of_lt_of_le sent fewer
  | writesEof =>
      simp only [State.enables, Bool.and_eq_true, decide_eq_true_eq, Bool.not_eq_true'] at enabled
      have fewer := onTheWay_writeEof_lt enabled.1 enabled.2
      exact Nat.add_lt_add_right fewer state.place.stepsLeft
  | closes =>
      simp only [State.enables, decide_eq_true_eq] at enabled
      have fewer := onTheWay_close_lt enabled
      exact Nat.add_lt_add_right fewer state.place.stepsLeft
  | aborts =>
      simp only [State.enables] at enabled
      cases connection : state.destination.connection <;>
        simp only [connection, Connection.sends, Bool.false_eq_true] at enabled
      all_goals
        simp only [State.stepsLeft, State.onTheWay, State.apply, StreamWriter.abort, connection,
          Connection.stepsLeft]
        omega
  | loses exception =>
      have fewer
          : (state.lose exception).place.stepsLeft ≤ state.place.stepsLeft := by
        simp only [State.lose]
        split
        · exact stepsLeft_wakeWriter_le
        · exact Nat.le_refl _
      simp only [State.enables, decide_eq_true_eq] at enabled
      simp only [State.stepsLeft, State.onTheWay, State.apply, State.lose, StreamWriter.lose,
        enabled, Connection.stepsLeft] at fewer ⊢
      omega
  | readerFails =>
      simp only [State.enables, Bool.not_eq_true'] at enabled
      simp only [State.stepsLeft, State.onTheWay, State.apply, StreamWriter.failReader, enabled,
        Bool.not_true, Bool.not_false, Bool.toNat_true, Bool.toNat_false]
      omega
  | cancels => exact absurd rfl allowed
  | goesOn => contradiction

theorem source_deliver (state : State limits) (chunk : List UInt8) (sent : Option Nat)
    : (state.deliver chunk sent).source = state.source := by
  unfold State.deliver
  split
  · rfl
  · split <;> rfl

theorem source_drainHelper (state : State limits) : state.drainHelper.source = state.source := by
  unfold State.drainHelper
  split
  · rfl
  · split <;> rfl

theorem eof_take (state : State limits) (sent : Option Nat)
    : (state.take chunkSize sent).source.eof = state.source.eof := by
  unfold State.take
  split
  · rw [source_deliver]
    rfl
  · split
    · rw [source_deliver]
    · rfl

theorem eof_goOn {next : State limits} {sent : Option Nat}
    (went : state.goOn chunkSize sent = some next)
    : next.source.eof = state.source.eof := by
  unfold State.goOn at went
  split at went <;> cases went
  case h_1 =>
    unfold State.read
    split
    · rfl
    · split
      · rw [source_deliver]
      · split
        · rfl
        · exact eof_take state sent
  case h_2 => exact eof_take state sent
  case h_3 =>
    unfold State.drain
    split
    · rfl
    · split
      · rw [source_drainHelper]
      · rfl
  case h_4 => rw [source_drainHelper]
  all_goals rfl

theorem eof_step {next : State limits} {event : Event} (eof : state.source.eof = true)
    (stepped : step chunkSize state event = some next)
    : next.source.eof = true := by
  rcases step_cases stepped with ⟨sent, rfl, went⟩ | ⟨-, -, rfl⟩
  · exact (eof_goOn went).trans eof
  · cases event with
    | feedsEof => rfl
    | feeds | fails | flushes | writesEof | closes | aborts | loses | readerFails | cancels
    | goesOn => exact eof

/-- A call that has not ended goes on, or waits for the destination. -/
theorem Hanging.exists_event (hanging : Hanging state) (chunkSize : Int)
    (eof : state.source.eof = true)
    : (∃ outcome, state.place = .ended outcome)
      ∨ ∃ event, event ≠ .cancels ∧ (Pipe.step chunkSize state event).isSome = true := by
  cases here : state.place with
  | ended outcome => exact .inl ⟨outcome, rfl⟩
  | reading => exact .inr ⟨.goesOn none, by simp, by simp [Pipe.step, State.goOn, here]⟩
  | draining => exact .inr ⟨.goesOn none, by simp, by simp [Pipe.step, State.goOn, here]⟩
  | yielding cancelled =>
      refine .inr ⟨.goesOn none, by simp, ?_⟩
      cases cancelled <;> simp [Pipe.step, State.goOn, here]
  | awaitingData waiter =>
      refine .inr ⟨.goesOn none, by simp, ?_⟩
      cases waiter with
      | pending => simp [hanging.data here] at eof
      | success | exception | cancelled => simp [Pipe.step, State.goOn, here]
  | awaitingDrain waiter =>
      cases waiter with
      | success | exception | cancelled =>
          exact .inr ⟨.goesOn none, by simp, by simp [Pipe.step, State.goOn, here]⟩
      | pending =>
          obtain ⟨kept, paused⟩ := hanging.drain here
          have suspended : state.place.suspended = true := by simp [here, Place.suspended]
          have told (event : Event) (others : ∀ sent, event ≠ .goesOn sent)
              (enabled : state.enables event = true)
              : (Pipe.step chunkSize state event).isSome = true := by
            cases event with
            | goesOn sent => exact absurd rfl (others sent)
            | feeds | feedsEof | fails | flushes | writesEof | closes | aborts | loses | readerFails
            | cancels => simp [Pipe.step, suspended, enabled]
          right
          cases sends : state.destination.connection.sends with
          | true =>
              have some_unsent : 1 ≤ state.destination.unsent :=
                state.destination.unsent_of_paused sends paused
              refine ⟨.flushes 1, by simp, told _ (by simp) ?_⟩
              simp [State.enables, sends, some_unsent]
          | false =>
              refine ⟨.loses false, by simp, told _ (by simp) ?_⟩
              cases connection : state.destination.connection <;>
                simp [State.enables, connection, Connection.sends, Connection.isLost] at sends kept ⊢

/-- However the source was fed and the call was suspended before, once the source is at its end the
call ends of itself, as long as the destination sends what it has or its connection is lost.
-/
theorem pipe_ends {source : StreamReader} {destination : StreamWriter limits}
    {events : List Event} {final : State limits}
    (reached
      : Transition.run (step chunkSize) (State.initial source destination) events = some final)
    (eof : final.source.eof = true)
    : Transition.Terminates (step chunkSize) (fun event => event ≠ .cancels)
        (fun state => ∃ outcome, state.place = .ended outcome) final := by
  have hanging : Hanging final := by
    refine Transition.run_preserves (fun _ _ _ hanging stepped => hanging.step stepped) ?_ reached
    exact .of_place (rfl : _ = Place.reading) (by simp) (by simp)
  refine Transition.terminates_of_measure
    (P := fun state => Hanging state ∧ state.source.eof = true) State.stepsLeft ?_ ?_ ?_
    ⟨hanging, eof⟩
  · rintro state event next ⟨hanging, eof⟩ - stepped
    exact ⟨hanging.step stepped, eof_step eof stepped⟩
  · rintro state event next ⟨-, eof⟩ allowed stepped
    rcases step_cases stepped with ⟨sent, rfl, went⟩ | ⟨-, enabled, rfl⟩
    · exact goOn_stepsLeft_lt eof went
    · exact apply_stepsLeft_lt eof enabled allowed
  · rintro state ⟨hanging, eof⟩
    exact hanging.exists_event chunkSize eof

/-- A call whose source ends while it waits for the destination. -/
theorem pipe_ends_whileDraining
    : ∃ final : State .zero,
        Transition.run (step 4)
            (State.initial (.holding 4 (Nat.zero_lt_succ 3) [1, 2, 3]) (.idle .socket .zero))
            [.goesOn (some 0), .goesOn none, .feedsEof]
          = some final
        ∧ final.place = .awaitingDrain .pending
        ∧ Transition.Terminates (step 4) (fun event => event ≠ .cancels)
            (fun state => ∃ outcome, state.place = .ended outcome) final := by
  have reached
      : Transition.run (step 4)
          (State.initial (.holding 4 (Nat.zero_lt_succ 3) [1, 2, 3]) (.idle .socket .zero)
            : State .zero)
          [.goesOn (some 0), .goesOn none, .feedsEof]
        = some _ :=
    rfl
  exact ⟨_, reached, rfl, pipe_ends reached rfl⟩

end Aiodrive.Pipe
