import Aiodrive.Pipe.Model

/-! What `pipe()` has done with the bytes of its source, wherever it is and however it ends. -/

namespace Aiodrive.Pipe

variable {limits : WriteLimits} {chunkSize : Int}

-----------------------------------------------------------------------------------------
-- The small lemmas of places and writers
-----------------------------------------------------------------------------------------

@[simp] theorem suspended_wakeReader (place : Place) (result : FutureState StreamError Unit)
    : (place.wakeReader result).suspended = place.suspended := by
  unfold Place.wakeReader
  split <;> rfl

@[simp] theorem suspended_wakeWriter (place : Place) (result : FutureState StreamError Unit)
    : (place.wakeWriter result).suspended = place.suspended := by
  unfold Place.wakeWriter
  split <;> rfl

@[simp] theorem suspended_cancel (place : Place)
    : place.cancel.suspended = place.suspended := by
  cases place <;> rfl

@[simp] theorem suspended_apply (state : State limits) (event : Event)
    : (state.apply event).place.suspended = state.place.suspended := by
  cases event <;> simp only [State.apply, State.flush, State.lose, suspended_wakeReader,
    suspended_cancel]
  all_goals split <;> simp only [suspended_wakeWriter]

theorem StreamReader.not_starved_iff {reader : StreamReader}
    : reader.starved = false ↔ (reader.buffer = [] → reader.eof = true) := by
  simp [StreamReader.starved]

theorem awaitingData_of_wakeReader {place : Place} {result waiter : FutureState StreamError Unit}
    (here : place.wakeReader result = .awaitingData waiter)
    : place = .awaitingData waiter ∨ waiter = result := by
  unfold Place.wakeReader at here
  split at here
  · exact .inr (Place.awaitingData.inj here).symm
  · exact .inl here

theorem awaitingData_of_wakeWriter {place : Place} {result waiter : FutureState StreamError Unit}
    (here : place.wakeWriter result = .awaitingData waiter)
    : place = .awaitingData waiter := by
  unfold Place.wakeWriter at here
  split at here
  · contradiction
  · exact here

theorem StreamWriter.takes_of_accepts {writer : StreamWriter limits} {sent : Option Nat}
    (accepts : writer.accepts sent = true)
    : writer.takes = true :=
  (Bool.and_eq_true_iff.mp accepts).1

/-- A transport that has dropped a chunk takes no more. -/
theorem StreamWriter.write_shut {writer : StreamWriter limits} {length : Nat} {sent : Option Nat}
    (refuses : writer.accepts sent = false)
    : (writer.write length sent).takes = false := by
  unfold StreamWriter.write
  split
  · simp only [refuses, Bool.false_eq_true, ↓reduceIte]
    cases transport : writer.transport <;> simp [StreamWriter.takes]
  · simp_all

-----------------------------------------------------------------------------------------
-- The books of a call
-----------------------------------------------------------------------------------------

/-- Every byte that the source was given was accepted or dropped by the destination, is in the
chunk that a write raised on, is held in a block, or still in the source, in this order; and a
call that has returned left none behind.
-/
structure Copying (chunkSize : Int) (given : List UInt8) (state : State limits) : Prop where
  books
    : state.accepted ++ state.dropped ++ state.refused ++ state.blocks ++ state.source.buffer
      = given
  blocks_nil : 0 ≤ chunkSize → state.blocks = []
  shut_of_dropped : state.dropped ≠ [] → state.destination.takes = false
  raised_of_refused
    : state.refused ≠ []
      → ∃ error,
          state.destination.refusal = some error
          ∧ state.place = .ended (.raised (.exception error))
  ready : state.place = .awaitingData (.success ()) → state.source.starved = false
  all
    : state.place = .ended (.returned ())
      → chunkSize = 0
        ∨ state.source.eof = true ∧ state.blocks = [] ∧ state.source.buffer = []

variable {given : List UInt8} {state : State limits}

theorem Copying.initial (source : StreamReader) (destination : StreamWriter limits)
    : Copying chunkSize source.buffer (State.initial source destination) where
  books := by simp [State.initial]
  blocks_nil _ := rfl
  shut_of_dropped dropped := absurd rfl dropped
  raised_of_refused refused := absurd rfl refused
  ready here := by contradiction
  all here := by contradiction

/-- No write has raised in a call that goes on. -/
theorem Copying.refused_nil (copying : Copying chunkSize given state)
    (going : ∀ outcome, state.place ≠ .ended outcome)
    : state.refused = [] := by
  by_contra refused
  obtain ⟨error, -, ended⟩ := copying.raised_of_refused refused
  exact going _ ended

/-- A chunk that was taken from the front of the source. -/
theorem Copying.deliver {chunk : List UInt8} {sent : Option Nat}
    (books
      : state.accepted ++ state.dropped ++ chunk ++ state.blocks ++ state.source.buffer = given)
    (blocks_nil : state.blocks = []) (refused_nil : state.refused = [])
    (shut_of_dropped : state.dropped ≠ [] → state.destination.takes = false)
    (last
      : chunk = [] → chunkSize = 0 ∨ state.source.eof = true ∧ state.source.buffer = [])
    : Copying chunkSize given (state.deliver chunk sent) := by
  by_cases empty : chunk = []
  · subst empty
    constructor <;> simp only [State.deliver, List.isEmpty_nil, ↓reduceIte]
    · simpa [refused_nil] using books
    · exact fun _ => blocks_nil
    · exact shut_of_dropped
    · exact fun refused => absurd refused_nil refused
    · simp
    · intro _
      rcases last rfl with zero | ⟨eof, drained⟩
      · exact .inl zero
      · exact .inr ⟨eof, blocks_nil, drained⟩
  · have nonempty : chunk.isEmpty = false := by simpa using empty
    cases refusal : state.destination.refusal with
    | some error =>
        constructor <;> simp [State.deliver, nonempty, refusal]
        · simpa using books
        · exact fun _ => blocks_nil
        · exact shut_of_dropped
    | none =>
        cases accepts : state.destination.accepts sent with
        | true =>
            have takes := StreamWriter.takes_of_accepts accepts
            have none_dropped : state.dropped = [] := by
              by_contra dropped
              simp [shut_of_dropped dropped] at takes
            constructor <;> simp [State.deliver, nonempty, refusal, accepts, refused_nil]
            · simpa [none_dropped] using books
            · exact fun _ => blocks_nil
            · exact fun dropped => absurd none_dropped dropped
        | false =>
            constructor <;> simp [State.deliver, nonempty, refusal, accepts, refused_nil]
            · simpa using books
            · exact fun _ => blocks_nil
            · exact fun _ => StreamWriter.write_shut accepts

/-- A call that moves on without its streams. -/
theorem Copying.moves (copying : Copying chunkSize given state) {place : Place}
    (refused_nil : state.refused = [])
    (ready : place = .awaitingData (.success ()) → state.source.starved = false)
    (going : place ≠ .ended (.returned ()))
    : Copying chunkSize given { state with place } where
  books := copying.books
  blocks_nil := copying.blocks_nil
  shut_of_dropped := copying.shut_of_dropped
  raised_of_refused refused := absurd refused_nil refused
  ready := ready
  all here := absurd here going

theorem Copying.take (copying : Copying chunkSize given state) (sent : Option Nat)
    (refused_nil : state.refused = []) (ready : state.source.starved = false)
    : Copying chunkSize given (state.take chunkSize sent) := by
  have atEnd := StreamReader.not_starved_iff.mp ready
  unfold State.take
  split
  · rename_i positive
    apply Copying.deliver
    · simpa [StreamReader.discard, refused_nil, copying.blocks_nil positive] using copying.books
    · exact copying.blocks_nil positive
    · exact refused_nil
    · exact copying.shut_of_dropped
    · intro empty
      rcases List.take_eq_nil_iff.mp empty with zero | drained
      · exact .inl (by omega)
      · exact .inr ⟨atEnd drained, by simp [StreamReader.discard, drained]⟩
  · split
    · rename_i empty
      have drained : state.source.buffer = [] := by simpa using empty
      apply Copying.deliver
      · simpa [refused_nil] using copying.books
      · rfl
      · exact refused_nil
      · exact copying.shut_of_dropped
      · exact fun _ => .inr ⟨atEnd drained, drained⟩
    · constructor
      · simpa [StreamReader.discard] using copying.books
      · exact fun positive => absurd positive (by assumption)
      · exact copying.shut_of_dropped
      · exact fun refused => absurd refused_nil refused
      · simp
      · simp

theorem Copying.raise (copying : Copying chunkSize given state) (refused_nil : state.refused = [])
    (error : Raised StreamError)
    : Copying chunkSize given (state.raise error) :=
  copying.moves refused_nil (by simp) (by simp)

theorem Copying.read (copying : Copying chunkSize given state) (sent : Option Nat)
    (refused_nil : state.refused = [])
    : Copying chunkSize given (state.read chunkSize sent) := by
  unfold State.read
  split
  · exact copying.raise refused_nil _
  · split
    · rename_i zero
      refine Copying.deliver ?_ (copying.blocks_nil (by omega)) refused_nil
        copying.shut_of_dropped fun _ => .inl zero
      simpa [refused_nil] using copying.books
    · split
      · exact copying.moves refused_nil (by simp) (by simp)
      · rename_i fed
        exact copying.take sent refused_nil (by simpa using fed)

theorem Copying.drainHelper (copying : Copying chunkSize given state)
    (refused_nil : state.refused = [])
    : Copying chunkSize given state.drainHelper := by
  unfold State.drainHelper
  split
  · exact copying.raise refused_nil _
  · split
    all_goals exact copying.moves refused_nil (by simp) (by simp)

theorem Copying.drain (copying : Copying chunkSize given state) (refused_nil : state.refused = [])
    : Copying chunkSize given state.drain := by
  unfold State.drain
  split
  · exact copying.raise refused_nil _
  · split
    · exact copying.drainHelper refused_nil
    · exact copying.moves refused_nil (by simp) (by simp)

/-- A call that goes on has not ended. -/
theorem ne_ended_of_goOn {next : State limits} {sent : Option Nat}
    (went : state.goOn chunkSize sent = some next) (outcome : Outcome StreamError Unit)
    : state.place ≠ .ended outcome := by
  intro ended
  simp [State.goOn, ended] at went

theorem Copying.goOn {next : State limits} {sent : Option Nat}
    (copying : Copying chunkSize given state) (went : state.goOn chunkSize sent = some next)
    : Copying chunkSize given next := by
  have refused_nil := copying.refused_nil (ne_ended_of_goOn went)
  unfold State.goOn at went
  split at went <;> cases went
  case h_1 => exact copying.read sent refused_nil
  case h_2 here => exact copying.take sent refused_nil (copying.ready here)
  case h_3 => exact copying.drain refused_nil
  case h_4 => exact copying.drainHelper refused_nil
  case h_5 => exact copying.moves refused_nil (by simp) (by simp)
  all_goals exact copying.raise refused_nil _

/-- What others do to the books: the source has more in it. -/
theorem apply_books (state : State limits) (event : Event)
    : (state.apply event).accepted = state.accepted
      ∧ (state.apply event).dropped = state.dropped
      ∧ (state.apply event).refused = state.refused
      ∧ (state.apply event).blocks = state.blocks
      ∧ (state.apply event).source.buffer = state.source.buffer ++ fed [event] := by
  cases event <;> simp [State.apply, State.flush, State.lose, StreamReader.feedData,
    StreamReader.feedEof, StreamReader.setException, fed]

theorem StreamWriter.takes_of_close {writer : StreamWriter limits}
    (takes : writer.close.takes = true)
    : writer.takes = true := by
  by_cases isOpen : writer.connection = .opened
  · simp [StreamWriter.takes, isOpen]
  · simpa [StreamWriter.close, isOpen] using takes

theorem StreamWriter.takes_of_flush {writer : StreamWriter limits} {count : Nat}
    (takes : (writer.flush count).takes = true)
    : writer.takes = true := by
  unfold StreamWriter.flush at takes
  split at takes
  · simp [StreamWriter.finish, StreamWriter.takes] at takes
  · exact takes

/-- Nor do they make a transport take data again. -/
theorem takes_of_apply {event : Event} (takes : (state.apply event).destination.takes = true)
    : state.destination.takes = true := by
  cases event with
  | closes => exact StreamWriter.takes_of_close takes
  | flushes count => exact StreamWriter.takes_of_flush takes
  | writesEof =>
      simp only [State.apply, StreamWriter.writeEof] at takes
      split at takes
      · exact takes
      · exact StreamWriter.takes_of_close takes
  | aborts => simp [State.apply, StreamWriter.abort, StreamWriter.takes] at takes
  | loses => simp [State.apply, State.lose, StreamWriter.lose, StreamWriter.takes] at takes
  | feeds | feedsEof | fails | readerFails | cancels | goesOn => exact takes

theorem starved_apply {event : Event} (ready : state.source.starved = false)
    : (state.apply event).source.starved = false := by
  cases event with
  | feeds data =>
      rw [StreamReader.not_starved_iff] at ready ⊢
      exact fun drained => ready (List.append_eq_nil_iff.mp drained).1
  | feedsEof => exact StreamReader.not_starved_iff.mpr fun _ => rfl
  | fails | flushes | writesEof | closes | aborts | loses | readerFails | cancels | goesOn =>
      exact ready

/-- A reader whose waiter gets a result has something to read. -/
theorem ready_apply {event : Event} (enabled : state.enables event = true)
    (ready : state.place = .awaitingData (.success ()) → state.source.starved = false)
    (here : (state.apply event).place = .awaitingData (.success ()))
    : (state.apply event).source.starved = false := by
  cases event with
  | feeds data =>
      have nonempty : data ≠ [] := by
        simpa [State.enables] using (Bool.and_eq_true_iff.mp enabled).1
      rw [StreamReader.not_starved_iff]
      exact fun drained => absurd (List.append_eq_nil_iff.mp drained).2 nonempty
  | feedsEof => exact StreamReader.not_starved_iff.mpr fun _ => rfl
  | fails =>
      rcases awaitingData_of_wakeReader here with before | other
      · exact starved_apply (ready before)
      · contradiction
  | flushes count =>
      apply starved_apply
      simp only [State.apply, State.flush] at here
      split at here
      · exact ready here
      · exact ready (awaitingData_of_wakeWriter here)
  | loses exception =>
      apply starved_apply
      simp only [State.apply, State.lose] at here
      split at here
      · exact ready (awaitingData_of_wakeWriter here)
      · exact ready here
  | cancels =>
      simp only [State.apply] at here
      cases place : state.place <;> simp [Place.cancel, place] at here
  | writesEof | closes | aborts | readerFails | goesOn => exact starved_apply (ready here)

/-- What others do while the call is suspended. -/
theorem Copying.apply {event : Event} (copying : Copying chunkSize given state)
    (waits : state.place.suspended = true) (enabled : state.enables event = true)
    : Copying chunkSize (given ++ fed [event]) (state.apply event) := by
  have going : (state.apply event).place ≠ .ended (.returned ()) := by
    intro ended
    have same := suspended_apply state event
    rw [ended, waits] at same
    contradiction
  have refused_nil : state.refused = [] :=
    copying.refused_nil fun outcome ended => by simp [ended, Place.suspended] at waits
  obtain ⟨accepted, dropped, refused, blocks, buffer⟩ := apply_books state event
  refine ⟨?_, ?_, ?_, fun some_refused => ?_, ready_apply enabled copying.ready,
    fun ended => absurd ended going⟩
  · rw [accepted, dropped, refused, blocks, buffer, ← copying.books,
      List.append_assoc _ _ (fed [event])]
  · exact fun positive => blocks.trans (copying.blocks_nil positive)
  · intro some_dropped
    have shut := copying.shut_of_dropped (dropped ▸ some_dropped)
    exact Bool.eq_false_iff.mpr fun takes => by simp [takes_of_apply takes] at shut
  · exact absurd (refused.trans refused_nil) some_refused

/-- A step is one of the call, or one of others while the call is suspended. -/
theorem step_cases {next : State limits} {event : Event}
    (stepped : step chunkSize state event = some next)
    : (∃ sent, event = .goesOn sent ∧ state.goOn chunkSize sent = some next)
      ∨ state.place.suspended = true
        ∧ state.enables event = true
        ∧ next = state.apply event := by
  cases event with
  | goesOn sent => exact .inl ⟨sent, rfl, stepped⟩
  | feeds | feedsEof | fails | flushes | writesEof | closes | aborts | loses | readerFails
  | cancels =>
      simp only [step, Option.ite_none_right_eq_some, Bool.and_eq_true,
        Option.some.injEq] at stepped
      exact .inr ⟨stepped.1.1, stepped.1.2, stepped.2.symm⟩

theorem Copying.step {next : State limits} {event : Event}
    (copying : Copying chunkSize given state)
    (stepped : Pipe.step chunkSize state event = some next)
    : Copying chunkSize (given ++ fed [event]) next := by
  rcases step_cases stepped with ⟨sent, rfl, went⟩ | ⟨waits, enabled, rfl⟩
  · simpa [fed] using copying.goOn went
  · exact copying.apply waits enabled

theorem copying_of_run {source : StreamReader} {destination : StreamWriter limits}
    {events : List Event} {final : State limits}
    (reached
      : Transition.run (step chunkSize) (State.initial source destination) events = some final)
    : Copying chunkSize (source.buffer ++ fed events) final := by
  refine Transition.run_preserves_history
    (P := fun past state => Copying chunkSize (source.buffer ++ fed past) state) ?_ ?_ reached
  · intro past state event next copying stepped
    simpa [fed] using copying.step stepped
  · simpa [fed] using Copying.initial source destination

/-- In every order of events each byte given to the source is accepted by the destination,
dropped by one that takes no more, in the chunk that a write raised on, held in the blocks of a
read of a negative size, or still in the source, in this order. A call that lost a chunk to a
write ended with what that write raised; and one that returns has written all there was up to
the end of the source, except that a chunk size of zero copies nothing.
-/
theorem pipe_copies {source : StreamReader} {destination : StreamWriter limits}
    {events : List Event} {final : State limits}
    (reached
      : Transition.run (step chunkSize) (State.initial source destination) events = some final)
    : final.accepted ++ final.dropped ++ final.refused ++ final.blocks ++ final.source.buffer
        = source.buffer ++ fed events
      ∧ (0 ≤ chunkSize → final.blocks = [])
      ∧ (final.destination.takes = true → final.dropped = [])
      ∧ (final.refused ≠ []
          → ∃ error,
              final.destination.refusal = some error
              ∧ final.place = .ended (.raised (.exception error)))
      ∧ (final.place = .ended (.returned ())
          → chunkSize ≠ 0
          → final.source.eof = true
            ∧ final.accepted ++ final.dropped = source.buffer ++ fed events) := by
  have copying := copying_of_run reached
  refine ⟨copying.books, copying.blocks_nil, ?_, copying.raised_of_refused, ?_⟩
  · intro takes
    by_contra dropped
    simp [copying.shut_of_dropped dropped] at takes
  · intro returned nonzero
    rcases copying.all returned with zero | ⟨eof, blocks, drained⟩
    · exact absurd zero nonzero
    · have refused_nil : final.refused = [] := by
        by_contra refused
        obtain ⟨error, -, ended⟩ := copying.raised_of_refused refused
        simp [returned] at ended
      exact ⟨eof, by simpa [refused_nil, blocks, drained] using copying.books⟩

/-- Two chunks of two bytes and one of one byte between them, which the destination sends late. -/
theorem pipe_copies_threeChunks
    : ∃ final : State .zero,
        Transition.run (step 2)
            (State.initial (.holding 4 (Nat.zero_lt_succ 3) [1, 2, 3]) (.idle .socket .zero))
            [.goesOn (some 2), .goesOn none, .goesOn (some 0), .goesOn none, .flushes 1, .goesOn none,
              .goesOn none, .feeds [4, 5], .feedsEof, .goesOn (some 2), .goesOn none, .goesOn none]
          = some final
        ∧ final.place = .ended (.returned ())
        ∧ final.source.eof = true
        ∧ final.accepted ++ final.dropped = [1, 2, 3, 4, 5] := by
  have reached
      : Transition.run (step 2)
          (State.initial (.holding 4 (Nat.zero_lt_succ 3) [1, 2, 3]) (.idle .socket .zero)
            : State .zero)
          [.goesOn (some 2), .goesOn none, .goesOn (some 0), .goesOn none, .flushes 1, .goesOn none,
            .goesOn none, .feeds [4, 5], .feedsEof, .goesOn (some 2), .goesOn none, .goesOn none]
        = some _ :=
    rfl
  obtain ⟨-, -, -, -, returned⟩ := pipe_copies reached
  exact ⟨_, reached, rfl, returned rfl (by decide)⟩

end Aiodrive.Pipe
