import Aiodrive.Asyncio.Streams
import Aiodrive.Transition.Runs

/-! `pipe()` of `modules/io.py`: one call of it, its two streams, and those who feed the source,
empty the destination or cancel the call while it is suspended. Nobody else reads the source, or
sends a file through the destination meanwhile.
-/

namespace Aiodrive.Pipe

variable {limits : WriteLimits}

/-- Where the call is: before `await source.read(chunk_size)`, or on the future of `_wait_for_data`;
before `await destination.drain()`, in its `sleep(0)`, or on the future of `_drain_helper`; or
past the loop.
-/
inductive Place where
  | reading
  | awaitingData (waiter : FutureState StreamError Unit)
  | draining
  | yielding (cancelled : Bool)
  | awaitingDrain (waiter : FutureState StreamError Unit)
  | ended (outcome : Outcome StreamError Unit)
deriving DecidableEq, Repr

/-- Whether others can act. -/
def Place.suspended : Place → Bool
  | awaitingData _ | yielding _ | awaitingDrain _ => true
  | reading | draining | ended _ => false

/-- The waiter of the reader gets a result or an exception. -/
def Place.wakeReader (result : FutureState StreamError Unit) : Place → Place
  | awaitingData .pending => awaitingData result
  | place => place

/-- The waiter of the writer gets a result or an exception. -/
def Place.wakeWriter (result : FutureState StreamError Unit) : Place → Place
  | awaitingDrain .pending => awaitingDrain result
  | place => place

/-- The `CancelledError` is thrown also where the future is done. -/
def Place.cancel : Place → Place
  | awaitingData _ => awaitingData .cancelled
  | yielding _ => yielding true
  | awaitingDrain _ => awaitingDrain .cancelled
  | place => place

/-- The streams, the blocks of a `read(n)` with a negative `n`, and what `destination.write` was
given in this call that its transport accepted, dropped, or raised on.
-/
structure State (limits : WriteLimits) where
  source : StreamReader
  destination : StreamWriter limits
  blocks : List UInt8
  accepted : List UInt8
  dropped : List UInt8
  refused : List UInt8
  place : Place
deriving DecidableEq

/-- What can happen: the source receives data, its end or an exception; the destination sends some
bytes, is given its end, closed, aborted or lost, or its reader gets an exception; the call is
cancelled; or it goes on, and a write to an idle transport sends so many bytes at once.
-/
inductive Event where
  | feeds (data : List UInt8)
  | feedsEof
  | fails
  | flushes (count : Nat)
  | writesEof
  | closes
  | aborts
  | loses (exception : Bool)
  | readerFails
  | cancels
  | goesOn (sent : Option Nat)
deriving DecidableEq, Repr

namespace State

def raise (state : State limits) (error : Raised StreamError) : State limits :=
  { state with place := .ended (.raised error) }

/-- `if not chunk: break`, and `destination.write(chunk)` -/
def deliver (state : State limits) (chunk : List UInt8) (sent : Option Nat) : State limits :=
  if chunk.isEmpty then
    { state with place := .ended (.returned ()) }
  else if let some error := state.destination.refusal then
    { state with refused := chunk, place := .ended (.raised (.exception error)) }
  else
    { state with
      destination := state.destination.write chunk.length sent
      accepted := if state.destination.accepts sent then state.accepted ++ chunk else state.accepted
      dropped := if state.destination.accepts sent then state.dropped else state.dropped ++ chunk
      place := .draining }

/-- The end of `read(n)`, which takes what is there, up to `n` bytes; a negative `n` reads blocks of
the limit until one is empty.
-/
def take (chunkSize : Int) (state : State limits) (sent : Option Nat) : State limits :=
  if 0 ≤ chunkSize then
    { state with source := state.source.discard chunkSize.toNat : State limits }.deliver
      (state.source.buffer.take chunkSize.toNat) sent
  else if state.source.buffer.isEmpty then
    { state with blocks := [] : State limits }.deliver state.blocks sent
  else
    { state with
      source := state.source.discard state.source.limit
      blocks := state.blocks ++ state.source.buffer.take state.source.limit
      place := .reading }

/-- `await source.read(chunk_size)`, up to its suspension or the next `await`. -/
def read (chunkSize : Int) (state : State limits) (sent : Option Nat) : State limits :=
  if state.source.failed then
    state.raise (.exception .reader)
  else if chunkSize = 0 then
    state.deliver [] sent
  else if state.source.starved then
    { state with place := .awaitingData .pending }
  else
    state.take chunkSize sent

/-- `await self._protocol._drain_helper()`, up to its suspension or the next turn of the loop. -/
def drainHelper (state : State limits) : State limits :=
  if state.destination.connection.isLost then
    state.raise (.exception .connectionReset)
  else if state.destination.paused then
    { state with place := .awaitingDrain .pending }
  else
    { state with place := .reading }

/-- `await destination.drain()`, up to its suspension or the next turn of the loop. -/
def drain (state : State limits) : State limits :=
  if state.destination.readerFailed then
    state.raise (.exception .reader)
  else if state.destination.connection = .opened then
    state.drainHelper
  else
    { state with place := .yielding false }

/-- The next part of the call that runs at once; `none` where it waits, or has ended. -/
def goOn (chunkSize : Int) (state : State limits) (sent : Option Nat) : Option (State limits) :=
  match state.place with
  | .reading => some (state.read chunkSize sent)
  | .awaitingData (.success _) => some (state.take chunkSize sent)
  | .draining => some state.drain
  | .yielding false => some state.drainHelper
  | .awaitingDrain (.success _) => some { state with place := .reading }
  | .awaitingData (.exception error) | .awaitingDrain (.exception error) =>
      some (state.raise (.exception error))
  | .awaitingData .cancelled | .yielding true | .awaitingDrain .cancelled =>
      some (state.raise .cancelledError)
  | .awaitingData .pending | .awaitingDrain .pending | .ended _ => none

/-- The connection of the destination is lost, with an exception or not. -/
def lose (state : State limits) (exception : Bool) : State limits :=
  { state with
    destination := state.destination.lose
    place :=
      if state.destination.paused then
        state.place.wakeWriter (if exception then .exception .connectionLost else .success ())
      else state.place }

/-- The destination sends so many bytes. -/
def flush (state : State limits) (count : Nat) : State limits :=
  { state with
    destination := state.destination.flush count
    place :=
      if (state.destination.flush count).paused then state.place
      else state.place.wakeWriter (.success ()) }

end State

/-- A call of `pipe()` on two streams. -/
def State.initial (source : StreamReader) (destination : StreamWriter limits) : State limits :=
  { source, destination, blocks := [], accepted := [], dropped := [], refused := [],
    place := .reading }

/-- Whether something other than the call itself can happen now. -/
def State.enables (state : State limits) : Event → Bool
  | .feeds data => !data.isEmpty && !state.source.eof
  | .feedsEof => !state.source.eof
  | .fails => !state.source.failed
  | .flushes count =>
      state.destination.connection.sends && 0 < count && count ≤ state.destination.unsent
  | .writesEof => state.destination.connection = .opened && !state.destination.eof
  | .closes => state.destination.connection = .opened
  | .aborts => state.destination.connection.sends
  -- A transport that is closed with something to send is lost as it sends the last of it
  | .loses _ => state.destination.connection = .closing
  | .readerFails => !state.destination.readerFailed
  | .cancels => true
  | .goesOn _ => false

/-- What others do to the streams and to the future that the call waits for. -/
def State.apply (state : State limits) : Event → State limits
  | .feeds data =>
      { state with
        source := state.source.feedData data
        place := state.place.wakeReader (.success ()) }
  | .feedsEof =>
      { state with
        source := state.source.feedEof
        place := state.place.wakeReader (.success ()) }
  | .fails =>
      { state with
        source := state.source.setException
        place := state.place.wakeReader (.exception .reader) }
  | .flushes count => state.flush count
  | .writesEof => { state with destination := state.destination.writeEof }
  | .closes => { state with destination := state.destination.close }
  | .aborts => { state with destination := state.destination.abort }
  | .loses exception => state.lose exception
  | .readerFails => { state with destination := state.destination.failReader }
  | .cancels => { state with place := state.place.cancel }
  | .goesOn _ => state

def step (chunkSize : Int) (state : State limits) : Event → Option (State limits)
  | .goesOn sent => state.goOn chunkSize sent
  | event =>
      if state.place.suspended && state.enables event then some (state.apply event) else none

/-- What the source has received in a schedule. -/
def fed (events : List Event) : List UInt8 :=
  events.flatMap
    (fun
      | .feeds data => data
      | _ => [])

end Aiodrive.Pipe
