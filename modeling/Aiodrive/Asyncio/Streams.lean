import Aiodrive.Asyncio.Future
import Mathlib.Tactic.TypeStar

/-! The streams of asyncio as one task sees them: what a `StreamReader` has received, and what the
transport of a `StreamWriter` still has to send.
-/

namespace Aiodrive

/-- What a stream raises where it is awaited: the exception that the reader was given, the one of
`connection_lost(exc)`, or `ConnectionResetError`; and where it is written to, `RuntimeError` past
`write_eof()`, or `AttributeError` past the end of a socket.
-/
inductive StreamError where
  | reader
  | connectionLost
  | connectionReset
  | runtimeError
  | attributeError
deriving DecidableEq, Repr

-----------------------------------------------------------------------------------------
-- Readers
-----------------------------------------------------------------------------------------

/-- `_limit`, `_buffer`, `_eof` and whether `_exception` is set. -/
structure StreamReader where
  limit : Nat
  buffer : List UInt8
  eof : Bool
  failed : Bool
  limit_pos : 0 < limit
deriving DecidableEq

namespace StreamReader

/-- A new reader that has received some data. -/
def holding (limit : Nat) (limit_pos : 0 < limit) (data : List UInt8) : StreamReader where
  limit
  buffer := data
  eof := false
  failed := false
  limit_pos

/-- `feed_data(data)` -/
def feedData (reader : StreamReader) (data : List UInt8) : StreamReader :=
  { reader with buffer := reader.buffer ++ data }

/-- `feed_eof()` -/
def feedEof (reader : StreamReader) : StreamReader :=
  { reader with eof := true }

/-- `set_exception(exc)` -/
def setException (reader : StreamReader) : StreamReader :=
  { reader with failed := true }

/-- `not self._buffer and not self._eof`, when `read(n)` waits for data. -/
def starved (reader : StreamReader) : Bool :=
  reader.buffer.isEmpty && !reader.eof

/-- `del self._buffer[:n]` -/
def discard (reader : StreamReader) (count : Nat) : StreamReader :=
  { reader with buffer := reader.buffer.drop count }

end StreamReader

-----------------------------------------------------------------------------------------
-- Writers
-----------------------------------------------------------------------------------------

/-- The transports of a selector loop that can be written to: of a socket, and of a pipe. -/
inductive Transport where
  | socket
  | pipe
deriving DecidableEq, Repr

/-- A transport is open; is closed, with bytes that it sends first; has `connection_lost`
scheduled; or has called it, past the last of those bytes or not.
-/
inductive Connection where
  | opened
  | flushing
  | closing
  | lost (flushed : Bool)
deriving DecidableEq, Repr

/-- Whether what is left to send is sent. -/
def Connection.sends : Connection → Bool
  | opened | flushing => true
  | closing | lost _ => false

/-- `_connection_lost` of the protocol -/
def Connection.isLost : Connection → Bool
  | lost _ => true
  | opened | flushing | closing => false

/-- `transport.get_write_buffer_limits()` -/
structure WriteLimits where
  high : Nat
  low : Nat
  low_le : low ≤ high

/-- Limits that let nothing wait to be sent but one chunk. -/
def WriteLimits.zero : WriteLimits :=
  ⟨0, 0, Nat.le_refl 0⟩

/-- `transport.get_write_buffer_size()`, whether the protocol was told to pause, the connection,
whether a socket was given `write_eof()`, and whether `self._reader.exception()` is set. As long
as it sends, the transport has paused its protocol above the high limit, and only where
something is left.
-/
structure StreamWriter (limits : WriteLimits) where
  transport : Transport
  unsent : Nat
  paused : Bool
  connection : Connection
  eof : Bool
  readerFailed : Bool
  paused_of_high : connection.sends = true → limits.high < unsent → paused = true
  unsent_of_paused : connection.sends = true → paused = true → 0 < unsent
  unsent_of_flushing : connection = .flushing → 0 < unsent
deriving DecidableEq

namespace StreamWriter

variable {limits : WriteLimits}

/-- A new transport. -/
def idle (transport : Transport) (limits : WriteLimits) : StreamWriter limits where
  transport
  unsent := 0
  paused := false
  connection := .opened
  eof := false
  readerFailed := false
  paused_of_high := by simp
  unsent_of_paused := by simp
  unsent_of_flushing := by simp

/-- What `write(data)` raises. A socket does not count a write past the end of its last bytes as
one to a lost connection, and has nothing left to send it with.
-/
def refusal (writer : StreamWriter limits) : Option StreamError :=
  match writer.transport with
  | .pipe => none
  | .socket =>
      if writer.eof then some .runtimeError
      else if writer.connection = .lost true then some .attributeError
      else none

/-- Whether the transport takes data, where it does not raise. A socket that is closed still does
as long as it has something to send.
-/
def takes (writer : StreamWriter limits) : Bool :=
  match writer.transport, writer.connection with
  | _, .opened | .socket, .flushing => true
  | .pipe, .flushing | _, .closing | _, .lost _ => false

/-- Whether the transport takes what `write(data)` gives it. One that has nothing left to send tries
to send it at once: `sent` are the bytes that went, and `none` an error.
-/
def accepts (writer : StreamWriter limits) (sent : Option Nat) : Bool :=
  writer.takes && (writer.unsent ≠ 0 || sent.isSome)

theorem sends_of_takes {writer : StreamWriter limits} (takes : writer.takes = true)
    : writer.connection.sends = true := by
  unfold StreamWriter.takes at takes
  split at takes <;> simp_all [Connection.sends]

/-- What is left to send after `write(data)`. -/
def unsentAfter (writer : StreamWriter limits) (length : Nat) (sent : Option Nat) : Nat :=
  if writer.unsent = 0 then length - sent.getD 0 else writer.unsent + length

/-- A transport that still has something to send has so after a write. -/
theorem unsentAfter_pos (writer : StreamWriter limits) (length : Nat) (sent : Option Nat)
    (some_unsent : 0 < writer.unsent)
    : 0 < writer.unsentAfter length sent := by
  have nonzero : writer.unsent ≠ 0 := by omega
  simp only [unsentAfter, nonzero, ↓reduceIte]
  omega

/-- `write(data)`, where it does not raise -/
def write (writer : StreamWriter limits) (length : Nat) (sent : Option Nat)
    : StreamWriter limits :=
  if takes : writer.takes = true then
    if writer.accepts sent then
      { writer with
        unsent := writer.unsentAfter length sent
        paused := writer.paused || decide (limits.high < writer.unsentAfter length sent)
        paused_of_high := by simp +contextual
        unsent_of_paused := by
          intro _ pauses
          rcases (by simpa using pauses) with before | above
          · have some_unsent := writer.unsent_of_paused (sends_of_takes takes) before
            exact writer.unsentAfter_pos length sent some_unsent
          · exact Nat.zero_lt_of_lt above
        unsent_of_flushing := fun flushing =>
          writer.unsentAfter_pos length sent (writer.unsent_of_flushing flushing) }
    else
      -- The error closes the transport
      { writer with
        connection := .closing
        paused_of_high := by simp [Connection.sends]
        unsent_of_paused := by simp [Connection.sends]
        unsent_of_flushing := by simp }
  else
    writer

/-- How little is left to send when the protocol is resumed; a pipe sends its last byte first. -/
def resumeLimit (writer : StreamWriter limits) : Nat :=
  match writer.transport with
  | .socket => limits.low
  | .pipe => 0

theorem resumeLimit_le (writer : StreamWriter limits) : writer.resumeLimit ≤ limits.high := by
  unfold resumeLimit
  split
  · exact limits.low_le
  · exact Nat.zero_le _

/-- The connection of a closed transport is lost with the last of its bytes. -/
def finish (writer : StreamWriter limits) : StreamWriter limits :=
  { writer with
    unsent := 0
    paused := false
    connection := .lost true
    paused_of_high := by simp [Connection.sends]
    unsent_of_paused := by simp
    unsent_of_flushing := by simp }

/-- The transport sends so many bytes more. -/
def flush (writer : StreamWriter limits) (count : Nat) : StreamWriter limits :=
  if last : writer.connection = .flushing ∧ writer.unsent ≤ count then
    writer.finish
  else
    { writer with
      unsent := writer.unsent - count
      paused := writer.paused && decide (writer.resumeLimit < writer.unsent - count)
      paused_of_high := by
        intro sends above
        have low_le := writer.resumeLimit_le
        have before := writer.paused_of_high sends (by omega)
        simp only [before, Bool.true_and, decide_eq_true_eq]
        omega
      unsent_of_paused := by
        intro _ stays
        simp only [Bool.and_eq_true, decide_eq_true_eq] at stays
        omega
      unsent_of_flushing := fun flushing => Nat.sub_pos_of_lt (by simpa [flushing] using last) }

/-- `close()` -/
def close (writer : StreamWriter limits) : StreamWriter limits :=
  if isOpen : writer.connection = .opened then
    if sent : writer.unsent = 0 then
      { writer with
        connection := .closing
        paused_of_high := by simp [Connection.sends]
        unsent_of_paused := by simp [Connection.sends]
        unsent_of_flushing := by simp }
    else
      { writer with
        connection := .flushing
        paused_of_high := fun _ => writer.paused_of_high (by simp [isOpen, Connection.sends])
        unsent_of_paused := fun _ _ => Nat.pos_of_ne_zero sent
        unsent_of_flushing := fun _ => Nat.pos_of_ne_zero sent }
  else
    writer

/-- `write_eof()`, which closes a pipe -/
def writeEof (writer : StreamWriter limits) : StreamWriter limits :=
  match writer.transport with
  | .socket => { writer with eof := writer.eof || decide (writer.connection = .opened) }
  | .pipe => writer.close

/-- `transport.abort()`, or an error while it sends. -/
def abort (writer : StreamWriter limits) : StreamWriter limits :=
  { writer with
    unsent := 0
    connection := .closing
    paused_of_high := by simp
    unsent_of_paused := by simp [Connection.sends]
    unsent_of_flushing := by simp }

/-- `connection_lost(exc)` -/
def lose (writer : StreamWriter limits) : StreamWriter limits :=
  { writer with
    connection := .lost false
    paused_of_high := by simp [Connection.sends]
    unsent_of_paused := by simp [Connection.sends]
    unsent_of_flushing := by simp }

/-- `self._reader.set_exception(exc)` -/
def failReader (writer : StreamWriter limits) : StreamWriter limits :=
  { writer with readerFailed := true }

end StreamWriter

end Aiodrive
