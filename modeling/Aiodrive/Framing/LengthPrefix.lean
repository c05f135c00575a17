import Mathlib.Data.List.Induction
import Mathlib.Tactic.Ring

/-! Frames of bytes that start with the length of their data, in a fixed number of bytes and in
big endian.
-/

namespace LengthPrefix

/-- A number in exactly `width` bytes; the bytes of a larger number that do not fit are lost. -/
def toBytes : Nat → Nat → List UInt8
  | 0, _ => []
  | width + 1, number => toBytes width (number / 256) ++ [UInt8.ofNat number]

def fromBytes (bytes : List UInt8) : Nat :=
  bytes.foldl (fun number byte => number * 256 + byte.toNat) 0

@[simp] theorem length_toBytes (width number : Nat)
    : (toBytes width number).length = width := by
  induction width generalizing number with
  | zero => rfl
  | succ width ih => simp [toBytes, ih]

/-- The bytes before others count for more, by induction on the bytes from the end. -/
theorem fromBytes_append (first second : List UInt8)
    : fromBytes (first ++ second) = fromBytes first * 256 ^ second.length + fromBytes second := by
  induction second using List.reverseRecOn with
  | nil => simp [fromBytes]
  | append_singleton rest byte ih =>
      have last (bytes : List UInt8)
          : fromBytes (bytes ++ [byte]) = fromBytes bytes * 256 + byte.toNat := by
        simp [fromBytes]
      rw [← List.append_assoc, last, last, ih, List.length_append, List.length_singleton,
        Nat.pow_succ]
      ring

/-- A number that fits is read back. -/
theorem fromBytes_toBytes {width number : Nat} (fits : number < 256 ^ width)
    : fromBytes (toBytes width number) = number := by
  induction width generalizing number with
  | zero =>
      obtain rfl : number = 0 := by simpa using fits
      rfl
  | succ width ih =>
      have higher : number / 256 < 256 ^ width := by
        rw [Nat.div_lt_iff_lt_mul (by omega)]
        rwa [Nat.pow_succ] at fits
      rw [toBytes, fromBytes_append, ih higher]
      have lowest : fromBytes [UInt8.ofNat number] = number % 256 := by
        simp [fromBytes]
      rw [lowest]
      simp only [List.length_singleton]
      omega

/-- A number other than zero is read smaller when its last bytes are missing. -/
theorem fromBytes_take_lt {bytes : List UInt8} {count : Nat} (short : count < bytes.length)
    (positive : 0 < fromBytes bytes)
    : fromBytes (bytes.take count) < fromBytes bytes := by
  have whole := fromBytes_append (bytes.take count) (bytes.drop count)
  rw [List.take_append_drop] at whole
  have base : 256 ≤ 256 ^ (bytes.drop count).length := by
    have missing : (bytes.drop count).length ≠ 0 := by
      rw [List.length_drop]
      omega
    exact Nat.le_self_pow missing 256
  have scaled := Nat.mul_le_mul_left (fromBytes (bytes.take count)) base
  omega

/-- The bytes of a message on the stream. -/
def frame (width : Nat) (data : List UInt8) : List UInt8 :=
  toBytes width data.length ++ data

/-- The stream of some messages. -/
def frames (width : Nat) (messages : List (List UInt8)) : List UInt8 :=
  messages.flatMap (frame width)

variable {width : Nat} {data : List UInt8} {messages : List (List UInt8)}

@[simp] theorem frames_nil : frames width [] = [] :=
  rfl

theorem frames_cons
    : frames width (data :: messages)
      = toBytes width data.length ++ (data ++ frames width messages) := by
  simp [frames, frame]

theorem frames_append (others : List (List UInt8))
    : frames width (messages ++ others) = frames width messages ++ frames width others := by
  simp [frames]

/-- What follows the length of the first message. -/
theorem drop_frames_cons
    : (frames width (data :: messages)).drop width = data ++ frames width messages := by
  rw [frames_cons, List.drop_left' (length_toBytes _ _)]

theorem take_frames_cons
    : (frames width (data :: messages)).take width = toBytes width data.length := by
  rw [frames_cons, List.take_left' (length_toBytes _ _)]

/-- A stream with nothing on it has no messages. -/
theorem eq_nil_of_frames_eq_nil (nonempty : ∀ data ∈ messages, data ≠ [])
    (empty : frames width messages = [])
    : messages = [] := by
  cases messages with
  | nil => rfl
  | cons data rest =>
      rw [frames_cons] at empty
      simp only [List.append_eq_nil_iff] at empty
      exact (nonempty data List.mem_cons_self empty.2.1).elim

end LengthPrefix
