import Aiodrive.Multiprocessing.Connection
import Mathlib.Data.List.Infix

/-! `recv()` returns the messages sent, in order, exactly while each of its `read()` finds all
of its bytes in the buffer; `read(n)` does not wait for `n` bytes.
-/

namespace Aiodrive.Connection

open LengthPrefix

variable {ε Obj : Type*} {loads : List UInt8 → Except (Failure ε) Obj}
  {state next : State ε Obj}

/-- The messages that were not handed to `pickle.loads`. -/
def State.left (state : State ε Obj) : List (List UInt8) :=
  state.sent.drop state.loaded.length

/-- The bytes from where the reader stands in the stream of the messages left. -/
def State.expected (state : State ε Obj) : List UInt8 :=
  match state.receiving with
  | none => frames 4 state.left
  | some _ => (frames 4 state.left).drop 4

/-- The reader is where it takes itself to be in the stream. -/
structure Aligned (loads : List UInt8 → Except (Failure ε) Obj) (state : State ε Obj)
    : Prop where
  delivered : state.loaded <+: state.sent
  size
    : ∀ size,
        state.receiving = some size → ∃ data, state.left.head? = some data ∧ size = data.length
  stream : state.eof = false → state.buffer ++ state.transit = state.expected
  ended : state.eof = true → state.transit = [] ∧ state.buffer <+: state.expected
  results
    : ∃ count,
        state.results = state.loaded.map loads ++ List.replicate count (.error .eofError)
        ∧ (count ≠ 0 → state.eof = true ∧ state.buffer = [] ∧ state.receiving = none)

/-- The reader was handed something else than the next message, or is about to be. -/
def Misread (state : State ε Obj) : Prop :=
  (∃ (index : Nat) (data other : List UInt8),
    state.loaded[index]? = some data ∧ state.sent[index]? = some other ∧ data ≠ other)
  ∨ ∃ (size : Nat) (data : List UInt8),
      state.receiving = some size
      ∧ state.sent[state.loaded.length]? = some data
      ∧ size < data.length

/-- The `read()` finds all of its bytes in the buffer, or the end of the stream in place of a
frame.
-/
def Whole (state : State ε Obj) : Event → Prop
  | .recvSize => 4 ≤ state.buffer.length ∨ state.buffer = []
  | .recvData => ∀ size, state.receiving = some size → size ≤ state.buffer.length
  | .send _ | .arrive _ | .endStream => True

/-- A message can be sent and is not empty, as no pickle is. -/
def Valid (data : List UInt8) : Prop :=
  data ≠ [] ∧ data.length < 2 ^ 32

theorem aligned_initial : Aligned loads (.initial : State ε Obj) :=
  {
    delivered := List.prefix_rfl
    size := by simp [State.initial]
    stream := by simp [State.initial, State.expected, State.left]
    ended := by simp [State.initial]
    results := ⟨0, by simp [State.initial]⟩
  }

-----------------------------------------------------------------------------------------
-- An aligned reader
-----------------------------------------------------------------------------------------

theorem Aligned.sent_eq (aligned : Aligned loads state)
    : state.sent = state.loaded ++ state.left := by
  obtain ⟨rest, split⟩ := aligned.delivered
  simp [State.left, ← split]

/-- The buffer has the next bytes of the stream. -/
theorem Aligned.buffer_prefix (aligned : Aligned loads state)
    : state.buffer <+: state.expected := by
  cases ended : state.eof with
  | false => exact ⟨state.transit, aligned.stream ended⟩
  | true => exact (aligned.ended ended).2

theorem head?_left (state : State ε Obj)
    : state.left.head? = state.sent[state.loaded.length]? :=
  List.head?_drop

/-- An aligned reader was handed the first messages sent. -/
theorem Aligned.not_misread (aligned : Aligned loads state) : ¬Misread state := by
  rintro (⟨index, data, other, loaded, sent, different⟩ | ⟨size, data, receiving, sent, less⟩)
  · have inLoaded := (List.getElem?_eq_some_iff.mp loaded).1
    rw [aligned.sent_eq, List.getElem?_append_left inLoaded, loaded] at sent
    exact different (Option.some.inj sent)
  · obtain ⟨same, head, rfl⟩ := aligned.size size receiving
    rw [head?_left, sent] at head
    obtain rfl := Option.some.inj head
    exact Nat.lt_irrefl _ less

/-- A nonempty buffer between two `recv()` starts with the length of the next message. -/
theorem Aligned.next_of_between (aligned : Aligned loads state)
    (between : state.receiving = none) (arrived : state.buffer ≠ [])
    : ∃ data rest,
        state.left = data :: rest
        ∧ state.buffer.take 4 = (toBytes 4 data.length).take state.buffer.length := by
  have starts := aligned.buffer_prefix
  simp only [State.expected, between] at starts
  cases left : state.left with
  | nil => simp [left, arrived] at starts
  | cons data rest =>
      refine ⟨data, rest, rfl, ?_⟩
      rw [left] at starts
      rw [List.prefix_iff_eq_take.mp starts, List.take_take, ← take_frames_cons, List.take_take,
        List.length_take]
      congr 1
      have longEnough := starts.length_le
      omega

/-- At its second `read()`, the reader is at the data of the next message. -/
theorem Aligned.next_of_receiving (aligned : Aligned loads state) {size : Nat}
    (receiving : state.receiving = some size)
    : ∃ data rest,
        state.left = data :: rest
        ∧ size = data.length
        ∧ state.expected = data ++ frames 4 rest := by
  obtain ⟨data, head, rfl⟩ := aligned.size size receiving
  cases left : state.left with
  | nil => simp [left] at head
  | cons first rest =>
      obtain rfl : first = data := by simpa [left] using head
      exact ⟨first, rest, rfl, rfl, by simp [State.expected, receiving, left, drop_frames_cons]⟩

-----------------------------------------------------------------------------------------
-- The steps of the senders and of the socket
-----------------------------------------------------------------------------------------

theorem Aligned.send (aligned : Aligned loads state) {data : List UInt8}
    (opened : state.eof = false) (sent : state.send data = some next)
    : Aligned loads next := by
  unfold State.send at sent
  split at sent
  case isFalse => contradiction
  obtain rfl := Option.some.inj sent
  have short := aligned.delivered.length_le
  have left
      : State.left
          { state with transit := state.transit ++ frame 4 data, sent := state.sent ++ [data] }
        = state.left ++ [data] :=
    List.drop_append_of_le_length short
  exact {
    delivered := aligned.delivered.trans (List.prefix_append _ _)
    size := by
      intro size receiving
      obtain ⟨first, head, same⟩ := aligned.size size receiving
      refine ⟨first, ?_, same⟩
      rw [left, List.head?_append, head]
      rfl
    stream := by
      intro _
      have last : frames 4 [data] = frame 4 data := by simp [frames]
      have stream := aligned.stream opened
      rw [← List.append_assoc, stream]
      simp only [State.expected, left, frames_append, last]
      cases receiving : state.receiving with
      | none => rfl
      | some size =>
          obtain ⟨first, rest, same, _⟩ := aligned.next_of_receiving receiving
          have longEnough : 4 ≤ (frames 4 state.left).length := by simp [same, frames_cons]
          exact (List.drop_append_of_le_length longEnough).symm
    ended := by simp [opened]
    results := aligned.results
  }

theorem Aligned.arrive (aligned : Aligned loads state) {count : Nat} (positive : 0 < count)
    (written : count ≤ state.transit.length)
    : Aligned loads
        { state with
          buffer := state.buffer ++ state.transit.take count
          transit := state.transit.drop count } := by
  have opened : state.eof = false := by
    by_contra ended
    have gone := (aligned.ended (by simpa using ended)).1
    simp only [gone, List.length_nil] at written
    omega
  exact {
    delivered := aligned.delivered
    size := aligned.size
    stream := fun _ => by
      rw [List.append_assoc, List.take_append_drop]
      exact aligned.stream opened
    ended := by simp [opened]
    results := by
      obtain ⟨failures, results, atEnd⟩ := aligned.results
      refine ⟨failures, results, fun failed => ?_⟩
      simp [opened] at atEnd
      exact (failed atEnd).elim
  }

theorem Aligned.endStream (aligned : Aligned loads state)
    : Aligned loads { state with eof := true, transit := [] } :=
  {
    delivered := aligned.delivered
    size := aligned.size
    stream := by simp
    ended := fun _ => ⟨rfl, aligned.buffer_prefix⟩
    results := by
      obtain ⟨failures, results, atEnd⟩ := aligned.results
      exact ⟨failures, results, fun failed => ⟨rfl, (atEnd failed).2⟩⟩
  }

-----------------------------------------------------------------------------------------
-- The steps of the reader
-----------------------------------------------------------------------------------------

/-- The first `read()` of an aligned reader keeps it aligned if it is whole. -/
theorem Aligned.recvSize (aligned : Aligned loads state)
    (valid : ∀ data ∈ state.sent, Valid data) (between : state.receiving = none)
    (whole : 4 ≤ state.buffer.length ∨ state.buffer = [])
    (received : state.recvSize = some next)
    : Aligned loads next := by
  obtain ⟨failures, results, atEnd⟩ := aligned.results
  obtain ⟨_, read, rfl⟩ := Option.map_eq_some_iff.mp received
  obtain ⟨ready, rfl⟩ := read_eq_some_iff.mp read
  rcases whole with whole | empty
  · have arrived : state.buffer ≠ [] := by
      rintro empty
      simp [empty] at whole
    obtain ⟨data, rest, left, header⟩ := aligned.next_of_between between arrived
    have taken : (toBytes 4 data.length).take state.buffer.length = toBytes 4 data.length :=
      List.take_of_length_le (by simpa using whole)
    have inSent : data ∈ state.sent := by simp [aligned.sent_eq, left]
    have size : fromBytes (toBytes 4 data.length) = data.length :=
      fromBytes_toBytes (by simpa using (valid data inSent).2)
    have nonempty : toBytes 4 data.length ≠ [] := by
      rw [← List.length_pos_iff, length_toBytes]
      omega
    have expected
        : ({ state with buffer := state.buffer.drop 4, receiving := some data.length }
            : State ε Obj).expected
          = state.expected.drop 4 := by
      simp [State.expected, between, State.left]
    simp only [header, taken, nonempty, if_false, size]
    exact {
      delivered := aligned.delivered
      size := by
        intro size same
        obtain rfl := Option.some.inj same
        exact ⟨data, congrArg List.head? left, rfl⟩
      stream := by
        intro opened
        rw [expected, ← aligned.stream opened, List.drop_append_of_le_length whole]
      ended := by
        intro ended
        refine ⟨(aligned.ended ended).1, ?_⟩
        rw [expected]
        exact aligned.buffer_prefix.drop 4
      results := by
        obtain rfl : failures = 0 := by
          by_contra failed
          exact arrived (atEnd failed).2.1
        exact ⟨0, results, by simp⟩
    }
  · have ended : state.eof = true := by simpa [empty] using ready
    simp only [empty, List.take_nil, List.drop_nil, if_true]
    exact {
      delivered := aligned.delivered
      size := aligned.size
      stream := by simp [ended]
      ended := fun _ => ⟨(aligned.ended ended).1, List.nil_prefix⟩
      results := by
        refine ⟨failures + 1, ?_, fun _ => ⟨ended, rfl, between⟩⟩
        rw [results, List.replicate_succ', List.append_assoc]
    }

/-- The second `read()` of an aligned reader keeps it aligned if it is whole. -/
theorem Aligned.recvData (aligned : Aligned loads state) {size : Nat}
    (receiving : state.receiving = some size) (enough : size ≤ state.buffer.length)
    (received : state.recvData loads size = some next)
    : Aligned loads next := by
  obtain ⟨failures, results, atEnd⟩ := aligned.results
  obtain ⟨data, rest, left, rfl, expected⟩ := aligned.next_of_receiving receiving
  obtain ⟨_, read, rfl⟩ := Option.map_eq_some_iff.mp received
  obtain ⟨_, rfl⟩ := read_eq_some_iff.mp read
  have starts := expected ▸ aligned.buffer_prefix
  have whole : state.buffer.take data.length = data := by
    obtain ⟨more, stream⟩ := starts
    have first := congrArg (List.take data.length) stream
    rwa [List.take_append_of_le_length enough, List.take_left] at first
  have length : (state.loaded ++ [data]).length = state.loaded.length + 1 := by simp
  have nextLeft : state.sent.drop (state.loaded.length + 1) = rest := by
    have tail := congrArg List.tail left
    simpa [State.left, List.tail_drop] using tail
  have nextExpected
      : State.expected
          { state with
            buffer := state.buffer.drop data.length
            receiving := none
            loaded := state.loaded ++ [data]
            results := state.results ++ [loads data] }
        = state.expected.drop data.length := by
    rw [expected, List.drop_left]
    simp only [State.expected, State.left, length, nextLeft]
  simp only [whole]
  exact {
    delivered := by
      refine ⟨rest, ?_⟩
      rw [List.append_assoc, List.singleton_append, ← left]
      exact aligned.sent_eq.symm
    size := by simp
    stream := by
      intro opened
      rw [nextExpected, ← aligned.stream opened, List.drop_append_of_le_length enough]
    ended := by
      intro ended
      refine ⟨(aligned.ended ended).1, ?_⟩
      rw [nextExpected]
      exact aligned.buffer_prefix.drop data.length
    results := by
      obtain rfl : failures = 0 := by
        by_contra failed
        simp [(atEnd failed).2.2] at receiving
      exact ⟨0, by simp [results], by simp⟩
  }

-----------------------------------------------------------------------------------------
-- Short reads
-----------------------------------------------------------------------------------------

/-- A first `read()` that is short takes a part of the size for the size, which is less. -/
theorem Aligned.misread_of_short_size (aligned : Aligned loads state)
    (valid : ∀ data ∈ state.sent, Valid data) (between : state.receiving = none)
    (arrived : state.buffer ≠ []) (short : state.buffer.length < 4)
    (received : state.recvSize = some next)
    : Misread next := by
  obtain ⟨data, rest, left, header⟩ := aligned.next_of_between between arrived
  obtain ⟨_, read, rfl⟩ := Option.map_eq_some_iff.mp received
  obtain ⟨_, rfl⟩ := read_eq_some_iff.mp read
  have nonempty : state.buffer.take 4 ≠ [] := by simpa using arrived
  have inSent : data ∈ state.sent := by simp [aligned.sent_eq, left]
  obtain ⟨positive, fits⟩ := valid data inSent
  have size : fromBytes (toBytes 4 data.length) = data.length :=
    fromBytes_toBytes (by simpa using fits)
  have less : fromBytes (state.buffer.take 4) < data.length := by
    rw [header]
    calc
      fromBytes ((toBytes 4 data.length).take state.buffer.length)
          < fromBytes (toBytes 4 data.length) :=
        fromBytes_take_lt (by simpa using short)
          (by rw [size]; exact List.length_pos_iff.mpr positive)
      _ = data.length := size
  have here : state.sent[state.loaded.length]? = some data := by
    rw [← head?_left, left]
    rfl
  simp only [nonempty, if_false]
  exact Or.inr ⟨_, data, rfl, here, less⟩

/-- Less than the next message is handed to `pickle.loads` in its place. -/
theorem misread_of_short_data {size : Nat} {data : List UInt8}
    (here : state.sent[state.loaded.length]? = some data)
    (short : size < data.length ∨ size = data.length ∧ state.buffer.length < size)
    (received : state.recvData loads size = some next)
    : Misread next := by
  obtain ⟨_, read, rfl⟩ := Option.map_eq_some_iff.mp received
  obtain ⟨_, rfl⟩ := read_eq_some_iff.mp read
  refine Or.inl ⟨state.loaded.length, state.buffer.take size, data, by simp, here, ?_⟩
  rintro rfl
  simp only [List.length_take] at short
  omega

/-- A reader that was handed something else never recovers. -/
theorem Misread.step (misread : Misread state) {event : Event}
    (stepped : step loads state event = some next)
    : Misread next := by
  cases event with
  | send data =>
      simp only [Connection.step, State.send] at stepped
      split_ifs at stepped
      obtain rfl := Option.some.inj stepped
      have kept {index : Nat} {other : List UInt8} (found : state.sent[index]? = some other)
          : (state.sent ++ [data])[index]? = some other := by
        rw [List.getElem?_append_left (List.getElem?_eq_some_iff.mp found).1, found]
      rcases misread with ⟨index, data, other, loaded, sent, different⟩
        | ⟨size, data, receiving, sent, less⟩
      · exact Or.inl ⟨index, data, other, loaded, kept sent, different⟩
      · exact Or.inr ⟨size, data, receiving, kept sent, less⟩
  | arrive count =>
      simp only [Connection.step] at stepped
      split_ifs at stepped
      exact Option.some.inj stepped ▸ misread
  | endStream =>
      simp only [Connection.step] at stepped
      split_ifs at stepped
      exact Option.some.inj stepped ▸ misread
  | recvSize =>
      simp only [Connection.step] at stepped
      split at stepped
      · rename_i between
        obtain ⟨_, _, rfl⟩ := Option.map_eq_some_iff.mp stepped
        rcases misread with handed | ⟨size, data, receiving, _⟩
        · dsimp only
          split <;> exact Or.inl handed
        · simp [between] at receiving
      · contradiction
  | recvData =>
      simp only [Connection.step] at stepped
      split at stepped
      · contradiction
      · rename_i size receiving
        rcases misread with ⟨index, data, other, loaded, sent, different⟩
          | ⟨same, data, alsoReceiving, sent, less⟩
        · obtain ⟨_, _, rfl⟩ := Option.map_eq_some_iff.mp stepped
          have inLoaded := (List.getElem?_eq_some_iff.mp loaded).1
          refine Or.inl ⟨index, data, other, ?_, sent, different⟩
          rw [List.getElem?_append_left inLoaded, loaded]
        · obtain rfl := Option.some.inj (receiving.symm.trans alsoReceiving)
          exact misread_of_short_data sent (Or.inl less) stepped

-----------------------------------------------------------------------------------------
-- Every run
-----------------------------------------------------------------------------------------

/-- A reader is aligned until its first short read. -/
def Sound (loads : List UInt8 → Except (Failure ε) Obj) (state : State ε Obj) : Prop :=
  (∀ data ∈ state.sent, Valid data) ∧ (Misread state ∨ Aligned loads state)

/-- A whole step keeps the reader aligned, and a short read misreads. -/
theorem Aligned.step (aligned : Aligned loads state)
    (valid : ∀ data ∈ state.sent, Valid data) {event : Event}
    (stepped : step loads state event = some next)
    : (Whole state event → Aligned loads next) ∧ (¬Whole state event → Misread next) := by
  cases event with
  | send data =>
      simp only [Connection.step] at stepped
      split_ifs at stepped with ended
      exact ⟨fun _ => aligned.send (by simpa using ended) stepped,
        fun short => (short trivial).elim⟩
  | arrive count =>
      simp only [Connection.step] at stepped
      split_ifs at stepped with allowed
      exact ⟨fun _ => Option.some.inj stepped ▸ aligned.arrive allowed.1 allowed.2,
        fun short => (short trivial).elim⟩
  | endStream =>
      simp only [Connection.step] at stepped
      split_ifs at stepped with ended
      exact ⟨fun _ => Option.some.inj stepped ▸ aligned.endStream,
        fun short => (short trivial).elim⟩
  | recvSize =>
      simp only [Connection.step] at stepped
      split at stepped
      · rename_i between
        refine ⟨fun whole => aligned.recvSize valid between whole stepped, fun short => ?_⟩
        simp only [Whole, not_or, Nat.not_le] at short
        exact aligned.misread_of_short_size valid between short.2 short.1 stepped
      · contradiction
  | recvData =>
      simp only [Connection.step] at stepped
      split at stepped
      · contradiction
      · rename_i size receiving
        refine ⟨fun whole => aligned.recvData receiving (whole size receiving) stepped, ?_⟩
        intro short
        simp only [Whole, receiving, Option.some.injEq, forall_eq', Nat.not_le] at short
        obtain ⟨data, rest, left, same, _⟩ := aligned.next_of_receiving receiving
        have here : state.sent[state.loaded.length]? = some data := by
          rw [← head?_left, left]
          rfl
        exact misread_of_short_data here (Or.inr ⟨same, short⟩) stepped

/-- A `recv()` where the stream ended inside a frame raises `EOFError` itself only if nothing of
the frame arrived; else it hands what arrived of the data to `pickle.loads`.
-/
theorem Aligned.recv_at_end (aligned : Aligned loads state)
    (valid : ∀ data ∈ state.sent, Valid data) (between : state.receiving = none)
    (ended : state.eof = true)
    (inside : ∀ data, state.left.head? = some data → state.buffer.length < 4 + data.length)
    : ∃ last,
        Transition.run (Connection.step loads) state
            (if state.buffer = [] then [.recvSize] else [.recvSize, .recvData])
          = some last
        ∧ last.results
          = state.results
            ++ [if state.buffer = [] then .error .eofError else loads (state.buffer.drop 4)] := by
  by_cases empty : state.buffer = []
  · have read : state.read 4 = some ([], []) := read_eq_some_iff.mpr (by simp [ended, empty])
    refine ⟨{ state with buffer := [], results := state.results ++ [.error .eofError] }, ?_, ?_⟩
    · simp [empty, Transition.run, Connection.step, between, State.recvSize, read]
    · simp [empty]
  · have partOfData : (state.buffer.drop 4).length ≤ fromBytes (state.buffer.take 4) := by
      by_cases short : state.buffer.length < 4
      · simp [List.drop_eq_nil_of_le (Nat.le_of_lt short)]
      · obtain ⟨data, rest, left, header⟩ := aligned.next_of_between between empty
        have inSent : data ∈ state.sent := by simp [aligned.sent_eq, left]
        have taken : (toBytes 4 data.length).take state.buffer.length = toBytes 4 data.length :=
          List.take_of_length_le (by simpa using short)
        have size : fromBytes (toBytes 4 data.length) = data.length :=
          fromBytes_toBytes (by simpa using (valid data inSent).2)
        have notWhole := inside data (by rw [left]; rfl)
        rw [header, taken, size, List.length_drop]
        omega
    have nonempty : state.buffer.take 4 ≠ [] := by simpa using empty
    have first : state.recvSize
        = some { state with
            buffer := state.buffer.drop 4
            receiving := some (fromBytes (state.buffer.take 4)) } := by
      have read : state.read 4 = some (state.buffer.take 4, state.buffer.drop 4) :=
        read_eq_some_iff.mpr (by simp [ended])
      simp [State.recvSize, read, nonempty]
    have second
        : ({ state with
              buffer := state.buffer.drop 4
              receiving := some (fromBytes (state.buffer.take 4)) } : State ε Obj).read
            (fromBytes (state.buffer.take 4))
          = some (state.buffer.drop 4, []) :=
      read_eq_some_iff.mpr
        (by simp [ended, List.take_of_length_le partOfData, List.drop_eq_nil_of_le partOfData])
    refine ⟨{ state with
        buffer := []
        loaded := state.loaded ++ [state.buffer.drop 4]
        results := state.results ++ [loads (state.buffer.drop 4)] }, ?_, ?_⟩
    · simp only [empty, if_false, Transition.run, Connection.step, between, first,
        Option.bind_some, State.recvData, second, Option.map_some]
    · simp [empty]

variable {events : List Event} {final : State ε Obj}

/-- Every step keeps the messages valid, where those sent are not empty. -/
theorem valid_of_step {event : Event} (nonempty : ∀ data, event = .send data → data ≠ [])
    (valid : ∀ data ∈ state.sent, Valid data) (stepped : step loads state event = some next)
    : ∀ data ∈ next.sent, Valid data := by
  cases event with
  | send data =>
      simp only [Connection.step, State.send] at stepped
      split_ifs at stepped with ended fits
      obtain rfl := Option.some.inj stepped
      intro other member
      rcases List.mem_append.mp member with before | last
      · exact valid other before
      · obtain rfl := List.mem_singleton.mp last
        exact ⟨nonempty other rfl, fits⟩
  | arrive count =>
      simp only [Connection.step] at stepped
      split_ifs at stepped
      exact Option.some.inj stepped ▸ valid
  | endStream =>
      simp only [Connection.step] at stepped
      split_ifs at stepped
      exact Option.some.inj stepped ▸ valid
  | recvSize =>
      simp only [Connection.step] at stepped
      split at stepped
      · obtain ⟨_, _, rfl⟩ := Option.map_eq_some_iff.mp stepped
        dsimp only
        split <;> exact valid
      · contradiction
  | recvData =>
      simp only [Connection.step] at stepped
      split at stepped
      · contradiction
      · obtain ⟨_, _, rfl⟩ := Option.map_eq_some_iff.mp stepped
        exact valid

theorem sound_of_step (nonempty : ∀ data, Event.send data ∈ events → data ≠ [])
    {event : Event} (member : event ∈ events) (sound : Sound loads state)
    (stepped : step loads state event = some next)
    : Sound loads next := by
  refine ⟨valid_of_step (fun data same => nonempty data (same ▸ member)) sound.1 stepped, ?_⟩
  rcases sound.2 with misread | aligned
  · exact Or.inl (misread.step stepped)
  · by_cases whole : Whole state event
    · exact Or.inr ((aligned.step sound.1 stepped).1 whole)
    · exact Or.inl ((aligned.step sound.1 stepped).2 whole)

/-- A step misreads if the state did, or if it is a short read. -/
theorem Sound.misread_step_iff (sound : Sound loads state) {event : Event}
    (stepped : step loads state event = some next)
    : Misread next ↔ Misread state ∨ ¬Whole state event := by
  rcases sound.2 with misread | aligned
  · exact iff_of_true (misread.step stepped) (Or.inl misread)
  · obtain ⟨keeps, breaks⟩ := aligned.step sound.1 stepped
    by_cases whole : Whole state event
    · simp [whole, aligned.not_misread, (keeps whole).not_misread]
    · simp [whole, breaks whole]

/-- Between two `recv()`, a reader that misread was handed something else than the messages. -/
theorem Sound.prefix_iff (sound : Sound loads state) (between : state.receiving = none)
    : state.loaded <+: state.sent ↔ ¬Misread state := by
  constructor
  · rintro ⟨rest, split⟩
      (⟨index, data, other, loaded, sent, different⟩ | ⟨size, _, receiving, _⟩)
    · have inLoaded := (List.getElem?_eq_some_iff.mp loaded).1
      rw [← split, List.getElem?_append_left inLoaded, loaded] at sent
      exact different (Option.some.inj sent)
    · simp [between] at receiving
  · intro notMisread
    rcases sound.2 with misread | aligned
    · exact (notMisread misread).elim
    · exact aligned.delivered

/-- In every run, what was handed to `pickle.loads` between two `recv()` is the messages sent so
far, in order, exactly if every `read()` found all of its bytes in the buffer. Then the
results are the messages, with `EOFError` after them only where the stream ended; no
message is left where nothing is left to arrive; and where the stream ended inside a frame,
the next `recv()` raises `EOFError` exactly if nothing of the frame arrived or
`pickle.loads` raises it on the part of the data that did. The proof follows the reader's place
in the stream, which a short read loses for ever.
-/
theorem recv_delivers_iff (nonempty : ∀ data, Event.send data ∈ events → data ≠ [])
    (reached : Transition.run (step loads) .initial events = some final)
    (between : final.receiving = none)
    : (final.loaded <+: final.sent ↔ Transition.Meets (step loads) Whole .initial events)
      ∧ (Transition.Meets (step loads) Whole .initial events
        → (∃ failures,
            final.results
              = (final.sent.take final.loaded.length).map loads
                ++ List.replicate failures (.error .eofError)
            ∧ (failures ≠ 0 → final.eof = true ∧ final.buffer = []))
          ∧ (final.buffer = []
            → final.transit = []
            → final.eof = false
            → final.loaded = final.sent)
          ∧ (final.eof = true
            → (∀ data,
                (final.sent.drop final.loaded.length).head? = some data
                → final.buffer.length < 4 + data.length)
            → ∃ last outcome,
                Transition.run (step loads) final
                    (if final.buffer = [] then [.recvSize] else [.recvSize, .recvData])
                  = some last
                ∧ last.results = final.results ++ [outcome]
                ∧ (outcome = .error .eofError
                  ↔ final.buffer = []
                    ∨ loads (final.buffer.drop 4) = .error .eofError))) := by
  have start : Sound loads (.initial : State ε Obj) :=
    ⟨by simp [State.initial], Or.inr aligned_initial⟩
  have sound : Sound loads final :=
    Transition.run_preserves_of_mem
      (fun _ _ member _ sound stepped => sound_of_step nonempty member sound stepped)
      start reached
  have misread
      : Misread final ↔ ¬Transition.Meets (step loads) Whole .initial events :=
    Transition.bad_iff_not_meets_of_good Whole
      (fun _ _ member _ sound stepped => sound_of_step nonempty member sound stepped)
      (fun _ _ _ _ sound stepped => sound.misread_step_iff stepped)
      start (aligned_initial : Aligned loads (.initial : State ε Obj)).not_misread reached
  refine ⟨by rw [sound.prefix_iff between, misread, not_not], fun met => ?_⟩
  have aligned : Aligned loads final :=
    sound.2.resolve_left (fun isMisread => misread.mp isMisread met)
  refine ⟨?_, ?_, ?_⟩
  · obtain ⟨failures, results, atEnd⟩ := aligned.results
    rw [← List.prefix_iff_eq_take.mp aligned.delivered]
    exact ⟨failures, results, fun failed => ⟨(atEnd failed).1, (atEnd failed).2.1⟩⟩
  · intro read arrived opened
    have stream := aligned.stream opened
    simp only [read, arrived, State.expected, between, List.append_nil] at stream
    have allValid : ∀ data ∈ final.left, data ≠ [] := by
      intro data member
      exact (sound.1 data (aligned.sent_eq ▸ List.mem_append_right _ member)).1
    rw [aligned.sent_eq, eq_nil_of_frames_eq_nil allValid stream.symm, List.append_nil]
  · intro ended inside
    obtain ⟨last, run, results⟩ := aligned.recv_at_end sound.1 between ended inside
    refine ⟨last, _, run, results, ?_⟩
    by_cases empty : final.buffer = []
    · simp [empty]
    · simp [empty]

/-- The string "ab" as the opcode `X`, its length and its bytes, and then the opcode `.`. -/
def textPickle : List UInt8 := [88, 2, 0, 0, 0, 97, 98, 46]

/-- `pickle.loads` of what can be read of `textPickle`: the stream may be cut between two
opcodes ("Ran out of input") or inside of one ("pickle data was truncated").
-/
def loadsText (bytes : List UInt8) : Except (Failure Unit) String :=
  if bytes = textPickle then .ok "ab"
  else if bytes = [] ∨ bytes = textPickle.take 7 then .error .eofError
  else .error (.unpickling ())

/-- A message arrives without its last two bytes. If they come later, `recv()` fails on a message
that was sent whole, and if the stream ends there, it raises no `EOFError`.
-/
theorem recv_returns_part
    : ∃ cut ended : State Unit String,
        Transition.run (step loadsText) .initial
            [.send textPickle, .arrive 10, .recvSize, .recvData, .arrive 2]
          = some cut
        ∧ cut.sent = [textPickle]
        ∧ loadsText textPickle = .ok "ab"
        ∧ cut.results = [.error (.unpickling ())]
        ∧ Transition.run (step loadsText) .initial
            [.send textPickle, .arrive 10, .endStream, .recvSize, .recvData]
          = some ended
        ∧ ended.results = [.error (.unpickling ())] :=
  ⟨_, _, rfl, rfl, rfl, rfl, rfl, rfl⟩

/-- Two messages that arrive with one cut between them are both returned. -/
theorem recv_delivers_iff_wholeFrames
    : ∃ events, ∃ final : State Unit String,
        Transition.run (step loadsText) .initial events = some final
        ∧ Transition.Meets (step loadsText) Whole .initial events
        ∧ final.loaded = final.sent
        ∧ final.results = [.ok "ab", .ok "ab"] := by
  have reached
      : Transition.run (step loadsText) (.initial : State Unit String)
          [.send textPickle, .send textPickle, .arrive 12, .recvSize, .arrive 12, .recvData,
            .recvSize, .recvData]
        = some _ :=
    rfl
  have whole := recv_delivers_iff (by simp [textPickle]) reached rfl
  have met := whole.1.mp List.prefix_rfl
  exact ⟨_, _, reached, met, (whole.2 met).2.1 rfl rfl rfl, rfl⟩

end Aiodrive.Connection
