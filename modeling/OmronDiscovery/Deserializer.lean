import OmronDiscovery.Bytes

/-!
# `FixedBufferDeserializer`

`ser::FixedBufferDeserializer<Endianess>` reads a caller-owned span through a
cursor and a sticky error flag.  Its bound check `can_read(num)` compares the
number of bytes left, `_buffer.size() - _cursor`, with `num`; that difference
is taken with the cursor never past the end (`run_cursor_le`), so it never
wraps, and a passing check keeps `_cursor + num` within the span.  The model
therefore computes both on naturals.

* `read`, `advance`, `reset` and `remainingBuffer` as the class has them, and
  `read<T>` and `read_string` built on them;
* `read_eq` and `advance_eq`: what one call does from any state;
* `run_of_sum_le` and `run_hasError_of_lt`: a run of reads and advances fails
  exactly when it asks for more bytes than the buffer holds, and otherwise
  returns consecutive slices of the buffer;
* `read_of_hasError` and `readString_of_hasError`: after a failure every read
  yields zeros;
* `after`, the deserializer with bytes put before its buffer, and `run_after`:
  a run of reads and advances sees only the bytes from the cursor on.
-/

namespace OmronDiscovery

/-- `ser::FixedBufferDeserializer<Endianess>` over the span `buffer`. -/
structure FixedBufferDeserializer where
  /-- The template parameter `Endianess`. -/
  endianess : Endian
  buffer : List UInt8
  cursor : Nat
  hasError : Bool

namespace FixedBufferDeserializer

/-- The constructor `FixedBufferDeserializer(buffer)`. -/
def ofBuffer (endianess : Endian) (buffer : List UInt8) : FixedBufferDeserializer :=
  ⟨endianess, buffer, 0, false⟩

/-- `remaining_buffer()`: the bytes from the cursor on. -/
def remainingBuffer (d : FixedBufferDeserializer) : List UInt8 :=
  d.buffer.drop d.cursor

/-- `can_read(num)`.  A failed bound check sets the error flag, so the
deserializer it leaves is returned with the verdict. -/
def canRead (d : FixedBufferDeserializer) (num : Nat) : Bool × FixedBufferDeserializer :=
  if d.hasError then (false, d)
  else if d.buffer.length - d.cursor < num then (false, { d with hasError := true })
  else (true, d)

/-- `read(dst)`: the verdict, the destination's bytes afterwards, and the
deserializer left. -/
def read (d : FixedBufferDeserializer) (dst : List UInt8) :
    Bool × List UInt8 × FixedBufferDeserializer :=
  match d.canRead dst.length with
  | (false, checked) => (false, dst, checked)
  | (true, checked) =>
      (true, checked.remainingBuffer.take dst.length,
        { checked with cursor := checked.cursor + dst.length })

/-- `advance(off)`. -/
def advance (d : FixedBufferDeserializer) (off : Nat) : Bool × FixedBufferDeserializer :=
  match d.canRead off with
  | (false, checked) => (false, checked)
  | (true, checked) => (true, { checked with cursor := checked.cursor + off })

/-- `reset()`. -/
def reset (d : FixedBufferDeserializer) : FixedBufferDeserializer :=
  { d with cursor := 0, hasError := false }

/-! ## One call -/

/-- What `read` does: with no error and enough bytes left, copy the next
`dst.length` bytes and move past them; otherwise fail, set the error flag and
leave the cursor and the destination as they were. -/
theorem read_eq (d : FixedBufferDeserializer) (dst : List UInt8) :
    d.read dst =
      if d.hasError = false ∧ dst.length ≤ d.buffer.length - d.cursor then
        (true, d.remainingBuffer.take dst.length, { d with cursor := d.cursor + dst.length })
      else (false, dst, { d with hasError := true }) := by
  rcases d with ⟨endianess, buffer, cursor, hasError⟩
  by_cases within : dst.length ≤ buffer.length - cursor
  · cases hasError <;> simp [read, canRead, within, Nat.not_lt.mpr within]
  · cases hasError <;> simp [read, canRead, within, Nat.lt_of_not_le within]

/-- What `advance` does, with the same check as `read`. -/
theorem advance_eq (d : FixedBufferDeserializer) (off : Nat) :
    d.advance off =
      if d.hasError = false ∧ off ≤ d.buffer.length - d.cursor then
        (true, { d with cursor := d.cursor + off })
      else (false, { d with hasError := true }) := by
  rcases d with ⟨endianess, buffer, cursor, hasError⟩
  by_cases within : off ≤ buffer.length - cursor
  · cases hasError <;> simp [advance, canRead, within, Nat.not_lt.mpr within]
  · cases hasError <;> simp [advance, canRead, within, Nat.lt_of_not_le within]

/-! ## Bytes before the buffer

The program's deserializer over a whole reply and the model's over its payload
differ by the envelope before the payload: `d.after pre` is `d` with `pre` put
before its buffer and the cursor moved past it.  Reads and advances only see
the bytes from the cursor on, so they commute with `after`. -/

/-- `d` with `pre` put before its buffer and its cursor moved past it. -/
def after (d : FixedBufferDeserializer) (pre : List UInt8) : FixedBufferDeserializer :=
  { d with buffer := pre ++ d.buffer, cursor := pre.length + d.cursor }

section After

variable (d : FixedBufferDeserializer) (pre : List UInt8)

@[simp]
theorem remainingBuffer_after : (d.after pre).remainingBuffer = d.remainingBuffer := by
  simp only [remainingBuffer, after, List.drop_append]

@[simp]
theorem hasError_after : (d.after pre).hasError = d.hasError := rfl

@[simp]
theorem endianess_after : (d.after pre).endianess = d.endianess := rfl

theorem left_after : (d.after pre).buffer.length - (d.after pre).cursor = d.buffer.length - d.cursor := by
  simp only [after, List.length_append]
  omega

theorem read_after (dst : List UInt8) :
    (d.after pre).read dst = ((d.read dst).1, (d.read dst).2.1, (d.read dst).2.2.after pre) := by
  rw [read_eq, read_eq, left_after, hasError_after, remainingBuffer_after]
  split_ifs <;> simp only [after, Nat.add_assoc]

theorem advance_after (off : Nat) :
    (d.after pre).advance off = ((d.advance off).1, (d.advance off).2.after pre) := by
  rw [advance_eq, advance_eq, left_after, hasError_after]
  split_ifs <;> simp only [after, Nat.add_assoc]

end After

/-! ## Sequences of calls -/

/-- A call of the public interface. -/
inductive DeserializerCall
  | read (dst : List UInt8)
  | advance (off : Nat)
  | reset

/-- The number of bytes a call asks for. -/
def DeserializerCall.size : DeserializerCall → Nat
  | .read dst => dst.length
  | .advance off => off
  | .reset => 0

/-- One call: its verdict and, for a read, the destination's bytes afterwards,
with the deserializer it leaves.  `reset()` returns nothing. -/
def call (d : FixedBufferDeserializer) :
    DeserializerCall → (Bool × List UInt8) × FixedBufferDeserializer
  | .read dst =>
      match d.read dst with
      | (ok, out, next) => ((ok, out), next)
  | .advance off =>
      match d.advance off with
      | (ok, next) => ((ok, []), next)
  | .reset => ((true, []), d.reset)

/-- A sequence of calls: what each returned, and the deserializer left. -/
def run (d : FixedBufferDeserializer) :
    List DeserializerCall → List (Bool × List UInt8) × FixedBufferDeserializer
  | [] => ([], d)
  | c :: calls =>
      match d.call c with
      | (result, next) =>
          match next.run calls with
          | (results, last) => (result :: results, last)

@[simp]
theorem run_nil (d : FixedBufferDeserializer) : d.run [] = ([], d) := rfl

@[simp]
theorem run_cons (d : FixedBufferDeserializer) (c : DeserializerCall)
    (calls : List DeserializerCall) :
    d.run (c :: calls) = ((d.call c).1 :: ((d.call c).2.run calls).1, ((d.call c).2.run calls).2) :=
  rfl

theorem call_after {c : DeserializerCall} (notReset : c ≠ .reset) (d : FixedBufferDeserializer)
    (pre : List UInt8) : (d.after pre).call c = ((d.call c).1, (d.call c).2.after pre) := by
  cases c with
  | read dst => simp only [call, read_after]
  | advance off => simp only [call, advance_after]
  | reset => exact absurd rfl notReset

/-- Reads and advances see only the bytes from the cursor on: with bytes put
before the buffer and the cursor moved past them, a run without `reset`
returns the same verdicts and bytes, and leaves the deserializer as far past
them.  (`reset` goes back to the start of the whole buffer.) -/
theorem run_after {calls : List DeserializerCall} (noReset : .reset ∉ calls)
    (d : FixedBufferDeserializer) (pre : List UInt8) :
    (d.after pre).run calls = ((d.run calls).1, (d.run calls).2.after pre) := by
  induction calls generalizing d with
  | nil => rfl
  | cons c calls inductionHypothesis =>
    rw [List.mem_cons, not_or] at noReset
    simp only [run_cons, call_after (Ne.symm noReset.1), inductionHypothesis noReset.2]

theorem run_after_readAdvance :
    ((ofBuffer .little [1, 2, 3]).after [9]).run [.read [0], .advance 1] =
      (((ofBuffer .little [1, 2, 3]).run [.read [0], .advance 1]).1,
        ((ofBuffer .little [1, 2, 3]).run [.read [0], .advance 1]).2.after [9]) :=
  run_after (by simp) _ _

@[simp]
theorem buffer_call (d : FixedBufferDeserializer) (c : DeserializerCall) :
    (d.call c).2.buffer = d.buffer := by
  cases c with
  | read dst => simp only [call, read_eq]; split <;> rfl
  | advance off => simp only [call, advance_eq]; split <;> rfl
  | reset => rfl

@[simp]
theorem buffer_run (d : FixedBufferDeserializer) (calls : List DeserializerCall) :
    (d.run calls).2.buffer = d.buffer := by
  induction calls generalizing d with
  | nil => rfl
  | cons c calls inductionHypothesis => simp [inductionHypothesis]

@[simp]
theorem endianess_call (d : FixedBufferDeserializer) (c : DeserializerCall) :
    (d.call c).2.endianess = d.endianess := by
  cases c with
  | read dst => simp only [call, read_eq]; split <;> rfl
  | advance off => simp only [call, advance_eq]; split <;> rfl
  | reset => rfl

@[simp]
theorem endianess_run (d : FixedBufferDeserializer) (calls : List DeserializerCall) :
    (d.run calls).2.endianess = d.endianess := by
  induction calls generalizing d with
  | nil => rfl
  | cons c calls inductionHypothesis => simp [inductionHypothesis]

theorem run_append (d : FixedBufferDeserializer) (before after : List DeserializerCall) :
    d.run (before ++ after) =
      ((d.run before).1 ++ ((d.run before).2.run after).1, ((d.run before).2.run after).2) := by
  induction before generalizing d with
  | nil => rfl
  | cons c before inductionHypothesis => simp only [List.cons_append, run_cons, inductionHypothesis]

/-- `reset()` goes back to the deserializer the constructor built over the
same buffer, so a run through a reset goes on as a run from construction. -/
theorem run_reset (d : FixedBufferDeserializer) (before after : List DeserializerCall) :
    d.run (before ++ .reset :: after) =
      ((d.run before).1 ++ (true, []) :: ((ofBuffer d.endianess d.buffer).run after).1,
        ((ofBuffer d.endianess d.buffer).run after).2) := by
  have fresh : ((d.run before).2.call .reset).2 = ofBuffer d.endianess d.buffer := by
    simp only [call, reset, ofBuffer, buffer_run, endianess_run]
  rw [run_append, run_cons, fresh]
  rfl

theorem cursor_le_call {d : FixedBufferDeserializer} (c : DeserializerCall)
    (within : d.cursor ≤ d.buffer.length) :
    (d.call c).2.cursor ≤ d.buffer.length := by
  cases c with
  | read dst =>
      simp only [call, read_eq]
      split
      · simp only
        omega
      · exact within
  | advance off =>
      simp only [call, advance_eq]
      split
      · simp only
        omega
      · exact within
  | reset => exact Nat.zero_le _

/-- Over every sequence of calls the cursor stays within the buffer, so no
byte outside it is ever copied. -/
theorem run_cursor_le {d : FixedBufferDeserializer} (calls : List DeserializerCall)
    (within : d.cursor ≤ d.buffer.length) :
    (d.run calls).2.cursor ≤ d.buffer.length := by
  induction calls generalizing d with
  | nil => exact within
  | cons c calls inductionHypothesis =>
      have next := inductionHypothesis (d := (d.call c).2) (by simpa using cursor_le_call c within)
      simpa using next

/-- Only `reset()` clears the error flag. -/
theorem hasError_call {d : FixedBufferDeserializer} {c : DeserializerCall}
    (notReset : c ≠ .reset) (erred : d.hasError = true) : (d.call c).2.hasError = true := by
  cases c with
  | read dst => simp [call, read_eq, erred]
  | advance off => simp [call, advance_eq, erred]
  | reset => exact absurd rfl notReset

theorem hasError_run {d : FixedBufferDeserializer} {calls : List DeserializerCall}
    (noReset : ∀ c ∈ calls, c ≠ .reset) (erred : d.hasError = true) :
    (d.run calls).2.hasError = true := by
  induction calls generalizing d with
  | nil => exact erred
  | cons c calls inductionHypothesis =>
      have rest : ∀ c ∈ calls, c ≠ .reset := fun c member =>
        noReset c (List.mem_cons_of_mem _ member)
      simpa using
        inductionHypothesis rest (hasError_call (noReset c (List.mem_cons_self _ _)) erred)

/-- What a run of reads and advances returns when every call fits: each read
the next bytes of `buffer` from `offset` on, each advance nothing, all
succeeding. -/
def consecutiveSlices (buffer : List UInt8) : Nat → List DeserializerCall → List (Bool × List UInt8)
  | _, [] => []
  | offset, .read dst :: calls =>
      (true, (buffer.drop offset).take dst.length) ::
        consecutiveSlices buffer (offset + dst.length) calls
  | offset, .advance off :: calls => (true, []) :: consecutiveSlices buffer (offset + off) calls
  | _, .reset :: calls => (true, []) :: consecutiveSlices buffer 0 calls

/-- A call that fits succeeds and moves the cursor by its size. -/
theorem call_of_fits {d : FixedBufferDeserializer} {c : DeserializerCall} (notReset : c ≠ .reset)
    (clear : d.hasError = false) (fits : d.cursor + c.size ≤ d.buffer.length) :
    (d.call c).2 = { d with cursor := d.cursor + c.size } ∧
      (d.call c).1 = (consecutiveSlices d.buffer d.cursor [c]).head! := by
  have room : c.size ≤ d.buffer.length - d.cursor := by omega
  cases c with
  | read dst =>
      simp only [DeserializerCall.size] at room
      simp [call, read_eq, clear, room, consecutiveSlices, remainingBuffer, DeserializerCall.size]
  | advance off =>
      simp only [DeserializerCall.size] at room
      simp [call, advance_eq, clear, room, consecutiveSlices, DeserializerCall.size]
  | reset => exact absurd rfl notReset

/-- A call that does not fit fails and sets the error flag. -/
theorem hasError_call_of_lt {d : FixedBufferDeserializer} {c : DeserializerCall}
    (notReset : c ≠ .reset) (within : d.cursor ≤ d.buffer.length)
    (past : d.buffer.length < d.cursor + c.size) :
    (d.call c).2.hasError = true := by
  have noRoom : ¬ c.size ≤ d.buffer.length - d.cursor := by omega
  cases c with
  | read dst =>
      simp only [DeserializerCall.size] at noRoom
      simp [call, read_eq, noRoom]
  | advance off =>
      simp only [DeserializerCall.size] at noRoom
      simp [call, advance_eq, noRoom]
  | reset => exact absurd rfl notReset

/-- A run of reads and advances that asks for no more than the bytes left
succeeds throughout and returns consecutive slices of the buffer. -/
theorem run_of_sum_le {d : FixedBufferDeserializer} {calls : List DeserializerCall}
    (noReset : ∀ c ∈ calls, c ≠ .reset) (clear : d.hasError = false)
    (fits : d.cursor + (calls.map DeserializerCall.size).sum ≤ d.buffer.length) :
    (d.run calls).1 = consecutiveSlices d.buffer d.cursor calls ∧
      (d.run calls).2.hasError = false := by
  induction calls generalizing d with
  | nil => exact ⟨rfl, clear⟩
  | cons c calls inductionHypothesis =>
      have notReset := noReset c (List.mem_cons_self _ _)
      have rest : ∀ c ∈ calls, c ≠ .reset := fun c member =>
        noReset c (List.mem_cons_of_mem _ member)
      simp only [List.map_cons, List.sum_cons] at fits
      obtain ⟨next, result⟩ := call_of_fits notReset clear (by omega)
      obtain ⟨slices, nextClear⟩ :=
        inductionHypothesis (d := (d.call c).2) rest (by simpa [next] using clear)
          (by simp only [next]; omega)
      refine ⟨?_, by simpa using nextClear⟩
      cases c with
      | read dst => simp_all [consecutiveSlices, DeserializerCall.size]
      | advance off => simp_all [consecutiveSlices, DeserializerCall.size]
      | reset => exact absurd rfl notReset

/-- A run of reads and advances that asks for more than the bytes left ends
with the error flag set. -/
theorem run_hasError_of_lt {d : FixedBufferDeserializer} {calls : List DeserializerCall}
    (noReset : ∀ c ∈ calls, c ≠ .reset) (within : d.cursor ≤ d.buffer.length)
    (past : d.buffer.length < d.cursor + (calls.map DeserializerCall.size).sum) :
    (d.run calls).2.hasError = true := by
  induction calls generalizing d with
  | nil => simp at past; omega
  | cons c calls inductionHypothesis =>
      have notReset := noReset c (List.mem_cons_self _ _)
      have rest : ∀ c ∈ calls, c ≠ .reset := fun c member =>
        noReset c (List.mem_cons_of_mem _ member)
      simp only [List.map_cons, List.sum_cons] at past
      rw [run_cons]
      cases erred : d.hasError
      · by_cases fits : d.cursor + c.size ≤ d.buffer.length
        · have next := (call_of_fits notReset erred fits).1
          exact inductionHypothesis rest (by rw [next]; simp only; omega)
            (by rw [next]; simp only; omega)
        · exact hasError_run rest (hasError_call_of_lt notReset within (by omega))
      · exact hasError_run rest (hasError_call notReset erred)

end FixedBufferDeserializer

/-! ## `read<T>` and `read_string` -/

section Reads

variable (host : Endian)

/-- `serialize_object(des, obj)` for an object of `width` bytes holding `bits`:
`read` over the object's bytes, in host order. -/
def FixedBufferDeserializer.serializeObject (d : FixedBufferDeserializer) (width bits : Nat) :
    Bool × Nat × FixedBufferDeserializer :=
  match d.read (host.bytes width bits) with
  | (ok, bytes, next) => (ok, host.value bytes, next)

/-- `serialize(des, v)` for an integer `v` of `type` holding `bits`:
`serialize_object`, then `to_endian`. -/
def FixedBufferDeserializer.serializeIntegral (d : FixedBufferDeserializer) (type : IntType)
    (bits : Nat) : Bool × Nat × FixedBufferDeserializer :=
  match d.serializeObject host type.width bits with
  | (res, value, next) => (res, toEndian d.endianess host type.width value, next)

/-- `ser::read<T>(des)`: a value-initialised `T`, filled by `serialize`.  The
result is `T`'s object representation, which is its value for the unsigned
types. -/
def read (type : IntType) (d : FixedBufferDeserializer) : Nat × FixedBufferDeserializer :=
  match d.serializeIntegral host type 0 with
  | (_, value, next) => (value, next)

/-- `ser::read_string(des, len)`: a string resized to `len` NUL bytes, filled
by `read`. -/
def readString (d : FixedBufferDeserializer) (len : Nat) : List UInt8 × FixedBufferDeserializer :=
  match d.read (List.replicate len 0) with
  | (_, bytes, next) => (bytes, next)

theorem toLE_zero_value (width : Nat) : toLE width 0 = List.replicate width 0 := by
  induction width with
  | zero => rfl
  | succ width inductionHypothesis => simp [inductionHypothesis]; rfl

theorem ofLE_replicate_zero (width : Nat) : ofLE (List.replicate width 0) = 0 := by
  induction width with
  | zero => rfl
  | succ width inductionHypothesis => simp [List.replicate_succ, inductionHypothesis]

theorem toEndian_zero (endianess : Endian) (width : Nat) : toEndian endianess host width 0 = 0 := by
  unfold toEndian byteSwap
  split_ifs <;> simp [toLE_zero_value, List.reverse_replicate, ofLE_replicate_zero]

variable {host}

/-- After a failure, `read<T>` yields zero and changes nothing. -/
theorem read_of_hasError (type : IntType) {d : FixedBufferDeserializer}
    (erred : d.hasError = true) :
    read host type d = (0, d) := by
  have unchanged : { d with hasError := true } = d := by cases d; simp_all
  simp only [read, FixedBufferDeserializer.serializeIntegral,
    FixedBufferDeserializer.serializeObject,
    FixedBufferDeserializer.read_eq, erred, Bool.true_eq_false, false_and, if_false, unchanged,
    Endian.value_bytes, Nat.zero_mod, toEndian_zero]

/-- After a failure, `read_string` yields `len` NUL bytes and changes nothing. -/
theorem readString_of_hasError (len : Nat) {d : FixedBufferDeserializer}
    (erred : d.hasError = true) :
    readString d len = (List.replicate len 0, d) := by
  have unchanged : { d with hasError := true } = d := by cases d; simp_all
  simp [readString, FixedBufferDeserializer.read_eq, erred, unchanged]

/-- A `read<T>` with the type's bytes left returns their value in the
configured byte order, on either host. -/
theorem read_of_fits (type : IntType) {d : FixedBufferDeserializer} (clear : d.hasError = false)
    (fits : d.cursor + type.width ≤ d.buffer.length) :
    read host type d =
      (d.endianess.value (d.remainingBuffer.take type.width),
        { d with cursor := d.cursor + type.width }) := by
  have room : type.width ≤ d.buffer.length - d.cursor := by omega
  have taken : (d.remainingBuffer.take type.width).length = type.width := by
    simp [FixedBufferDeserializer.remainingBuffer]
    omega
  have value := Endian.toEndian_value d.endianess host (d.remainingBuffer.take type.width)
  rw [taken] at value
  simp only [read, FixedBufferDeserializer.serializeIntegral,
    FixedBufferDeserializer.serializeObject,
    FixedBufferDeserializer.read_eq, Endian.length_bytes, clear, room, and_self, if_true, value]

/-- A `read<T>` without the type's bytes left fails. -/
theorem read_hasError_of_lt (type : IntType) {d : FixedBufferDeserializer}
    (within : d.cursor ≤ d.buffer.length) (past : d.buffer.length < d.cursor + type.width) :
    (read host type d).2.hasError = true := by
  simp only [read, FixedBufferDeserializer.serializeIntegral,
    FixedBufferDeserializer.serializeObject,
    FixedBufferDeserializer.read_eq, Endian.length_bytes]
  rw [if_neg (by omega)]

/-- A `read_string` with `len` bytes left returns them. -/
theorem readString_of_fits (len : Nat) {d : FixedBufferDeserializer} (clear : d.hasError = false)
    (fits : d.cursor + len ≤ d.buffer.length) :
    readString d len = (d.remainingBuffer.take len, { d with cursor := d.cursor + len }) := by
  have room : len ≤ d.buffer.length - d.cursor := by omega
  simp [readString, FixedBufferDeserializer.read_eq, clear, room]

/-! ### At an explicit cursor

The decoders only ever read from a deserializer without error, at a cursor
computed from the field widths; stated there, each call's side condition is
arithmetic on the cursor alone. -/

theorem read_mk (type : IntType) {endianess : Endian} {buffer : List UInt8} {cursor : Nat}
    (fits : cursor + type.width ≤ buffer.length) :
    read host type ⟨endianess, buffer, cursor, false⟩ =
      (endianess.value ((buffer.drop cursor).take type.width),
        ⟨endianess, buffer, cursor + type.width, false⟩) :=
  read_of_fits type rfl fits

theorem advance_mk {endianess : Endian} {buffer : List UInt8} {cursor off : Nat}
    (fits : cursor + off ≤ buffer.length) :
    FixedBufferDeserializer.advance ⟨endianess, buffer, cursor, false⟩ off =
      (true, ⟨endianess, buffer, cursor + off, false⟩) := by
  rw [FixedBufferDeserializer.advance_eq, if_pos ⟨rfl, by simp only; omega⟩]

theorem readString_mk (len : Nat) {endianess : Endian} {buffer : List UInt8} {cursor : Nat}
    (fits : cursor + len ≤ buffer.length) :
    readString ⟨endianess, buffer, cursor, false⟩ len =
      ((buffer.drop cursor).take len, ⟨endianess, buffer, cursor + len, false⟩) :=
  readString_of_fits len rfl fits

theorem advance_of_hasError {d : FixedBufferDeserializer} (off : Nat) (erred : d.hasError = true) :
    d.advance off = (false, d) := by
  have unchanged : { d with hasError := true } = d := by cases d; simp_all
  simp [FixedBufferDeserializer.advance_eq, erred, unchanged]

theorem read_after (type : IntType) (d : FixedBufferDeserializer) (pre : List UInt8) :
    read host type (d.after pre) = ((read host type d).1, (read host type d).2.after pre) := by
  simp only [read, FixedBufferDeserializer.serializeIntegral,
    FixedBufferDeserializer.serializeObject, FixedBufferDeserializer.read_after,
    FixedBufferDeserializer.endianess_after]

theorem readString_after (d : FixedBufferDeserializer) (pre : List UInt8) (len : Nat) :
    readString (d.after pre) len = ((readString d len).1, (readString d len).2.after pre) := by
  simp only [readString, FixedBufferDeserializer.read_after]

theorem toEndian_value_lt (endianess : Endian) {width : Nat} {bytes : List UInt8}
    (short : bytes.length ≤ width) :
    toEndian endianess host width (host.value bytes) < 256 ^ width := by
  have within : host.value bytes < 256 ^ width :=
    Nat.lt_of_lt_of_le (host.value_lt bytes) (Nat.pow_le_pow_right (by decide) short)
  unfold toEndian byteSwap
  split_ifs
  · exact within
  · exact within
  · simpa using ofLE_lt (toLE width (host.value bytes)).reverse

/-- Whatever the state, `read<T>` yields a value of `T`'s width. -/
theorem read_lt (type : IntType) (d : FixedBufferDeserializer) :
    (read host type d).1 < 256 ^ type.width := by
  simp only [read, FixedBufferDeserializer.serializeIntegral,
    FixedBufferDeserializer.serializeObject,
    FixedBufferDeserializer.read_eq]
  split_ifs
  · exact toEndian_value_lt d.endianess
      (by simp only [List.length_take, Endian.length_bytes]; omega)
  · exact toEndian_value_lt d.endianess (by simp)

/-- The byte of `payload` at `index`, zero past its end. -/
def byteAt (payload : List UInt8) (index : Nat) : UInt8 :=
  payload.getD index 0

/-! ### Reads that cannot be served -/

/-- The deserializer cannot deliver `n` more bytes: it has failed, or fewer
than `n` bytes are left after its cursor. -/
def CannotRead (d : FixedBufferDeserializer) (n : Nat) : Prop :=
  d.hasError = true ∨ d.buffer.length - d.cursor < n

theorem CannotRead.hasError {d : FixedBufferDeserializer} (cannot : CannotRead d 0) :
    d.hasError = true :=
  cannot.resolve_right (Nat.not_lt_zero _)

theorem CannotRead.mono {d : FixedBufferDeserializer} {n m : Nat} (cannot : CannotRead d n)
    (le : n ≤ m) : CannotRead d m :=
  cannot.imp_right fun past => by omega

theorem CannotRead.advance {d : FixedBufferDeserializer} {off n : Nat}
    (cannot : CannotRead d (off + n)) : CannotRead (d.advance off).2 n := by
  rw [FixedBufferDeserializer.advance_eq]
  split
  next fits =>
    have past := cannot.resolve_left (by simp [fits.1])
    exact .inr (by simp only; omega)
  next => exact .inl rfl

theorem CannotRead.read {d : FixedBufferDeserializer} {type : IntType} {n : Nat}
    (cannot : CannotRead d (type.width + n)) : CannotRead (read host type d).2 n := by
  simp only [OmronDiscovery.read, FixedBufferDeserializer.serializeIntegral,
    FixedBufferDeserializer.serializeObject, FixedBufferDeserializer.read_eq, Endian.length_bytes]
  split_ifs with fits
  · have past := cannot.resolve_left (by simp [fits.1])
    exact .inr (by simp only; omega)
  · exact .inl rfl

theorem CannotRead.readString {d : FixedBufferDeserializer} {len n : Nat}
    (cannot : CannotRead d (len + n)) : CannotRead (readString d len).2 n := by
  simp only [OmronDiscovery.readString, FixedBufferDeserializer.read_eq, List.length_replicate]
  split_ifs with fits
  · have past := cannot.resolve_left (by simp [fits.1])
    exact .inr (by simp only; omega)
  · exact .inl rfl

/-- A one-byte read is the byte at the cursor. -/
theorem value_take_one (endianess : Endian) {buffer : List UInt8} {cursor : Nat}
    (inside : cursor < buffer.length) :
    endianess.value ((buffer.drop cursor).take 1) = (buffer.getD cursor 0).toNat := by
  obtain ⟨byte, rest, split⟩ : ∃ byte rest, buffer.drop cursor = byte :: rest := by
    cases dropped : buffer.drop cursor with
    | nil => simp at dropped; omega
    | cons byte rest => exact ⟨byte, rest, rfl⟩
  have atCursor : buffer.getD cursor 0 = byte := by
    rw [List.getD_eq_getElem?_getD, ← List.head?_drop, split]
    rfl
  rw [atCursor]
  cases endianess <;> simp [split, Endian.value]

end Reads

open FixedBufferDeserializer in
/-- The deserializer's contract over any buffer: from construction the cursor
never leaves the buffer; one `read` or `advance` either fits and moves the
cursor by its size, a read copying the next bytes, or fails, setting the flag
and changing neither the cursor nor the destination; only `reset()` clears the
flag, and it leaves the cursor at `0` and the flag clear, so a run through a
reset goes on as a run from construction; a run of reads and advances from
construction ends without error exactly when its sizes sum to at most the
buffer's length, and then returns consecutive slices; and after a failure
`read<T>` and `read_string` yield zeros. -/
theorem fixedBufferDeserializer_contract (endianess : Endian) (buffer : List UInt8) :
    (∀ calls, ((ofBuffer endianess buffer).run calls).2.cursor ≤ buffer.length) ∧
    (∀ (d : FixedBufferDeserializer) (dst : List UInt8),
      d.read dst =
        if d.hasError = false ∧ dst.length ≤ d.buffer.length - d.cursor then
          (true, (d.buffer.drop d.cursor).take dst.length,
            { d with cursor := d.cursor + dst.length })
        else (false, dst, { d with hasError := true })) ∧
    (∀ (d : FixedBufferDeserializer) (off : Nat),
      d.advance off =
        if d.hasError = false ∧ off ≤ d.buffer.length - d.cursor then
          (true, { d with cursor := d.cursor + off })
        else (false, { d with hasError := true })) ∧
    (∀ (d : FixedBufferDeserializer) (c : DeserializerCall),
      c ≠ .reset → d.hasError = true → (d.call c).2.hasError = true) ∧
    (∀ d : FixedBufferDeserializer,
      d.call .reset = ((true, []), { d with cursor := 0, hasError := false })) ∧
    (∀ before after : List DeserializerCall,
      (ofBuffer endianess buffer).run (before ++ .reset :: after) =
        (((ofBuffer endianess buffer).run before).1 ++ (true, []) ::
            ((ofBuffer endianess buffer).run after).1,
          ((ofBuffer endianess buffer).run after).2)) ∧
    (∀ calls : List DeserializerCall, (∀ c ∈ calls, c ≠ .reset) →
      (((ofBuffer endianess buffer).run calls).2.hasError = false ↔
          (calls.map DeserializerCall.size).sum ≤ buffer.length) ∧
        ((calls.map DeserializerCall.size).sum ≤ buffer.length →
          ((ofBuffer endianess buffer).run calls).1 = consecutiveSlices buffer 0 calls)) ∧
    (∀ (host : Endian) (type : IntType) (len : Nat) (d : FixedBufferDeserializer),
      d.hasError = true →
        read host type d = (0, d) ∧ readString d len = (List.replicate len 0, d)) := by
  refine ⟨fun calls => run_cursor_le calls (Nat.zero_le _), read_eq, advance_eq,
    fun _ _ notReset erred => hasError_call notReset erred, fun _ => rfl,
    run_reset (ofBuffer endianess buffer), fun calls noReset => ?_,
    fun _ type len _ erred => ⟨read_of_hasError type erred, readString_of_hasError len erred⟩⟩
  have fromStart : ∀ sum, sum ≤ buffer.length ↔ (ofBuffer endianess buffer).cursor + sum ≤
      (ofBuffer endianess buffer).buffer.length := fun sum => by simp [ofBuffer]
  refine ⟨⟨fun clear => ?_, fun fits => ?_⟩, fun fits => ?_⟩
  · by_contra past
    have erred := run_hasError_of_lt noReset (Nat.zero_le _)
      (by simp only [ofBuffer]; omega : (ofBuffer endianess buffer).buffer.length <
        (ofBuffer endianess buffer).cursor + (calls.map DeserializerCall.size).sum)
    simp_all
  · exact (run_of_sum_le noReset rfl ((fromStart _).mp fits)).2
  · exact (run_of_sum_le noReset rfl ((fromStart _).mp fits)).1


/-- The contract at a four-byte buffer: a read after a failure fails, a reset
after a read of five bytes leaves a run from construction, a read of two
bytes and an advance of two exactly fit and return the first two bytes, and
reads after a failure yield zeros. -/
theorem fixedBufferDeserializer_contract_fourBytes :
    let calls := [FixedBufferDeserializer.DeserializerCall.read [0, 0], .advance 2]
    let failed : FixedBufferDeserializer := ⟨.little, [1, 2, 3, 4], 4, true⟩
    (failed.call (.read [0])).2.hasError = true ∧
      (FixedBufferDeserializer.ofBuffer .little [1, 2, 3, 4]).run
          ([.read [0, 0, 0, 0, 0]] ++ .reset :: calls) =
        ([(false, [0, 0, 0, 0, 0])] ++ (true, []) ::
            ((FixedBufferDeserializer.ofBuffer .little [1, 2, 3, 4]).run calls).1,
          ((FixedBufferDeserializer.ofBuffer .little [1, 2, 3, 4]).run calls).2) ∧
      (((FixedBufferDeserializer.ofBuffer .little [1, 2, 3, 4]).run calls).2.hasError = false ↔
        (calls.map FixedBufferDeserializer.DeserializerCall.size).sum ≤ 4) ∧
      ((FixedBufferDeserializer.ofBuffer .little [1, 2, 3, 4]).run calls).1 =
        FixedBufferDeserializer.consecutiveSlices [1, 2, 3, 4] 0 calls ∧
      read .big .u16 failed = (0, failed) ∧ readString failed 3 = (List.replicate 3 0, failed) :=
  have noReset : ∀ c ∈ [FixedBufferDeserializer.DeserializerCall.read [0, 0], .advance 2],
      c ≠ .reset := by simp
  ⟨(fixedBufferDeserializer_contract .little [1, 2, 3, 4]).2.2.2.1 _ _ (by simp) rfl,
    (fixedBufferDeserializer_contract .little [1, 2, 3, 4]).2.2.2.2.2.1 _ _,
    ((fixedBufferDeserializer_contract .little [1, 2, 3, 4]).2.2.2.2.2.2.1 _ noReset).1,
    ((fixedBufferDeserializer_contract .little [1, 2, 3, 4]).2.2.2.2.2.2.1 _ noReset).2
      (by decide),
    (fixedBufferDeserializer_contract .little [1, 2, 3, 4]).2.2.2.2.2.2.2 .big .u16 3 _ rfl⟩

end OmronDiscovery
