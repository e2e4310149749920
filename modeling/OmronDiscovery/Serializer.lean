import OmronDiscovery.Bytes

/-!
# `FixedBufferSerializer`

`ser::FixedBufferSerializer<Endianess>` writes into a caller-owned span through
a cursor and a sticky error flag.  Its bound check `can_write(num)` compares
`_cursor + num` with the span's size, and both that sum and `_cursor += num`
are `size_t` arithmetic, so the model reduces them modulo `2^64`.

* `write`, `advance`, `reset` and `serializedBuffer` as the class has them, and
  the free `serialize` overloads and `serialize_multi` built on them;
* `write_of_fits` and `serializedBuffer_write_of_fits`: a write that fits
  appends its bytes to the serialized buffer;
* `run_cursor_le`: over every sequence of calls the cursor stays within the
  buffer, whether the sum wraps or not;
* `run_write_advance_wraps`: an advance by nearly `2^64` bytes passes the
  bound check, because the sum wraps, and moves the cursor backwards;
* `fixedBufferSerializer_contract_of_noWrap`: for sizes below `2^64` minus the
  capacity the check is exact, and a run lays out its bytes at consecutive
  offsets, fails exactly when they do not fit, and never moves the cursor back.
-/

namespace OmronDiscovery

/-- `memcpy(buffer + offset, src.data(), src.size())`: `src` overwrites the
bytes from `offset` on.  A copy that passed `can_write` without a wrap ends
inside the buffer; a wrapped one would run past its end, where the model cuts
it. -/
def overwrite (buffer : List UInt8) (offset : Nat) (src : List UInt8) : List UInt8 :=
  (buffer.take offset ++ src ++ buffer.drop (offset + src.length)).take buffer.length

@[simp]
theorem length_overwrite (buffer : List UInt8) (offset : Nat) (src : List UInt8) :
    (overwrite buffer offset src).length = buffer.length := by
  simp only [overwrite, List.length_take, List.length_append, List.length_drop]
  omega

theorem take_overwrite {buffer src : List UInt8} {offset : Nat}
    (fits : offset + src.length ≤ buffer.length) :
    (overwrite buffer offset src).take (offset + src.length) = buffer.take offset ++ src := by
  have prefixLength : (buffer.take offset ++ src).length = offset + src.length := by
    simp only [List.length_append, List.length_take]
    omega
  rw [overwrite, List.take_take, Nat.min_eq_left fits, List.take_left' prefixLength]

theorem drop_overwrite {buffer src : List UInt8} {offset : Nat}
    (fits : offset + src.length ≤ buffer.length) :
    (overwrite buffer offset src).drop (offset + src.length) = buffer.drop (offset + src.length) := by
  have prefixLength : (buffer.take offset ++ src).length = offset + src.length := by
    simp only [List.length_append, List.length_take]
    omega
  rw [overwrite, List.drop_take, List.drop_left' prefixLength, List.take_of_length_le]
  simp only [List.length_drop]
  omega

/-- `ser::FixedBufferSerializer<Endianess>` over a span of `buffer.length`
bytes. -/
structure FixedBufferSerializer where
  /-- The template parameter `Endianess`. -/
  endianess : Endian
  buffer : List UInt8
  cursor : Nat
  hasError : Bool
  /-- A span's size is a `size_t`. -/
  capacity_lt : buffer.length < sizeModulus

namespace FixedBufferSerializer

/-- The constructor `FixedBufferSerializer(buffer)`. -/
def ofBuffer (endianess : Endian) (buffer : List UInt8)
    (capacity_lt : buffer.length < sizeModulus) : FixedBufferSerializer :=
  ⟨endianess, buffer, 0, false, capacity_lt⟩

/-- `serialized_buffer()`: the first `_cursor` bytes. -/
def serializedBuffer (s : FixedBufferSerializer) : List UInt8 :=
  s.buffer.take s.cursor

/-- `can_write(num)`.  A failed bound check sets the error flag, so the
serializer it leaves is returned with the verdict. -/
def canWrite (s : FixedBufferSerializer) (num : Nat) : Bool × FixedBufferSerializer :=
  if s.hasError then (false, s)
  else if (s.cursor + num) % sizeModulus > s.buffer.length then (false, { s with hasError := true })
  else (true, s)

/-- `write(src)`. -/
def write (s : FixedBufferSerializer) (src : List UInt8) : Bool × FixedBufferSerializer :=
  match s.canWrite src.length with
  | (false, checked) => (false, checked)
  | (true, checked) =>
      (true, { checked with
        buffer := overwrite checked.buffer checked.cursor src
        cursor := (checked.cursor + src.length) % sizeModulus
        capacity_lt := by rw [length_overwrite]; exact checked.capacity_lt })

/-- `advance(off)`. -/
def advance (s : FixedBufferSerializer) (off : Nat) : Bool × FixedBufferSerializer :=
  match s.canWrite off with
  | (false, checked) => (false, checked)
  | (true, checked) => (true, { checked with cursor := (checked.cursor + off) % sizeModulus })

/-- `reset()`. -/
def reset (s : FixedBufferSerializer) : FixedBufferSerializer :=
  { s with cursor := 0, hasError := false }

/-! ## One call -/

section Calls

variable {s : FixedBufferSerializer} {num : Nat}

/-- What `write` does: with no error and the wrapped end within the buffer, copy
and move the cursor to the wrapped end; otherwise fail and set the error flag
(a set flag stays set). -/
theorem write_eq (s : FixedBufferSerializer) (src : List UInt8) :
    s.write src =
      if s.hasError = false ∧ (s.cursor + src.length) % sizeModulus ≤ s.buffer.length then
        (true, { s with
          buffer := overwrite s.buffer s.cursor src
          cursor := (s.cursor + src.length) % sizeModulus
          capacity_lt := by rw [length_overwrite]; exact s.capacity_lt })
      else (false, { s with hasError := true }) := by
  rcases s with ⟨endianess, buffer, cursor, hasError, capacity_lt⟩
  by_cases within : (cursor + src.length) % sizeModulus ≤ buffer.length
  · cases hasError <;> simp [write, canWrite, within, Nat.not_lt.mpr within]
  · cases hasError <;> simp [write, canWrite, within, Nat.lt_of_not_le within]

/-- What `advance` does, with the same check as `write`. -/
theorem advance_eq (s : FixedBufferSerializer) (off : Nat) :
    s.advance off =
      if s.hasError = false ∧ (s.cursor + off) % sizeModulus ≤ s.buffer.length then
        (true, { s with cursor := (s.cursor + off) % sizeModulus })
      else (false, { s with hasError := true }) := by
  rcases s with ⟨endianess, buffer, cursor, hasError, capacity_lt⟩
  by_cases within : (cursor + off) % sizeModulus ≤ buffer.length
  · cases hasError <;> simp [advance, canWrite, within, Nat.not_lt.mpr within]
  · cases hasError <;> simp [advance, canWrite, within, Nat.lt_of_not_le within]

@[simp]
theorem endianess_write (s : FixedBufferSerializer) (src : List UInt8) :
    (s.write src).2.endianess = s.endianess := by
  rw [write_eq]
  split <;> rfl

/-- A write within the free space copies `src` to the cursor and moves the
cursor past it. -/
theorem write_of_fits {src : List UInt8} (clear : s.hasError = false)
    (fits : s.cursor + src.length ≤ s.buffer.length) :
    s.write src = (true, { s with
      buffer := overwrite s.buffer s.cursor src
      cursor := s.cursor + src.length
      capacity_lt := by rw [length_overwrite]; exact s.capacity_lt }) := by
  have noWrap : (s.cursor + src.length) % sizeModulus = s.cursor + src.length :=
    Nat.mod_eq_of_lt (Nat.lt_of_le_of_lt fits s.capacity_lt)
  rw [write_eq, if_pos ⟨clear, by rw [noWrap]; exact fits⟩]
  simp only [noWrap]

theorem serializedBuffer_write_of_fits {src : List UInt8} (clear : s.hasError = false)
    (fits : s.cursor + src.length ≤ s.buffer.length) :
    (s.write src).2.serializedBuffer = s.serializedBuffer ++ src := by
  rw [write_of_fits clear fits]
  exact take_overwrite fits

end Calls

/-! ## Sequences of calls -/

/-- A call of the public interface. -/
inductive SerializerCall
  | write (src : List UInt8)
  | advance (off : Nat)
  | reset

/-- The number of bytes a call asks for. -/
def SerializerCall.size : SerializerCall → Nat
  | .write src => src.length
  | .advance off => off
  | .reset => 0

/-- The serializer one call leaves. -/
def call (s : FixedBufferSerializer) : SerializerCall → FixedBufferSerializer
  | .write src => (s.write src).2
  | .advance off => (s.advance off).2
  | .reset => s.reset

/-- The serializer a sequence of calls leaves. -/
def run (s : FixedBufferSerializer) : List SerializerCall → FixedBufferSerializer
  | [] => s
  | c :: calls => (s.call c).run calls

@[simp]
theorem run_nil (s : FixedBufferSerializer) : s.run [] = s := rfl

@[simp]
theorem run_cons (s : FixedBufferSerializer) (c : SerializerCall) (calls : List SerializerCall) :
    s.run (c :: calls) = (s.call c).run calls := rfl

theorem run_append (s : FixedBufferSerializer) (before after : List SerializerCall) :
    s.run (before ++ after) = (s.run before).run after := by
  induction before generalizing s with
  | nil => rfl
  | cons c before inductionHypothesis => exact inductionHypothesis (s.call c)

@[simp]
theorem buffer_length_call (s : FixedBufferSerializer) (c : SerializerCall) :
    (s.call c).buffer.length = s.buffer.length := by
  cases c with
  | write src => rw [call, write_eq]; split <;> simp
  | advance off => rw [call, advance_eq]; split <;> rfl
  | reset => rfl

@[simp]
theorem buffer_length_run (s : FixedBufferSerializer) (calls : List SerializerCall) :
    (s.run calls).buffer.length = s.buffer.length := by
  induction calls generalizing s with
  | nil => rfl
  | cons c calls inductionHypothesis => rw [run_cons, inductionHypothesis, buffer_length_call]

/-- Each call keeps the cursor within the buffer: a passing check has already
compared the wrapped sum that becomes the cursor. -/
theorem cursor_le_call {s : FixedBufferSerializer} (c : SerializerCall)
    (within : s.cursor ≤ s.buffer.length) :
    (s.call c).cursor ≤ (s.call c).buffer.length := by
  cases c with
  | write src =>
      rw [call, write_eq]
      split
      · simpa using (‹_ ∧ _›).2
      · exact within
  | advance off =>
      rw [call, advance_eq]
      split
      · exact (‹_ ∧ _›).2
      · exact within
  | reset => simp [call, reset]

theorem run_cursor_le {s : FixedBufferSerializer} (calls : List SerializerCall)
    (within : s.cursor ≤ s.buffer.length) :
    (s.run calls).cursor ≤ (s.run calls).buffer.length := by
  induction calls generalizing s with
  | nil => exact within
  | cons c calls inductionHypothesis => exact inductionHypothesis (cursor_le_call c within)

/-- From a fresh serializer over 18 bytes, writing five bytes and then
advancing by `2^64 - 3` bytes, far more than the 13 left, ends without error
with the cursor back at 2, so `serialized_buffer()` shrinks to two bytes. -/
theorem run_write_advance_wraps :
    (ofBuffer .little (List.replicate 18 0) (by decide)).run
        [.write [1, 2, 3, 4, 5], .advance (sizeModulus - 3)] =
      ⟨.little, [1, 2, 3, 4, 5] ++ List.replicate 13 0, 2, false, by decide⟩ ∧
    ((ofBuffer .little (List.replicate 18 0) (by decide)).run
        [.write [1, 2, 3, 4, 5], .advance (sizeModulus - 3)]).serializedBuffer = [1, 2] :=
  ⟨rfl, rfl⟩

/-! ## Runs whose sums cannot wrap

Below `2^64` minus the capacity a size cannot make `_cursor + num` wrap, and the
bound check is exact. -/

/-- The bytes a run of writes and advances lays out from `offset` on, up to its
first `reset()`: each write its bytes, each advance the bytes already there. -/
def laidOut (buffer : List UInt8) : Nat → List SerializerCall → List UInt8
  | _, [] => []
  | offset, .write src :: calls => src ++ laidOut buffer (offset + src.length) calls
  | offset, .advance off :: calls =>
      (buffer.drop offset).take off ++ laidOut buffer (offset + off) calls
  | _, .reset :: _ => []

/-- What is laid out from `offset` on reads only the bytes from `offset` on. -/
theorem laidOut_congr {first second : List UInt8} :
    ∀ {offset : Nat} (calls : List SerializerCall), first.drop offset = second.drop offset →
      laidOut first offset calls = laidOut second offset calls
  | _, [], _ => rfl
  | offset, .write src :: calls, same => by
      have later : first.drop (offset + src.length) = second.drop (offset + src.length) := by
        rw [← List.drop_drop, same, List.drop_drop]
      rw [laidOut, laidOut, laidOut_congr calls later]
  | offset, .advance off :: calls, same => by
      have later : first.drop (offset + off) = second.drop (offset + off) := by
        rw [← List.drop_drop, same, List.drop_drop]
      rw [laidOut, laidOut, laidOut_congr calls later, same]
  | _, .reset :: _, _ => rfl

theorem laidOut_cons (buffer : List UInt8) (offset : Nat) {c : SerializerCall}
    (notReset : c ≠ .reset) (calls : List SerializerCall) :
    laidOut buffer offset (c :: calls) =
      laidOut buffer offset [c] ++ laidOut buffer (offset + c.size) calls := by
  cases c with
  | write src => simp only [laidOut, List.append_nil, SerializerCall.size]
  | advance off => simp only [laidOut, List.append_nil, SerializerCall.size]
  | reset => exact absurd rfl notReset

section NoWrap

variable {s : FixedBufferSerializer} {c : SerializerCall}

/-- A call that fits succeeds, moves the cursor by its size and lays out its
bytes there, leaving the bytes after them as they were. -/
theorem call_of_fits (notReset : c ≠ .reset) (clear : s.hasError = false)
    (fits : s.cursor + c.size ≤ s.buffer.length) :
    (s.call c).hasError = false ∧ (s.call c).cursor = s.cursor + c.size ∧
      (s.call c).serializedBuffer = s.serializedBuffer ++ laidOut s.buffer s.cursor [c] ∧
      (s.call c).buffer.drop (s.cursor + c.size) = s.buffer.drop (s.cursor + c.size) := by
  have noWrap : (s.cursor + c.size) % sizeModulus = s.cursor + c.size :=
    Nat.mod_eq_of_lt (Nat.lt_of_le_of_lt fits s.capacity_lt)
  cases c with
  | write src =>
      simp only [SerializerCall.size] at fits noWrap ⊢
      rw [call, write_eq, if_pos ⟨clear, by rw [noWrap]; exact fits⟩]
      exact ⟨clear, noWrap, by simp only [serializedBuffer, noWrap, take_overwrite fits, laidOut,
        List.append_nil], drop_overwrite fits⟩
  | advance off =>
      simp only [SerializerCall.size] at fits noWrap ⊢
      rw [call, advance_eq, if_pos ⟨clear, by rw [noWrap]; exact fits⟩]
      exact ⟨clear, noWrap, by simp only [serializedBuffer, noWrap, laidOut, List.append_nil,
        List.take_add], rfl⟩
  | reset => exact absurd rfl notReset

/-- A call that does not fit, and whose size is too small for the sum to wrap,
fails and sets the error flag, leaving the cursor and the buffer as they were. -/
theorem call_of_lt (notReset : c ≠ .reset) (within : s.cursor ≤ s.buffer.length)
    (noWrap : c.size < sizeModulus - s.buffer.length) (past : s.buffer.length < s.cursor + c.size) :
    s.call c = { s with hasError := true } := by
  have exact : (s.cursor + c.size) % sizeModulus = s.cursor + c.size :=
    Nat.mod_eq_of_lt (by omega)
  cases c with
  | write src =>
      simp only [SerializerCall.size] at exact past
      rw [call, write_eq, if_neg (by rw [exact]; omega)]
  | advance off =>
      simp only [SerializerCall.size] at exact past
      rw [call, advance_eq, if_neg (by rw [exact]; omega)]
  | reset => exact absurd rfl notReset

/-- Once the error flag is set, every call but `reset()` leaves the serializer
as it is. -/
theorem call_of_hasError (notReset : c ≠ .reset) (erred : s.hasError = true) : s.call c = s := by
  have unchanged : { s with hasError := true } = s := by cases s; simp_all
  cases c with
  | write src => rw [call, write_eq, if_neg (by simp [erred]), unchanged]
  | advance off => rw [call, advance_eq, if_neg (by simp [erred]), unchanged]
  | reset => exact absurd rfl notReset

/-- A call that cannot wrap never moves the cursor back. -/
theorem cursor_le_call_of_noWrap (notReset : c ≠ .reset) (within : s.cursor ≤ s.buffer.length)
    (noWrap : c.size < sizeModulus - s.buffer.length) : s.cursor ≤ (s.call c).cursor := by
  cases erred : s.hasError
  · by_cases fits : s.cursor + c.size ≤ s.buffer.length
    · rw [(call_of_fits notReset erred fits).2.1]
      exact Nat.le_add_right _ _
    · rw [call_of_lt notReset within noWrap (by omega)]
  · rw [call_of_hasError notReset erred]

end NoWrap

section NoWrapRuns

variable {s : FixedBufferSerializer} {calls : List SerializerCall}

theorem run_of_hasError (noReset : ∀ c ∈ calls, c ≠ .reset) (erred : s.hasError = true) :
    s.run calls = s := by
  induction calls with
  | nil => rfl
  | cons c calls inductionHypothesis =>
      rw [run_cons, call_of_hasError (noReset c (.head _)) erred]
      exact inductionHypothesis fun other mem => noReset other (.tail _ mem)

/-- A run of writes and advances whose sizes sum to at most the free space
succeeds throughout, moves the cursor by the sum and lays out its bytes. -/
theorem run_of_sum_le (noReset : ∀ c ∈ calls, c ≠ .reset) (clear : s.hasError = false)
    (fits : s.cursor + (calls.map SerializerCall.size).sum ≤ s.buffer.length) :
    (s.run calls).hasError = false ∧
      (s.run calls).cursor = s.cursor + (calls.map SerializerCall.size).sum ∧
      (s.run calls).serializedBuffer = s.serializedBuffer ++ laidOut s.buffer s.cursor calls := by
  induction calls generalizing s with
  | nil => exact ⟨clear, rfl, by rw [laidOut, List.append_nil, run_nil]⟩
  | cons c calls inductionHypothesis =>
      have notReset := noReset c (.head _)
      simp only [List.map_cons, List.sum_cons] at fits
      obtain ⟨nextClear, nextCursor, nextBuffer, frame⟩ := call_of_fits notReset clear (by omega)
      obtain ⟨runClear, runCursor, runBuffer⟩ :=
        inductionHypothesis (fun other mem => noReset other (.tail _ mem)) nextClear
          (by rw [nextCursor, buffer_length_call]; omega)
      refine ⟨runClear, by rw [run_cons, runCursor, nextCursor, List.map_cons, List.sum_cons,
        Nat.add_assoc], ?_⟩
      rw [run_cons, runBuffer, nextBuffer, nextCursor, laidOut_congr calls frame,
        laidOut_cons _ _ notReset calls, List.append_assoc]

/-- A run of writes and advances that cannot wrap and asks for more than the
free space ends with the error flag set. -/
theorem run_hasError_of_lt (noReset : ∀ c ∈ calls, c ≠ .reset)
    (within : s.cursor ≤ s.buffer.length)
    (noWrap : ∀ c ∈ calls, c.size < sizeModulus - s.buffer.length)
    (past : s.buffer.length < s.cursor + (calls.map SerializerCall.size).sum) :
    (s.run calls).hasError = true := by
  induction calls generalizing s with
  | nil => simp only [List.map_nil, List.sum_nil, Nat.add_zero] at past; omega
  | cons c calls inductionHypothesis =>
      have notReset := noReset c (.head _)
      have rest : ∀ c ∈ calls, c ≠ .reset := fun other mem => noReset other (.tail _ mem)
      simp only [List.map_cons, List.sum_cons] at past
      rw [run_cons]
      cases erred : s.hasError
      · by_cases fits : s.cursor + c.size ≤ s.buffer.length
        · have nextCursor := (call_of_fits notReset erred fits).2.1
          exact inductionHypothesis rest (by rw [nextCursor, buffer_length_call]; exact fits)
            (fun other mem => by rw [buffer_length_call]; exact noWrap other (.tail _ mem))
            (by rw [nextCursor, buffer_length_call]; omega)
        · rw [call_of_lt notReset within (noWrap c (.head _)) (by omega), run_of_hasError rest rfl]
      · rw [call_of_hasError notReset erred, run_of_hasError rest erred]
        exact erred

/-- Along a run that cannot wrap the cursor never moves back. -/
theorem cursor_le_run_of_noWrap (noReset : ∀ c ∈ calls, c ≠ .reset)
    (within : s.cursor ≤ s.buffer.length)
    (noWrap : ∀ c ∈ calls, c.size < sizeModulus - s.buffer.length) :
    s.cursor ≤ (s.run calls).cursor := by
  induction calls generalizing s with
  | nil => exact Nat.le_refl _
  | cons c calls inductionHypothesis =>
      exact (cursor_le_call_of_noWrap (noReset c (.head _)) within (noWrap c (.head _))).trans
        (inductionHypothesis (fun other mem => noReset other (.tail _ mem))
          (cursor_le_call c within)
          fun other mem => by rw [buffer_length_call]; exact noWrap other (.tail _ mem))

end NoWrapRuns

/-- The serializer's contract holds for every run of writes and advances whose
sizes stay below `2^64` minus the capacity, where `_cursor + num` cannot wrap:
once the flag is set a call changes nothing; a call that does not fit fails,
sets the flag and keeps the cursor; from an error-free serializer the cursor
never moves back, the run ends without error exactly when its sizes fit in the
free space, and then the cursor has moved by their sum and
`serialized_buffer()` has gained the bytes laid out at their offsets. -/
theorem fixedBufferSerializer_contract_of_noWrap (s : FixedBufferSerializer)
    (clear : s.hasError = false) (within : s.cursor ≤ s.buffer.length)
    (calls : List SerializerCall) (noReset : ∀ c ∈ calls, c ≠ .reset)
    (noWrap : ∀ c ∈ calls, c.size < sizeModulus - s.buffer.length) :
    (∀ (t : FixedBufferSerializer) (c : SerializerCall), c ≠ .reset → t.hasError = true →
      t.call c = t) ∧
    (∀ (t : FixedBufferSerializer) (c : SerializerCall), c ≠ .reset →
      t.cursor ≤ t.buffer.length → c.size < sizeModulus - t.buffer.length →
      t.buffer.length < t.cursor + c.size → t.call c = { t with hasError := true }) ∧
    (∀ before after, before ++ after = calls → (s.run before).cursor ≤ (s.run calls).cursor) ∧
    ((s.run calls).hasError = false ↔
      s.cursor + (calls.map SerializerCall.size).sum ≤ s.buffer.length) ∧
    (s.cursor + (calls.map SerializerCall.size).sum ≤ s.buffer.length →
      (s.run calls).cursor = s.cursor + (calls.map SerializerCall.size).sum ∧
        (s.run calls).serializedBuffer = s.serializedBuffer ++ laidOut s.buffer s.cursor calls) := by
  refine ⟨fun _ _ notReset erred => call_of_hasError notReset erred,
    fun _ _ notReset within noWrap past => call_of_lt notReset within noWrap past,
    fun before after split => ?_, ⟨fun runClear => ?_, fun fits => (run_of_sum_le noReset clear fits).1⟩,
    fun fits => (run_of_sum_le noReset clear fits).2⟩
  · subst split
    rw [run_append]
    exact cursor_le_run_of_noWrap (fun c mem => noReset c (List.mem_append_right _ mem))
      (run_cursor_le before within)
      fun c mem => by rw [buffer_length_run]; exact noWrap c (List.mem_append_right _ mem)
  · by_contra past
    have erred := run_hasError_of_lt noReset within noWrap (by omega)
    rw [erred] at runClear
    exact Bool.noConfusion runClear

/-- The contract on a fresh serializer over eighteen bytes: writing five bytes,
skipping three and writing one more ends without error, with the skipped bytes
as the buffer had them. -/
theorem fixedBufferSerializer_contract_eighteenBytes :
    let calls := [SerializerCall.write [1, 2, 3, 4, 5], .advance 3, .write [9]]
    ((ofBuffer .little (List.replicate 18 0) (by decide)).run calls).hasError = false ∧
      ((ofBuffer .little (List.replicate 18 0) (by decide)).run calls).serializedBuffer =
        [1, 2, 3, 4, 5, 0, 0, 0, 9] :=
  have contract := fixedBufferSerializer_contract_of_noWrap
    (ofBuffer .little (List.replicate 18 0) (by decide)) rfl (Nat.zero_le _)
    [SerializerCall.write [1, 2, 3, 4, 5], .advance 3, .write [9]] (by simp) (by decide)
  ⟨contract.2.2.2.1.2 (by decide), (contract.2.2.2.2 (by decide)).2⟩

/-! ## The `serialize` overloads -/

/-- An argument of `serialize`: a span, a string literal (its `N - 1` bytes)
or a `std::string`, all written as they are; or an integer of the given type,
by its object representation `bits`. -/
inductive SerializeArg
  | bytes (bytes : List UInt8)
  | integral (type : IntType) (bits : Nat)

/-- `serialize_object(ser, obj)` for an object of `width` bytes whose
representation, read on a host of order `host`, is `bits`. -/
def serializeObject (host : Endian) (s : FixedBufferSerializer) (width bits : Nat) :
    Bool × FixedBufferSerializer :=
  s.write (host.bytes width bits)

/-- `serialize(ser, v)`, one overload per kind of argument. -/
def serialize (host : Endian) (s : FixedBufferSerializer) :
    SerializeArg → Bool × FixedBufferSerializer
  | .bytes data => s.write data
  | .integral type bits =>
      serializeObject host s type.width (toEndian s.endianess host type.width bits)

/-- `serialize_multi(ser, args...)`: the fold `(serialize(ser, args) && ...)`,
which stops at the first failing argument. -/
def serializeMulti (host : Endian) (s : FixedBufferSerializer) :
    List SerializeArg → Bool × FixedBufferSerializer
  | [] => (true, s)
  | arg :: args =>
      match serialize host s arg with
      | (true, next) => serializeMulti host next args
      | (false, next) => (false, next)

theorem serializeMulti_cons (host : Endian) (s : FixedBufferSerializer) (arg : SerializeArg)
    (args : List SerializeArg) :
    serializeMulti host s (arg :: args) =
      if (serialize host s arg).1 then serializeMulti host (serialize host s arg).2 args
      else (false, (serialize host s arg).2) := by
  rw [serializeMulti]
  split <;> simp_all

/-- The bytes an argument puts on the wire of a serializer of order
`endianess`. -/
def SerializeArg.encode (endianess : Endian) : SerializeArg → List UInt8
  | .bytes data => data
  | .integral type bits => endianess.bytes type.width bits

@[simp]
theorem SerializeArg.length_encode (endianess : Endian) (arg : SerializeArg) :
    (arg.encode endianess).length =
      match arg with
      | .bytes data => data.length
      | .integral type _ => type.width := by
  cases arg <;> simp [SerializeArg.encode]

/-- `serialize` writes the argument's wire bytes, on either host. -/
theorem serialize_eq_write (host : Endian) (s : FixedBufferSerializer) (arg : SerializeArg) :
    serialize host s arg = s.write (arg.encode s.endianess) := by
  cases arg with
  | bytes data => rfl
  | integral type bits =>
      simp only [serialize, serializeObject, SerializeArg.encode, Endian.bytes_toEndian]

end FixedBufferSerializer

end OmronDiscovery
