import OmronDiscovery.Serializer
import OmronDiscovery.Deserializer

/-!
# Integers through a serializer and back

`serialize_multi` writes each integer as `to_endian` of its value in host byte
order, and `read<T>` undoes both steps.  Whatever the host's order, the wire
carries each value in the configured order (`Endian.bytes_toEndian`), and
reading the serialized buffer with the same types returns the values
(`serializeMulti_readEach`).  Unchecked `serialize` calls are a run of writes
(`serializeEach_eq_run`), so they fail once their bytes outrun the buffer
(`serializeEach_hasError_of_lt`).
-/

namespace OmronDiscovery

instance (type : IntType) (value : Int) : Decidable (type.InRange value) :=
  inferInstanceAs (Decidable (if type.signed then
    -2 ^ (8 * type.width - 1) ≤ value ∧ value < 2 ^ (8 * type.width - 1)
    else 0 ≤ value ∧ value < 2 ^ (8 * type.width)))

theorem IntType.width_pos (type : IntType) : 0 < type.width := by
  cases type <;> decide

/-- The argument `serialize_multi` receives for an integer value. -/
def IntValue.arg (v : IntValue) : FixedBufferSerializer.SerializeArg :=
  .integral v.type (v.type.toBits v.value)

/-- The `width`-byte representation of `v` in the byte order `endianess`. -/
def IntValue.encode (endianess : Endian) (v : IntValue) : List UInt8 :=
  endianess.bytes v.type.width (v.type.toBits v.value)

/-- Successive `read<T>` calls, one per type of `types`: the values returned
and the deserializer left. -/
def readEach (host : Endian) (d : FixedBufferDeserializer) :
    List IntType → List Int × FixedBufferDeserializer
  | [] => ([], d)
  | type :: types =>
      match read host type d with
      | (bits, next) =>
          match readEach host next types with
          | (values, last) => (type.ofBits bits :: values, last)

namespace FixedBufferSerializer

variable {host : Endian}

/-- A `serialize` call that fits succeeds and appends the argument's wire
bytes to the serialized buffer. -/
theorem serialize_of_fits {s : FixedBufferSerializer} {arg : SerializeArg}
    (clear : s.hasError = false)
    (fits : s.cursor + (arg.encode s.endianess).length ≤ s.buffer.length) :
    (serialize host s arg).1 = true ∧ (serialize host s arg).2.hasError = false ∧
      (serialize host s arg).2.endianess = s.endianess ∧
      (serialize host s arg).2.buffer.length = s.buffer.length ∧
      (serialize host s arg).2.cursor = s.cursor + (arg.encode s.endianess).length ∧
      (serialize host s arg).2.serializedBuffer = s.serializedBuffer ++ arg.encode s.endianess := by
  have appended := serializedBuffer_write_of_fits clear fits
  rw [write_of_fits clear fits] at appended
  rw [serialize_eq_write, write_of_fits clear fits]
  exact ⟨rfl, clear, rfl, length_overwrite .., rfl, appended⟩

/-- `serialize_multi` over arguments that fit succeeds and appends their wire
bytes in order. -/
theorem serializeMulti_of_fits {args : List SerializeArg} {s : FixedBufferSerializer}
    (clear : s.hasError = false)
    (fits :
      s.cursor + (args.map fun arg => (arg.encode s.endianess).length).sum ≤ s.buffer.length) :
    (serializeMulti host s args).1 = true ∧ (serializeMulti host s args).2.hasError = false ∧
      (serializeMulti host s args).2.serializedBuffer =
        s.serializedBuffer ++ args.flatMap (·.encode s.endianess) := by
  induction args generalizing s with
  | nil => exact ⟨rfl, clear, by simp [serializeMulti]⟩
  | cons arg args inductionHypothesis =>
      simp only [List.map_cons, List.sum_cons] at fits
      obtain ⟨ok, nextClear, sameOrder, sameLength, nextCursor, nextBuffer⟩ :=
        @serialize_of_fits host s arg clear (by omega)
      obtain ⟨restOk, restClear, restBuffer⟩ :=
        inductionHypothesis nextClear (by rw [sameOrder, sameLength, nextCursor]; omega)
      rw [serializeMulti_cons, if_pos ok]
      refine ⟨restOk, restClear, ?_⟩
      rw [restBuffer, nextBuffer, sameOrder, List.flatMap_cons, List.append_assoc]

/-- Successive `serialize` calls whose results are not checked, as the
request encoders make them. -/
def serializeEach (host : Endian) (s : FixedBufferSerializer) (args : List SerializeArg) :
    FixedBufferSerializer :=
  args.foldl (fun s arg => (serialize host s arg).2) s

@[simp]
theorem serializeEach_nil (host : Endian) (s : FixedBufferSerializer) : serializeEach host s [] = s :=
  rfl

@[simp]
theorem serializeEach_cons (host : Endian) (s : FixedBufferSerializer) (arg : SerializeArg)
    (args : List SerializeArg) :
    serializeEach host s (arg :: args) = serializeEach host (serialize host s arg).2 args :=
  rfl

theorem serializeEach_singleton (host : Endian) (s : FixedBufferSerializer) (arg : SerializeArg) :
    serializeEach host s [arg] = (serialize host s arg).2 :=
  rfl

theorem serializeEach_append (host : Endian) (s : FixedBufferSerializer) (args more : List SerializeArg) :
    serializeEach host s (args ++ more) = serializeEach host (serializeEach host s args) more :=
  List.foldl_append ..

/-- Unchecked `serialize` calls over arguments that fit set no error and
append their wire bytes in order. -/
theorem serializeEach_of_fits {args : List SerializeArg} {s : FixedBufferSerializer}
    (clear : s.hasError = false)
    (fits :
      s.cursor + (args.map fun arg => (arg.encode s.endianess).length).sum ≤ s.buffer.length) :
    (serializeEach host s args).hasError = false ∧
      (serializeEach host s args).endianess = s.endianess ∧
      (serializeEach host s args).buffer.length = s.buffer.length ∧
      (serializeEach host s args).serializedBuffer =
        s.serializedBuffer ++ args.flatMap (·.encode s.endianess) := by
  induction args generalizing s with
  | nil => exact ⟨clear, rfl, rfl, by simp [serializeEach]⟩
  | cons arg args inductionHypothesis =>
      simp only [List.map_cons, List.sum_cons] at fits
      obtain ⟨-, nextClear, sameOrder, sameLength, nextCursor, nextBuffer⟩ :=
        @serialize_of_fits host s arg clear (by omega)
      obtain ⟨restClear, restOrder, restLength, restBuffer⟩ :=
        inductionHypothesis nextClear (by rw [sameOrder, sameLength, nextCursor]; omega)
      refine ⟨restClear, restOrder.trans sameOrder, restLength.trans sameLength, ?_⟩
      show (serializeEach host (serialize host s arg).2 args).serializedBuffer = _
      rw [restBuffer, nextBuffer, sameOrder, List.flatMap_cons, List.append_assoc]

/-- Unchecked `serialize` calls are a run of writes of the arguments' wire
bytes. -/
theorem serializeEach_eq_run (s : FixedBufferSerializer) (args : List SerializeArg) :
    serializeEach host s args = s.run (args.map fun arg => .write (arg.encode s.endianess)) := by
  induction args generalizing s with
  | nil => rfl
  | cons arg args inductionHypothesis =>
      rw [serializeEach_cons, serialize_eq_write, inductionHypothesis, endianess_write]
      rfl

/-- Unchecked `serialize` calls whose bytes do not fit in the free space leave
the serializer failed, when no argument is long enough for the bound check to
wrap. -/
theorem serializeEach_hasError_of_lt {args : List SerializeArg} {s : FixedBufferSerializer}
    (within : s.cursor ≤ s.buffer.length)
    (noWrap : ∀ arg ∈ args, (arg.encode s.endianess).length < sizeModulus - s.buffer.length)
    (past : s.buffer.length < s.cursor + (args.map fun arg => (arg.encode s.endianess).length).sum) :
    (serializeEach host s args).hasError = true := by
  rw [serializeEach_eq_run]
  refine run_hasError_of_lt (by simp) within (by simpa [SerializerCall.size] using noWrap) ?_
  simpa [SerializerCall.size, Function.comp_def] using past

end FixedBufferSerializer

/-- Reading the types of `values` from a deserializer whose remaining bytes
start with their encodings returns the values and leaves the rest. -/
theorem readEach_encode {host : Endian} (values : List IntValue) {rest : List UInt8}
    {d : FixedBufferDeserializer} (clear : d.hasError = false)
    (remaining : d.remainingBuffer = values.flatMap (IntValue.encode d.endianess) ++ rest) :
    (readEach host d (values.map (·.type))).1 = values.map (·.value) ∧
      (readEach host d (values.map (·.type))).2.hasError = false ∧
      (readEach host d (values.map (·.type))).2.remainingBuffer = rest := by
  induction values generalizing d with
  | nil => exact ⟨rfl, clear, by simpa using remaining⟩
  | cons v values inductionHypothesis =>
      have encodedLength : (v.encode d.endianess).length = v.type.width := by
        simp [IntValue.encode]
      have enoughLeft : v.type.width ≤ d.remainingBuffer.length := by
        rw [remaining, List.flatMap_cons, List.append_assoc, List.length_append, encodedLength]
        omega
      have fits : d.cursor + v.type.width ≤ d.buffer.length := by
        have := v.type.width_pos
        simp only [FixedBufferDeserializer.remainingBuffer, List.length_drop] at enoughLeft
        omega
      have firstBytes : d.remainingBuffer.take v.type.width = v.encode d.endianess := by
        rw [remaining, List.flatMap_cons, List.append_assoc, List.take_left' encodedLength]
      have nextRemaining :
          ({ d with cursor := d.cursor + v.type.width } : FixedBufferDeserializer).remainingBuffer =
            values.flatMap (IntValue.encode d.endianess) ++ rest := by
        have dropped := congrArg (List.drop v.type.width) remaining
        rw [List.flatMap_cons, List.append_assoc, List.drop_left' encodedLength] at dropped
        simpa [FixedBufferDeserializer.remainingBuffer, List.drop_drop, Nat.add_comm] using dropped
      obtain ⟨restValues, restClear, restRemaining⟩ :=
        inductionHypothesis (d := { d with cursor := d.cursor + v.type.width }) clear nextRemaining
      simp only [List.map_cons, readEach, read_of_fits v.type clear fits, firstBytes]
      refine ⟨?_, restClear, restRemaining⟩
      rw [restValues, IntValue.encode, Endian.value_bytes,
        Nat.mod_eq_of_lt (v.type.toBits_lt v.value), IntType.ofBits_toBits v.inRange]

/-- Serializing integers of one, two, four or eight bytes with
`serialize_multi` into a fresh serializer with room for them all writes each
value's representation in the configured byte order and sets no error; reading
the same types back with `read<T>` from a deserializer over
`serialized_buffer()` returns the values, sets no error and consumes every
byte.  This holds on hosts of either byte order. -/
theorem serializeMulti_readEach (host endianess : Endian) (values : List IntValue)
    (buffer : List UInt8) (capacity_lt : buffer.length < sizeModulus)
    (fits : (values.map (·.type.width)).sum ≤ buffer.length) :
    let written := FixedBufferSerializer.serializeMulti host
      (FixedBufferSerializer.ofBuffer endianess buffer capacity_lt) (values.map IntValue.arg)
    let readBack := readEach host
      (FixedBufferDeserializer.ofBuffer endianess written.2.serializedBuffer) (values.map (·.type))
    written.1 = true ∧ written.2.hasError = false ∧
      written.2.serializedBuffer = values.flatMap (IntValue.encode endianess) ∧
      readBack.1 = values.map (·.value) ∧ readBack.2.hasError = false ∧
      readBack.2.remainingBuffer = [] := by
  have argLengths : ((values.map IntValue.arg).map fun arg => (arg.encode endianess).length) =
      values.map (·.type.width) := by
    simp [IntValue.arg, FixedBufferSerializer.SerializeArg.encode]
  have argBytes : (values.map IntValue.arg).flatMap (·.encode endianess) =
      values.flatMap (IntValue.encode endianess) := by
    simp only [List.flatMap, List.map_map]
    rfl
  obtain ⟨ok, clear, serialized⟩ := @FixedBufferSerializer.serializeMulti_of_fits host
    (values.map IntValue.arg) (FixedBufferSerializer.ofBuffer endianess buffer capacity_lt) rfl
    (by simpa [FixedBufferSerializer.ofBuffer, argLengths] using fits)
  have fresh : (FixedBufferSerializer.ofBuffer endianess buffer capacity_lt).serializedBuffer = [] ∧
      (FixedBufferSerializer.ofBuffer endianess buffer capacity_lt).endianess = endianess :=
    ⟨rfl, rfl⟩
  rw [fresh.1, List.nil_append, fresh.2, argBytes] at serialized
  refine ⟨ok, clear, serialized, ?_⟩
  rw [serialized]
  exact readEach_encode values rfl (by simp [FixedBufferDeserializer.ofBuffer,
    FixedBufferDeserializer.remainingBuffer])

/-- Two values, of a signed and an unsigned type, through a big-endian
serializer on a little-endian host. -/
theorem serializeMulti_readEach_signed_unsigned :
    let values := [⟨.i16, -2, by decide⟩, ⟨.u32, 0x12345678, by decide⟩]
    (values.map (·.type.width)).sum ≤ (List.replicate 6 (0 : UInt8)).length ∧
      let written := FixedBufferSerializer.serializeMulti .little
        (FixedBufferSerializer.ofBuffer .big (List.replicate 6 0) (by decide))
        (values.map IntValue.arg)
      let readBack := readEach .little
        (FixedBufferDeserializer.ofBuffer .big written.2.serializedBuffer) (values.map (·.type))
      written.1 = true ∧ written.2.hasError = false ∧
        written.2.serializedBuffer = values.flatMap (IntValue.encode .big) ∧
        readBack.1 = values.map (·.value) ∧ readBack.2.hasError = false ∧
        readBack.2.remainingBuffer = [] :=
  ⟨by decide, serializeMulti_readEach .little .big _ _ (by decide) (by decide)⟩

end OmronDiscovery
