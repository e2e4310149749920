import OmronDiscovery.DataType
import OmronDiscovery.RequestContext

/-!
# `get_variable_info`

`get_variable_info(rc, name)` asks for the attributes of one variable and
decodes the reply: its size and type byte, and for an array the element type,
the dimensions, sixteen opaque bytes and the start indices.  The deserializer
is checked once, after the last field.

* `Requester.getVariableInfo`, the whole call over any `rc.request()`, with
  `getVariableInfo` its run against a `Controller`, and `getVariableInfoReply`,
  its part after `rc.request()`;
* `getVariableInfoReply_ofBuffer`: on every payload the call returns the
  descriptor the payload's layout describes when the payload is at least as
  long as that layout, and throws otherwise;
* `getVariableInfo_arrayInfo`: whatever the whole call returns keeps the shape
  invariant `VariableInfo.Consistent`, which has no lower bound on the number
  of dimensions: an array announcing none is returned;
* `getVariableInfo_sizeWraps`: four dimensions of 65536 make the `size_t`
  product of `get_array_size` wrap, and the stored size is `0`.
-/

namespace OmronDiscovery

/-- `ArrayInfo` of `omron.h`; its numeric fields are `size_t`, as
`get_array_size` takes them. -/
structure ArrayInfo where
  elementType : UInt8
  elementSize : Nat
  dimensions : List Nat
  startIndices : List Nat
  deriving DecidableEq, Repr

/-- `VariableInfo` of `omron.h`, the name as its bytes. -/
structure VariableInfo where
  name : List UInt8
  dataType : UInt8
  size : Nat
  arrayInfo : Option ArrayInfo
  deriving DecidableEq, Repr

section Decode

variable (host : Endian) (codes : DataTypeCodes)

/-- The loop `for (uint8_t i = 0; i < num_dimensions; ++i)
v.push_back(read<uint32_t>(des))`, which fills `dimensions` and then
`start_indices`. -/
def readUInt32s : Nat → FixedBufferDeserializer → List Nat × FixedBufferDeserializer
  | 0, d => ([], d)
  | count + 1, d =>
      let (value, d) := read host .u32 d
      let (values, d) := readUInt32s count d
      (value :: values, d)

/-- The lines of `get_variable_info` after `num_dimensions`: a padding byte,
the dimensions, eight opaque bytes, `bit_number`, three padding bytes,
`variable_type_instance_id` and the start indices. -/
def decodeDimensions (numDimensions : Nat) (d : FixedBufferDeserializer) :
    (List Nat × List Nat) × FixedBufferDeserializer :=
  let (_, d) := d.advance 1
  let (dimensions, d) := readUInt32s host numDimensions d
  let (_, d) := d.advance 8
  let (_, d) := read host .u8 d
  let (_, d) := d.advance 3
  let (_, d) := read host .u32 d
  let (startIndices, d) := readUInt32s host numDimensions d
  ((dimensions, startIndices), d)

/-- The array branch of `get_variable_info`: `element_type`, `num_dimensions`
and the rest, with `element_size` the size read before. -/
def decodeArrayInfo (elementSize : Nat) (d : FixedBufferDeserializer) :
    ArrayInfo × FixedBufferDeserializer :=
  let (elementType, d) := read host .u8 d
  let (numDimensions, d) := read host .u8 d
  let ((dimensions, startIndices), d) := decodeDimensions host numDimensions d
  ({ elementType := UInt8.ofNat elementType, elementSize, dimensions, startIndices }, d)

/-- The decoding in `get_variable_info`, from `var.size` to the array size.  The
warnings on unknown types go to the logger, which is not modelled. -/
def decodeVariableInfo (name : List UInt8) (d : FixedBufferDeserializer) :
    VariableInfo × FixedBufferDeserializer :=
  let (size, d) := read host .u32 d
  let (dataType, d) := read host .u8 d
  if UInt8.ofNat dataType = codes.code .array then
    let (arr, d) := decodeArrayInfo host size d
    ({ name, dataType := UInt8.ofNat dataType,
       size := getArraySize codes arr.dimensions arr.elementType arr.elementSize,
       arrayInfo := some arr }, d)
  else ({ name, dataType := UInt8.ofNat dataType, size, arrayInfo := none }, d)

/-- `get_variable_info(rc, name)` after `rc.request()`: decode, then throw if
the deserializer has failed. -/
def getVariableInfoReply (name : List UInt8) (d : FixedBufferDeserializer) :
    Except Fault (VariableInfo × FixedBufferDeserializer) :=
  let (var, d) := decodeVariableInfo host codes name d
  if d.hasError then
    .error (.runtimeError "Could not decode get attribute all response for instance=0")
  else .ok (var, d)

/-- `get_variable_info(rc, name)`: encode Get_Attribute_All for the name's
symbolic path, send it with `requester`, and decode the reply. -/
def Requester.getVariableInfo (requester : Requester) (rc : RequestContext) (name : List UInt8) :
    Except Fault (VariableInfo × RequestContext) := do
  let path ← variableRequestPath host name
  let serializer ← encodeGetAttributeAll host rc.serializer path
  let rc ← requester { rc with serializer }
  let (var, d) ← getVariableInfoReply host codes name rc.deserializer
  pure (var, { rc with deserializer := d })

/-- `get_variable_info(rc, name)` against `controller`. -/
def getVariableInfo (controller : Controller) (rc : RequestContext) (name : List UInt8) :
    Except Fault (VariableInfo × RequestContext) :=
  Requester.getVariableInfo host codes (RequestContext.request controller) rc name

end Decode

/-! ## The loops of four-byte reads -/

section Reads

variable {host : Endian}

theorem CannotRead.readUInt32s {count n : Nat} {d : FixedBufferDeserializer}
    (cannot : CannotRead d (4 * count + n)) : CannotRead (readUInt32s host count d).2 n := by
  induction count generalizing d with
  | zero => simpa [OmronDiscovery.readUInt32s] using cannot
  | succ count inductionHypothesis =>
      exact inductionHypothesis (@CannotRead.read host d .u32 (4 * count + n)
        (by rw [show IntType.u32.width + (4 * count + n) = 4 * (count + 1) + n by
          simp only [IntType.width]; omega]; exact cannot))

theorem length_readUInt32s (count : Nat) (d : FixedBufferDeserializer) :
    (readUInt32s host count d).1.length = count := by
  induction count generalizing d with
  | zero => rfl
  | succ count inductionHypothesis => simp [readUInt32s, inductionHypothesis]

/-- Every value the loop reads is a `uint32_t`. -/
theorem lt_of_mem_readUInt32s (count : Nat) (d : FixedBufferDeserializer) :
    ∀ n ∈ (readUInt32s host count d).1, n < 2 ^ 32 := by
  induction count generalizing d with
  | zero => exact fun _ mem => absurd mem (List.not_mem_nil _)
  | succ count inductionHypothesis =>
    intro n mem
    rcases List.mem_cons.1 mem with rfl | later
    · exact read_lt .u32 d
    · exact inductionHypothesis _ n later

/-- The `count` values of four bytes that `buffer` holds from `offset` on, in
the byte order `order`. -/
def uint32sAt (order : Endian) (buffer : List UInt8) (offset count : Nat) : List Nat :=
  (List.range count).map fun i => order.value ((buffer.drop (offset + 4 * i)).take 4)

theorem uint32sAt_succ (order : Endian) (buffer : List UInt8) (offset count : Nat) :
    uint32sAt order buffer offset (count + 1) =
      order.value ((buffer.drop offset).take 4) :: uint32sAt order buffer (offset + 4) count := by
  simp only [uint32sAt, List.range_succ_eq_map, List.map_cons, List.map_map, Nat.mul_zero,
    Nat.add_zero, List.cons.injEq, true_and]
  apply List.map_congr_left
  intro i _
  simp only [Function.comp_apply, Nat.succ_eq_add_one]
  rw [show offset + 4 * (i + 1) = offset + 4 + 4 * i by omega]

theorem readUInt32s_of_fits {count : Nat} {d : FixedBufferDeserializer} (clear : d.hasError = false)
    (fits : d.cursor + 4 * count ≤ d.buffer.length) :
    readUInt32s host count d =
      (uint32sAt d.endianess d.buffer d.cursor count,
        { d with cursor := d.cursor + 4 * count }) := by
  induction count generalizing d with
  | zero => rfl
  | succ count inductionHypothesis =>
      have first : d.cursor + IntType.u32.width ≤ d.buffer.length := by
        simp only [IntType.width]; omega
      have rest := inductionHypothesis (d := { d with cursor := d.cursor + 4 }) clear
        (by simp only; omega)
      simp only [OmronDiscovery.readUInt32s, read_of_fits .u32 clear first, IntType.width, rest,
        uint32sAt_succ, FixedBufferDeserializer.remainingBuffer]
      simp only [Nat.mul_succ, Nat.add_assoc, Nat.add_comm 4]

theorem readUInt32s_mk {count : Nat} {endianess : Endian} {buffer : List UInt8} {cursor : Nat}
    (fits : cursor + 4 * count ≤ buffer.length) :
    readUInt32s host count ⟨endianess, buffer, cursor, false⟩ =
      (uint32sAt endianess buffer cursor count, ⟨endianess, buffer, cursor + 4 * count, false⟩) :=
  readUInt32s_of_fits rfl fits

theorem readUInt32s_of_hasError (count : Nat) {d : FixedBufferDeserializer}
    (erred : d.hasError = true) :
    readUInt32s host count d = (List.replicate count 0, d) := by
  induction count with
  | zero => rfl
  | succ count inductionHypothesis =>
      simp [readUInt32s, read_of_hasError .u32 erred, inductionHypothesis, List.replicate_succ]

end Reads

/-! ## The descriptor's layout -/

section Layout

variable {host : Endian} {codes : DataTypeCodes}

theorem decodeDimensions_of_hasError (numDimensions : Nat) {d : FixedBufferDeserializer}
    (erred : d.hasError = true) : (decodeDimensions host numDimensions d).2 = d := by
  simp [decodeDimensions, advance_of_hasError _ erred, readUInt32s_of_hasError _ erred,
    read_of_hasError _ erred]

theorem decodeArrayInfo_of_hasError (elementSize : Nat) {d : FixedBufferDeserializer}
    (erred : d.hasError = true) : (decodeArrayInfo host elementSize d).2 = d := by
  simp only [decodeArrayInfo, read_of_hasError _ erred]
  exact decodeDimensions_of_hasError 0 erred

theorem decodeDimensions_mk {numDimensions : Nat} {endianess : Endian} {buffer : List UInt8}
    {cursor : Nat} (fits : cursor + (17 + 8 * numDimensions) ≤ buffer.length) :
    decodeDimensions host numDimensions ⟨endianess, buffer, cursor, false⟩ =
      ((uint32sAt endianess buffer (cursor + 1) numDimensions,
          uint32sAt endianess buffer (cursor + 17 + 4 * numDimensions) numDimensions),
        ⟨endianess, buffer, cursor + (17 + 8 * numDimensions), false⟩) := by
  simp (disch := ((try simp only [IntType.width]); omega)) only [decodeDimensions, advance_mk,
    readUInt32s_mk, read_mk]
  have startIndices :
      cursor + 1 + 4 * numDimensions + 8 + 1 + 3 + 4 = cursor + 17 + 4 * numDimensions := by
    omega
  have last :
      cursor + 17 + 4 * numDimensions + 4 * numDimensions = cursor + (17 + 8 * numDimensions) := by
    omega
  simp only [IntType.width, startIndices, last]

theorem CannotRead.decodeDimensions {numDimensions : Nat} {d : FixedBufferDeserializer}
    (cannot : CannotRead d (17 + 8 * numDimensions)) :
    CannotRead (decodeDimensions host numDimensions d).2 0 := by
  simp only [OmronDiscovery.decodeDimensions]
  apply CannotRead.readUInt32s
  apply CannotRead.read
  apply CannotRead.advance
  apply CannotRead.read
  apply CannotRead.advance
  apply CannotRead.readUInt32s
  apply CannotRead.advance
  exact cannot.mono (by simp only [IntType.width]; omega)

theorem decodeArrayInfo_mk {elementSize : Nat} {endianess : Endian} {buffer : List UInt8}
    {cursor : Nat} (fits : cursor + 19 + 8 * (byteAt buffer (cursor + 1)).toNat ≤ buffer.length) :
    decodeArrayInfo host elementSize ⟨endianess, buffer, cursor, false⟩ =
      ({ elementType := byteAt buffer cursor, elementSize,
          dimensions := uint32sAt endianess buffer (cursor + 3) (byteAt buffer (cursor + 1)).toNat,
          startIndices :=
            uint32sAt endianess buffer (cursor + 19 + 4 * (byteAt buffer (cursor + 1)).toNat)
              (byteAt buffer (cursor + 1)).toNat },
        ⟨endianess, buffer, cursor + 19 + 8 * (byteAt buffer (cursor + 1)).toNat, false⟩) := by
  unfold byteAt at fits ⊢
  simp (disch := ((try simp only [IntType.width]); omega)) only [decodeArrayInfo, read_mk,
    IntType.width, value_take_one, byte_ofNat_toNat]
  rw [decodeDimensions_mk (by omega)]
  have startIndices : cursor + 1 + 1 + 17 + 4 * (buffer.getD (cursor + 1) 0).toNat =
      cursor + 19 + 4 * (buffer.getD (cursor + 1) 0).toNat := by omega
  have last : cursor + 1 + 1 + (17 + 8 * (buffer.getD (cursor + 1) 0).toNat) =
      cursor + 19 + 8 * (buffer.getD (cursor + 1) 0).toNat := by omega
  rw [startIndices, last]

theorem decodeArrayInfo_hasError_of_short {elementSize : Nat} {endianess : Endian}
    {buffer : List UInt8} {cursor : Nat}
    (short : buffer.length < cursor + 19 + 8 * (byteAt buffer (cursor + 1)).toNat) :
    (decodeArrayInfo host elementSize ⟨endianess, buffer, cursor, false⟩).2.hasError = true := by
  by_cases two : cursor + 2 ≤ buffer.length
  · simp (disch := ((try simp only [IntType.width]); omega)) only [decodeArrayInfo, read_mk,
      IntType.width, value_take_one]
    exact (CannotRead.decodeDimensions (.inr (by simp only [byteAt] at short ⊢; omega))).hasError
  · have cannot :
        CannotRead (read host .u8 (read host .u8 ⟨endianess, buffer, cursor, false⟩).2).2 0 :=
      CannotRead.read (CannotRead.read (.inr (by simp only [IntType.width]; omega)))
    simp only [decodeArrayInfo]
    rw [decodeDimensions_of_hasError _ cannot.hasError]
    exact cannot.hasError

/-- The bytes a Get_Attribute_All descriptor occupies: the size and the type
byte, and for an array the element type, `num_dimensions` (the byte at offset
6, zero for a payload that ends before it), a padding byte, the dimensions,
sixteen opaque bytes and the start indices. -/
def descriptorLength (codes : DataTypeCodes) (payload : List UInt8) : Nat :=
  if byteAt payload 4 = codes.code .array then 24 + 8 * (byteAt payload 6).toNat else 5

/-- The descriptor the layout of `payload` describes: the type byte at offset 4,
and either the size in the first four bytes, or, for an array, the element type
at offset 5, the first four bytes as the element size, the dimensions from
offset 8, the start indices after the sixteen opaque bytes, and the size
`get_array_size` computes from them. -/
def descriptorOf (codes : DataTypeCodes) (name payload : List UInt8) : VariableInfo :=
  let size := ofLE (payload.take 4)
  if byteAt payload 4 = codes.code .array then
    let numDimensions := (byteAt payload 6).toNat
    let arr : ArrayInfo :=
      { elementType := byteAt payload 5, elementSize := size,
        dimensions := uint32sAt .little payload 8 numDimensions,
        startIndices := uint32sAt .little payload (24 + 4 * numDimensions) numDimensions }
    { name, dataType := byteAt payload 4,
      size := getArraySize codes arr.dimensions arr.elementType arr.elementSize,
      arrayInfo := some arr }
  else { name, dataType := byteAt payload 4, size, arrayInfo := none }

theorem five_le_descriptorLength (codes : DataTypeCodes) (payload : List UInt8) :
    5 ≤ descriptorLength codes payload := by
  unfold descriptorLength
  split <;> omega

/-- The size and the type byte of the descriptor in a payload of at least five
bytes. -/
theorem decodeVariableInfo_ofBuffer_eq (name payload : List UInt8) (five : 5 ≤ payload.length) :
    decodeVariableInfo host codes name (.ofBuffer .little payload) =
      if byteAt payload 4 = codes.code .array then
        let arr := (decodeArrayInfo host (ofLE (payload.take 4)) ⟨.little, payload, 5, false⟩).1
        ({ name, dataType := byteAt payload 4,
           size := getArraySize codes arr.dimensions arr.elementType arr.elementSize,
           arrayInfo := some arr },
          (decodeArrayInfo host (ofLE (payload.take 4)) ⟨.little, payload, 5, false⟩).2)
      else
        ({ name, dataType := byteAt payload 4, size := ofLE (payload.take 4), arrayInfo := none },
          ⟨.little, payload, 5, false⟩) := by
  have size : read host .u32 (.ofBuffer .little payload) =
      (ofLE (payload.take 4), ⟨.little, payload, 4, false⟩) :=
    read_mk .u32 (by simp only [IntType.width]; omega)
  have dataType : read host .u8 ⟨.little, payload, 4, false⟩ =
      ((byteAt payload 4).toNat, ⟨.little, payload, 5, false⟩) := by
    rw [read_mk .u8 (by simp only [IntType.width]; omega), IntType.width,
      value_take_one .little (show 4 < payload.length by omega)]
    rfl
  unfold decodeVariableInfo
  rw [size]
  dsimp only
  rw [dataType]
  dsimp only
  rw [byte_ofNat_toNat]

theorem decodeVariableInfo_ofBuffer_of_le (name payload : List UInt8)
    (fits : descriptorLength codes payload ≤ payload.length) :
    decodeVariableInfo host codes name (.ofBuffer .little payload) =
      (descriptorOf codes name payload,
        ⟨.little, payload, descriptorLength codes payload, false⟩) := by
  rw [decodeVariableInfo_ofBuffer_eq name payload
    (Nat.le_trans (five_le_descriptorLength codes payload) fits)]
  by_cases isArray : byteAt payload 4 = codes.code .array
  · rw [descriptorLength, if_pos isArray] at fits
    rw [if_pos isArray, decodeArrayInfo_mk
      (show 5 + 19 + 8 * (byteAt payload (5 + 1)).toNat ≤ payload.length from fits)]
    simp only [descriptorOf, descriptorLength, if_pos isArray]
  · simp only [descriptorOf, descriptorLength, if_neg isArray]

theorem decodeVariableInfo_ofBuffer_hasError (name payload : List UInt8)
    (short : payload.length < descriptorLength codes payload) :
    (decodeVariableInfo host codes name (.ofBuffer .little payload)).2.hasError = true := by
  by_cases five : 5 ≤ payload.length
  · rw [decodeVariableInfo_ofBuffer_eq name payload five]
    by_cases isArray : byteAt payload 4 = codes.code .array
    · rw [descriptorLength, if_pos isArray] at short
      rw [if_pos isArray]
      dsimp only
      exact @decodeArrayInfo_hasError_of_short host (ofLE (payload.take 4)) .little payload 5
        (show payload.length < 5 + 19 + 8 * (byteAt payload (5 + 1)).toNat from short)
    · rw [descriptorLength, if_neg isArray] at short
      omega
  · have cannot : CannotRead (read host .u8 (read host .u32 (.ofBuffer .little payload)).2).2 0 :=
      CannotRead.read (CannotRead.read (.inr (by
        simp only [IntType.width, FixedBufferDeserializer.ofBuffer]; omega)))
    unfold decodeVariableInfo
    dsimp only
    split
    · rw [decodeArrayInfo_of_hasError _ cannot.hasError]
      exact cannot.hasError
    · exact cannot.hasError

/-- On every Get_Attribute_All payload, `get_variable_info` returns the
descriptor the payload's layout describes when the payload is at least as
long as that layout, ignoring the opaque bytes and any bytes after it, and
throws otherwise. -/
theorem getVariableInfoReply_ofBuffer (name payload : List UInt8) :
    getVariableInfoReply host codes name (.ofBuffer .little payload) =
      if descriptorLength codes payload ≤ payload.length then
        .ok (descriptorOf codes name payload,
          ⟨.little, payload, descriptorLength codes payload, false⟩)
      else .error (.runtimeError "Could not decode get attribute all response for instance=0") := by
  split
  · simp [getVariableInfoReply, decodeVariableInfo_ofBuffer_of_le name payload ‹_›]
  · simp only [getVariableInfoReply]
    rw [if_pos (decodeVariableInfo_ofBuffer_hasError name payload (by omega))]

end Layout

/-! ## What a returned descriptor satisfies -/

/-- The part of the data-model invariant of `VariableInfo` that decoding
establishes: array information exactly for the `Array` type byte, with as many
start indices as dimensions and at most 255 of each. -/
def VariableInfo.Consistent (codes : DataTypeCodes) (var : VariableInfo) : Prop :=
  (var.arrayInfo.isSome ↔ var.dataType = codes.code .array) ∧
    ∀ arr ∈ var.arrayInfo, arr.dimensions.length = arr.startIndices.length ∧
      arr.dimensions.length ≤ 255

/-- The dimensions and start indices of an array are below `2^32`, as
`read<uint32_t>` yields them. -/
def VariableInfo.Bounded (var : VariableInfo) : Prop :=
  ∀ arr ∈ var.arrayInfo, ∀ n ∈ arr.dimensions ++ arr.startIndices, n < 2 ^ 32

section Shape

variable (host : Endian) (codes : DataTypeCodes)

theorem decodeDimensions_lengths (numDimensions : Nat) (d : FixedBufferDeserializer) :
    (decodeDimensions host numDimensions d).1.1.length = numDimensions ∧
      (decodeDimensions host numDimensions d).1.2.length = numDimensions :=
  ⟨length_readUInt32s _ _, length_readUInt32s _ _⟩

/-- Both lists of an array have the length of the one byte `num_dimensions`,
and hold values below `2^32`. -/
theorem decodeArrayInfo_shape (elementSize : Nat) (d : FixedBufferDeserializer) :
    (decodeArrayInfo host elementSize d).1.dimensions.length =
        (decodeArrayInfo host elementSize d).1.startIndices.length ∧
      (decodeArrayInfo host elementSize d).1.dimensions.length ≤ 255 ∧
      ∀ n ∈ (decodeArrayInfo host elementSize d).1.dimensions ++
        (decodeArrayInfo host elementSize d).1.startIndices, n < 2 ^ 32 := by
  obtain ⟨dimensions, startIndices⟩ := decodeDimensions_lengths host
    (read host .u8 (read host .u8 d).2).1 (read host .u8 (read host .u8 d).2).2
  have byte : (read host .u8 (read host .u8 d).2).1 < 256 ^ IntType.u8.width := read_lt _ _
  simp only [IntType.width] at byte
  unfold decodeArrayInfo
  dsimp only
  rw [dimensions, startIndices]
  refine ⟨rfl, by omega, fun n mem => ?_⟩
  unfold decodeDimensions at mem
  rcases List.mem_append.1 mem with dimension | start
  · exact lt_of_mem_readUInt32s _ _ n dimension
  · exact lt_of_mem_readUInt32s _ _ n start

theorem decodeVariableInfo_consistent (name : List UInt8) (d : FixedBufferDeserializer) :
    (decodeVariableInfo host codes name d).1.Consistent codes ∧
      (decodeVariableInfo host codes name d).1.Bounded := by
  unfold decodeVariableInfo
  split
  next size afterSize _ =>
    split
    next dataType afterType _ =>
      split
      next isArray =>
        have shape := decodeArrayInfo_shape host size afterType
        split
        next arr _ decoded =>
          rw [decoded] at shape
          exact ⟨⟨by simpa using isArray, fun a mem => by cases mem; exact ⟨shape.1, shape.2.1⟩⟩,
            fun a mem => by cases mem; exact shape.2.2⟩
      next notArray =>
        exact ⟨⟨by simpa using notArray, fun a mem => by cases mem⟩, fun a mem => by cases mem⟩

theorem getVariableInfoReply_consistent {name : List UInt8} {d d' : FixedBufferDeserializer}
    {var : VariableInfo} (returned : getVariableInfoReply host codes name d = .ok (var, d')) :
    var.Consistent codes ∧ var.Bounded := by
  have consistent := decodeVariableInfo_consistent host codes name d
  unfold getVariableInfoReply at returned
  split at returned
  next decoded =>
    rw [decoded] at consistent
    split at returned
    · cases returned
    · cases returned
      exact consistent

theorem getVariableInfo_consistent {requester : Requester} {rc rc' : RequestContext}
    {name : List UInt8} {var : VariableInfo}
    (returned : Requester.getVariableInfo host codes requester rc name = .ok (var, rc')) :
    var.Consistent codes ∧ var.Bounded := by
  obtain ⟨path, -, afterPath⟩ := exists_of_bind_eq_ok returned
  obtain ⟨serializer, -, afterEncode⟩ := exists_of_bind_eq_ok afterPath
  obtain ⟨sent, -, afterRequest⟩ := exists_of_bind_eq_ok afterEncode
  obtain ⟨⟨decoded, d⟩, replied, packed⟩ := exists_of_bind_eq_ok afterRequest
  cases packed
  exact getVariableInfoReply_consistent host codes replied

/-- `get_variable_info` keeps the invariant: whatever it returns has array
information exactly for the `Array` type byte, with as many start indices as
dimensions and at most 255 of each.  No lower bound holds: an `Array`
descriptor announcing no dimensions, in a payload of at least 24 bytes, is
returned as an array without dimensions, of size 2 for `Bool` elements and of
the element size otherwise. -/
theorem getVariableInfo_arrayInfo (name : List UInt8) :
    (∀ controller rc, match getVariableInfo host codes controller rc name with
      | .ok (var, _) => var.Consistent codes
      | .error _ => True) ∧
    ∀ payload : List UInt8, byteAt payload 4 = codes.code .array → byteAt payload 6 = 0 →
      24 ≤ payload.length →
      getVariableInfoReply host codes name (.ofBuffer .little payload) =
        .ok ({ name, dataType := byteAt payload 4,
               size := if byteAt payload 5 = codes.code .bool then 2 else ofLE (payload.take 4),
               arrayInfo := some ⟨byteAt payload 5, ofLE (payload.take 4), [], []⟩ },
             ⟨.little, payload, 24, false⟩) := by
  refine ⟨fun controller rc => ?_, fun payload isArray noDimensions long => ?_⟩
  · split
    next returned => exact (getVariableInfo_consistent host codes returned).1
    next => trivial
  · have fits : descriptorLength codes payload ≤ payload.length := by
      simp only [descriptorLength, if_pos isArray, noDimensions]
      exact long
    have sizeLt : ofLE (payload.take 4) < sizeModulus :=
      calc ofLE (payload.take 4) < 256 ^ (payload.take 4).length := ofLE_lt _
        _ ≤ 256 ^ 4 := Nat.pow_le_pow_right (by decide) (List.length_take_le 4 payload)
        _ < sizeModulus := by decide
    unfold getVariableInfoReply
    rw [decodeVariableInfo_ofBuffer_of_le name payload fits]
    simp only [descriptorOf, descriptorLength, if_pos isArray, noDimensions]
    by_cases bool : byteAt payload 5 = codes.code .bool
    · simp [getArraySize, bool, uint32sAt]
    · simp [getArraySize, bool, uint32sAt, Nat.mod_eq_of_lt sizeLt]

/-- A controller that answers the name `A` with a 24-byte `Array` descriptor of
`Bool` elements announcing no dimensions gets it back from
`get_variable_info` as an array without dimensions, of size 2. -/
theorem getVariableInfo_zeroDimensions :
    (getVariableInfo .little .declarationOrder
        (fun _ _ => .ok ([1, 0, 0, 0, 24, 5, 0] ++ List.replicate 17 0))
        ⟨.ofBuffer .little (List.replicate 16 0) (by decide), .ofBuffer .little [], []⟩
        [0x41]).map Prod.fst =
      .ok ⟨[0x41], 24, 2, some ⟨5, 1, [], []⟩⟩ :=
  rfl

/-- A `DINT` array announcing no dimensions decodes to its element size. -/
theorem getVariableInfo_arrayInfo_dint :
    let payload : List UInt8 := [4, 0, 0, 0, 24, 8, 0] ++ List.replicate 17 0
    byteAt payload 4 = DataTypeCodes.declarationOrder.code .array ∧ byteAt payload 6 = 0 ∧
      24 ≤ payload.length ∧
      getVariableInfoReply .big .declarationOrder [0x42] (.ofBuffer .little payload) =
        .ok ({ name := [0x42], dataType := byteAt payload 4,
               size := if byteAt payload 5 = DataTypeCodes.declarationOrder.code .bool then 2
                 else ofLE (payload.take 4),
               arrayInfo := some ⟨byteAt payload 5, ofLE (payload.take 4), [], []⟩ },
             ⟨.little, payload, 24, false⟩) :=
  ⟨by decide, by decide, by decide,
    (getVariableInfo_arrayInfo .big .declarationOrder [0x42]).2 _
      (by decide) (by decide) (by decide)⟩

/-- A `DINT` array of four dimensions of 65536 elements: the running product of
`get_array_size` reaches `2^64` and wraps to `0`, so `get_variable_info` stores
the size `0` for an array of `2^66` bytes. -/
theorem getVariableInfo_sizeWraps :
    (getVariableInfo .little .declarationOrder
        (fun _ _ => .ok ([4, 0, 0, 0, 24, 8, 4, 0] ++
          [0, 0, 1, 0, 0, 0, 1, 0, 0, 0, 1, 0, 0, 0, 1, 0] ++ List.replicate 32 0))
        ⟨.ofBuffer .little (List.replicate 16 0) (by decide), .ofBuffer .little [], []⟩
        [0x41]).map Prod.fst =
      .ok ⟨[0x41], 24, 0, some ⟨8, 4, [65536, 65536, 65536, 65536], [0, 0, 0, 0]⟩⟩ ∧
    [65536, 65536, 65536, 65536].prod * 4 = 2 ^ 66 :=
  ⟨rfl, by decide⟩

end Shape

end OmronDiscovery
