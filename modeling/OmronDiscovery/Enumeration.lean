import OmronDiscovery.InstanceData
import OmronDiscovery.RoundTrip
import OmronDiscovery.VariableInfo

/-!
# `get_variables_fast`

`get_variables_fast(rc)` asks for the number of variables, collects names in
two passes, one per `TagType`, each a `while (true)` loop over pages of
instances requested from a cursor `next_instance_id`, and then resolves the
first `num` names with `get_variable_info`.

* `Requester.getNumVariables`, `encodeOmronGetAllInstances`,
  `Requester.instancePass` (one pass), `Requester.resolveVariables` (the last
  loop) and `Requester.getVariablesFast`, over any `rc.request()`;
* `Requester.getVariableName`, `Requester.readVariables` and
  `Requester.getVariables`, the enumeration by instance id that the source
  keeps but no longer calls;
* `getNumVariables`, `getVariables` and `getVariablesFast`, their runs against
  a `Controller`;
* `encodeOmronGetAllInstances_ok`, `encodeGetAttributeAll_ok` and
  `variableRequestPath_eq`: the requests' bytes on either host;
* `encodeOmronGetAllInstances_eq`: from any state of the serializer the
  request throws exactly on a send buffer shorter than 18 bytes, and otherwise
  holds only its own 18 bytes;
* `variableRequestPath_even`: a name's path is padded to an even length, so its
  length in words counts every byte.
-/

namespace OmronDiscovery

/-- `TagType`, a `uint16_t` enumeration. -/
inductive TagType
  | system
  | user
  deriving DecidableEq, Repr

/-- The value of each `TagType` enumerator. -/
def TagType.value : TagType → Nat
  | system => 1
  | user => 2

namespace Requester

variable (host : Endian) (codes : DataTypeCodes) (requester : Requester)

open FixedBufferSerializer

/-- `get_num_variables(rc)`: Get_Attribute_All for instance `0` of class
`0x6a`, then the count after two bytes of the reply. -/
def getNumVariables (rc : RequestContext) : Except Fault (Nat × RequestContext) := do
  let serializer ← encodeGetAttributeAll host rc.serializer (addressRequestPath host 0x6a 0)
  let rc ← requester { rc with serializer }
  let (_, d) := rc.deserializer.advance 2
  let (num, d) := read host .u16 d
  if d.hasError then
    .error (.runtimeError "Could not decode get attribute all response for instance=0")
  else .ok (num, { rc with deserializer := d })

/-- `get_variable_name(rc, instance_id)`, which `list_signals` no longer calls:
Get_Attribute_All for the instance, then the name after four bytes. -/
def getVariableName (rc : RequestContext) (instanceId : Nat) :
    Except Fault (List UInt8 × RequestContext) := do
  let serializer ← encodeGetAttributeAll host rc.serializer (addressRequestPath host 0x6a instanceId)
  let rc ← requester { rc with serializer }
  let (_, d) := rc.deserializer.advance 4
  let (nameLen, d) := read host .u8 d
  let (name, d) := readString d nameLen
  if d.hasError then
    .error (.runtimeError
      ("Could not decode get attribute all response for instance=" ++ toString instanceId))
  else .ok (name, { rc with deserializer := d })

end Requester

open FixedBufferSerializer in
/-- `encode_omron_get_all_instances(ser, next_instance_id, tag_type)`. -/
def encodeOmronGetAllInstances (host : Endian) (s : FixedBufferSerializer) (nextInstanceId : Nat)
    (tagType : TagType) : Except Fault FixedBufferSerializer :=
  let s := s.reset
  let requestPath := addressRequestPath host 0x6a 0
  let s := (serialize host s (.bytes [0x5F])).2
  let s := (serialize host s (.integral .u8 (requestPath.length / 2 % 256))).2
  let s := (serialize host s (.bytes requestPath)).2
  let s := (serialize host s (.integral .u32 nextInstanceId)).2
  let s := (serialize host s (.bytes [0x20, 0x00, 0x00, 0x00])).2
  let s := (serialize host s (.integral .u16 tagType.value)).2
  if s.hasError then .error (.runtimeError "Could not encode omron attribute instances request")
  else .ok s

namespace Requester

variable (host : Endian) (codes : DataTypeCodes) (requester : Requester)

/-- The `while (true)` loop of one pass of `get_variables_fast`, run for at
most `fuel` iterations: request the page from `next_instance_id`, read
`num_instances` and skip two bytes, stop on an empty page, and otherwise
decode its records. -/
def instancePass (tagType : TagType) :
    Nat → RequestContext → List (List UInt8) → Nat →
      Except Fault (List (List UInt8) × RequestContext)
  | 0, _, _, _ => .error .outOfFuel
  | fuel + 1, rc, names, nextInstanceId => do
      let serializer ← encodeOmronGetAllInstances host rc.serializer nextInstanceId tagType
      let rc ← requester { rc with serializer }
      let (numInstances, d) := read host .u16 rc.deserializer
      let (_, d) := d.advance 2
      if numInstances = 0 then .ok (names, { rc with deserializer := d })
      else
        let (names, nextInstanceId, d) ← decodeRecords host names nextInstanceId d 0 numInstances
        instancePass tagType fuel { rc with deserializer := d } names nextInstanceId

/-- The last loop of `get_variables_fast`: `get_variable_info(rc, names[i])`
for the `count` indices from `i` on.  An index past the end of `names` is
undefined behaviour, where the model stops. -/
def resolveVariables (names : List (List UInt8)) :
    Nat → Nat → RequestContext → Except Fault (List VariableInfo × RequestContext)
  | 0, _, rc => .ok ([], rc)
  | count + 1, i, rc =>
      if inside : i < names.length then do
        let (var, rc) ← Requester.getVariableInfo host codes requester rc names[i]
        let (vars, rc) ← resolveVariables names count (i + 1) rc
        pure (var :: vars, rc)
      else .error (.outOfRange i names.length)

/-- The loop of `get_variables` over the `count` indices from `i` on: the name
of instance `i + 1`, passed as a `uint16_t`, then its variable. -/
def readVariables : Nat → Nat → RequestContext → Except Fault (List VariableInfo × RequestContext)
  | 0, _, rc => .ok ([], rc)
  | count + 1, i, rc => do
      let (name, rc) ← getVariableName host requester rc ((i + 1) % 2 ^ 16)
      let (var, rc) ← Requester.getVariableInfo host codes requester rc name
      let (vars, rc) ← readVariables count (i + 1) rc
      pure (var :: vars, rc)

/-- `get_variables(rc)`, which `list_signals` no longer calls: a name and a
variable per instance from `1` to the announced count. -/
def getVariables (rc : RequestContext) : Except Fault (List VariableInfo × RequestContext) := do
  let (num, rc) ← getNumVariables host requester rc
  readVariables host codes requester num 0 rc

/-- `get_variables_fast(rc)`, each pass's loop run for at most `fuel`
iterations.  The warning when more names than variables were read goes to the
logger, which is not modelled. -/
def getVariablesFast (fuel : Nat) (rc : RequestContext) :
    Except Fault (List VariableInfo × RequestContext) := do
  let (num, rc) ← getNumVariables host requester rc
  let (names, rc) ← instancePass host requester .system fuel rc [] 1
  let (names, rc) ← instancePass host requester .user fuel rc names 1
  resolveVariables host codes requester names num 0 rc

end Requester

section Controller

variable (host : Endian) (codes : DataTypeCodes) (controller : Controller)

/-- `get_num_variables(rc)` against `controller`. -/
def getNumVariables (rc : RequestContext) : Except Fault (Nat × RequestContext) :=
  Requester.getNumVariables host (RequestContext.request controller) rc

/-- `get_variables(rc)` against `controller`. -/
def getVariables (rc : RequestContext) : Except Fault (List VariableInfo × RequestContext) :=
  Requester.getVariables host codes (RequestContext.request controller) rc

/-- `get_variables_fast(rc)` against `controller`. -/
def getVariablesFast (fuel : Nat) (rc : RequestContext) :
    Except Fault (List VariableInfo × RequestContext) :=
  Requester.getVariablesFast host codes (RequestContext.request controller) fuel rc

end Controller

/-! ## The request -/

/-- The bytes of a Get_All_Instances request from `nextInstanceId` for
`tagType`, integers in the byte order `order`: the service `0x5F`, the path's
three words, the path to class `0x6a`, instance `0`, the cursor, four fixed
bytes and the tag type. -/
def getAllInstancesRequest (order : Endian) (nextInstanceId : Nat) (tagType : TagType) :
    List UInt8 :=
  [0x5F, 0x03, 0x20, 0x6a, 0x25, 0x00, 0x00, 0x00] ++ order.bytes 4 nextInstanceId ++
    [0x20, 0x00, 0x00, 0x00] ++ order.bytes 2 tagType.value

open FixedBufferSerializer in
/-- The arguments `encode_omron_get_all_instances` serializes, in order. -/
def getAllInstancesArgs (host : Endian) (nextInstanceId : Nat) (tagType : TagType) :
    List SerializeArg :=
  [.bytes [0x5F], .integral .u8 ((addressRequestPath host 0x6a 0).length / 2 % 256),
    .bytes (addressRequestPath host 0x6a 0), .integral .u32 nextInstanceId,
    .bytes [0x20, 0x00, 0x00, 0x00], .integral .u16 tagType.value]

open FixedBufferSerializer in
/-- `encode_omron_get_all_instances` is six unchecked `serialize` calls after
`reset()`, then the check of the error flag. -/
theorem encodeOmronGetAllInstances_serializeEach (host : Endian) (s : FixedBufferSerializer)
    (nextInstanceId : Nat) (tagType : TagType) :
    encodeOmronGetAllInstances host s nextInstanceId tagType =
      if (serializeEach host s.reset (getAllInstancesArgs host nextInstanceId tagType)).hasError then
        .error (.runtimeError "Could not encode omron attribute instances request")
      else .ok (serializeEach host s.reset (getAllInstancesArgs host nextInstanceId tagType)) := by
  simp only [encodeOmronGetAllInstances, getAllInstancesArgs, ← serializeEach_singleton,
    ← serializeEach_append, List.cons_append, List.singleton_append, List.nil_append]

open FixedBufferSerializer in
/-- On a send buffer of at least 18 bytes, `encode_omron_get_all_instances`
succeeds on either host, whatever the serializer's state, and the request is
the 18 bytes of `getAllInstancesRequest`. -/
theorem encodeOmronGetAllInstances_ok (host : Endian) (s : FixedBufferSerializer)
    (nextInstanceId : Nat) (tagType : TagType) (room : 18 ≤ s.buffer.length) :
    ∃ s', encodeOmronGetAllInstances host s nextInstanceId tagType = .ok s' ∧
      s'.endianess = s.endianess ∧ s'.buffer.length = s.buffer.length ∧
      s'.serializedBuffer = getAllInstancesRequest s.endianess nextInstanceId tagType := by
  have path := addressRequestPath_eq host 0x6a 0 (by decide) (by decide)
  obtain ⟨clear, order, length, written⟩ :=
    @serializeEach_of_fits host (getAllInstancesArgs host nextInstanceId tagType) s.reset rfl
      (by simp [getAllInstancesArgs, path, reset, SerializeArg.encode, IntType.width]; omega)
  refine ⟨_, by rw [encodeOmronGetAllInstances_serializeEach, if_neg (by simp [clear])], order,
    length, ?_⟩
  rw [written, show s.reset.serializedBuffer = [] from rfl,
    show s.reset.endianess = s.endianess from rfl]
  cases s.endianess <;> simp [getAllInstancesArgs, path, SerializeArg.encode,
    getAllInstancesRequest, Endian.bytes, IntType.width]

open FixedBufferSerializer in
/-- From any state of the serializer, whatever its cursor and error flag,
`encode_omron_get_all_instances` throws exactly when the send buffer is shorter
than 18 bytes, and otherwise leaves the serializer without error holding only
the 18 bytes of the request: the cursor and the tag type in the serializer's
byte order, little-endian for the send buffer. -/
theorem encodeOmronGetAllInstances_eq (host : Endian) (s : FixedBufferSerializer)
    (nextInstanceId : Nat) (tagType : TagType) :
    (s.buffer.length < 18 →
      encodeOmronGetAllInstances host s nextInstanceId tagType =
        .error (.runtimeError "Could not encode omron attribute instances request")) ∧
    (18 ≤ s.buffer.length →
      ∃ s', encodeOmronGetAllInstances host s nextInstanceId tagType = .ok s' ∧
        s'.hasError = false ∧
        s'.serializedBuffer = [0x5F, 0x03, 0x20, 0x6A, 0x25, 0x00, 0x00, 0x00] ++
          s.endianess.bytes 4 nextInstanceId ++ [0x20, 0x00, 0x00, 0x00] ++
          s.endianess.bytes 2 tagType.value) := by
  have path := addressRequestPath_eq host 0x6a 0 (by decide) (by decide)
  refine ⟨fun short => ?_, fun room => ?_⟩
  · have capacity : 6 < sizeModulus - s.buffer.length := by unfold sizeModulus; omega
    rw [encodeOmronGetAllInstances_serializeEach]
    refine if_pos (serializeEach_hasError_of_lt (Nat.zero_le _) ?_ ?_) <;>
      simp [getAllInstancesArgs, path, reset, IntType.width] <;> omega
  · obtain ⟨s', encoded, -, -, written⟩ := encodeOmronGetAllInstances_ok host s nextInstanceId
      tagType room
    refine ⟨s', encoded, ?_, written⟩
    rw [encodeOmronGetAllInstances_serializeEach] at encoded
    split at encoded
    next => cases encoded
    next clear =>
      cases encoded
      simpa using clear

/-- From a fresh little-endian send buffer of 18 bytes, the request for the
User instances from `6` carries `6` and `2` little-endian. -/
theorem encodeOmronGetAllInstances_eq_six :
    ∃ s', encodeOmronGetAllInstances .big
        (.ofBuffer .little (List.replicate 18 0) (by decide)) 6 .user = .ok s' ∧
      s'.hasError = false ∧
      s'.serializedBuffer = [0x5F, 0x03, 0x20, 0x6A, 0x25, 0x00, 0x00, 0x00, 6, 0, 0, 0,
        0x20, 0x00, 0x00, 0x00, 2, 0] :=
  (encodeOmronGetAllInstances_eq .big _ 6 .user).2 (by decide)

open FixedBufferSerializer in
/-- On a send buffer with room for the header and the path,
`encode_get_attribute_all` succeeds on either host, whatever the serializer's
state, and the request is the service `0x01`, the path's length in words and
the path. -/
theorem encodeGetAttributeAll_ok (host : Endian) (s : FixedBufferSerializer)
    (requestPath : List UInt8) (room : 2 + requestPath.length ≤ s.buffer.length) :
    ∃ s', encodeGetAttributeAll host s requestPath = .ok s' ∧
      s'.endianess = s.endianess ∧ s'.buffer.length = s.buffer.length ∧
      s'.serializedBuffer = [0x01, UInt8.ofNat (requestPath.length / 2 % 256)] ++ requestPath := by
  let args : List SerializeArg :=
    [.bytes [0x01], .integral .u8 (requestPath.length / 2 % 256), .bytes requestPath]
  have unfolded : encodeGetAttributeAll host s requestPath =
      if (serializeEach host s.reset args).hasError then
        .error (.runtimeError "Could not encode get attribute all request")
      else .ok (serializeEach host s.reset args) :=
    rfl
  obtain ⟨clear, order, length, written⟩ := @serializeEach_of_fits host args s.reset rfl
    (by simp [args, reset, SerializeArg.encode, IntType.width]; omega)
  refine ⟨_, by rw [unfolded, if_neg (by simp [clear])], order, length, ?_⟩
  rw [written, show s.reset.serializedBuffer = [] from rfl,
    show s.reset.endianess = s.endianess from rfl]
  cases s.endianess <;> simp [args, SerializeArg.encode, Endian.bytes, IntType.width]

open FixedBufferSerializer in
/-- The symbolic path of a name of fewer than 256 bytes, on either host: the
segment `0x91`, the name's length, the name, and a zero byte when the length
is odd. -/
theorem variableRequestPath_eq (host : Endian) (name : List UInt8) (short : name.length < 256) :
    variableRequestPath host name =
      .ok ([0x91, UInt8.ofNat name.length] ++ name ++ List.replicate (name.length % 2) 0) := by
  let s := ofBuffer .little (List.replicate (2 + (name.length + name.length % 2)) 0)
    (by simp only [List.length_replicate, sizeModulus]; omega)
  let args : List SerializeArg := [.bytes [0x91], .integral .u8 (name.length % 256), .bytes name] ++
    if name.length % 2 ≠ 0 then [.bytes [0x00]] else []
  have unfolded : variableRequestPath host name =
      if (serializeEach host s args).hasError then .error (.assertionFailed "!s.has_error()")
      else .ok (serializeEach host s args).buffer := by
    rw [variableRequestPath, dif_pos short]
    simp only [args, ← serializeEach_singleton, ← serializeEach_append, List.cons_append,
      List.singleton_append, List.nil_append]
    by_cases odd : name.length % 2 ≠ 0
    · simp only [if_pos odd]
    · simp only [if_neg odd]
  obtain ⟨clear, -, length, written⟩ := @serializeEach_of_fits host args s rfl
    (by by_cases odd : name.length % 2 ≠ 0 <;>
          simp [args, s, odd, ofBuffer, SerializeArg.encode, IntType.width] <;> omega)
  have bytes : (serializeEach host s args).serializedBuffer =
      [0x91, UInt8.ofNat name.length] ++ name ++ List.replicate (name.length % 2) 0 := by
    rw [written]
    rcases Nat.mod_two_eq_zero_or_one name.length with parity | parity <;>
      simp [args, parity, s, ofBuffer, SerializeArg.encode, Endian.bytes, IntType.width,
        serializedBuffer, Nat.mod_eq_of_lt short]
  have whole :
      (serializeEach host s args).buffer = (serializeEach host s args).serializedBuffer := by
    have same := congrArg List.length bytes
    simp only [serializedBuffer, List.length_take, List.length_append, List.length_cons,
      List.length_nil, List.length_replicate] at same length
    have bufferLength :
        (serializeEach host s args).buffer.length = 2 + name.length + name.length % 2 := by
      rw [length]
      exact (List.length_replicate ..).trans (by omega)
    rw [bufferLength] at same
    rw [serializedBuffer,
      List.take_of_length_le (by rw [bufferLength]; exact min_eq_right_iff.1 (by omega))]
  rw [unfolded, if_neg (by simp [clear]), whole, bytes]

/-- For every name of at most 255 bytes, the path is the segment `0x91`, the
name's length, the name and a zero byte when that length is odd: its length is
even, so its length in words counts every byte, and the serializer over the
exactly sized buffer never fails. -/
theorem variableRequestPath_even (host : Endian) (name : List UInt8) (short : name.length < 256) :
    let path := [0x91, UInt8.ofNat name.length] ++ name ++
      if name.length % 2 = 1 then [0x00] else []
    variableRequestPath host name = .ok path ∧ path.length = 2 + name.length + name.length % 2 ∧
      path.length % 2 = 0 ∧ 2 * (path.length / 2) = path.length := by
  intro path
  have padding : (if name.length % 2 = 1 then [(0x00 : UInt8)] else []) =
      List.replicate (name.length % 2) 0 := by
    rcases Nat.mod_two_eq_zero_or_one name.length with parity | parity <;> simp [parity]
  have pathLength : path.length = 2 + name.length + name.length % 2 := by
    simp only [path, padding, List.length_append, List.length_cons, List.length_nil,
      List.length_replicate]
  refine ⟨?_, pathLength, by omega, by omega⟩
  rw [variableRequestPath_eq host name short]
  simp only [path, padding]

/-- The three-byte name `ABC` takes one zero byte of padding. -/
theorem variableRequestPath_even_abc :
    variableRequestPath .little [0x41, 0x42, 0x43] = .ok [0x91, 3, 0x41, 0x42, 0x43, 0x00] :=
  (variableRequestPath_even .little [0x41, 0x42, 0x43] (by decide)).1

/-- A request context with a little-endian send buffer of `capacity` zero
bytes, no reply yet and no request sent. -/
def RequestContext.fresh (capacity : Nat) (capacity_lt : capacity < sizeModulus) :
    RequestContext where
  serializer := .ofBuffer .little (List.replicate capacity 0) (by simpa using capacity_lt)
  deserializer := .ofBuffer .little []
  sent := []

end OmronDiscovery
