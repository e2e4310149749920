import OmronDiscovery.InstanceData
import OmronDiscovery.VariableInfo

/-!
# `RequestContext::request` and the CIP envelope

The model of `RequestContext::request` that the enumeration runs on takes a
`Controller` answering each request with the payload of its reply.  The
program's `request()` gets the whole reply from the transport: it checks its
size against the receive buffer, decodes the CIP response with a
little-endian deserializer over the reply, throws unless the general status is
`0`, and leaves that deserializer at the payload.

* `CipResponse.decode`, modelled from the spec (`omron.h` is missing);
  `generalStatusMessage`, `extendedStatusMessage`, `extendedStatusToInt` and
  `statusMessage`, the message of a failed status;
* `receive`, the part of `request()` after `get_data`,
  `RequestContext.cipRequest`, the whole call over a `Transport`, and
  `envelopeController`, the `Controller` the model sees behind a transport;
* `receive_eq`: what `request()` makes of every reply, and `receive_reply`: a
  reply laid out as the spec describes gives back its response, with the
  deserializer at its payload;
* `FixedBufferDeserializer.after`: the program's deserializer, over the whole
  reply, is the model's over the payload with the envelope before it; every
  decoder of a reply commutes with it (`getVariableInfoReply_after`);
* `cipRequest_shifted`: one request of the program against the model's over
  `envelopeController`: the same fault, or contexts that differ only by the
  envelope before the model's deserializer.
-/

namespace OmronDiscovery

/-- `CipResponse` of `omron.h`. -/
structure CipResponse where
  replyService : Nat
  generalStatus : Nat
  extendedStatus : List UInt8
  deriving DecidableEq, Repr

section Envelope

variable (host : Endian)

/-- Modelled from the spec: `CipResponse::decode(des)` of `omron.h`, which is
not among the sources.  It reads `reply_service`, a reserved byte,
`general_status`, the number of words of extended status and those words as
raw bytes, and succeeds when the deserializer has not failed. -/
def CipResponse.decode (d : FixedBufferDeserializer) :
    Bool × CipResponse × FixedBufferDeserializer :=
  let (replyService, d) := read host .u8 d
  let (_, d) := d.advance 1
  let (generalStatus, d) := read host .u8 d
  let (extStatusSize, d) := read host .u8 d
  let (extendedStatus, d) := readString d (2 * extStatusSize)
  (!d.hasError, { replyService, generalStatus, extendedStatus }, d)

/-- `general_status_message(status)`. -/
def generalStatusMessage : Nat → String
  | 0x00 => "Success"
  | 0x01 => "Connection Failure"
  | 0x02 => "Resource Unavailable"
  | 0x03 => "Invalid Parameter Value"
  | 0x04 => "Path Segment Error"
  | 0x05 => "Path Destination Error"
  | 0x07 => "Connection Lost"
  | 0x09 => "Invalid Attribute Value"
  | 0x0C => "Object State Conflict"
  | 0x11 => "Reply Data Too Large"
  | 0x13 => "Not Enough Data"
  | 0x15 => "Too Much Data"
  | 0x1F => "Vendor Specific Error"
  | 0x20 => "Invalid Parameter"
  | _ => ""

/-- The table of `extended_status_message`. -/
def extendedStatusTable : Nat → String
  | 0x8010 => "Downloading, starting up"
  | 0x8011 => "Tag memory error"
  | 0x0102 => "The read target is a variable I/O that cannot be read."
  | 0x2104 => "The read target is a variable I/O that cannot be read."
  | 0x0104 => "An address or size that exceeds the segment area is specified."
  | 0x1103 => "An address or size that exceeds the segment area is specified."
  | 0x8001 => "Internal Abnormality"
  | 0x8007 => "An inaccessible variable was specified"
  | 0x8029 => "An area that cannot be accessed in bulk was specified in SimpleDataSegment."
  | 0x8031 => "Internal error (memory allocation error)"
  | 0x8009 => "Segment Type Abnormal"
  | 0x800F => "Data length information in the request data is inconsistent"
  | 0x8017 => "Requesting more than one element for a single data item"
  | 0x8018 => "Requesting 0 elements or exceeding the range of array data"
  | 0x8021 => "A value other than 0 or 2 was specified in the AddInfo area."
  | 0x8022 => "The Data Type of the Request Service Data does not match the type of TAG " ++
      "information. The AddInfo Length of the Request Service Data is not 0."
  | 0x8023 => "Internal error (invalid command format)"
  | 0x8024 => "Internal error (invalid command length)"
  | 0x8025 => "Internal error (invalid parameter)"
  | 0x8027 => "Internal error (parameter error)"
  | 0x8028 => "A value outside the range was written to a variable with a subrange " ++
      "specified. An undefined value was written to an Enum type variable."
  | _ => ""

/-- `extended_status_message(ext_status)`: two bytes copied into a `uint16_t`,
so read in the host's byte order, looked up in the table. -/
def extendedStatusMessage (extStatus : List UInt8) : String :=
  if extStatus.length ≠ 2 then "" else extendedStatusTable (host.value extStatus)

/-- `extended_status_to_int(data)`: `read_int<T>` copies the bytes into an
unsigned integer of their width, in the host's byte order. -/
def extendedStatusToInt (data : List UInt8) : Option Nat :=
  if data.length = 1 then some (host.value data)
  else if data.length = 2 then some (host.value data)
  else if data.length = 4 then some (host.value data)
  else if data.length = 8 then some (host.value data)
  else none

/-- `fmt::format("{:#x}", n)`. -/
def hexPrefixed (n : Nat) : String :=
  "0x" ++ String.mk (Nat.toDigits 16 n)

variable (showExtended : Option Nat → String)

/-- The message `request()` throws on a non-zero general status.
`showExtended` is `fmt`'s rendering of the `std::optional<uint64_t>` from
`extended_status_to_int` under `{:#x}`, which the sources do not fix. -/
def statusMessage (cipResponse : CipResponse) : String :=
  let genMessage := generalStatusMessage cipResponse.generalStatus
  let extMessage := extendedStatusMessage host cipResponse.extendedStatus
  let extStatus := extendedStatusToInt host cipResponse.extendedStatus
  let message :=
    "Received error status in CIP response: " ++ hexPrefixed cipResponse.generalStatus
  let message :=
    if cipResponse.extendedStatus = [] then message
    else message ++ ", extended: " ++ showExtended extStatus
  if genMessage = "" ∧ extMessage = "" then message
  else
    let message := message ++ " - "
    let message := if genMessage = "" then message else message ++ genMessage
    if extMessage = "" then message else message ++ ", " ++ extMessage

/-- A general status the table does not name, with an extended status it does:
the separator is still appended, leaving an empty general message between
` - ` and `, `. -/
example : statusMessage .little (fun _ => "0x8007") ⟨0xCC, 0x06, [0x07, 0x80]⟩ =
    "Received error status in CIP response: 0x6, extended: 0x8007 - , " ++
      "An inaccessible variable was specified" := by
  decide

variable (capacity : Nat) (toHex : List UInt8 → String)

/-- The part of `RequestContext::request()` after `tag.get_data`, for a receive
buffer of `capacity` bytes: the size check, the CIP response decoded by a
little-endian deserializer over the whole reply, and the status check.  On
success the deserializer is left at the payload.  `toHex` is `to_hex` of
`string_util.h`, declared there and defined elsewhere. -/
def receive (data : List UInt8) : Except String (CipResponse × FixedBufferDeserializer) :=
  if data.length > capacity then
    .error ("Receive buffer too small. " ++ toString data.length ++ " bytes needed")
  else
    let (ok, cipResponse, d) := CipResponse.decode host (.ofBuffer .little data)
    if !ok then .error ("Could not decode CIP response: " ++ toHex data)
    else if cipResponse.generalStatus ≠ 0 then
      .error (statusMessage host showExtended cipResponse)
    else .ok (cipResponse, d)

/-- The transport of a request context: `tag.send(request)`, then
`tag.get_data(recv_buffer)`, which yields the reply's bytes, their number being
the size it returns, or fails with its message.  It sees the requests sent
before. -/
def Transport : Type := List (List UInt8) → List UInt8 → Except String (List UInt8)

/-- `RequestContext::request()` over `transport`: send the serialized buffer and
receive the reply, leaving the deserializer over the whole reply. -/
def RequestContext.cipRequest (transport : Transport) (rc : RequestContext) :
    Except Fault (CipResponse × RequestContext) :=
  match transport rc.sent rc.serializer.serializedBuffer with
  | .error what => .error (.runtimeError what)
  | .ok data =>
      match receive host showExtended capacity toHex data with
      | .error what => .error (.runtimeError what)
      | .ok (cipResponse, d) =>
          .ok (cipResponse,
            { rc with deserializer := d, sent := rc.sent ++ [rc.serializer.serializedBuffer] })

/-- The controller the enumeration's model sees behind `transport`: each reply
received as `request()` receives it, and its payload handed on. -/
def envelopeController (transport : Transport) : Controller :=
  fun sent request => do
    let data ← transport sent request
    let (_, d) ← receive host showExtended capacity toHex data
    pure d.remainingBuffer

end Envelope

/-! ## Decoding the envelope -/

section Decode

variable {host : Endian}

/-- The bytes of the CIP response at the start of `data`: the number of its
bytes, four and the extended status. -/
def envelopeLength (data : List UInt8) : Nat :=
  4 + 2 * (byteAt data 3).toNat

/-- The CIP response at the start of `data`: the service, the general status
and the extended status. -/
def CipResponse.ofReply (data : List UInt8) : CipResponse :=
  ⟨(byteAt data 0).toNat, (byteAt data 2).toNat, (data.drop 4).take (2 * (byteAt data 3).toNat)⟩

/-- A reply holding its CIP response decodes to it, and the deserializer stops
at the payload. -/
theorem CipResponse.decode_of_le {data : List UInt8} (fits : envelopeLength data ≤ data.length) :
    CipResponse.decode host (.ofBuffer .little data) =
      (true, CipResponse.ofReply data, ⟨.little, data, envelopeLength data, false⟩) := by
  unfold envelopeLength byteAt at fits
  unfold envelopeLength CipResponse.ofReply byteAt
  simp (disch := ((try simp only [IntType.width]); omega)) only [CipResponse.decode,
    FixedBufferDeserializer.ofBuffer, read_mk, advance_mk, readString_mk, IntType.width,
    value_take_one, Nat.add_assoc, Nat.reduceAdd, Nat.zero_add, Bool.not_false]

/-- A reply shorter than its CIP response fails to decode. -/
theorem CipResponse.decode_of_lt {data : List UInt8} (short : data.length < envelopeLength data) :
    (CipResponse.decode host (.ofBuffer .little data)).1 = false := by
  by_cases header : 4 ≤ data.length
  · unfold envelopeLength byteAt at short
    simp (disch := ((try simp only [IntType.width]); omega)) only [CipResponse.decode,
      FixedBufferDeserializer.ofBuffer, read_mk, advance_mk, IntType.width, value_take_one,
      Nat.add_assoc, Nat.reduceAdd, Nat.zero_add]
    have cannot : CannotRead ⟨.little, data, 4, false⟩ (2 * (data.getD 3 0).toNat + 0) :=
      .inr (by simp only; omega)
    have failed := cannot.readString.hasError
    simp only [failed, Bool.not_true]
  · have erred : CannotRead
        (read host .u8 (read host .u8 ((read host .u8 (.ofBuffer .little data)).2.advance 1).2).2).2 0 := by
      apply CannotRead.read
      apply CannotRead.read
      apply CannotRead.advance
      apply CannotRead.read
      exact .inr (by simp only [FixedBufferDeserializer.ofBuffer, IntType.width]; omega)
    unfold CipResponse.decode
    dsimp only
    rw [readString_of_hasError _ erred.hasError, erred.hasError]
    rfl

end Decode

/-! ## Receiving a reply -/

section Receive

variable {host : Endian} {showExtended : Option Nat → String} {capacity : Nat}
  {toHex : List UInt8 → String} {data : List UInt8}

theorem receive_of_gt (long : data.length > capacity) :
    receive host showExtended capacity toHex data =
      .error ("Receive buffer too small. " ++ toString data.length ++ " bytes needed") :=
  if_pos long

theorem receive_of_short (fits : data.length ≤ capacity) (short : data.length < envelopeLength data) :
    receive host showExtended capacity toHex data =
      .error ("Could not decode CIP response: " ++ toHex data) := by
  have failed : (CipResponse.decode host (.ofBuffer .little data)).1 = false :=
    CipResponse.decode_of_lt short
  unfold receive
  rcases decoded : CipResponse.decode host (.ofBuffer .little data) with ⟨ok, cipResponse, d⟩
  obtain rfl : ok = false := by rw [decoded] at failed; exact failed
  simp only [if_neg (Nat.not_lt.mpr fits), Bool.not_false, if_true]

theorem receive_of_le (fits : data.length ≤ capacity) (holds : envelopeLength data ≤ data.length) :
    receive host showExtended capacity toHex data =
      if (byteAt data 2).toNat ≠ 0 then .error (statusMessage host showExtended (.ofReply data))
      else .ok (.ofReply data, ⟨.little, data, envelopeLength data, false⟩) := by
  unfold receive
  rw [if_neg (Nat.not_lt.mpr fits), CipResponse.decode_of_le holds]
  rfl

/-- What `request()` makes of every reply `get_data` yields: it rejects one
larger than the receive buffer, then one shorter than its CIP response, then a
non-zero general status with the status message; otherwise it returns the
response and leaves the deserializer, over the whole reply, at the payload. -/
theorem receive_eq (data : List UInt8) :
    receive host showExtended capacity toHex data =
      if data.length > capacity then
        .error ("Receive buffer too small. " ++ toString data.length ++ " bytes needed")
      else if data.length < envelopeLength data then
        .error ("Could not decode CIP response: " ++ toHex data)
      else if (byteAt data 2).toNat ≠ 0 then
        .error (statusMessage host showExtended (.ofReply data))
      else .ok (.ofReply data, ⟨.little, data, envelopeLength data, false⟩) := by
  by_cases long : data.length > capacity
  · rw [receive_of_gt long, if_pos long]
  rw [if_neg long]
  by_cases short : data.length < envelopeLength data
  · rw [receive_of_short (Nat.not_lt.mp long) short, if_pos short]
  rw [if_neg short, receive_of_le (Nat.not_lt.mp long) (Nat.not_lt.mp short)]

end Receive

/-! ## Replies as the spec lays them out -/

/-- The reply the spec describes for `cipResponse` and `payload`: the service,
a reserved byte, the general status, the number of words of extended status,
the extended status, then the payload. -/
def CipResponse.reply (cipResponse : CipResponse) (payload : List UInt8) : List UInt8 :=
  [UInt8.ofNat cipResponse.replyService, 0, UInt8.ofNat cipResponse.generalStatus,
    UInt8.ofNat (cipResponse.extendedStatus.length / 2)] ++ cipResponse.extendedStatus ++ payload

/-- A response a reply can carry: a byte each for the service and the general
status, and whole words of extended status, at most 255 of them. -/
structure CipResponse.Encodable (cipResponse : CipResponse) : Prop where
  replyService_lt : cipResponse.replyService < 256
  generalStatus_lt : cipResponse.generalStatus < 256
  even : cipResponse.extendedStatus.length % 2 = 0
  words_lt : cipResponse.extendedStatus.length < 512

namespace CipResponse

variable {cipResponse : CipResponse} (payload : List UInt8)

theorem reply_eq_append : cipResponse.reply payload = cipResponse.reply [] ++ payload := by
  simp only [reply, List.append_nil]

@[simp]
theorem length_reply : (cipResponse.reply payload).length =
    4 + cipResponse.extendedStatus.length + payload.length := by
  simp only [reply, List.length_append, List.length_cons, List.length_nil]

theorem Encodable.two_mul_words (encodable : cipResponse.Encodable) :
    2 * (cipResponse.extendedStatus.length / 2) = cipResponse.extendedStatus.length := by
  have := encodable.even
  omega

theorem Encodable.words_lt_size (encodable : cipResponse.Encodable) :
    cipResponse.extendedStatus.length / 2 < UInt8.size := by
  have := encodable.words_lt
  simp only [UInt8.size]
  omega

theorem ofReply_reply (encodable : cipResponse.Encodable) :
    ofReply (cipResponse.reply payload) = cipResponse := by
  simp only [ofReply, reply, byteAt, List.cons_append, List.getD_cons_succ, List.getD_cons_zero,
    UInt8.toNat_ofNat_of_lt (show cipResponse.replyService < UInt8.size from encodable.1),
    UInt8.toNat_ofNat_of_lt (show cipResponse.generalStatus < UInt8.size from encodable.2),
    UInt8.toNat_ofNat_of_lt encodable.words_lt_size, encodable.two_mul_words,
    List.drop_succ_cons, List.drop_zero, List.nil_append, List.take_left]

theorem envelopeLength_reply (encodable : cipResponse.Encodable) :
    envelopeLength (cipResponse.reply payload) = 4 + cipResponse.extendedStatus.length := by
  simp only [envelopeLength, reply, byteAt, List.cons_append, List.getD_cons_succ,
    List.getD_cons_zero, UInt8.toNat_ofNat_of_lt encodable.words_lt_size, encodable.two_mul_words]

/-- Decoding a reply laid out as the spec describes gives back its response,
and leaves the deserializer at its payload. -/
theorem decode_reply (encodable : cipResponse.Encodable) :
    decode host (.ofBuffer .little (cipResponse.reply payload)) =
      (true, cipResponse, (FixedBufferDeserializer.ofBuffer .little payload).after (cipResponse.reply [])) := by
  rw [decode_of_le (by simp only [envelopeLength_reply payload encodable, length_reply]; omega),
    ofReply_reply payload encodable, envelopeLength_reply payload encodable]
  simp only [FixedBufferDeserializer.ofBuffer, FixedBufferDeserializer.after, ← reply_eq_append,
    length_reply, List.length_nil, Nat.add_zero]

end CipResponse

section ReceiveReply

variable {host : Endian} {showExtended : Option Nat → String} {capacity : Nat}
  {toHex : List UInt8 → String}

theorem receive_reply_of_success {cipResponse : CipResponse} (encodable : cipResponse.Encodable)
    (payload : List UInt8) (fits : (cipResponse.reply payload).length ≤ capacity)
    (success : cipResponse.generalStatus = 0) :
    receive host showExtended capacity toHex (cipResponse.reply payload) =
      .ok (cipResponse, (FixedBufferDeserializer.ofBuffer .little payload).after (cipResponse.reply [])) := by
  unfold receive
  rw [if_neg (Nat.not_lt.mpr fits), CipResponse.decode_reply payload encodable]
  simp [success]

theorem receive_reply_of_failure {cipResponse : CipResponse} (encodable : cipResponse.Encodable)
    (payload : List UInt8) (fits : (cipResponse.reply payload).length ≤ capacity)
    (failure : cipResponse.generalStatus ≠ 0) :
    receive host showExtended capacity toHex (cipResponse.reply payload) =
      .error (statusMessage host showExtended cipResponse) := by
  unfold receive
  rw [if_neg (Nat.not_lt.mpr fits), CipResponse.decode_reply payload encodable]
  simp [failure]

/-- `request()` on a reply laid out as the spec describes, within the receive
buffer: the response, with the deserializer at the payload, when the general
status is `0`, and the status message otherwise. -/
theorem receive_reply {cipResponse : CipResponse} (encodable : cipResponse.Encodable)
    (payload : List UInt8) (fits : (cipResponse.reply payload).length ≤ capacity) :
    receive host showExtended capacity toHex (cipResponse.reply payload) =
      if cipResponse.generalStatus = 0 then
        .ok (cipResponse, (FixedBufferDeserializer.ofBuffer .little payload).after (cipResponse.reply []))
      else .error (statusMessage host showExtended cipResponse) := by
  by_cases success : cipResponse.generalStatus = 0
  · rw [if_pos success, receive_reply_of_success encodable payload fits success]
  · rw [if_neg success, receive_reply_of_failure encodable payload fits success]

theorem receive_reply_vendorSpecific :
    receive .little (fun _ => "0x8007") 6 (fun _ => "")
        ((⟨0xCC, 0x1F, [0x07, 0x80]⟩ : CipResponse).reply []) =
      .error (statusMessage .little (fun _ => "0x8007") ⟨0xCC, 0x1F, [0x07, 0x80]⟩) :=
  (receive_reply ⟨by decide, by decide, by decide, by decide⟩ [] (by decide)).trans
    (if_neg (by decide))

end ReceiveReply

/-! ## Decoding a reply after its envelope

Every decoder of a reply is built from reads and advances, so it decodes the
same from the program's deserializer, over the whole reply, as from the model's,
over the payload, and leaves the two the same distance apart. -/

section Shifted

variable {host : Endian} (pre : List UInt8)

open FixedBufferDeserializer

theorem decodeInstanceData_after (d : FixedBufferDeserializer) :
    decodeInstanceData host (d.after pre) =
      ((decodeInstanceData host d).1, (decodeInstanceData host d).2.after pre) := by
  unfold decodeInstanceData
  rw [read_after]; rcases read host .u32 d with ⟨id, d⟩; dsimp only
  rw [read_after]; rcases read host .u16 d with ⟨instanceDataLen, d⟩; dsimp only
  rw [advance_after]; rcases d.advance 2 with ⟨_, d⟩; dsimp only
  rw [advance_after]; rcases d.advance 4 with ⟨_, d⟩; dsimp only
  rw [read_after]; rcases read host .u8 d with ⟨nameLen, d⟩; dsimp only
  rw [readString_after]; rcases readString d nameLen with ⟨name, d⟩; dsimp only
  split_ifs
  · rw [advance_after]
  · rfl

theorem decodeRecords_after (names : List (List UInt8)) (nextInstanceId : Nat)
    (d : FixedBufferDeserializer) (i count : Nat) :
    decodeRecords host names nextInstanceId (d.after pre) i count =
      (decodeRecords host names nextInstanceId d i count).map
        fun decoded => (decoded.1, decoded.2.1, decoded.2.2.after pre) := by
  induction count generalizing names nextInstanceId d i with
  | zero => rfl
  | succ count ih =>
    rw [decodeRecords, decodeRecords, decodeInstanceData_after]
    rcases decodeInstanceData host d with ⟨data, d⟩
    dsimp only
    rw [hasError_after]
    split_ifs
    · rfl
    · exact ih ..

theorem readUInt32s_after (count : Nat) (d : FixedBufferDeserializer) :
    readUInt32s host count (d.after pre) =
      ((readUInt32s host count d).1, (readUInt32s host count d).2.after pre) := by
  induction count generalizing d with
  | zero => rfl
  | succ count ih => simp only [readUInt32s, read_after, ih]

theorem decodeDimensions_after (numDimensions : Nat) (d : FixedBufferDeserializer) :
    decodeDimensions host numDimensions (d.after pre) =
      ((decodeDimensions host numDimensions d).1, (decodeDimensions host numDimensions d).2.after pre) := by
  simp only [decodeDimensions, FixedBufferDeserializer.advance_after, readUInt32s_after, read_after]

theorem decodeArrayInfo_after (elementSize : Nat) (d : FixedBufferDeserializer) :
    decodeArrayInfo host elementSize (d.after pre) =
      ((decodeArrayInfo host elementSize d).1, (decodeArrayInfo host elementSize d).2.after pre) := by
  simp only [decodeArrayInfo, read_after, decodeDimensions_after]

theorem decodeVariableInfo_after (codes : DataTypeCodes) (name : List UInt8) (d : FixedBufferDeserializer) :
    decodeVariableInfo host codes name (d.after pre) =
      ((decodeVariableInfo host codes name d).1, (decodeVariableInfo host codes name d).2.after pre) := by
  unfold decodeVariableInfo
  rw [read_after]
  dsimp only
  rw [read_after]
  dsimp only
  split_ifs
  · rw [decodeArrayInfo_after]
  · rfl

/-- `get_variable_info` decodes the same variable from the reply as the model
from its payload, and fails alike. -/
theorem getVariableInfoReply_after (codes : DataTypeCodes) (name : List UInt8)
    (d : FixedBufferDeserializer) :
    getVariableInfoReply host codes name (d.after pre) =
      (getVariableInfoReply host codes name d).map fun decoded => (decoded.1, decoded.2.after pre) := by
  simp only [getVariableInfoReply, decodeVariableInfo_after, hasError_after]
  split_ifs <;> rfl

end Shifted

/-! ## The program's request against the model's -/

/-- Two outcomes agree under `related`: both fail with the same fault, or both
succeed with related results. -/
def Agree {α β : Type} (related : α → β → Prop) : Except Fault α → Except Fault β → Prop
  | .error fault, .error fault' => fault = fault'
  | .ok a, .ok b => related a b
  | _, _ => False

namespace Agree

variable {α β γ δ : Type} {related : α → β → Prop} {related' : γ → δ → Prop}

theorem bind {x : Except Fault α} {y : Except Fault β} {f : α → Except Fault γ}
    {g : β → Except Fault δ} (agree : Agree related x y)
    (step : ∀ a b, related a b → Agree related' (f a) (g b)) : Agree related' (x >>= f) (y >>= g) :=
  match x, y, agree with
  | .error _, .error _, same => same
  | .ok a, .ok b, rel => step a b rel
  | .ok _, .error _, impossible => impossible.elim
  | .error _, .ok _, impossible => impossible.elim

/-- A step the program takes where the model has already returned. -/
theorem bind_left {x : Except Fault α} {y : Except Fault β} {f : α → Except Fault γ}
    {related'' : γ → β → Prop} (agree : Agree related x y)
    (step : ∀ a b, related a b → Agree related'' (f a) (.ok b)) : Agree related'' (x >>= f) y :=
  match x, y, agree with
  | .error _, .error _, same => same
  | .ok a, .ok b, rel => step a b rel
  | .ok _, .error _, impossible => impossible.elim
  | .error _, .ok _, impossible => impossible.elim

/-- A step both sides take alike. -/
theorem bind_same (x : Except Fault α) {f : α → Except Fault γ} {g : α → Except Fault δ}
    (step : ∀ a, Agree related' (f a) (g a)) : Agree related' (x >>= f) (x >>= g) :=
  match x with
  | .error _ => rfl
  | .ok a => step a

end Agree

/-- The program's context and the model's agree but for the deserializer,
which is the model's with bytes before it. -/
def RequestContext.Shifted (real model : RequestContext) : Prop :=
  ∃ pre, real = { model with deserializer := model.deserializer.after pre }

theorem RequestContext.shifted_refl (rc : RequestContext) : rc.Shifted rc :=
  ⟨[], by simp only [FixedBufferDeserializer.after, List.nil_append, List.length_nil, Nat.zero_add]⟩

section Request

variable {host : Endian} {showExtended : Option Nat → String} {capacity : Nat}
  {toHex : List UInt8 → String}

/-- After a reply is received, the deserializer is the one over its payload,
after the envelope. -/
theorem eq_after_of_receive {data : List UInt8} {cipResponse : CipResponse}
    {d : FixedBufferDeserializer}
    (received : receive host showExtended capacity toHex data = .ok (cipResponse, d)) :
    d = (FixedBufferDeserializer.ofBuffer .little d.remainingBuffer).after
      (data.take (envelopeLength data)) := by
  by_cases long : data.length > capacity
  · rw [receive_of_gt long] at received
    cases received
  by_cases short : data.length < envelopeLength data
  · rw [receive_of_short (Nat.not_lt.mp long) short] at received
    cases received
  rw [receive_of_le (Nat.not_lt.mp long) (Nat.not_lt.mp short)] at received
  split_ifs at received
  cases received
  simp only [FixedBufferDeserializer.ofBuffer, FixedBufferDeserializer.remainingBuffer,
    FixedBufferDeserializer.after, List.take_append_drop, List.length_take,
    Nat.min_eq_left (Nat.not_lt.mp short), Nat.add_zero]

/-- One `request()` of the program, over the whole reply, against the model's
over `envelopeController`: the same fault, or contexts that differ only by the
envelope before the model's deserializer. -/
theorem cipRequest_shifted (transport : Transport) {real model : RequestContext}
    (shifted : real.Shifted model) :
    Agree (fun real model => real.2.Shifted model)
      (real.cipRequest host showExtended capacity toHex transport)
      (model.request (envelopeController host showExtended capacity toHex transport)) := by
  obtain ⟨pre, rfl⟩ := shifted
  unfold RequestContext.cipRequest RequestContext.request envelopeController
  dsimp only
  cases transport model.sent model.serializer.serializedBuffer with
  | error what => rfl
  | ok data =>
    dsimp only [bind, Except.bind]
    rcases received : receive host showExtended capacity toHex data with what | ⟨cipResponse, d⟩
    · rfl
    · refine ⟨data.take (envelopeLength data), ?_⟩
      rw [← eq_after_of_receive received]

end Request

end OmronDiscovery
