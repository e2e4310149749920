import OmronDiscovery.Serializer
import OmronDiscovery.Deserializer

/-!
# The request context

A `RequestContext` couples the controller connection with a serializer over
the send buffer and a deserializer over the last reply.  The enumeration's
model folds the transport, the CIP envelope and its status check into a
`Controller`, which sees every request sent so far and answers the new one with
the payload of a successful reply or with the error `request()` raises; `Cip`
models them and shows the fold faithful.

* `Fault`, how an operation ends abnormally;
* `Requester`, what `rc.request()` does to the context, which the enumeration
  is written over, and `RequestContext.request`, `RequestContext::request()`
  against a `Controller`;
* `addressRequestPath` and `variableRequestPath`, the two request paths, and
  `encodeGetAttributeAll`, the Get_Attribute_All header of `omron.h`;
* `addressRequestPath_eq`: the logical path's six bytes on either host.
-/

namespace OmronDiscovery

open FixedBufferSerializer

/-- How an operation ends abnormally. -/
inductive Fault
  /-- A `std::runtime_error` with this `what()`. -/
  | runtimeError (what : String)
  /-- An `assert` on this condition fails. -/
  | assertionFailed (condition : String)
  /-- `names[index]` on a vector of `size` elements with `index ≥ size`: the
  behaviour is undefined, and the model stops there. -/
  | outOfRange (index size : Nat)
  /-- A `while (true)` loop did not end within the fuel given. -/
  | outOfFuel
  deriving DecidableEq, Repr

/-- A chain of fallible steps that succeeds got past its first step. -/
theorem exists_of_bind_eq_ok {α β : Type} {x : Except Fault α} {f : α → Except Fault β} {b : β}
    (bound : (x >>= f) = .ok b) : ∃ a, x = .ok a ∧ f a = .ok b := by
  cases x with
  | error e => cases bound
  | ok a => exact ⟨a, rfl, bound⟩

/-- A result whose value is known to be `a` is a success with `a` first. -/
theorem exists_ok_of_toOption {α β : Type} {x : Except Fault (α × β)} {a : α}
    (some_a : x.toOption.map Prod.fst = some a) : ∃ b, x = .ok (a, b) := by
  cases x with
  | error fault => cases some_a
  | ok result =>
    obtain rfl : result.1 = a := Option.some.inj some_a
    exact ⟨result.2, rfl⟩

/-- The controller behind the connection: given the requests it has received,
oldest first, and the bytes of a new one, either the payload of its reply (the
bytes after a CIP envelope with general status `0`) or the message of the
error `request()` raises (a transport failure, a reply larger than the receive
buffer, an envelope that does not decode, or a non-zero status). -/
def Controller : Type :=
  List (List UInt8) → List UInt8 → Except String (List UInt8)

/-- `RequestContext`: the serializer over the send buffer, the deserializer
over the last reply, and the requests sent so far, which only the controller
observes. -/
structure RequestContext where
  serializer : FixedBufferSerializer
  deserializer : FixedBufferDeserializer
  sent : List (List UInt8)

/-- What `rc.request()` does to a request context: send the serialized buffer
and leave the deserializer at the reply's payload, or raise.  The enumeration
is written once over it; the model runs it over `RequestContext.request` of a
`Controller`, the program over `Transport.request`. -/
def Requester : Type := RequestContext → Except Fault RequestContext

/-- `RequestContext::request()`: send `serializer.serialized_buffer()`; on
success the deserializer, little-endian, starts at the reply's payload. -/
def RequestContext.request (controller : Controller) (rc : RequestContext) :
    Except Fault RequestContext :=
  match controller rc.sent rc.serializer.serializedBuffer with
  | .ok payload =>
      .ok { rc with
        deserializer := .ofBuffer .little payload
        sent := rc.sent ++ [rc.serializer.serializedBuffer] }
  | .error what => .error (.runtimeError what)

section Paths

variable (host : Endian)

/-- `address_request_path(class_id, instance_id)`: the logical segments for a
class and a 16-bit instance, serialized into a six-byte little-endian buffer,
which is returned whole. -/
def addressRequestPath (classId instanceId : Nat) : List UInt8 :=
  (serializeMulti host (ofBuffer .little (List.replicate 6 0) (by decide))
    [.bytes [0x20], .integral .u8 classId, .bytes [0x25, 0x00], .integral .u16 instanceId]).2.buffer

/-- `variable_request_path(name)`: the symbolic segment `0x91`, the name's
length, the name, and a zero byte when the length is odd, serialized into a
little-endian buffer of `2 + padded_length` bytes, which is returned whole.
Both `assert`s are modelled as faults. -/
def variableRequestPath (name : List UInt8) : Except Fault (List UInt8) :=
  if short : name.length < 256 then
    let paddedLength := name.length + name.length % 2
    let s := ofBuffer .little (List.replicate (2 + paddedLength) 0)
      (by simp only [List.length_replicate, sizeModulus]; omega)
    let s := (serialize host s (.bytes [0x91])).2
    let s := (serialize host s (.integral .u8 (name.length % 256))).2
    let s := (serialize host s (.bytes name)).2
    let s := if name.length % 2 ≠ 0 then (serialize host s (.bytes [0x00])).2 else s
    if s.hasError then .error (.assertionFailed "!s.has_error()") else .ok s.buffer
  else .error (.assertionFailed "name.size() < 256")

/-- Modelled from the spec: `encode_get_attribute_all(ser, request_path)` of
`omron.h`, which is not among the sources.  The spec has the caller write the
service code `0x01`, the path length in words and the path just before
sending.  Like `encode_omron_get_all_instances`, the model starts from
`reset()` and throws when the serializer fails; the header's message is not
known. -/
def encodeGetAttributeAll (s : FixedBufferSerializer) (requestPath : List UInt8) :
    Except Fault FixedBufferSerializer :=
  let s := s.reset
  let s := (serialize host s (.bytes [0x01])).2
  let s := (serialize host s (.integral .u8 (requestPath.length / 2 % 256))).2
  let s := (serialize host s (.bytes requestPath)).2
  if s.hasError then .error (.runtimeError "Could not encode get attribute all request")
  else .ok s

/-- The logical path to class `0x6a`, instance `0`, as the spec writes it. -/
theorem addressRequestPath_eq (classId instanceId : Nat) (classLt : classId < 256)
    (instanceLt : instanceId < 65536) :
    addressRequestPath host classId instanceId =
      [0x20, UInt8.ofNat classId, 0x25, 0x00, UInt8.ofNat (instanceId % 256),
        UInt8.ofNat (instanceId / 256)] := by
  simp only [addressRequestPath, serializeMulti_cons, serialize_eq_write, SerializeArg.encode,
    IntType.width, write_eq, ofBuffer, Endian.bytes, toLE]
  simp [overwrite, sizeModulus, Nat.mod_eq_of_lt classLt, Nat.mod_eq_of_lt instanceLt,
    serializeMulti, Nat.mod_eq_of_lt (show instanceId / 256 < 256 by omega)]

end Paths

end OmronDiscovery
