import OmronDiscovery.Cip
import OmronDiscovery.Catalog

/-!
# `get_variables_fast` and `list_signals` over the transport

The enumeration of `Enumeration` and `Catalog` is written over a `Requester`.
The model runs it against a `Controller`, which answers each request with the
payload of its reply; the program runs it over `Transport.request`, which
sends over a `Transport`, checks and decodes the whole reply, and leaves the
deserializer over the reply at its payload.

* `Simulates`: one requester against another, from contexts that differ only
  by bytes before the deserializer, and `Requester.getVariablesFast_shifted`:
  then the two runs of `get_variables_fast` agree, from one lemma per function
  of the enumeration;
* `Transport.request`, `Transport.getVariablesFast` and
  `Transport.listSignals`, the program's runs, and `Transport.request_simulates`:
  the program's request simulates the model's over `envelopeController`;
* `Transport.getVariablesFast_refines`: the program over any transport and
  the model over `envelopeController` of it fail with the same fault, or
  return the same variables with contexts that differ only by the envelope
  before the model's deserializer;
* `Transport.listSignals_refines`: so `list_signals` over the transport is
  the model's `listSignals` over `envelopeController`;
* `Transport.carrying`, a transport whose replies carry a controller's
  payloads, each after an envelope chosen for its request, and
  `Transport.listSignals_carryingHonest`: over one carrying the spec's honest
  controller in success envelopes, `list_signals` as the program runs it lists
  the described records of the first `count` names.
-/

namespace OmronDiscovery

/-! ## Two requesters that agree -/

/-- A result of the program and one of the model agree: the same value, and
contexts that differ only by bytes before the model's deserializer. -/
def Matches {α : Type} (real model : α × RequestContext) : Prop :=
  real.1 = model.1 ∧ real.2.Shifted model.2

/-- `real` simulates `model`: from contexts that differ only by bytes before
the model's deserializer, their requests fail with the same fault or leave
contexts that again differ so. -/
def Simulates (real model : Requester) : Prop :=
  ∀ {a b : RequestContext}, a.Shifted b → Agree RequestContext.Shifted (real a) (model b)

namespace Requester

section Simulation

variable {host : Endian} {codes : DataTypeCodes} {real model : Requester}

theorem getNumVariables_shifted (simulates : Simulates real model) {a b : RequestContext}
    (shifted : a.Shifted b) :
    Agree Matches (getNumVariables host real a) (getNumVariables host model b) := by
  obtain ⟨pre, rfl⟩ := shifted
  refine Agree.bind_same _ fun serializer =>
    Agree.bind (simulates ⟨pre, rfl⟩) fun a b shifted => ?_
  obtain ⟨pre', rfl⟩ := shifted
  simp only [FixedBufferDeserializer.advance_after, read_after,
    FixedBufferDeserializer.hasError_after]
  split_ifs
  · rfl
  · exact ⟨rfl, pre', rfl⟩

theorem instancePass_shifted (simulates : Simulates real model) (tagType : TagType) (fuel : Nat) :
    ∀ {a b : RequestContext} (names : List (List UInt8)) (nextInstanceId : Nat), a.Shifted b →
      Agree Matches (instancePass host real tagType fuel a names nextInstanceId)
        (instancePass host model tagType fuel b names nextInstanceId) := by
  induction fuel with
  | zero => intro _ _ _ _ _; rfl
  | succ fuel ih =>
    rintro a b names nextInstanceId ⟨pre, rfl⟩
    rw [instancePass, instancePass]
    refine Agree.bind_same _ fun serializer =>
      Agree.bind (simulates ⟨pre, rfl⟩) fun a b shifted => ?_
    obtain ⟨pre', rfl⟩ := shifted
    simp only [read_after, FixedBufferDeserializer.advance_after]
    split_ifs
    · exact ⟨rfl, pre', rfl⟩
    · rw [decodeRecords_after]
      cases decodeRecords host names nextInstanceId _ 0 _ with
      | error fault => rfl
      | ok decoded => exact ih _ _ ⟨pre', rfl⟩

theorem getVariableInfo_shifted (simulates : Simulates real model) {a b : RequestContext}
    (shifted : a.Shifted b) (name : List UInt8) :
    Agree Matches (getVariableInfo host codes real a name)
      (getVariableInfo host codes model b name) := by
  obtain ⟨pre, rfl⟩ := shifted
  refine Agree.bind_same _ fun path => Agree.bind_same _ fun serializer =>
    Agree.bind (simulates ⟨pre, rfl⟩) fun a b shifted => ?_
  obtain ⟨pre', rfl⟩ := shifted
  rw [getVariableInfoReply_after]
  cases getVariableInfoReply host codes name b.deserializer with
  | error fault => rfl
  | ok decoded => exact ⟨rfl, pre', rfl⟩

theorem resolveVariables_shifted (simulates : Simulates real model) (names : List (List UInt8))
    (count : Nat) :
    ∀ (i : Nat) {a b : RequestContext}, a.Shifted b →
      Agree Matches (resolveVariables host codes real names count i a)
        (resolveVariables host codes model names count i b) := by
  induction count with
  | zero => intro _ _ _ shifted; exact ⟨rfl, shifted⟩
  | succ count ih =>
    intro i a b shifted
    unfold resolveVariables
    split_ifs with inside
    · refine Agree.bind (getVariableInfo_shifted simulates shifted _) fun a b matched => ?_
      refine Agree.bind (ih (i + 1) matched.2) fun a' b' matched' => ?_
      exact ⟨by rw [matched.1, matched'.1], matched'.2⟩
    · rfl

/-- `get_variables_fast` over a requester that simulates another agrees with
it over the other: the same fault, or the same variables with contexts that
differ only by bytes before the other's deserializer. -/
theorem getVariablesFast_shifted (simulates : Simulates real model) (fuel : Nat)
    {a b : RequestContext} (shifted : a.Shifted b) :
    Agree Matches (getVariablesFast host codes real fuel a)
      (getVariablesFast host codes model fuel b) := by
  refine Agree.bind (getNumVariables_shifted simulates shifted) ?_
  rintro ⟨num, a⟩ ⟨_, b⟩ ⟨rfl, counted⟩
  refine Agree.bind (instancePass_shifted simulates .system fuel [] 1 counted) ?_
  rintro ⟨names, a⟩ ⟨_, b⟩ ⟨rfl, system⟩
  refine Agree.bind (instancePass_shifted simulates .user fuel names 1 system) ?_
  rintro ⟨names, a⟩ ⟨_, b⟩ ⟨rfl, user⟩
  exact resolveVariables_shifted simulates names num 0 user

end Simulation

end Requester

/-- The catalog of two results that agree. -/
theorem catalog_bind_eq {codes : DataTypeCodes}
    {x y : Except Fault (List VariableInfo × RequestContext)} (agree : Agree Matches x y) :
    (do let (vars, _) ← x; catalog codes vars) = (do let (vars, _) ← y; catalog codes vars) :=
  match x, y, agree with
  | .error _, .error _, rfl => rfl
  | .ok (_, _), .ok (_, _), ⟨same, _⟩ => congrArg (catalog codes) same

namespace Transport

section Program

variable (host : Endian) (codes : DataTypeCodes) (showExtended : Option Nat → String)
  (capacity : Nat) (toHex : List UInt8 → String) (transport : Transport)

/-- `rc.request()` as the program runs it over `transport`, its `CipResponse`
dropped as every caller in `list_signals.cpp` drops it. -/
def request : Requester := fun rc => do
  let (_, rc) ← rc.cipRequest host showExtended capacity toHex transport
  pure rc

/-- `get_variables_fast(rc)` as the program runs it over `transport`. -/
def getVariablesFast (fuel : Nat) (rc : RequestContext) :
    Except Fault (List VariableInfo × RequestContext) :=
  Requester.getVariablesFast host codes (request host showExtended capacity toHex transport) fuel rc

/-- `list_signals` as the program runs it over `transport`. -/
def listSignals (fuel : Nat) (rc : RequestContext) : Except Fault (List Symbol) :=
  Requester.listSignals host codes (request host showExtended capacity toHex transport) fuel rc

end Program

/-! ## The program refines the model -/

section Refinement

variable {host : Endian} {codes : DataTypeCodes} {showExtended : Option Nat → String}
  {capacity : Nat} {toHex : List UInt8 → String} {transport : Transport}

/-- The program's request simulates the model's over `envelopeController`. -/
theorem request_simulates :
    Simulates (request host showExtended capacity toHex transport)
      (RequestContext.request (envelopeController host showExtended capacity toHex transport)) :=
  fun shifted => Agree.bind_left (cipRequest_shifted transport shifted) fun _ _ shifted => shifted

/-- `get_variables_fast` over any transport against the model over
`envelopeController` of it: the same fault, or the same variables with contexts
that differ only by the envelope before the model's deserializer. -/
theorem getVariablesFast_refines (fuel : Nat) (rc : RequestContext) :
    Agree Matches (getVariablesFast host codes showExtended capacity toHex transport fuel rc)
      (OmronDiscovery.getVariablesFast host codes
        (envelopeController host showExtended capacity toHex transport) fuel rc) :=
  Requester.getVariablesFast_shifted request_simulates fuel (RequestContext.shifted_refl rc)

/-- `list_signals` over any transport is the model's `listSignals` over
`envelopeController` of it. -/
theorem listSignals_refines (fuel : Nat) (rc : RequestContext) :
    listSignals host codes showExtended capacity toHex transport fuel rc =
      OmronDiscovery.listSignals host codes
        (envelopeController host showExtended capacity toHex transport) fuel rc :=
  catalog_bind_eq
    (Requester.getVariablesFast_shifted request_simulates fuel (RequestContext.shifted_refl rc))

end Refinement

/-! ## Over a transport carrying a controller's answers -/

/-- A transport whose replies carry `controller`'s answers: each payload after
the envelope `header sent request` chosen for its request, each failure passed
on. -/
def carrying (header : List (List UInt8) → List UInt8 → CipResponse) (controller : Controller) :
    Transport :=
  fun sent request => (controller sent request).map (header sent request).reply

section Carrying

variable {host : Endian} {codes : DataTypeCodes} {showExtended : Option Nat → String}
  {capacity : Nat} {toHex : List UInt8 → String}

/-- Behind a transport carrying `controller`'s answers, each in a success
envelope of its own that fits the receive buffer, the model sees `controller`
itself. -/
theorem envelopeController_carrying {header : List (List UInt8) → List UInt8 → CipResponse}
    (encodable : ∀ sent request, (header sent request).Encodable)
    (success : ∀ sent request, (header sent request).generalStatus = 0) {controller : Controller}
    (fits : ∀ sent request payload, controller sent request = .ok payload →
      ((header sent request).reply payload).length ≤ capacity) :
    envelopeController host showExtended capacity toHex (carrying header controller) = controller := by
  funext sent request
  unfold envelopeController carrying
  cases answered : controller sent request with
  | error what => rfl
  | ok payload =>
    simp only [Except.map, bind, Except.bind, receive_reply_of_success (encodable sent request)
      payload (fits sent request payload answered) (success sent request), pure, Except.pure,
      FixedBufferDeserializer.remainingBuffer_after]
    rfl

/-- `list_signals` as the program runs it, over a transport whose replies put
the spec's honest controller's payloads after success envelopes, one chosen
for each request, that fit the receive buffer, on a little-endian send buffer
of at least 260 bytes and with more fuel than instances of either type, lists
the described records of the first `count` names, System names before User
names. -/
theorem listSignals_carryingHonest (h : Honest codes) (fuel : Nat) (rc : RequestContext)
    (enough : h.system.length < fuel ∧ h.user.length < fuel)
    (room : 260 ≤ rc.serializer.buffer.length) (little : rc.serializer.endianess = .little)
    {header : List (List UInt8) → List UInt8 → CipResponse}
    (encodable : ∀ sent request, (header sent request).Encodable)
    (success : ∀ sent request, (header sent request).generalStatus = 0)
    (fits : ∀ sent request payload, h.controller sent request = .ok payload →
      ((header sent request).reply payload).length ≤ capacity) :
    listSignals host codes showExtended capacity toHex (carrying header h.controller) fuel rc =
      .ok (((((h.system ++ h.user).map (·.name)).take h.count).map fun name =>
        descriptorOf codes name (h.descriptor name)).filterMap (describedSymbol codes)) := by
  obtain ⟨rc', run⟩ := getVariablesFast_honest_run host codes h fuel rc enough room little
  refine (catalog_bind_eq
    (Requester.getVariablesFast_shifted request_simulates fuel (RequestContext.shifted_refl rc))).trans ?_
  rw [envelopeController_carrying encodable success fits]
  exact listSignals_of_fetched host codes h.controller fuel rc run

end Carrying

/-- The envelope a CIP server puts before its answer to `request`: the
request's service with the reply bit `0x80` set, general status `0`, and one
word of extended status on a Get_All_Instances reply. -/
def serviceReply (_ : List (List UInt8)) (request : List UInt8) : CipResponse :=
  ⟨(request.headD 0 ||| 0x80).toNat, 0, if request.headD 0 = 0x5F then [0, 0] else []⟩

theorem serviceReply_encodable (sent : List (List UInt8)) (request : List UInt8) :
    (serviceReply sent request).Encodable where
  replyService_lt := (request.headD 0 ||| 0x80).val.isLt
  generalStatus_lt := show 0 < 256 by decide
  even := by unfold serviceReply; split <;> simp
  words_lt := by unfold serviceReply; split <;> simp

theorem length_instancePage_take_one (reserved : List UInt8) {records : List InstanceRecord}
    {n : Nat} (small : ∀ r ∈ records, 13 + r.name.length + r.padding.length ≤ n) :
    (instancePage (InstanceRecord.bytes .little) reserved (records.take 1)).length ≤
      2 + reserved.length + n := by
  cases records with
  | nil =>
    simp only [instancePage, List.take_nil, List.length_append, length_toLE, List.flatMap_nil,
      List.length_nil]
    omega
  | cons r rest =>
    have rSmall := small r (List.mem_cons_self _ _)
    simp only [instancePage, List.take_succ_cons, List.take_zero, List.flatMap_cons,
      List.flatMap_nil, List.append_nil, List.length_append, length_toLE,
      InstanceRecord.length_bytes]
    omega

/-- Every answer of `Honest.twoOfThree` is at most 32 bytes. -/
theorem twoOfThree_answer_le {sent : List (List UInt8)} {request payload : List UInt8}
    (answered : Honest.twoOfThree.controller sent request = .ok payload) : payload.length ≤ 32 := by
  have small : ∀ tagType : TagType, ∀ r ∈ tagType.instances Honest.twoOfThree.system
      Honest.twoOfThree.user, 13 + r.name.length + r.padding.length ≤ 15 := by
    intro tagType; cases tagType <;> decide
  rcases pagingController_answer _ _ _ _ _ _ _ _ _ answered with rfl | ⟨name, rfl⟩ | ⟨tagType, _, rfl⟩
  · decide
  · dsimp only [Honest.twoOfThree]
    split <;> decide
  · exact (length_instancePage_take_one _ fun r mem =>
      small tagType r (List.mem_of_mem_filter mem)).trans
        (by rw [Honest.twoOfThree.reserved_length]; decide)

theorem listSignals_carryingHonest_twoOfThree :
    listSignals .little .declarationOrder (fun _ => "") 40 (fun _ => "")
        (carrying serviceReply Honest.twoOfThree.controller) 3 (.fresh 260 (by decide)) =
      .ok [⟨[0x41], "DINT", none⟩, ⟨[0x42], "INT", some [(1, 4)]⟩] :=
  (listSignals_carryingHonest Honest.twoOfThree 3 (.fresh 260 (by decide))
    ⟨by decide, by decide⟩ (List.length_replicate ..).ge rfl serviceReply_encodable
    (fun _ _ => rfl) fun sent request _ answered => by
      have payloadLength := twoOfThree_answer_le answered
      have extended : (serviceReply sent request).extendedStatus.length ≤ 2 := by
        unfold serviceReply; split <;> simp
      simp only [CipResponse.length_reply]
      omega).trans rfl

end Transport

end OmronDiscovery
