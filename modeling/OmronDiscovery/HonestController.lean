import OmronDiscovery.Enumeration

/-!
# `get_variables_fast` against a controller

The spec describes an honest controller: it announces a count, lists the
instances of each `TagType` in increasing id order, a non-empty prefix of
those from the requested cursor on per page, and answers every name with a
well-formed descriptor.  `pagingController` answers so for any layout of its
records; `Honest` bundles one whose records carry any class and instance-id
bytes and any padding, whose reserved bytes and count reply are any, with the
spec's assumptions about them; `honestController` has the layout of the spec's
examples.

* `getNumVariables_answered`, `instancePass_answered` and
  `getVariableInfo_answered`: what one request does against any controller,
  given its answer; the last is the decoding of a descriptor by the whole
  `get_variable_info`;
* `instancePass_honest`: what a whole pass collects; `filter_after_page` is
  the fact about lists in id order the step rests on;
* `getVariablesFast_honest`: under the spec's assumptions, the first `count`
  names are resolved, System names first, whatever the filler, the padding
  and the reserved bytes;
* `getVariablesFast_wrappedId`: an instance of id `0xFFFFFFFF` makes
  `next_instance_id` wrap to `0`, and the pass never ends;
* `getVariablesFast_fewerNames`: a count above the names listed makes the last
  loop read past the end of `names`;
* `getVariablesFast_truncatedPage`: a page too short for its header ends the
  pass as an empty one would.
-/

namespace OmronDiscovery

/-! ## Controllers that page their instances -/

/-- The instances a controller holds of `tagType`. -/
def TagType.instances {α : Type} (tagType : TagType) (system user : List α) : List α :=
  match tagType with
  | .system => system
  | .user => user

/-- The page of a Get_All_Instances reply listing `instances`: their number,
the two reserved bytes `reserved`, and each instance's record as `render` lays
it out. -/
def instancePage {α : Type} (render : α → List UInt8) (reserved : List UInt8)
    (instances : List α) : List UInt8 :=
  toLE 2 instances.length ++ reserved ++ instances.flatMap render

/-- The instances of `tagType` a controller lists from `nextInstanceId` on,
after the requests `sent`: the first `pageLength sent` of those whose id is at
least the cursor. -/
def honestPage {α : Type} (id : α → Nat) (system user : List α)
    (pageLength : List (List UInt8) → Nat) (tagType : TagType) (sent : List (List UInt8))
    (nextInstanceId : Nat) : List α :=
  ((tagType.instances system user).filter fun entry => nextInstanceId ≤ id entry).take
    (pageLength sent)

/-- A controller holding `system` and `user` instances, each listed in
increasing id order, that answers as the spec describes: the count request for
instance `0` with `countReply`; a Get_Attribute_All request for a name with
`descriptor name`; and a Get_All_Instances request with the page of the first
`pageLength sent` instances of the requested type whose id is at least the
request's cursor, after the reserved bytes `reserved sent`, each instance laid
out by `render`.  The page length and the reserved bytes may depend on the
requests received before. -/
def pagingController {α : Type} (id : α → Nat) (render : α → List UInt8)
    (countReply : List UInt8) (system user : List α) (pageLength : List (List UInt8) → Nat)
    (reserved : List (List UInt8) → List UInt8) (descriptor : List UInt8 → List UInt8) :
    Controller :=
  fun sent request =>
    if request = [0x01, 0x03, 0x20, 0x6a, 0x25, 0x00, 0x00, 0x00] then .ok countReply
    else if request.head? = some 0x01 then
      .ok (descriptor ((request.drop 4).take (byteAt request 3).toNat))
    else if request.head? = some 0x5F then
      let cursor := ofLE ((request.drop 8).take 4)
      let instances :=
        if ofLE ((request.drop 16).take 2) = TagType.system.value then system else user
      .ok (instancePage render (reserved sent)
        ((instances.filter fun entry => cursor ≤ id entry).take (pageLength sent)))
    else .error "unknown service"

/-- The record of an instance in the spec's examples: six zero bytes of class
and instance id, no padding. -/
def zeroLayout (entry : Nat × List UInt8) : List UInt8 :=
  toLE 4 entry.1 ++ toLE 2 (7 + entry.2.length) ++ List.replicate 6 0 ++
    [UInt8.ofNat entry.2.length] ++ entry.2

/-- A paging controller with the layout of the spec's examples: the count
after two zero bytes, zero reserved bytes, and `zeroLayout` records. -/
def honestController (count : Nat) (system user : List (Nat × List UInt8))
    (pageLength : List (List UInt8) → Nat) (descriptor : List UInt8 → List UInt8) : Controller :=
  pagingController Prod.fst zeroLayout ([0, 0] ++ toLE 2 count) system user pageLength
    (fun _ => [0, 0]) descriptor

/-- The request `get_variable_info` sends for `name`: the service `0x01`, the
path's length in words and the name's symbolic path. -/
def variableInfoRequest (name : List UInt8) : List UInt8 :=
  let path := [0x91, UInt8.ofNat name.length] ++ name ++ List.replicate (name.length % 2) 0
  [0x01, UInt8.ofNat (path.length / 2 % 256)] ++ path

theorem getAllInstancesRequest_little (nextInstanceId : Nat) (tagType : TagType) :
    getAllInstancesRequest .little nextInstanceId tagType =
      [0x5F, 0x03, 0x20, 0x6a, 0x25, 0x00, 0x00, 0x00] ++
        (toLE 4 nextInstanceId ++ ([0x20, 0x00, 0x00, 0x00] ++ toLE 2 tagType.value)) := by
  simp only [getAllInstancesRequest, Endian.bytes, List.append_assoc]

section Paging

variable {α : Type} (id : α → Nat) (render : α → List UInt8) (countReply : List UInt8)
  (system user : List α) (pageLength : List (List UInt8) → Nat)
  (reserved : List (List UInt8) → List UInt8) (descriptor : List UInt8 → List UInt8)
  (sent : List (List UInt8))

theorem pagingController_count :
    pagingController id render countReply system user pageLength reserved descriptor sent
      [0x01, 0x03, 0x20, 0x6a, 0x25, 0x00, 0x00, 0x00] = .ok countReply :=
  if_pos rfl

/-- A paging controller reads the name of a Get_Attribute_All request for a
name of at most 255 bytes and answers with its descriptor. -/
theorem pagingController_name (name : List UInt8) (short : name.length ≤ 255) :
    pagingController id render countReply system user pageLength reserved descriptor sent
      (variableInfoRequest name) = .ok (descriptor name) := by
  have nameLength : (byteAt (variableInfoRequest name) 3).toNat = name.length := by
    simp only [variableInfoRequest, byteAt, List.cons_append, List.getD_cons_succ,
      List.getD_cons_zero, byte_toNat_ofNat]
    exact Nat.mod_eq_of_lt (by omega)
  unfold pagingController
  rw [if_neg (by simp [variableInfoRequest]), if_pos (by simp [variableInfoRequest]), nameLength]
  simp [variableInfoRequest]

/-- A paging controller reads the cursor and the tag type of a
Get_All_Instances request and answers with the page from that cursor. -/
theorem pagingController_getAllInstances (nextInstanceId : Nat) (tagType : TagType)
    (idLt : nextInstanceId < 2 ^ 32) :
    pagingController id render countReply system user pageLength reserved descriptor sent
        (getAllInstancesRequest .little nextInstanceId tagType) =
      .ok (instancePage render (reserved sent)
        (honestPage id system user pageLength tagType sent nextInstanceId)) := by
  have cursor : ofLE (((getAllInstancesRequest .little nextInstanceId tagType).drop 8).take 4) =
      nextInstanceId := by
    rw [getAllInstancesRequest_little, List.drop_left' (by rfl), List.take_left' (length_toLE ..),
      ofLE_toLE, Nat.mod_eq_of_lt (by simpa using idLt)]
  have tag : ofLE (((getAllInstancesRequest .little nextInstanceId tagType).drop 16).take 2) =
      tagType.value := by
    have tagBytes : (getAllInstancesRequest .little nextInstanceId tagType).drop 16 =
        toLE 2 tagType.value := by
      simp [getAllInstancesRequest_little, List.drop_append_eq_append_drop]
    rw [tagBytes, List.take_of_length_le (length_toLE ..).le, ofLE_toLE]
    cases tagType <;> rfl
  simp only [pagingController, cursor, tag]
  rw [getAllInstancesRequest_little]
  cases tagType <;> simp [honestPage, TagType.instances, TagType.value]

/-- What a paging controller answers: its count reply, a descriptor, or the
page of the instances of one type from some cursor. -/
theorem pagingController_answer {request payload : List UInt8}
    (answered : pagingController id render countReply system user pageLength reserved descriptor
      sent request = .ok payload) :
    payload = countReply ∨ (∃ name, payload = descriptor name) ∨
      ∃ tagType cursor, payload = instancePage render (reserved sent)
        (honestPage id system user pageLength tagType sent cursor) := by
  unfold pagingController at answered
  split_ifs at answered <;> cases answered
  · exact .inl rfl
  · exact .inr (.inl ⟨_, rfl⟩)
  · exact .inr (.inr ⟨.system, _, rfl⟩)
  · exact .inr (.inr ⟨.user, _, rfl⟩)

end Paging

/-! ## One request against any controller -/

section Answered

variable (host : Endian) (codes : DataTypeCodes) (controller : Controller)

/-- Against a controller answering the count request with at least four bytes,
`get_num_variables` returns, on either host, the count its bytes 2 and 3 carry
little-endian. -/
theorem getNumVariables_answered (rc : RequestContext) (room : 8 ≤ rc.serializer.buffer.length)
    {countReply : List UInt8}
    (answered : controller rc.sent [0x01, 0x03, 0x20, 0x6a, 0x25, 0x00, 0x00, 0x00] = .ok countReply)
    (long : 4 ≤ countReply.length) :
    ∃ rc', getNumVariables host controller rc = .ok (ofLE ((countReply.drop 2).take 2), rc') ∧
      rc'.serializer.buffer.length = rc.serializer.buffer.length ∧
      rc'.serializer.endianess = rc.serializer.endianess := by
  have path := addressRequestPath_eq host 0x6a 0 (by decide) (by decide)
  obtain ⟨s, encoded, order, length, request⟩ :=
    encodeGetAttributeAll_ok host rc.serializer (addressRequestPath host 0x6a 0)
      (by rw [path]; simp only [List.length_cons, List.length_nil]; omega)
  rw [path] at request
  have reply : controller rc.sent s.serializedBuffer = .ok countReply := by
    rw [request]
    exact answered
  refine ⟨⟨s, ⟨.little, countReply, 4, false⟩, rc.sent ++ [s.serializedBuffer]⟩, ?_, length, order⟩
  simp only [getNumVariables, Requester.getNumVariables, encoded, bind, Except.bind,
    RequestContext.request, reply, FixedBufferDeserializer.ofBuffer]
  rw [advance_mk (by omega), read_mk .u16 (by simp only [IntType.width]; omega)]
  simp [IntType.width, Endian.value]

/-- The header of a page gives its length, and its records, whatever their
filler and padding, decode into their names, leaving `next_instance_id` one
past the last id. -/
theorem instancePage_decoded (reserved : List UInt8) (records : List InstanceRecord)
    (reservedLength : reserved.length = 2) (short : records.length < 65536)
    (names : List (List UInt8)) (nextInstanceId : Nat) :
    read host .u16 (.ofBuffer .little (instancePage (InstanceRecord.bytes .little) reserved records)) =
        (records.length,
          ⟨.little, instancePage (InstanceRecord.bytes .little) reserved records, 2, false⟩) ∧
      ∃ d, decodeRecords host names nextInstanceId
          ⟨.little, instancePage (InstanceRecord.bytes .little) reserved records, 4, false⟩ 0
          records.length =
        .ok (names ++ records.map (·.name),
          records.foldl (fun _ r => (r.id + 1) % 2 ^ 32) nextInstanceId, d) := by
  have header : (toLE 2 records.length ++ reserved).length = 4 := by
    rw [List.length_append, length_toLE, reservedLength]
  refine ⟨?_, ?_⟩
  · rw [FixedBufferDeserializer.ofBuffer,
      read_mk .u16 (by simp only [instancePage, List.length_append] at header ⊢
                       simp only [IntType.width]; omega)]
    simp only [instancePage, IntType.width, Endian.value, List.drop_zero, List.append_assoc,
      List.take_left' (length_toLE ..), ofLE_toLE, Nat.zero_add,
      Nat.mod_eq_of_lt (show records.length < 256 ^ 2 from short)]
  · obtain ⟨d, run, -⟩ := @decodeRecords_records host records [] ⟨.little,
      instancePage (InstanceRecord.bytes .little) reserved records, 4, false⟩ names
      nextInstanceId 0 rfl
      (by rw [List.append_nil, FixedBufferDeserializer.remainingBuffer, instancePage]
          exact List.drop_left' header)
    exact ⟨d, run⟩

/-- One request of a pass against a controller answering the page request
from `nextInstanceId` with records after two reserved bytes: the pass ends
when there are none, and otherwise collects their names and goes on from one
past the last id, modulo `2^32`. -/
theorem instancePass_answered (tagType : TagType) (fuel : Nat) (rc : RequestContext)
    (names : List (List UInt8)) (nextInstanceId : Nat) (room : 18 ≤ rc.serializer.buffer.length)
    (little : rc.serializer.endianess = .little) {reserved : List UInt8}
    {records : List InstanceRecord}
    (answered : controller rc.sent (getAllInstancesRequest .little nextInstanceId tagType) =
      .ok (instancePage (InstanceRecord.bytes .little) reserved records))
    (reservedLength : reserved.length = 2) (short : records.length < 65536) :
    ∃ rc', rc'.serializer.buffer.length = rc.serializer.buffer.length ∧
      rc'.serializer.endianess = .little ∧
      Requester.instancePass host (RequestContext.request controller) tagType (fuel + 1) rc names
          nextInstanceId =
        if records.isEmpty then .ok (names, rc')
        else
          Requester.instancePass host (RequestContext.request controller) tagType fuel rc'
            (names ++ records.map (·.name))
            (records.foldl (fun _ r => (r.id + 1) % 2 ^ 32) nextInstanceId) := by
  obtain ⟨s, encoded, order, length, request⟩ :=
    encodeOmronGetAllInstances_ok host rc.serializer nextInstanceId tagType room
  rw [little] at request
  set page := instancePage (InstanceRecord.bytes .little) reserved records
  have reply : controller rc.sent s.serializedBuffer = .ok page := by
    rw [request]
    exact answered
  obtain ⟨header, d, run⟩ :=
    instancePage_decoded host reserved records reservedLength short names nextInstanceId
  have pageLength : 4 ≤ page.length := by
    simp only [page, instancePage, List.length_append, length_toLE, reservedLength]
    omega
  have skipped := @advance_mk .little page 2 2 (by omega)
  simp only [Requester.instancePass, encoded, bind, Except.bind, RequestContext.request, reply,
    header, skipped]
  by_cases empty : records = []
  · refine ⟨⟨s, ⟨.little, page, 2 + 2, false⟩, rc.sent ++ [s.serializedBuffer]⟩,
      length, order.trans little, ?_⟩
    simp [empty]
  · have nonzero : records.length ≠ 0 := by simpa using empty
    refine ⟨⟨s, d, rc.sent ++ [s.serializedBuffer]⟩, length, order.trans little, ?_⟩
    simp only [if_neg nonzero, List.isEmpty_eq_false.2 empty, Nat.reduceAdd, run]
    rfl

/-- Against a controller answering the request for `name`, of at most 255
bytes, with `payload`, on a send buffer of at least 260 bytes,
`get_variable_info` returns the descriptor the payload's layout describes when
the payload is at least as long as that layout, and throws otherwise. -/
theorem getVariableInfo_answered (rc : RequestContext) (name : List UInt8) (short : name.length ≤ 255)
    (room : 260 ≤ rc.serializer.buffer.length) {payload : List UInt8}
    (answered : controller rc.sent (variableInfoRequest name) = .ok payload) :
    ∃ rc', rc'.serializer.buffer.length = rc.serializer.buffer.length ∧
      rc'.serializer.endianess = rc.serializer.endianess ∧
      getVariableInfo host codes controller rc name =
        if descriptorLength codes payload ≤ payload.length then
          .ok (descriptorOf codes name payload, rc')
        else .error (.runtimeError "Could not decode get attribute all response for instance=0") := by
  have path := variableRequestPath_eq host name (by omega)
  obtain ⟨s, encoded, order, length, request⟩ := encodeGetAttributeAll_ok host rc.serializer
    ([0x91, UInt8.ofNat name.length] ++ name ++ List.replicate (name.length % 2) 0)
    (by simp only [List.length_append, List.length_cons, List.length_nil, List.length_replicate]
        omega)
  have reply : controller rc.sent s.serializedBuffer = .ok payload := by
    rw [request]
    exact answered
  refine ⟨⟨s, ⟨.little, payload, descriptorLength codes payload, false⟩,
    rc.sent ++ [s.serializedBuffer]⟩, length, order, ?_⟩
  simp only [getVariableInfo, Requester.getVariableInfo, path, encoded, bind, Except.bind,
    RequestContext.request, reply, getVariableInfoReply_ofBuffer]
  split_ifs <;> rfl

end Answered

/-! ## Instances in increasing id order -/

section Sorted

variable {instances : List InstanceRecord}

theorem le_getLast_of_sorted (sorted : instances.Pairwise fun a b => a.id < b.id)
    (nonempty : instances ≠ []) :
    ∀ r ∈ instances, r.id ≤ (instances.getLast nonempty).id := by
  intro r mem
  rw [← List.dropLast_append_getLast nonempty] at sorted mem
  rcases List.mem_append.1 mem with before | last
  · exact ((List.pairwise_append.1 sorted).2.2 r before _ (List.mem_singleton_self _)).le
  · rw [List.mem_singleton.1 last]

/-- The loop over a non-empty page leaves `next_instance_id` one past the last
id, modulo `2^32`. -/
theorem foldl_next_eq_getLast :
    ∀ (page : List InstanceRecord) (nonempty : page ≠ []) (nextInstanceId : Nat),
    page.foldl (fun _ r => (r.id + 1) % 2 ^ 32) nextInstanceId =
      ((page.getLast nonempty).id + 1) % 2 ^ 32
  | [_], _, _ => rfl
  | first :: second :: page, _, _ =>
      foldl_next_eq_getLast (second :: page) (List.cons_ne_nil _ _) ((first.id + 1) % 2 ^ 32)

/-- Past a non-empty page of the instances from `cursor`, listed in increasing
id order, the instances from one past the page's last id are those after the
page. -/
theorem filter_after_page (sorted : instances.Pairwise fun a b => a.id < b.id)
    (cursor pageLength : Nat)
    (nonempty : (instances.filter fun r => cursor ≤ r.id).take pageLength ≠ []) :
    (instances.filter fun r =>
        (((instances.filter fun r => cursor ≤ r.id).take pageLength).getLast
          nonempty).id + 1 ≤ r.id) =
      (instances.filter fun r => cursor ≤ r.id).drop pageLength := by
  set pending := instances.filter fun r => cursor ≤ r.id with pendingEq
  set last := (pending.take pageLength).getLast nonempty
  have split : pending.take pageLength ++ pending.drop pageLength = pending :=
    List.take_append_drop ..
  have pendingSorted : pending.Pairwise fun a b => a.id < b.id := sorted.filter _
  rw [← split] at pendingSorted
  obtain ⟨pageSorted, -, across⟩ := List.pairwise_append.1 pendingSorted
  have lastMem : last ∈ pending.take pageLength := List.getLast_mem _
  have cursorLe : cursor ≤ last.id := by
    simpa using (List.mem_filter.1 (List.mem_of_mem_take lastMem)).2
  have narrowed : (instances.filter fun r => last.id + 1 ≤ r.id) =
      pending.filter fun r => last.id + 1 ≤ r.id := by
    rw [pendingEq, List.filter_filter]
    refine List.filter_congr fun r _ => ?_
    by_cases above : last.id + 1 ≤ r.id
    · have fromCursor : cursor ≤ r.id := by omega
      simp [above, fromCursor]
    · simp [above]
  calc (instances.filter fun r => last.id + 1 ≤ r.id)
      = (pending.take pageLength ++ pending.drop pageLength).filter
          fun r => last.id + 1 ≤ r.id := by rw [narrowed, split]
    _ = [] ++ pending.drop pageLength := by
        rw [List.filter_append, List.filter_eq_nil_iff.2, List.filter_eq_self.2]
        · exact fun r after => decide_eq_true (across last lastMem r after)
        · intro r mem
          have below : r.id ≤ last.id := le_getLast_of_sorted pageSorted nonempty r mem
          simp only [decide_eq_true_eq]
          omega
    _ = pending.drop pageLength := List.nil_append _

end Sorted

/-! ## The spec's honest controller -/

/-- What the spec assumes of an honest controller, as fields: a count reply
carrying the count in its bytes 2 and 3; the instances of each type, records
with any class and instance-id bytes and any padding, listed in increasing id
order with ids from `1` to `2^32 - 2`; two reserved bytes and one to 65535
instances per page, both chosen from the requests received before; a count at
most the number of instances; and, for every name, a descriptor at least as
long as its layout. -/
structure Honest (codes : DataTypeCodes) where
  count : Nat
  countReply : List UInt8
  system : List InstanceRecord
  user : List InstanceRecord
  pageLength : List (List UInt8) → Nat
  reserved : List (List UInt8) → List UInt8
  descriptor : List UInt8 → List UInt8
  countReply_length : 4 ≤ countReply.length
  countReply_count : ofLE ((countReply.drop 2).take 2) = count
  sorted : ∀ tagType : TagType, (tagType.instances system user).Pairwise fun a b => a.id < b.id
  valid : ∀ (tagType : TagType), ∀ r ∈ tagType.instances system user, 0 < r.id ∧ r.id + 1 < 2 ^ 32
  reserved_length : ∀ sent, (reserved sent).length = 2
  pageLength_pos : ∀ sent, 0 < pageLength sent
  pageLength_lt : ∀ sent, pageLength sent < 65536
  count_le : count ≤ system.length + user.length
  descriptor_fits : ∀ name, descriptorLength codes (descriptor name) ≤ (descriptor name).length

namespace Honest

variable {codes : DataTypeCodes} (h : Honest codes)

/-- The controller itself, its records laid out little-endian. -/
abbrev controller : Controller :=
  pagingController InstanceRecord.id (InstanceRecord.bytes .little) h.countReply h.system h.user
    h.pageLength h.reserved h.descriptor

/-- Every instance of a type is listed from the first cursor, `1`, on. -/
theorem filter_one_le (tagType : TagType) :
    ((tagType.instances h.system h.user).filter fun r => 1 ≤ r.id) =
      tagType.instances h.system h.user :=
  List.filter_eq_self.2 fun r mem => decide_eq_true (h.valid tagType r mem).1

end Honest

section Passes

variable (host : Endian) {codes : DataTypeCodes} (h : Honest codes) (tagType : TagType)

/-- A whole pass against an honest controller, from a cursor with fewer
instances from it than the fuel: it collects the names of those instances, in
id order. -/
theorem instancePass_honest (fuel : Nat) :
    ∀ (rc : RequestContext) (names : List (List UInt8)) (nextInstanceId : Nat),
      nextInstanceId < 2 ^ 32 → 18 ≤ rc.serializer.buffer.length →
      rc.serializer.endianess = .little →
      ((tagType.instances h.system h.user).filter fun r => nextInstanceId ≤ r.id).length < fuel →
      ∃ rc', Requester.instancePass host (RequestContext.request h.controller) tagType fuel rc names
          nextInstanceId =
          .ok (names ++ ((tagType.instances h.system h.user).filter fun r =>
            nextInstanceId ≤ r.id).map (·.name), rc') ∧
        rc'.serializer.buffer.length = rc.serializer.buffer.length ∧
        rc'.serializer.endianess = .little := by
  induction fuel with
  | zero => exact fun _ _ _ _ _ _ enough => absurd enough (Nat.not_lt_zero _)
  | succ fuel inductionHypothesis =>
      intro rc names nextInstanceId idLt room little enough
      obtain ⟨rc₁, length₁, little₁, step⟩ := instancePass_answered host h.controller tagType fuel rc
        names nextInstanceId room little (pagingController_getAllInstances _ _ _ _ _ _ _ _ _ _ _ idLt)
        (h.reserved_length _) ((List.length_take_le _ _).trans_lt (h.pageLength_lt _))
      rw [step]
      by_cases empty :
          honestPage InstanceRecord.id h.system h.user h.pageLength tagType rc.sent nextInstanceId = []
      · have none := (List.take_eq_nil_iff.1 empty).resolve_left (h.pageLength_pos _).ne'
        rw [if_pos (List.isEmpty_iff.2 empty)]
        exact ⟨rc₁, by rw [none, List.map_nil, List.append_nil], length₁, little₁⟩
      · rw [if_neg (by simpa using empty)]
        have lastValid := h.valid tagType _
          (List.mem_of_mem_filter (List.mem_of_mem_take (List.getLast_mem empty)))
        dsimp only [honestPage] at empty lastValid ⊢
        have after :=
          filter_after_page (h.sorted tagType) nextInstanceId (h.pageLength rc.sent) empty
        have shorter := List.length_pos.2 empty
        simp only [List.length_take] at shorter
        obtain ⟨rc', run, length', little'⟩ := inductionHypothesis rc₁ _ _ lastValid.2
          (length₁ ▸ room) little₁ (by rw [after, List.length_drop]; omega)
        refine ⟨rc', ?_, length'.trans length₁, little'⟩
        rw [foldl_next_eq_getLast _ empty, Nat.mod_eq_of_lt lastValid.2, run, after,
          List.append_assoc, ← List.map_append, List.take_append_drop]

end Passes

section Resolve

variable {codes : DataTypeCodes} (h : Honest codes) (host : Endian)

/-- The last loop against an honest controller: `count` names from index `i`
on, each of at most 255 bytes, are resolved in order. -/
theorem resolveVariables_honest (names : List (List UInt8))
    (short : ∀ name ∈ names, name.length ≤ 255) (count : Nat) :
    ∀ (i : Nat) (rc : RequestContext), i + count ≤ names.length →
      260 ≤ rc.serializer.buffer.length →
      ∃ rc', Requester.resolveVariables host codes (RequestContext.request h.controller) names
          count i rc =
        .ok (((names.drop i).take count).map fun name =>
          descriptorOf codes name (h.descriptor name), rc') := by
  induction count with
  | zero => exact fun i rc _ _ => ⟨rc, by simp [Requester.resolveVariables]⟩
  | succ count inductionHypothesis =>
      intro i rc inside room
      have index : i < names.length := by omega
      obtain ⟨rc₁, length₁, -, resolved⟩ := getVariableInfo_answered host codes h.controller rc
        names[i] (short _ (List.getElem_mem index)) room
        (pagingController_name _ _ _ _ _ _ _ _ _ _ (short _ (List.getElem_mem index)))
      rw [if_pos (h.descriptor_fits _), getVariableInfo] at resolved
      obtain ⟨rc', rest⟩ := inductionHypothesis (i + 1) rc₁ (by omega) (length₁ ▸ room)
      refine ⟨rc', ?_⟩
      rw [Requester.resolveVariables, dif_pos index]
      simp only [resolved, rest, bind, Except.bind, pure, Except.pure,
        List.drop_eq_getElem_cons index, List.take_succ_cons, List.map_cons]

end Resolve

/-! ## The whole enumeration -/

theorem getVariablesFast_honest_run (host : Endian) (codes : DataTypeCodes) (h : Honest codes)
    (fuel : Nat) (rc : RequestContext) (enough : h.system.length < fuel ∧ h.user.length < fuel)
    (room : 260 ≤ rc.serializer.buffer.length) (little : rc.serializer.endianess = .little) :
    ∃ rc', getVariablesFast host codes h.controller fuel rc =
      .ok ((((h.system ++ h.user).map (·.name)).take h.count).map fun name =>
        descriptorOf codes name (h.descriptor name), rc') := by
  have short : ∀ name ∈ (h.system ++ h.user).map (·.name), name.length ≤ 255 := by
    simp only [List.mem_map]
    rintro name ⟨r, -, rfl⟩
    exact r.name_short
  obtain ⟨rc₁, counted, length₁, order₁⟩ := getNumVariables_answered host h.controller rc
    (by omega) (pagingController_count ..) h.countReply_length
  rw [h.countReply_count, getNumVariables] at counted
  obtain ⟨rc₂, system, length₂, little₂⟩ := instancePass_honest host h .system fuel rc₁ [] 1
    (by decide) (by omega) (order₁.trans little) (by rw [h.filter_one_le]; exact enough.1)
  obtain ⟨rc₃, user, length₃, -⟩ :=
    instancePass_honest host h .user fuel rc₂ (h.system.map (·.name)) 1 (by decide) (by omega)
      little₂ (by rw [h.filter_one_le]; exact enough.2)
  rw [h.filter_one_le] at system user
  obtain ⟨rc₄, resolved⟩ := resolveVariables_honest h host _ short h.count 0 rc₃
    (by simpa using h.count_le) (by omega)
  simp only [TagType.instances, List.nil_append, List.map_append] at system user resolved
  refine ⟨rc₄, ?_⟩
  simp only [getVariablesFast, Requester.getVariablesFast, counted, system, user, resolved, bind,
    Except.bind, List.drop_zero, List.map_append]

/-- Against an honest controller, whatever class and instance-id bytes and
padding its records carry and whatever its reserved bytes, on a little-endian
send buffer of at least 260 bytes and with more fuel than instances of either
type, `get_variables_fast` returns the descriptors of the first `count` names
listed, System names before User names, each as the controller's answer to
that name lays it out. -/
theorem getVariablesFast_honest (host : Endian) (codes : DataTypeCodes) (h : Honest codes)
    (fuel : Nat) (rc : RequestContext) (enough : h.system.length < fuel ∧ h.user.length < fuel)
    (room : 260 ≤ rc.serializer.buffer.length) (little : rc.serializer.endianess = .little) :
    (getVariablesFast host codes h.controller fuel rc).map Prod.fst =
      .ok ((((h.system ++ h.user).map (·.name)).take h.count).map fun name =>
        descriptorOf codes name (h.descriptor name)) := by
  obtain ⟨rc', run⟩ := getVariablesFast_honest_run host codes h fuel rc enough room little
  rw [run]
  rfl

/-- A controller announcing two of its three variables: one System and two
User instances, ids far apart, on pages of one instance.  Each record carries
the class byte `0x6B`, a zero byte and its id again, and one byte of padding;
the reserved bytes are `0xFFFF`, and two more bytes follow the count.  The name
`B` is an array of three `INT`s from index 1, every other name a `DINT`. -/
def Honest.twoOfThree : Honest .declarationOrder where
  count := 2
  countReply := [0, 0, 2, 0, 0x55, 0x55]
  system := [⟨1, [0x41], [0x6B, 0, 1, 0, 0, 0], [0], by decide, by decide, by decide, by decide⟩]
  user := [⟨3, [0x42], [0x6B, 0, 3, 0, 0, 0], [0], by decide, by decide, by decide, by decide⟩,
    ⟨0x10000, [0x43], [0x6B, 0, 0, 0, 1, 0], [0], by decide, by decide, by decide, by decide⟩]
  pageLength := fun _ => 1
  reserved := fun _ => [0xFF, 0xFF]
  descriptor := fun name =>
    if name = [0x42] then [2, 0, 0, 0, 24, 7, 1, 0, 3, 0, 0, 0] ++ List.replicate 16 0 ++ [1, 0, 0, 0]
    else [4, 0, 0, 0, 8]
  countReply_length := by decide
  countReply_count := by decide
  sorted := by intro tagType; cases tagType <;> decide
  valid := by intro tagType; cases tagType <;> decide
  reserved_length := fun _ => rfl
  pageLength_pos := fun _ => Nat.one_pos
  pageLength_lt := fun _ => show 1 < 65536 by decide
  count_le := by decide
  descriptor_fits := fun name => by
    dsimp only
    split <;> decide

theorem getVariablesFast_honest_twoOfThree :
    (getVariablesFast .little .declarationOrder Honest.twoOfThree.controller 3
        (.fresh 260 (by decide))).map Prod.fst =
      .ok [⟨[0x41], 8, 4, none⟩, ⟨[0x42], 24, 6, some ⟨7, 2, [3], [1]⟩⟩] := by
  rw [getVariablesFast_honest .little .declarationOrder Honest.twoOfThree 3 (.fresh 260 (by decide))
    ⟨by decide, by decide⟩ (List.length_replicate ..).ge rfl]
  rfl

/-! ## An id at the top of the `uint32_t` range -/

section WrappedId

/-- The user instance of id `0xFFFFFFFF` and name `A`, as `zeroLayout` lays it
out. -/
def wrappedRecord : InstanceRecord :=
  ⟨0xFFFFFFFF, [0x41], List.replicate 6 0, [], by decide, by decide, by decide, by decide⟩

theorem honestPage_wrappedId (tagType : TagType) (sent : List (List UInt8)) (nextInstanceId : Nat)
    (low : nextInstanceId = 0 ∨ nextInstanceId = 1) :
    honestPage Prod.fst ([] : List (Nat × List UInt8)) [(0xFFFFFFFF, [0x41])] (fun _ => 1) tagType
        sent nextInstanceId =
      tagType.instances [] [(0xFFFFFFFF, [0x41])] := by
  rcases low with rfl | rfl <;> cases tagType <;> rfl

/-- One request of either pass from cursor `0` or `1`: the page lists the
user instance, if any, and its id `0xFFFFFFFF` makes `next_instance_id` wrap
to `0`. -/
theorem instancePass_wrappedId_succ (tagType : TagType) (fuel : Nat) (rc : RequestContext)
    (names : List (List UInt8)) (nextInstanceId : Nat)
    (low : nextInstanceId = 0 ∨ nextInstanceId = 1) (room : rc.serializer.buffer.length = 64)
    (little : rc.serializer.endianess = .little) :
    ∃ rc', rc'.serializer.buffer.length = 64 ∧ rc'.serializer.endianess = .little ∧
      Requester.instancePass .little (RequestContext.request
          (honestController 1 [] [(0xFFFFFFFF, [0x41])] (fun _ => 1) fun _ => [4, 0, 0, 0, 8]))
          tagType (fuel + 1) rc names nextInstanceId =
        match tagType with
        | .system => .ok (names, rc')
        | .user => Requester.instancePass .little (RequestContext.request
            (honestController 1 [] [(0xFFFFFFFF, [0x41])] (fun _ => 1) fun _ => [4, 0, 0, 0, 8]))
            .user fuel rc' (names ++ [[0x41]]) 0 := by
  have answered : honestController 1 [] [(0xFFFFFFFF, [0x41])] (fun _ => 1)
      (fun _ => [4, 0, 0, 0, 8]) rc.sent (getAllInstancesRequest .little nextInstanceId tagType) =
      .ok (instancePage (InstanceRecord.bytes .little) [0, 0]
        (tagType.instances [] [wrappedRecord])) := by
    rw [honestController, pagingController_getAllInstances _ _ _ _ _ _ _ _ _ _ _ (by omega),
      honestPage_wrappedId _ _ _ low]
    cases tagType <;> rfl
  obtain ⟨rc', length', little', step⟩ := instancePass_answered .little _ tagType fuel rc names
    nextInstanceId (by omega) little answered rfl (by cases tagType <;> decide)
  refine ⟨rc', length'.trans room, little', ?_⟩
  rw [step]
  cases tagType <;> rfl

theorem instancePass_wrappedId_loops (fuel : Nat) :
    ∀ (rc : RequestContext) (names : List (List UInt8)) (nextInstanceId : Nat),
      (nextInstanceId = 0 ∨ nextInstanceId = 1) → rc.serializer.buffer.length = 64 →
      rc.serializer.endianess = .little →
      Requester.instancePass .little (RequestContext.request
          (honestController 1 [] [(0xFFFFFFFF, [0x41])] (fun _ => 1) fun _ => [4, 0, 0, 0, 8]))
        .user fuel rc names nextInstanceId = .error .outOfFuel := by
  induction fuel with
  | zero => intro rc names nextInstanceId _ _ _; rfl
  | succ fuel inductionHypothesis =>
      intro rc names nextInstanceId low room little
      obtain ⟨rc', room', little', step⟩ :=
        instancePass_wrappedId_succ .user fuel rc names nextInstanceId low room little
      rw [step]
      exact inductionHypothesis rc' _ 0 (.inl rfl) room' little'

/-- A controller holding one user instance, of id `0xFFFFFFFF`, and announcing
one variable: `get_variables_fast` requests pages without end. -/
theorem getVariablesFast_wrappedId (fuel : Nat) :
    getVariablesFast .little .declarationOrder
        (honestController 1 [] [(0xFFFFFFFF, [0x41])] (fun _ => 1) fun _ => [4, 0, 0, 0, 8])
        fuel (.fresh 64 (by decide)) =
      .error .outOfFuel := by
  obtain ⟨rc, counted, room, little⟩ := getNumVariables_answered .little
    (honestController 1 [] [(0xFFFFFFFF, [0x41])] (fun _ => 1) fun _ => [4, 0, 0, 0, 8])
    (.fresh 64 (by decide)) (by decide) (pagingController_count ..) (by decide)
  rw [getNumVariables] at counted
  rw [getVariablesFast, Requester.getVariablesFast]
  cases fuel with
  | zero => simp only [counted, bind, Except.bind]; rfl
  | succ fuel =>
      obtain ⟨rc', room', little', system⟩ :=
        instancePass_wrappedId_succ .system fuel rc [] 1 (.inr rfl) room little
      simp only [counted, bind, Except.bind, system,
        instancePass_wrappedId_loops (fuel + 1) rc' [] 1 (.inr rfl) room' little']

end WrappedId

/-- A controller announcing two variables but listing one name: the last loop
of `get_variables_fast` reads `names[1]` of a vector of one name. -/
theorem getVariablesFast_fewerNames (fuel : Nat) :
    getVariablesFast .little .declarationOrder
        (honestController 2 [] [(1, [0x41])] (fun _ => 1) fun _ => [4, 0, 0, 0, 8])
      (fuel + 2) (.fresh 64 (by decide)) = .error (.outOfRange 1 1) :=
  rfl

/-- A controller whose second System page is one byte long: `read<uint16_t>`
fails and yields 0, the pass ends as on an empty page, and
`get_variables_fast` returns the variable of the first page without error. -/
theorem getVariablesFast_truncatedPage :
    (getVariablesFast .little .declarationOrder
        (fun sent request =>
          if request.head? = some 0x5F ∧ ofLE ((request.drop 8).take 4) ≠ 1 then .ok [0x00]
          else
            honestController 1 [(1, [0x41])] [] (fun _ => 1) (fun _ => [4, 0, 0, 0, 8]) sent
              request)
        2 (.fresh 64 (by decide))).map Prod.fst =
      .ok [⟨[0x41], 8, 4, none⟩] :=
  rfl

end OmronDiscovery
