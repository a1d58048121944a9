/-
The sequence numbers of the requests of a session.

ENQUIRE_LINK is numbered from 0x10000000 and DELIVER_SM from 0x20000000, each
by a counter of 32 bits.  The two ranges stay apart as long as the first does
not run into the second and the second does not wrap.
-/

import Mathlib.Algebra.Ring.Nat
import Mathlib.Data.List.Nodup
import OpenSmsc.Client.Requests

namespace OpenSmsc.SmppSession

open Foundation Smpp

variable {Number : Type}

def requests (past : List (Machine.Entry (Session Number) Event Effect)) :
    List Header :=
  past.flatMap fun entry => requestsIn entry.outputs

def requestsOf (commandId : UInt32)
    (past : List (Machine.Entry (Session Number) Event Effect)) :
    List Header :=
  (requests past).filter fun hdr => hdr.commandId == commandId

def returned (past : List (Machine.Entry (Session Number) Event Effect)) :
    List UInt32 :=
  past.flatMap fun entry => returnedIn entry.outputs

/-- Each kind of request is numbered from its own start. -/
def InRange (enquiries deliveries : Nat) (hdr : Header) : Prop :=
  (hdr.commandId = enquireLink ∧
      0x10000000 ≤ hdr.sequenceNumber.toNat ∧
      hdr.sequenceNumber.toNat < 0x10000000 + enquiries) ∨
    (hdr.commandId = Smpp.deliverSm ∧
      0x20000000 ≤ hdr.sequenceNumber.toNat ∧
      hdr.sequenceNumber.toNat < 0x20000000 + deliveries)

theorem InRange.mono {enquiries deliveries enquiries' deliveries' : Nat}
    {hdr : Header} (range : InRange enquiries deliveries hdr)
    (moreEnquiries : enquiries ≤ enquiries')
    (moreDeliveries : deliveries ≤ deliveries') :
    InRange enquiries' deliveries' hdr := by
  rcases range with ⟨isEnquiry, low, high⟩ | ⟨isDelivery, low, high⟩
  · exact .inl ⟨isEnquiry, low, by omega⟩
  · exact .inr ⟨isDelivery, low, by omega⟩

def enquiries
    (past : List (Machine.Entry (Session Number) Event Effect)) : Nat :=
  (requestsOf enquireLink past).length

def deliveries
    (past : List (Machine.Entry (Session Number) Event Effect)) : Nat :=
  (requestsOf Smpp.deliverSm past).length

/-- No more requests of either kind than its range has numbers. -/
structure WithinRanges
    (past : List (Machine.Entry (Session Number) Event Effect)) : Prop where
  enquiries : enquiries past ≤ 2 ^ 28
  deliveries : deliveries past ≤ 0xE0000000

/-- The numbers used so far, and what the counters will use next. -/
structure Numbering (s : Session Number)
    (past : List (Machine.Entry (Session Number) Event Effect)) : Prop where
  elSeq : s.elSeq.toNat =
    if enquiries past = 0 then 0 else 0x0FFFFFFF + enquiries past
  deliverSeq : s.deliverSeq = UInt32.ofNat (0x20000000 + deliveries past)
  inRange : ∀ hdr ∈ requests past,
    InRange (enquiries past) (deliveries past) hdr
  distinct : ((requests past).map (·.sequenceNumber)).Nodup
  returnedAll : returned past =
    (requestsOf Smpp.deliverSm past).map (·.sequenceNumber)
  elSeqBelow : ∀ entry ∈ past, entry.before.elSeq.toNat < 0x20000000

section Growing

variable {s : Session Number}
  {past : List (Machine.Entry (Session Number) Event Effect)}
  {entry : Machine.Entry (Session Number) Event Effect}

theorem requests_concat
    (past : List (Machine.Entry (Session Number) Event Effect))
    (entry : Machine.Entry (Session Number) Event Effect) :
    requests (past ++ [entry]) =
      requests past ++ requestsIn entry.outputs := by
  unfold requests
  rw [List.flatMap_append, List.flatMap_singleton]

theorem requestsOf_concat (commandId : UInt32)
    (past : List (Machine.Entry (Session Number) Event Effect))
    (entry : Machine.Entry (Session Number) Event Effect) :
    requestsOf commandId (past ++ [entry]) =
      requestsOf commandId past ++
        (requestsIn entry.outputs).filter fun hdr =>
          hdr.commandId == commandId := by
  unfold requestsOf
  rw [requests_concat, List.filter_append]

theorem returned_concat
    (past : List (Machine.Entry (Session Number) Event Effect))
    (entry : Machine.Entry (Session Number) Event Effect) :
    returned (past ++ [entry]) =
      returned past ++ returnedIn entry.outputs := by
  unfold returned
  rw [List.flatMap_append, List.flatMap_singleton]

theorem requestsOf_concat_same {hdr : Header} {commandId : UInt32}
    (isRequest : requestsIn entry.outputs = [hdr])
    (same : hdr.commandId = commandId) :
    requestsOf commandId (past ++ [entry]) =
      requestsOf commandId past ++ [hdr] := by
  rw [requestsOf_concat, isRequest, List.filter_cons, same,
    beq_self_eq_true]
  rfl

theorem requestsOf_concat_other {hdr : Header} {commandId : UInt32}
    (isRequest : requestsIn entry.outputs = [hdr])
    (other : hdr.commandId ≠ commandId) :
    requestsOf commandId (past ++ [entry]) = requestsOf commandId past := by
  rw [requestsOf_concat, isRequest, List.filter_cons,
    beq_eq_false_iff_ne.mpr other]
  exact List.append_nil _

theorem WithinRanges.front (within : WithinRanges (past ++ [entry])) :
    WithinRanges past := by
  obtain ⟨fewEnquiries, fewDeliveries⟩ := within
  unfold SmppSession.enquiries at fewEnquiries
  unfold SmppSession.deliveries at fewDeliveries
  rw [requestsOf_concat, List.length_append] at fewEnquiries fewDeliveries
  exact ⟨Nat.le_of_add_right_le fewEnquiries,
    Nat.le_of_add_right_le fewDeliveries⟩

theorem Numbering.elSeqBelow_concat (numbering : Numbering s past)
    (within : enquiries past ≤ 2 ^ 28) (isBefore : entry.before = s) :
    ∀ other ∈ past ++ [entry], other.before.elSeq.toNat < 0x20000000 := by
  have isSeq := numbering.elSeq
  intro other member
  rcases List.mem_append.mp member with old | new
  · exact numbering.elSeqBelow other old
  · rw [List.mem_singleton.mp new, isBefore]
    split at isSeq <;> omega

theorem Numbering.distinct_concat (numbering : Numbering s past)
    {hdr : Header} (isRequest : requestsIn entry.outputs = [hdr])
    (fresh : ∀ other ∈ requests past,
      other.sequenceNumber.toNat ≠ hdr.sequenceNumber.toNat) :
    ((requests (past ++ [entry])).map (·.sequenceNumber)).Nodup := by
  rw [requests_concat, isRequest, List.map_append, List.map_singleton]
  refine List.nodup_append.mpr ⟨numbering.distinct, by simp, ?_⟩
  intro used usedAt last lastAt same
  obtain ⟨other, member, isUsed⟩ := List.mem_map.mp usedAt
  rw [List.mem_singleton.mp lastAt, ← isUsed] at same
  exact fresh other member (congrArg UInt32.toNat same)

theorem Numbering.inRange_concat (numbering : Numbering s past)
    {hdr : Header} (isRequest : requestsIn entry.outputs = [hdr])
    (moreEnquiries : enquiries past ≤ enquiries (past ++ [entry]))
    (moreDeliveries : deliveries past ≤ deliveries (past ++ [entry]))
    (range : InRange (enquiries (past ++ [entry]))
      (deliveries (past ++ [entry])) hdr) :
    ∀ other ∈ requests (past ++ [entry]),
      InRange (enquiries (past ++ [entry]))
        (deliveries (past ++ [entry])) other := by
  intro other member
  rw [requests_concat, isRequest] at member
  rcases List.mem_append.mp member with old | new
  · exact (numbering.inRange other old).mono moreEnquiries moreDeliveries
  · rw [List.mem_singleton.mp new]
    exact range

theorem Numbering.keep (numbering : Numbering s past)
    (within : WithinRanges (past ++ [entry])) (isBefore : entry.before = s)
    {after : Session Number} (sameElSeq : after.elSeq = s.elSeq)
    (sameDeliverSeq : after.deliverSeq = s.deliverSeq)
    (noRequest : requestsIn entry.outputs = [])
    (noReturn : returnedIn entry.outputs = []) :
    Numbering after (past ++ [entry]) := by
  have sameRequests : requests (past ++ [entry]) = requests past := by
    rw [requests_concat, noRequest, List.append_nil]
  have sameOf (commandId : UInt32) :
      requestsOf commandId (past ++ [entry]) = requestsOf commandId past := by
    unfold requestsOf
    rw [sameRequests]
  have sameEnquiries : enquiries (past ++ [entry]) = enquiries past :=
    congrArg List.length (sameOf enquireLink)
  have sameDeliveries : deliveries (past ++ [entry]) = deliveries past :=
    congrArg List.length (sameOf Smpp.deliverSm)
  refine
    { elSeq := ?_
      deliverSeq := ?_
      inRange := ?_
      distinct := ?_
      returnedAll := ?_
      elSeqBelow :=
        numbering.elSeqBelow_concat within.front.enquiries isBefore }
  · rw [sameElSeq, sameEnquiries]
    exact numbering.elSeq
  · rw [sameDeliverSeq, sameDeliveries]
    exact numbering.deliverSeq
  · rw [sameRequests, sameEnquiries, sameDeliveries]
    exact numbering.inRange
  · rw [sameRequests]
    exact numbering.distinct
  · rw [returned_concat, noReturn, List.append_nil, sameOf]
    exact numbering.returnedAll

theorem Numbering.nextElSeq_toNat (numbering : Numbering s past)
    (within : enquiries past < 2 ^ 28) :
    (nextElSeq s.elSeq).toNat = 0x10000000 + enquiries past := by
  have isSeq := numbering.elSeq
  unfold nextElSeq
  by_cases first : enquiries past = 0
  · rw [if_pos first] at isSeq
    have isZero : s.elSeq = 0 := UInt32.toNat_inj.mp isSeq
    rw [if_pos isZero, first]
    rfl
  · rw [if_neg first] at isSeq
    have notZero : s.elSeq ≠ 0 := by
      intro isZero
      rw [isZero] at isSeq
      change 0 = _ at isSeq
      omega
    rw [if_neg notZero, UInt32.toNat_add, isSeq]
    change (0x0FFFFFFF + enquiries past + 1) % 2 ^ 32 = _
    omega

theorem Numbering.enquire (numbering : Numbering s past)
    (within : WithinRanges (past ++ [entry])) (isBefore : entry.before = s)
    {hdr : Header} (isRequest : requestsIn entry.outputs = [hdr])
    (isEnquiry : hdr.commandId = enquireLink)
    (isSeq : hdr.sequenceNumber = nextElSeq s.elSeq)
    (noReturn : returnedIn entry.outputs = []) :
    Numbering { s with elSeq := nextElSeq s.elSeq, elPending := true }
      (past ++ [entry]) := by
  have otherKind : hdr.commandId ≠ Smpp.deliverSm := by
    rw [isEnquiry]
    decide
  have sameDeliverSms : requestsOf Smpp.deliverSm (past ++ [entry]) =
      requestsOf Smpp.deliverSm past :=
    requestsOf_concat_other isRequest otherKind
  have sameDeliveries : deliveries (past ++ [entry]) = deliveries past :=
    congrArg List.length sameDeliverSms
  have oneMore : enquiries (past ++ [entry]) = enquiries past + 1 := by
    unfold enquiries
    rw [requestsOf_concat_same isRequest isEnquiry]
    exact List.length_append
  have fewEnquiries := within.enquiries
  have isNext : (nextElSeq s.elSeq).toNat = 0x10000000 + enquiries past :=
    numbering.nextElSeq_toNat (by omega)
  have seqToNat : hdr.sequenceNumber.toNat = 0x10000000 + enquiries past := by
    rw [isSeq, isNext]
  refine
    { elSeq := ?_
      deliverSeq := ?_
      inRange := numbering.inRange_concat isRequest (by omega) (by omega)
        (.inl ⟨isEnquiry, by omega, by omega⟩)
      distinct := numbering.distinct_concat isRequest ?_
      returnedAll := ?_
      elSeqBelow :=
        numbering.elSeqBelow_concat within.front.enquiries isBefore }
  · rw [oneMore, if_neg (Nat.succ_ne_zero _)]
    change (nextElSeq s.elSeq).toNat = _
    omega
  · rw [sameDeliveries]
    exact numbering.deliverSeq
  · -- Earlier enquiries are below, deliveries start above.
    intro other member
    have range := numbering.inRange other member
    unfold InRange at range
    omega
  · rw [returned_concat, noReturn, List.append_nil, sameDeliverSms]
    exact numbering.returnedAll

theorem Numbering.deliver (numbering : Numbering s past)
    (within : WithinRanges (past ++ [entry])) (isBefore : entry.before = s)
    {hdr : Header} (isRequest : requestsIn entry.outputs = [hdr])
    (isDelivery : hdr.commandId = Smpp.deliverSm)
    (isSeq : hdr.sequenceNumber = s.deliverSeq)
    (isReturn : returnedIn entry.outputs = [s.deliverSeq]) :
    Numbering { s with deliverSeq := s.deliverSeq + 1 }
      (past ++ [entry]) := by
  have otherKind : hdr.commandId ≠ enquireLink := by
    rw [isDelivery]
    decide
  have sameEnquiries : enquiries (past ++ [entry]) = enquiries past :=
    congrArg List.length (requestsOf_concat_other isRequest otherKind)
  have nextDelivery : requestsOf Smpp.deliverSm (past ++ [entry]) =
      requestsOf Smpp.deliverSm past ++ [hdr] :=
    requestsOf_concat_same isRequest isDelivery
  have oneMore : deliveries (past ++ [entry]) = deliveries past + 1 := by
    unfold deliveries
    rw [nextDelivery]
    exact List.length_append
  have fewEnquiries := within.enquiries
  have fewDeliveries := within.deliveries
  have seqToNat :
      hdr.sequenceNumber.toNat = 0x20000000 + deliveries past := by
    rw [isSeq, numbering.deliverSeq, UInt32.toNat_ofNat']
    omega
  refine
    { elSeq := ?_
      deliverSeq := ?_
      inRange := numbering.inRange_concat isRequest (by omega) (by omega)
        (.inr ⟨isDelivery, by omega, by omega⟩)
      distinct := numbering.distinct_concat isRequest ?_
      returnedAll := ?_
      elSeqBelow :=
        numbering.elSeqBelow_concat within.front.enquiries isBefore }
  · rw [sameEnquiries]
    exact numbering.elSeq
  · rw [oneMore, ← Nat.add_assoc, UInt32.ofNat_add, ← numbering.deliverSeq]
    rfl
  · intro other member
    have range := numbering.inRange other member
    unfold InRange at range
    omega
  · rw [returned_concat, isReturn, numbering.returnedAll, nextDelivery,
      List.map_append, List.map_singleton, isSeq]

theorem Numbering.returned_once (numbering : Numbering s past) :
    ∀ value ∈ returned past,
      ((requestsOf Smpp.deliverSm past).map (·.sequenceNumber)).count value =
        1 := by
  intro value member
  rw [numbering.returnedAll] at member
  have distinct :
      ((requestsOf Smpp.deliverSm past).map (·.sequenceNumber)).Nodup :=
    numbering.distinct.sublist (List.filter_sublist.map _)
  exact List.count_eq_one_of_mem distinct member

end Growing

/-! ### Runs -/

section Runs

variable [TokenArith Number]

theorem create_numbering (config : Config) :
    Numbering (create config : Session Number) [] := by
  refine
    { elSeq := ?_
      deliverSeq := ?_
      inRange := ?_
      distinct := List.nodup_nil
      returnedAll := rfl
      elSeqBelow := ?_ }
  · rfl
  · have noDelivery : deliveries
        ([] : List (Machine.Entry (Session Number) Event Effect)) = 0 := rfl
    rw [noDelivery]
    rfl
  · intro hdr member
    exact absurd member List.not_mem_nil
  · intro entry member
    exact absurd member List.not_mem_nil

theorem Numbering.step {s : Session Number}
    {past : List (Machine.Entry (Session Number) Event Effect)}
    (numbering : Numbering s past) (event : Event)
    (within : WithinRanges (past ++ [machine.entry s event])) :
    Numbering (SmppSession.step s event).1
      (past ++ [machine.entry s event]) := by
  have isOutput {outputs : List Effect} {after : Session Number}
      (isResult : SmppSession.step s event = (after, outputs)) :
      (machine.entry s event).outputs = outputs :=
    congrArg Prod.snd isResult
  cases step_requested s event with
  | quiet isQuiet notDue unanswered =>
      exact numbering.keep within rfl isQuiet.elSeq isQuiet.deliverSeq
        isQuiet.requests isQuiet.returned
  | enquires due isResult =>
      obtain ⟨hdr, isEnquiry, isSeq, isRequest⟩ := requestsIn_enquiry
        (nextElSeq s.elSeq)
        [.asyncWait .enquireLinkTimeout s.elTimeoutSec] rfl
      rw [← isOutput isResult] at isRequest
      have noReturn : returnedIn (machine.entry s event).outputs = [] := by
        rw [isOutput isResult]
        rfl
      rw [isResult]
      exact numbering.enquire within rfl isRequest isEnquiry isSeq noReturn
  | answered answers isResult =>
      have noRequest : requestsIn (machine.entry s event).outputs = [] := by
        rw [isOutput isResult]
        rfl
      have noReturn : returnedIn (machine.entry s event).outputs = [] := by
        rw [isOutput isResult]
        rfl
      rw [isResult]
      exact numbering.keep within rfl rfl rfl noRequest noReturn
  | delivers srcAddr dstAddr shortMessage isDelivery isResult =>
      obtain ⟨hdr, isDeliverSm, isSeq, isRequest⟩ := requestsIn_delivery
        s.deliverSeq srcAddr dstAddr shortMessage
        [.returnDeliverSm s.deliverSeq] rfl
      rw [← isOutput isResult] at isRequest
      have isReturn : returnedIn (machine.entry s event).outputs =
          [s.deliverSeq] := by
        rw [isOutput isResult]
        rfl
      rw [isResult]
      exact numbering.deliver within rfl isRequest isDeliverSm isSeq isReturn

theorem run_numbering (config : Config) (events : List Event)
    (within : WithinRanges
      (machine.history (create config : Session Number) events)) :
    Numbering (machine.final (create config) events)
      (machine.history (create config : Session Number) events) := by
  have conditional := machine.history_rule
    (fun s past => WithinRanges past → Numbering s past)
    (create config : Session Number) (fun _ => create_numbering config)
    (fun s past event numbering withinNext =>
      (numbering withinNext.front).step event withinNext)
    events
  exact conditional within

/-- The numbers of the requests a session made, and what a peer can do with
them. -/
structure NumbersApart
    (past : List (Machine.Entry (Session Number) Event Effect)) : Prop where
  nonzero : ∀ hdr ∈ requests past, hdr.sequenceNumber ≠ 0
  distinct : ((requests past).map (·.sequenceNumber)).Nodup
  returnedOnce : ∀ value ∈ returned past,
    ((requestsOf Smpp.deliverSm past).map (·.sequenceNumber)).count value = 1
  neverClears : ∀ entry ∈ past, ∀ env hdr body,
    dispatched entry.event = some (env, hdr, body) →
      hdr.commandId = enquireLinkResp →
      hdr.sequenceNumber ∈
        (requestsOf Smpp.deliverSm past).map (·.sequenceNumber) →
      entry.after.elPending = entry.before.elPending

theorem step_elPending_of_ne (s : Session Number) {event : Event} {env : Env}
    {hdr : Header} {body : Octets}
    (pdu : dispatched event = some (env, hdr, body))
    (different : hdr.sequenceNumber ≠ s.elSeq) :
    (step s event).1.elPending = s.elPending := by
  cases step_requested s event with
  | quiet isQuiet notDue unanswered => exact isQuiet.elPending
  | enquires due isResult =>
      rw [due.1] at pdu
      cases pdu
  | answered answers isResult =>
      obtain ⟨_, _, _, samePdu, _, same, _⟩ := answers
      rw [pdu] at samePdu
      cases samePdu
      exact absurd same different
  | delivers srcAddr dstAddr shortMessage isDelivery isResult =>
      rw [isResult]

theorem request_numbers_apart (config : Config) (events : List Event)
    (within : WithinRanges
      (machine.history (create config : Session Number) events)) :
    NumbersApart
      (machine.history (create config : Session Number) events) := by
  have numbering := run_numbering config events within
  have unanswered := machine.each_step_rule
    (fun entry => ∀ env hdr body,
      dispatched entry.event = some (env, hdr, body) →
        hdr.sequenceNumber ≠ entry.before.elSeq →
        entry.after.elPending = entry.before.elPending)
    (fun s event env hdr body pdu different =>
      step_elPending_of_ne s pdu different)
    (create config : Session Number) events
  refine
    { nonzero := ?_
      distinct := numbering.distinct
      returnedOnce := numbering.returned_once
      neverClears := ?_ }
  · intro hdr member isZero
    have range := numbering.inRange hdr member
    rw [InRange, isZero] at range
    change (_ ∧ 0x10000000 ≤ 0 ∧ _) ∨ (_ ∧ 0x20000000 ≤ 0 ∧ _) at range
    omega
  · intro entry member env hdr body pdu isResponse isDelivery
    apply unanswered entry member env hdr body pdu
    intro same
    obtain ⟨delivery, isRequest, sameNumber⟩ := List.mem_map.mp isDelivery
    obtain ⟨sent, isDeliverSm⟩ := List.mem_filter.mp isRequest
    have below := numbering.elSeqBelow entry member
    rw [← same, ← sameNumber] at below
    rcases numbering.inRange delivery sent with
      ⟨isEnquiry, _⟩ | ⟨_, above, _⟩
    · rw [isEnquiry] at isDeliverSm
      contradiction
    · omega

end Runs

theorem request_numbers_apart_bound :
    let config : Config := { uuid := text "u", clientIp := [] }
    let env : Env :=
      { authenticate := fun _ _ _ _ => some (true, esmeRok)
        systemClock := 0
        steadyClock := 0 }
    let pdu (commandId : UInt32) : Header := ⟨17, commandId, 0, 7⟩
    let events : List Event :=
      [.onEnquireLinkTimer false,
        .onBody env (pdu bindTransceiver) (.ok [0]),
        .deliverSm [] [] [],
        .onBody env (pdu enquireLinkResp) (.ok [0])]
    let past := machine.history (create config : Session Float) events
    enquiries past = 1 ∧ deliveries past = 1 ∧ NumbersApart past := by
  intro config env pdu events past
  have oneEnquiry : enquiries past = 1 := by decide
  have oneDelivery : deliveries past = 1 := by decide
  have within : WithinRanges past := by
    refine ⟨?_, ?_⟩
    · rw [oneEnquiry]
      decide
    · rw [oneDelivery]
      decide
  exact ⟨oneEnquiry, oneDelivery,
    request_numbers_apart config events within⟩

end OpenSmsc.SmppSession
