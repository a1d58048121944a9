/-
The PDUs a session sends, as its peer reads them.

Every PDU announces its own length, so a peer that cuts their octets after the
announced lengths finds the PDUs as they were passed to `send_pdu`.  The
DELIVER_SMs among them are the messages of the `DeliverSm` calls that returned,
in their order.  On the wire of a socket that tears no PDU the peer finds the
first of them.
-/

import OpenSmsc.Foundation.Components
import OpenSmsc.Client.Answers
import OpenSmsc.Client.ReadLoop
import OpenSmsc.Client.Requests
import OpenSmsc.Client.SubmitSmCodec
import OpenSmsc.Client.Wire

namespace OpenSmsc.SmppSession

open Foundation Smpp

variable {Number : Type}

/-! ### One PDU -/

def Framed (pdu : Octets) : Prop :=
  pduLayout.IsFrame (pdu.take 16) (pdu.drop 16)

theorem framed_of_isOnePdu {pdu : Octets} (isOne : IsOnePdu pdu) :
    Framed pdu := by
  obtain ⟨long, announced⟩ := isOne
  have headLength : (pdu.take 16).length = 16 := by
    rw [List.length_take, Nat.min_eq_left long]
  have sameHeader : decodeHeader (pdu.take 16) = decodeHeader pdu := by
    have split := decodeHeader_append (pdu.take 16) (pdu.drop 16)
      (Nat.le_of_eq headLength.symm)
    rw [List.take_append_drop] at split
    exact split.symm
  refine ⟨headLength, ?_⟩
  change (decodeHeader (pdu.take 16)).commandLength.toNat = 16 + _
  rw [sameHeader, announced, List.length_drop]
  omega

theorem makeResponse_framed (commandId status sequenceNumber : UInt32)
    {systemId : Octets} (short : systemId.length < 32) :
    Framed (makeResponse commandId status sequenceNumber systemId) := by
  refine framed_of_isOnePdu ⟨?_, makeResponse_commandLength commandId status
    sequenceNumber systemId short⟩
  unfold makeResponse
  rw [List.length_append, writeHeader_length]
  exact Nat.le_add_right 16 _

theorem makeDeliverSm_framed (sequenceNumber : UInt32)
    {srcAddr dstAddr shortMessage : Octets}
    (short : srcAddr.length + dstAddr.length + shortMessage.length + 33 <
      UInt32.size) :
    Framed (makeDeliverSm sequenceNumber srcAddr dstAddr shortMessage) := by
  have bodyLength := deliverSmBody_length srcAddr dstAddr shortMessage 0 0 0 0
  have length := makeDeliverSm_length sequenceNumber srcAddr dstAddr
    shortMessage 0 0 0 0
  refine framed_of_isOnePdu ⟨by omega, ?_⟩
  rw [decodeHeader_makeDeliverSm, length, UInt32.toNat_add,
    UInt32.toNat_ofNat', bodyLength]
  change (16 + _ % UInt32.size) % UInt32.size = _
  have fits : srcAddr.length + dstAddr.length + shortMessage.length + 17 <
      UInt32.size := by
    omega
  rw [Nat.mod_eq_of_lt fits, Nat.mod_eq_of_lt (by omega)]

theorem pduFrames_flatten (pdus : List Octets)
    (framed : ∀ pdu ∈ pdus, Framed pdu) :
    pduFrames pdus.flatten =
      pdus.map fun pdu => (decodeHeader pdu, pdu.drop 16) := by
  have areFrames : ∀ frame ∈ pdus.map fun pdu => (pdu.take 16, pdu.drop 16),
      pduLayout.IsFrame frame.1 frame.2 := by
    intro frame member
    obtain ⟨pdu, isPdu, rfl⟩ := List.mem_map.mp member
    exact framed pdu isPdu
  have found := pduLayout.frames_flatMap _ areFrames
  rw [List.flatMap_map] at found
  simp only [List.take_append_drop] at found
  rw [List.flatMap_id'] at found
  rw [pduFrames, found, List.map_map]
  refine List.map_congr_left ?_
  intro pdu member
  have headLength := (framed pdu member).1
  have split := decodeHeader_append (pdu.take 16) (pdu.drop 16)
    (Nat.le_of_eq headLength.symm)
  rw [List.take_append_drop] at split
  exact Prod.ext split.symm rfl

/-! ### One step -/

/-- A PDU of `make_response` with a short text, and no DELIVER_SM. -/
def IsPlain (pdu : Octets) : Prop :=
  ∃ commandId status sequenceNumber systemId,
    pdu = makeResponse commandId status sequenceNumber systemId ∧
      systemId.length < 32 ∧ commandId ≠ Smpp.deliverSm

inductive Sends (s : Session Number) (event : Event)
    (outputs : List Effect) : Prop
  | plain (arePlain : ∀ pdu ∈ sentPdus outputs, IsPlain pdu)
      (returned : returnedIn outputs = [])
  | message (srcAddr dstAddr shortMessage : Octets)
      (isDelivery : event = .deliverSm srcAddr dstAddr shortMessage)
      (sent : sentPdus outputs =
        [makeDeliverSm s.deliverSeq srcAddr dstAddr shortMessage])
      (returned : returnedIn outputs = [s.deliverSeq])

theorem Replied.plain {hdr : Header} {s : Session Number}
    {outputs : List Effect} (replied : Replied hdr s outputs)
    (short : s.msgIdPrefix.length ≤ 8) :
    ∀ pdu ∈ sentPdus outputs, IsPlain pdu := by
  obtain ⟨status, systemId, sent, _, bounded⟩ := replied
  intro pdu member
  rw [sent, List.mem_singleton] at member
  refine ⟨_, _, _, _, member, by omega, ?_⟩
  have isResponse := isResponseId_answerId hdr.commandId
  intro isDelivery
  rw [isDelivery] at isResponse
  exact absurd isResponse (by decide)

section Steps

variable [TokenArith Number]

theorem step_plain (s : Session Number) (event : Event)
    (short : s.msgIdPrefix.length ≤ 8) (quiet : Quiet s (step s event)) :
    ∀ pdu ∈ sentPdus (step s event).2, IsPlain pdu := by
  cases step_handled s event with
  | idle outputs isIdle isResult =>
      rw [isResult]
      intro pdu member
      rw [mem_sentPdus] at member
      rcases isIdle _ member with ⟨hdr, same⟩ | ⟨name, message, same⟩ | same
      all_goals contradiction
  | disconnects reason isResult =>
      rw [isResult, doDisconnect_sent]
      exact nofun
  | dispatches env hdr body pdu isResult =>
      rw [isResult, dispatchAndRead_sentPdus]
      by_cases known : IsKnownResponse hdr.commandId
      · rw [dispatch_known_sent env hdr body s known]
        exact nofun
      · exact (dispatch_replied env hdr body s known).plain short
  | enquires elSeq live isResult =>
      rw [isResult]
      intro pdu member
      exact ⟨_, _, _, _, List.mem_singleton.mp member, by decide, by decide⟩
  | delivers srcAddr dstAddr shortMessage mayReceive isResult =>
      -- a DELIVER_SM is a request, and a quiet step has none
      obtain ⟨hdr, _, _, isRequest⟩ := requestsIn_delivery s.deliverSeq
        srcAddr dstAddr shortMessage [.returnDeliverSm s.deliverSeq] rfl
      have none := quiet.requests
      rw [isResult, isRequest] at none
      cases none

theorem step_sends (s : Session Number) (event : Event)
    (short : s.msgIdPrefix.length ≤ 8) :
    Sends s event (step s event).2 := by
  cases step_requested s event with
  | quiet isQuiet _ _ =>
      exact .plain (step_plain s event short isQuiet) isQuiet.returned
  | enquires due isResult =>
      rw [isResult]
      refine .plain ?_ rfl
      intro pdu member
      exact ⟨_, _, _, _, List.mem_singleton.mp member, by decide, by decide⟩
  | answered answers isResult =>
      rw [isResult]
      exact .plain nofun rfl
  | delivers srcAddr dstAddr shortMessage isDelivery isResult =>
      rw [isResult]
      exact .message srcAddr dstAddr shortMessage isDelivery rfl rfl

end Steps

/-! ### Whole runs -/

/-- The strings of a `DeliverSm` leave room for the length of its PDU. -/
def Spares : Event → Prop
  | .deliverSm srcAddr dstAddr shortMessage =>
      srcAddr.length + dstAddr.length + shortMessage.length + 33 <
        UInt32.size
  | _ => True

/-- The message of a `DeliverSm` call that returned a sequence number. -/
def deliveredBy : Event × List Effect → Option Message
  | (.deliverSm srcAddr dstAddr shortMessage, outputs) =>
      if (returnedIn outputs).isEmpty then none
      else some ⟨srcAddr, dstAddr, shortMessage⟩
  | _ => none

def deliveryBodies (frames : List (Header × Octets)) : List Octets :=
  frames.filterMap fun frame =>
    if frame.1.commandId = Smpp.deliverSm then some frame.2 else none

theorem IsPlain.framed {pdu : Octets} (isPlain : IsPlain pdu) :
    Framed pdu := by
  obtain ⟨commandId, status, sequenceNumber, systemId, rfl, short, _⟩ :=
    isPlain
  exact makeResponse_framed commandId status sequenceNumber short

theorem IsPlain.no_delivery {pdu : Octets} (isPlain : IsPlain pdu) :
    (decodeHeader pdu).commandId ≠ Smpp.deliverSm := by
  obtain ⟨commandId, status, sequenceNumber, systemId, rfl, _, other⟩ :=
    isPlain
  rw [decodeHeader_makeResponse]
  exact other

def frameOf (pdu : Octets) : Header × Octets :=
  (decodeHeader pdu, pdu.drop 16)

theorem Sends.framed {s : Session Number} {event : Event}
    {outputs : List Effect} (sends : Sends s event outputs)
    (spares : Spares event) : ∀ pdu ∈ sentPdus outputs, Framed pdu := by
  cases sends with
  | plain arePlain _ => exact fun pdu member => (arePlain pdu member).framed
  | message srcAddr dstAddr shortMessage isDelivery sent _ =>
      rw [isDelivery] at spares
      intro pdu member
      rw [sent, List.mem_singleton] at member
      rw [member]
      exact makeDeliverSm_framed s.deliverSeq spares

theorem Sends.bodies {s : Session Number} {event : Event}
    {outputs : List Effect} (sends : Sends s event outputs) :
    deliveryBodies ((sentPdus outputs).map frameOf) =
      ([(event, outputs)].filterMap deliveredBy).map Message.body := by
  cases sends with
  | plain arePlain returned =>
      have nothing : deliveredBy (event, outputs) = none := by
        unfold deliveredBy
        split
        · rename_i isPair
          cases isPair
          rw [returned]
          rfl
        · rfl
      rw [List.filterMap_cons, nothing]
      refine List.filterMap_eq_nil_iff.mpr ?_
      intro frame member
      obtain ⟨pdu, isSent, rfl⟩ := List.mem_map.mp member
      exact if_neg (arePlain pdu isSent).no_delivery
  | message srcAddr dstAddr shortMessage isDelivery sent returned =>
      have isDelivered : deliveredBy (event, outputs) =
          some ⟨srcAddr, dstAddr, shortMessage⟩ := by
        unfold deliveredBy
        rw [isDelivery]
        dsimp only
        rw [returned]
        rfl
      have isFrame : frameOf (makeDeliverSm s.deliverSeq srcAddr dstAddr
          shortMessage) =
            (decodeHeader (makeDeliverSm s.deliverSeq srcAddr dstAddr
                shortMessage),
              Message.body ⟨srcAddr, dstAddr, shortMessage⟩) := rfl
      rw [List.filterMap_cons, isDelivered, sent, List.map_singleton,
        isFrame, decodeHeader_makeDeliverSm]
      rfl

variable [TokenArith Number]

/-- Cut by the announced lengths, the octets of a run are the PDUs sent, and
the DELIVER_SMs among them the messages delivered. -/
theorem outbound_carries (config : Config) (events : List Event)
    (spares : ∀ event ∈ events, Spares event) :
    let sent := sentPdus
      (machine.emitted (create config : Session Number) events)
    let delivered := (machine.transcript
      (create config : Session Number) events).filterMap deliveredBy
    pduFrames sent.flatten = sent.map frameOf ∧
      deliveryBodies (sent.map frameOf) = delivered.map Message.body := by
  intro sent delivered
  have account : (∀ pdu ∈ sent, Framed pdu) ∧
      deliveryBodies (sent.map frameOf) = delivered.map Message.body := by
    unfold sent delivered
    clear sent delivered
    induction events using List.reverseRecOn with
    | nil => exact ⟨nofun, rfl⟩
    | append_singleton earlier event ih =>
        obtain ⟨framed, bodies⟩ := ih fun event member =>
          spares event (List.mem_append_left _ member)
        have short : (machine.final (create config : Session Number)
            earlier).msgIdPrefix.length ≤ 8 := by
          refine machine.invariant_rule
            (fun s : Session Number => s.msgIdPrefix.length ≤ 8)
            (create config) (create_msgIdPrefix_length config) ?_ earlier
          intro s event bounded
          change (step s event).1.msgIdPrefix.length ≤ 8
          rw [step_msgIdPrefix]
          exact bounded
        have sends := step_sends _ event short
        have spare := spares event
          (List.mem_append_right _ (List.mem_singleton_self event))
        rw [Machine.emitted_concat, sentPdus_append,
          Machine.transcript_concat, List.filterMap_append, List.map_append,
          List.map_append]
        refine ⟨?_, ?_⟩
        · intro pdu member
          rcases List.mem_append.mp member with old | new
          · exact framed pdu old
          · exact sends.framed spare pdu new
        · have last := sends.bodies
          unfold deliveryBodies at bodies last ⊢
          rw [List.filterMap_append, bodies]
          exact congrArg (_ ++ ·) last
  exact ⟨pduFrames_flatten sent account.1, account.2⟩

/-- On the wire of a socket that tears no PDU are the first PDUs sent. -/
theorem outbound_on_wire (config : Config) (schedule : List WireEvent)
    (spares : ∀ event ∈ handledIn schedule, Spares event)
    (whole : ∀ entry ∈
      connection.history (connect config : Connection Number) schedule,
      tearsPdu entry = false) :
    pduFrames (connection.final (connect config : Connection Number)
        schedule).socket.wire <+:
      (sentPdus (machine.emitted (create config : Session Number)
        (handledIn schedule))).map frameOf := by
  have inOrder := (connection_inOrder config schedule whole).wire_prefix_sent
  rw [(connection_runs config schedule).2] at inOrder
  rw [← (outbound_carries config (handledIn schedule) spares).1]
  exact (pduLayout.frames_mono inOrder).map _

end OpenSmsc.SmppSession
