/-
Messages from the wire of a sender to the wire of a receiver.

The PDUs that the handler of a receiver passes to `send_pdu` are found again by
the lengths they announce, on the wire of a socket that tears none of them up
to some point.  Their DELIVER_SMs hold the messages it was given in that order,
each of them what two calls on the bus make of the addresses and the text of a
SUBMIT_SM that some sender's session read off its own wire.
-/

import OpenSmsc.Client.OutboundStream
import OpenSmsc.Network.RelayOrder
import OpenSmsc.Network.RelaySessions

namespace OpenSmsc.Relay

open Foundation
open Smpp (Message messageOf)
open SmppSession (Session Spares TokenArith WireEvent connection deliveredBy
  deliveryBodies dispatchedPdus frameOf handledIn pduFrames returnedIn
  sentPdus tearsPdu)

/-! ### What a receiver was given -/

def Shown.message : Shown → Option Message
  | .serves srcAddr dstAddr shortMessage outputs =>
      if (returnedIn outputs).isEmpty then none
      else some ⟨srcAddr, dstAddr, shortMessage⟩
  | .hands _ _ _ _ => none

def messagesAt (uuid : Octets) (record : List Observed) : List Message :=
  (shownBy uuid record).filterMap Shown.message

theorem shownAt_messages
    (pair : SmppSession.Event × List SmppSession.Effect) :
    (shownAt pair).filterMap Shown.message =
      (deliveredBy pair).toList := by
  obtain ⟨event, outputs⟩ := pair
  have handsOnly : ((outputs.filterMap requestOf).filterMap
      Request.shown).filterMap Shown.message = [] := by
    refine List.filterMap_eq_nil_iff.mpr ?_
    intro shown member
    obtain ⟨request, _, isShown⟩ := List.mem_filterMap.mp member
    cases request <;> cases isShown
    rfl
  cases event with
  | deliverSm srcAddr dstAddr shortMessage =>
      cases returned : (returnedIn outputs).isEmpty with
      | true => simp [shownAt, deliveredBy, Shown.message, returned]
      | false => simp [shownAt, deliveredBy, Shown.message, returned]
  | onHeader env completion => exact handsOnly
  | onBody env hdr completion => exact handsOnly
  | onEnquireLinkTimer failed => exact handsOnly
  | onEnquireLinkTimeout failed => exact handsOnly
  | disconnect reason => exact handsOnly
  | getSessionInfo => exact handsOnly

theorem messages_of_transcript
    (transcript : List (SmppSession.Event × List SmppSession.Effect)) :
    (transcript.flatMap shownAt).filterMap Shown.message =
      transcript.filterMap deliveredBy := by
  induction transcript with
  | nil => rfl
  | cons pair rest ih =>
      rw [List.flatMap_cons, List.filterMap_append, ih, shownAt_messages,
        List.filterMap_cons]
      cases deliveredBy pair with
      | none => rfl
      | some message => rfl

/-! ### Where a message comes from -/

section Sessions

variable {Number : Type} [TokenArith Number]

theorem submitted_of_routes (s : Session Number) (event : SmppSession.Event)
    {srcAddr dstAddr shortMessage messageId : Octets}
    (routes : SmppSession.Effect.callRouteMessage srcAddr dstAddr
      shortMessage messageId ∈ (SmppSession.step s event).2) :
    ∃ env hdr body, SmppSession.dispatched event = some (env, hdr, body) ∧
      hdr.commandId = Smpp.submitSm ∧
      messageOf (Smpp.parseSubmitSm body) =
        ⟨srcAddr, dstAddr, shortMessage⟩ := by
  have isRouted : (srcAddr, dstAddr, shortMessage, messageId) ∈
      SmppSession.routed (SmppSession.step s event).2 :=
    List.mem_filterMap.mpr ⟨_, routes, rfl⟩
  cases pdu : SmppSession.dispatched event with
  | none =>
      rw [(SmppSession.step_silent s event pdu).1] at isRouted
      cases isRouted
  | some parts =>
      obtain ⟨env, hdr, body⟩ := parts
      rw [SmppSession.step_of_dispatched s event env hdr body pdu,
        SmppSession.dispatchAndRead_routed] at isRouted
      by_cases isSubmit : hdr.commandId = Smpp.submitSm
      · refine ⟨env, hdr, body, rfl, isSubmit, ?_⟩
        rw [SmppSession.dispatch_submit env hdr body s isSubmit] at isRouted
        cases SmppSession.handleSubmitSm_submitted env hdr body s with
        | accepted tokens lastRefill mayTransmit isResult =>
            rw [isResult] at isRouted
            cases List.mem_singleton.mp isRouted
            rfl
        | refused tokens lastRefill status isError isResult =>
            rw [isResult] at isRouted
            cases isRouted
      · rw [(SmppSession.dispatch_silent env hdr body s isSubmit).1]
          at isRouted
        cases isRouted

variable [Transport]

variable (Number) in
theorem hands_of_delivers (maxPerIp : UInt32) (actions : List Action)
    {delivery : Delivery} {outputs : List SmppSession.Effect}
    (delivers : Observed.delivers delivery outputs ∈
      machine.emitted (create maxPerIp : State Number) actions) :
    ∃ srcAddr dstAddr shortMessage messageId,
      Shown.hands srcAddr dstAddr shortMessage messageId ∈
          shownBy delivery.sender
            (machine.emitted (create maxPerIp : State Number) actions) ∧
        carriedTwice ⟨srcAddr, dstAddr, shortMessage⟩ =
          some delivery.toMessage := by
  have delivered : delivery.relayed ∈ deliveredFor delivery.sender
      (machine.emitted (create maxPerIp : State Number) actions) := by
    refine List.mem_map_of_mem (List.mem_filter.mpr ⟨?_, by simp⟩)
    exact List.mem_filterMap.mpr ⟨_, delivers, rfl⟩
  obtain ⟨message, routed, arrives⟩ := List.mem_filterMap.mp
    ((delivered_subperm_routed Number maxPerIp actions
      delivery.sender).subset delivered)
  obtain ⟨arrived, isArrived, isDelivery⟩ :=
    Option.map_eq_some_iff.mp arrives
  obtain ⟨seen, member, isSeen⟩ := List.mem_filterMap.mp routed
  cases seen with
  | delivers other effects => cases isSeen
  | routes sender serial srcAddr dstAddr shortMessage messageId =>
      have own : sender = delivery.sender := by
        by_contra foreign
        simp [foreign] at isSeen
      simp only [own, if_true, Option.some.injEq] at isSeen
      subst isSeen
      refine ⟨srcAddr, dstAddr, shortMessage, messageId,
        List.mem_filterMap.mpr ⟨_, member, ?_⟩, ?_⟩
      · simp only [Observed.shownOf, own, if_true]
      · rw [isArrived]
        exact congrArg (some ·.toMessage) isDelivery

variable (Number) in
/-- What a `DeliverSm` is served with was read off the wire of a sender and
came over the bus. -/
theorem submitted_of_serves (maxPerIp : UInt32) (actions : List Action)
    {uuid srcAddr dstAddr shortMessage : Octets}
    {outputs : List SmppSession.Effect}
    (serves : Shown.serves srcAddr dstAddr shortMessage outputs ∈
      shownBy uuid
        (machine.emitted (create maxPerIp : State Number) actions)) :
    ∃ sender hdr body,
      (hdr, body) ∈ dispatchedPdus (sessionEvents sender
          (machine.history (create maxPerIp : State Number) actions)) ∧
        hdr.commandId = Smpp.submitSm ∧
        carriedTwice (messageOf (Smpp.parseSubmitSm body)) =
          some ⟨srcAddr, dstAddr, shortMessage⟩ := by
  obtain ⟨seen, member, isSeen⟩ := List.mem_filterMap.mp serves
  cases seen with
  | routes sender serial src dst message messageId =>
      simp only [Observed.shownOf] at isSeen
      split at isSeen
      · cases isSeen
      · cases isSeen
  | delivers delivery effects =>
      simp only [Observed.shownOf] at isSeen
      split at isSeen
      · cases isSeen
        obtain ⟨_, _, _, messageId, hands, arrives⟩ :=
          hands_of_delivers Number maxPerIp actions member
        obtain ⟨clientIp, steadyClock, alone⟩ :=
          alone_of_run Number maxPerIp actions delivery.sender
        rw [Machine.emitted, alone.seen] at hands
        obtain ⟨earlier, event, later, isEvents, isShown⟩ :=
          shown_at _ _ hands
        obtain ⟨env, hdr, body, pdu, isSubmit, isMessage⟩ :=
          submitted_of_routes _ event (shownAt_hands isShown)
        refine ⟨delivery.sender, hdr, body, ?_, isSubmit, ?_⟩
        · rw [isEvents]
          refine List.mem_filterMap.mpr ⟨event, ?_, by rw [pdu]; rfl⟩
          exact List.mem_append_right _ List.mem_cons_self
        · rw [isMessage]
          exact arrives
      · cases isSeen

variable (Number) in
theorem submitted_of_message (maxPerIp : UInt32) (actions : List Action)
    {uuid : Octets} {message : Message}
    (given : message ∈ messagesAt uuid
      (machine.emitted (create maxPerIp : State Number) actions)) :
    ∃ sender hdr body,
      (hdr, body) ∈ dispatchedPdus (sessionEvents sender
          (machine.history (create maxPerIp : State Number) actions)) ∧
        hdr.commandId = Smpp.submitSm ∧
        carriedTwice (messageOf (Smpp.parseSubmitSm body)) =
          some message := by
  obtain ⟨shown, isShown, isMessage⟩ := List.mem_filterMap.mp given
  cases shown with
  | hands srcAddr dstAddr shortMessage messageId => cases isMessage
  | serves srcAddr dstAddr shortMessage outputs =>
      simp only [Shown.message] at isMessage
      split at isMessage
      · cases isMessage
      · cases isMessage
        exact submitted_of_serves Number maxPerIp actions isShown

omit [TokenArith Number] [Transport] in
theorem spares_of_cutFrom {body srcAddr dstAddr shortMessage : Octets}
    (cut : CutFrom (messageOf (Smpp.parseSubmitSm body))
      ⟨srcAddr, dstAddr, shortMessage⟩) :
    Spares (.deliverSm srcAddr dstAddr shortMessage) := by
  have relayed := Smpp.parseSubmitSm_relayed body
  have srcLength := Nat.le_trans cut.srcAddr.length_le relayed.srcLength
  have dstLength := Nat.le_trans cut.dstAddr.length_le relayed.dstLength
  have messageLength :=
    Nat.le_trans cut.shortMessage.length_le relayed.messageLength
  change _ + 33 < 4294967296
  dsimp only at srcLength dstLength messageLength
  omega

variable (Number) in
theorem spares_of_run (maxPerIp : UInt32) (actions : List Action)
    (uuid : Octets) :
    ∀ event ∈ sessionEvents uuid
        (machine.history (create maxPerIp : State Number) actions),
      Spares event := by
  intro event member
  cases event with
  | deliverSm srcAddr dstAddr shortMessage =>
      obtain ⟨clientIp, steadyClock, alone⟩ :=
        alone_of_run Number maxPerIp actions uuid
      have run := SmppSession.machine.history_events
        (SmppSession.create (configFor uuid clientIp steadyClock) :
          Session Number)
        (sessionEvents uuid
          (machine.history (create maxPerIp : State Number) actions))
      rw [← run] at member
      obtain ⟨entry, inHistory, isEvent⟩ := List.mem_map.mp member
      have serves : Shown.serves srcAddr dstAddr shortMessage entry.outputs ∈
          shownBy uuid
            (machine.emitted (create maxPerIp : State Number) actions) := by
        rw [Machine.emitted, alone.seen]
        refine List.mem_flatMap.mpr
          ⟨(entry.event, entry.outputs), List.mem_map_of_mem inHistory, ?_⟩
        rw [isEvent]
        exact List.mem_singleton_self _
      obtain ⟨_, _, _, _, _, arrives⟩ :=
        submitted_of_serves Number maxPerIp actions serves
      exact spares_of_cutFrom (carriedTwice_cutFrom arrives)
  | onHeader env completion => exact True.intro
  | onBody env hdr completion => exact True.intro
  | onEnquireLinkTimer failed => exact True.intro
  | onEnquireLinkTimeout failed => exact True.intro
  | disconnect reason => exact True.intro
  | getSessionInfo => exact True.intro

omit [TokenArith Number] [Transport] in
theorem reread_message {body : Octets} {message : Message}
    (cut : CutFrom (messageOf (Smpp.parseSubmitSm body)) message)
    (srcFits : message.srcAddr.length ≤ 64)
    (dstFits : message.dstAddr.length ≤ 64) :
    messageOf (Smpp.parseSubmitSm message.body) = message := by
  have relayed := Smpp.parseSubmitSm_relayed body
  have reread := Smpp.parseSubmitSm_deliverSmBody message.srcAddr
    message.dstAddr message.shortMessage 0 0 0 0
    ⟨fun nul => relayed.srcFree (cut.srcAddr.subset nul), srcFits⟩
    ⟨fun nul => relayed.dstFree (cut.dstAddr.subset nul), dstFits⟩
    (Nat.le_trans cut.shortMessage.length_le relayed.messageLength)
  have sameMessage := congrArg messageOf reread
  exact sameMessage

/-- Whatever happens in the network, the PDUs a session passes to `send_pdu`
are found again by the lengths they announce, and among them is one DELIVER_SM
for every message the session was given, in that order; on the wire of a socket
that tears no PDU are the first of them.  Every such message is what two calls
on the bus make of the message of a SUBMIT_SM on the wire of some session, and
that message itself if the bus is exact.  A peer that reads it as this code
does gets it back if both addresses have room for their terminator. -/
theorem wire_to_wire (maxPerIp : UInt32) (actions : List Action)
    (uuid : Octets) :
    let past := machine.history (create maxPerIp : State Number) actions
    let messages := messagesAt uuid (past.flatMap (·.outputs))
    (∃ clientIp steadyClock,
      let config := configFor uuid clientIp steadyClock
      let sent := sentPdus (SmppSession.machine.emitted
        (SmppSession.create config : Session Number)
        (sessionEvents uuid past))
      pduFrames sent.flatten = sent.map frameOf ∧
        deliveryBodies (sent.map frameOf) = messages.map Message.body ∧
        ∀ schedule : List WireEvent,
          handledIn schedule = sessionEvents uuid past →
          (∀ entry ∈ connection.history
              (SmppSession.connect config :
                SmppSession.Connection Number) schedule,
            tearsPdu entry = false) →
          let wire := (connection.final
            (SmppSession.connect config : SmppSession.Connection Number)
            schedule).socket.wire
          pduFrames wire <+: sent.map frameOf ∧
            deliveryBodies (pduFrames wire) <+:
              messages.map Message.body) ∧
      ∀ message ∈ messages, ∃ sender hdr body,
        (hdr, body) ∈ dispatchedPdus (sessionEvents sender past) ∧
          hdr.commandId = Smpp.submitSm ∧
          carriedTwice (messageOf (Smpp.parseSubmitSm body)) =
            some message ∧
          (Transport.Exact →
            messageOf (Smpp.parseSubmitSm body) = message) ∧
          (message.srcAddr.length ≤ 64 → message.dstAddr.length ≤ 64 →
            messageOf (Smpp.parseSubmitSm message.body) = message) := by
  intro past messages
  refine ⟨?_, ?_⟩
  · obtain ⟨clientIp, steadyClock, alone⟩ :=
      alone_of_run Number maxPerIp actions uuid
    have spares := spares_of_run Number maxPerIp actions uuid
    have carries := @SmppSession.outbound_carries Number _
      (configFor uuid clientIp steadyClock) (sessionEvents uuid past) spares
    have bodies : deliveryBodies ((sentPdus (SmppSession.machine.emitted
        (SmppSession.create (configFor uuid clientIp steadyClock) :
          Session Number)
        (sessionEvents uuid past))).map frameOf) =
          messages.map Message.body := by
      refine carries.2.trans (congrArg (List.map Message.body) ?_)
      rw [← messages_of_transcript, ← alone.seen]
      rfl
    refine ⟨clientIp, steadyClock, carries.1, bodies, ?_⟩
    intro schedule handled whole wire
    have first := SmppSession.outbound_on_wire _ schedule
      (by rw [handled]; exact spares) whole
    rw [handled] at first
    refine ⟨first, ?_⟩
    rw [← bodies]
    exact first.filterMap _
  · intro message member
    obtain ⟨sender, hdr, body, wasRead, isSubmit, arrives⟩ :=
      submitted_of_message Number maxPerIp actions member
    exact ⟨sender, hdr, body, wasRead, isSubmit, arrives,
      fun exact => (exact.carriedTwice arrives).symm,
      reread_message (carriedTwice_cutFrom arrives)⟩

end Sessions

end OpenSmsc.Relay
