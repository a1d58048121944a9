/-
What a step of a session sends to its peer and routes to the server.
-/

import Mathlib.Data.List.TakeDrop
import OpenSmsc.Client.Lifecycle

namespace OpenSmsc.SmppSession

open Foundation Smpp

variable {Number : Type}

def sentPdus (outputs : List Effect) : List Octets :=
  outputs.filterMap fun effect =>
    match effect with
    | .sendPdu pdu => some pdu
    | _ => none

theorem mem_sentPdus (outputs : List Effect) (pdu : Octets) :
    pdu ∈ sentPdus outputs ↔ Effect.sendPdu pdu ∈ outputs := by
  unfold sentPdus
  rw [List.mem_filterMap]
  constructor
  · rintro ⟨effect, member, isSend⟩
    cases effect <;> simp_all
  · intro member
    exact ⟨.sendPdu pdu, member, rfl⟩

theorem sentPdus_append (first second : List Effect) :
    sentPdus (first ++ second) = sentPdus first ++ sentPdus second :=
  List.filterMap_append

def MayTransmit (s : Session Number) : Prop :=
  s.state = .boundTx ∨ s.state = .boundTrx

def MayReceive (s : Session Number) : Prop :=
  s.state = .boundRx ∨ s.state = .boundTrx

/-- The PDUs a session sends: answers and keepalive requests, none of them a
deliver_sm and a submit accepted only in a transmitting state, and deliver_sm
in a receiving one. -/
inductive Sent (s : Session Number) (pdu : Octets) : Prop
  | response (commandId status sequenceNumber : UInt32) (systemId : Octets)
      (isPdu : pdu =
        makeResponse commandId status sequenceNumber systemId)
      (notDelivery : commandId ≠ Smpp.deliverSm)
      (submit : commandId ≠ submitSmResp ∨ status ≠ esmeRok ∨ MayTransmit s)
  | delivery (sequenceNumber : UInt32)
      (srcAddr dstAddr shortMessage : Octets)
      (isPdu : pdu =
        makeDeliverSm sequenceNumber srcAddr dstAddr shortMessage)
      (mayReceive : MayReceive s)

theorem doDisconnect_sent (reason : Octets) (s : Session Number) :
    sentPdus (doDisconnect reason s).2 = [] := by
  unfold doDisconnect
  split <;> rfl

theorem handleBind_sent (env : Env) (hdr : Header) (body : Octets)
    (s : Session Number) :
    ∃ status systemId, sentPdus (handleBind env hdr body s).2 =
      [makeResponse (bindRespId hdr.commandId) status hdr.sequenceNumber
        systemId] := by
  cases handleBind_answered env hdr body s with
  | alreadyBound notOpen isResult =>
      rw [isResult]
      exact ⟨_, _, rfl⟩
  | refused code wasOpen answered isResult =>
      rw [isResult]
      exact ⟨_, _, rfl⟩
  | accepted code wasOpen answered isResult =>
      rw [isResult]
      exact ⟨_, _, rfl⟩

theorem handleUnbind_sent (hdr : Header) (s : Session Number) :
    sentPdus (handleUnbind hdr s).2 =
      [makeResponse unbindResp esmeRok hdr.sequenceNumber] := by
  have quiet := doDisconnect_sent (text "unbind") s
  unfold sentPdus at quiet ⊢
  simp only [handleUnbind, List.filterMap_cons, quiet]

theorem handleSubmitSm_sent [TokenArith Number] (env : Env) (hdr : Header)
    (body : Octets) (s : Session Number) :
    ∃ status systemId,
      sentPdus (handleSubmitSm env hdr body s).2 =
          [makeResponse submitSmResp status hdr.sequenceNumber systemId] ∧
        (status ≠ esmeRok ∨ MayTransmit s) := by
  cases handleSubmitSm_submitted env hdr body s with
  | accepted tokens lastRefill mayTransmit isResult =>
      rw [isResult]
      exact ⟨_, _, rfl, Or.inr mayTransmit⟩
  | refused tokens lastRefill status isError isResult =>
      rw [isResult]
      exact ⟨status, [], rfl, Or.inl isError⟩

theorem handleEnquireLinkResp_sent (hdr : Header) (s : Session Number) :
    sentPdus (handleEnquireLinkResp hdr s).2 = [] := by
  unfold handleEnquireLinkResp
  split <;> rfl

private theorem bindRespId_ne (commandId : UInt32)
    (isBind : IsBind commandId) :
    bindRespId commandId ≠ Smpp.deliverSm ∧
      bindRespId commandId ≠ submitSmResp := by
  rcases isBind with rfl | rfl | rfl <;> decide

section Steps

variable [TokenArith Number]

theorem dispatch_sent (env : Env) (hdr : Header) (body : Octets)
    (s : Session Number) :
    ∀ pdu ∈ sentPdus (dispatch env hdr body s).2, Sent s pdu := by
  intro pdu member
  cases dispatch_dispatchedTo env hdr body s with
  | bind isBind isResult =>
      obtain ⟨notDelivery, notSubmit⟩ := bindRespId_ne hdr.commandId isBind
      obtain ⟨status, systemId, sent⟩ := handleBind_sent env hdr body s
      rw [isResult, sent, List.mem_singleton] at member
      exact .response _ _ _ _ member notDelivery (Or.inl notSubmit)
  | unbind isUnbind isResult =>
      rw [isResult, handleUnbind_sent, List.mem_singleton] at member
      exact .response _ _ _ _ member (by decide) (Or.inl (by decide))
  | enquireLink isEnquiry isResult =>
      rw [isResult] at member
      exact .response _ _ _ _ (List.mem_singleton.mp member) (by decide)
        (Or.inl (by decide))
  | submitSm isSubmit isResult =>
      obtain ⟨status, systemId, sent, mayTransmit⟩ :=
        handleSubmitSm_sent env hdr body s
      rw [isResult, sent, List.mem_singleton] at member
      exact .response _ _ _ _ member (by decide) (Or.inr mayTransmit)
  | enquireLinkResp isResponse isResult =>
      rw [isResult, handleEnquireLinkResp_sent] at member
      contradiction
  | deliverSmResp isResponse isResult =>
      rw [isResult] at member
      contradiction
  | unknown _ _ _ _ _ _ isResult =>
      rw [isResult] at member
      exact .response _ _ _ _ (List.mem_singleton.mp member) (by decide)
        (Or.inl (by decide))

theorem dispatchAndRead_sentPdus (env : Env) (hdr : Header) (body : Octets)
    (s : Session Number) :
    sentPdus (dispatchAndRead env hdr body s).2 =
      sentPdus (dispatch env hdr body s).2 := by
  simp only [dispatchAndRead, sentPdus_append]
  exact List.append_nil _

theorem step_sent (s : Session Number) (event : Event) :
    ∀ pdu ∈ sentPdus (step s event).2, Sent s pdu := by
  intro pdu member
  cases step_handled s event with
  | idle outputs quiet isResult =>
      rw [isResult, mem_sentPdus] at member
      rcases quiet _ member with ⟨hdr, same⟩ | ⟨name, message, same⟩ | same
      all_goals contradiction
  | disconnects reason isResult =>
      rw [isResult, doDisconnect_sent] at member
      contradiction
  | dispatches env hdr body dispatched isResult =>
      rw [isResult, dispatchAndRead_sentPdus] at member
      exact dispatch_sent env hdr body s pdu member
  | enquires elSeq live isResult =>
      rw [isResult] at member
      exact .response _ _ _ _ (List.mem_singleton.mp member) (by decide)
        (Or.inl (by decide))
  | delivers srcAddr dstAddr shortMessage mayReceive isResult =>
      rw [isResult] at member
      exact .delivery _ _ _ _ (List.mem_singleton.mp member) mayReceive

/-! ### Routed messages -/

def routed (outputs : List Effect) :
    List (Octets × Octets × Octets × Octets) :=
  outputs.filterMap fun effect =>
    match effect with
    | .callRouteMessage srcAddr dstAddr shortMessage messageId =>
        some (srcAddr, dstAddr, shortMessage, messageId)
    | _ => none

omit [TokenArith Number] in
theorem doDisconnect_silent (reason : Octets) (s : Session Number) :
    routed (doDisconnect reason s).2 = [] ∧
      (doDisconnect reason s).1.msgSeq = s.msgSeq := by
  unfold doDisconnect
  split <;> exact ⟨rfl, rfl⟩

omit [TokenArith Number] in
theorem handleBind_routed (env : Env) (hdr : Header) (body : Octets)
    (s : Session Number) :
    routed (handleBind env hdr body s).2 = [] := by
  cases handleBind_answered env hdr body s with
  | alreadyBound notOpen isResult => rw [isResult]; rfl
  | refused code wasOpen answered isResult => rw [isResult]; rfl
  | accepted code wasOpen answered isResult => rw [isResult]; rfl

/-- What a step routes: nothing and the id counter stands still, or one
message under the next id, in a transmitting state. -/
inductive Routed (s after : Session Number) (outputs : List Effect) : Prop
  | nothing (silent : routed outputs = []) (same : after.msgSeq = s.msgSeq)
  | message (srcAddr dstAddr shortMessage : Octets)
      (mayTransmit : MayTransmit s)
      (issued : routed outputs =
        [(srcAddr, dstAddr, shortMessage,
          messageId s.msgIdPrefix (s.msgSeq + 1))])
      (counted : after.msgSeq = s.msgSeq + 1)

theorem dispatch_silent (env : Env) (hdr : Header) (body : Octets)
    (s : Session Number) (notSubmit : hdr.commandId ≠ submitSm) :
    routed (dispatch env hdr body s).2 = [] ∧
      (dispatch env hdr body s).1.msgSeq = s.msgSeq := by
  cases dispatch_dispatchedTo env hdr body s with
  | bind isBind isResult =>
      rw [isResult]
      refine ⟨handleBind_routed env hdr body s, ?_⟩
      cases handleBind_answered env hdr body s with
      | alreadyBound notOpen isAnswer => rw [isAnswer]
      | refused code wasOpen answered isAnswer => rw [isAnswer]
      | accepted code wasOpen answered isAnswer => rw [isAnswer]
  | unbind isUnbind isResult =>
      rw [isResult]
      exact doDisconnect_silent (text "unbind") s
  | enquireLink isEnquiry isResult =>
      rw [isResult]
      exact ⟨rfl, rfl⟩
  | submitSm isSubmit isResult => exact absurd isSubmit notSubmit
  | enquireLinkResp isResponse isResult =>
      rw [isResult]
      unfold handleEnquireLinkResp
      split <;> exact ⟨rfl, rfl⟩
  | deliverSmResp isResponse isResult =>
      rw [isResult]
      exact ⟨rfl, rfl⟩
  | unknown _ _ _ _ _ _ isResult =>
      rw [isResult]
      exact ⟨rfl, rfl⟩

theorem dispatch_routes (env : Env) (hdr : Header) (body : Octets)
    (s : Session Number) :
    Routed s (dispatch env hdr body s).1 (dispatch env hdr body s).2 := by
  by_cases isSubmit : hdr.commandId = submitSm
  · rw [dispatch_submit env hdr body s isSubmit]
    cases handleSubmitSm_submitted env hdr body s with
    | accepted tokens lastRefill mayTransmit isAnswer =>
        rw [isAnswer]
        exact .message _ _ _ mayTransmit rfl rfl
    | refused tokens lastRefill status isError isAnswer =>
        rw [isAnswer]
        exact .nothing rfl rfl
  · obtain ⟨silent, same⟩ := dispatch_silent env hdr body s isSubmit
    exact .nothing silent same

theorem dispatchAndRead_routed (env : Env) (hdr : Header) (body : Octets)
    (s : Session Number) :
    routed (dispatchAndRead env hdr body s).2 =
      routed (dispatch env hdr body s).2 := by
  simp only [dispatchAndRead, routed, List.filterMap_append]
  exact List.append_nil _

theorem dispatchAndRead_routes (env : Env) (hdr : Header) (body : Octets)
    (s : Session Number) :
    Routed s (dispatchAndRead env hdr body s).1
      (dispatchAndRead env hdr body s).2 := by
  have same := dispatchAndRead_routed env hdr body s
  cases dispatch_routes env hdr body s with
  | nothing silent counter => exact .nothing (same.trans silent) counter
  | message srcAddr dstAddr shortMessage mayTransmit issued counted =>
      exact .message srcAddr dstAddr shortMessage mayTransmit
        (same.trans issued) counted

theorem step_silent (s : Session Number) (event : Event)
    (noPdu : dispatched event = none) :
    routed (step s event).2 = [] ∧ (step s event).1.msgSeq = s.msgSeq := by
  cases step_handled s event with
  | idle outputs quiet isResult =>
      rw [isResult]
      refine ⟨List.filterMap_eq_nil_iff.mpr ?_, rfl⟩
      intro effect member
      rcases quiet effect member with ⟨hdr, rfl⟩ | ⟨name, message, rfl⟩ | rfl
      all_goals rfl
  | disconnects reason isResult =>
      rw [isResult]
      exact doDisconnect_silent reason s
  | dispatches env hdr body pdu isResult =>
      rw [noPdu] at pdu
      contradiction
  | enquires elSeq live isResult =>
      rw [isResult]
      exact ⟨rfl, rfl⟩
  | delivers srcAddr dstAddr shortMessage mayReceive isResult =>
      rw [isResult]
      exact ⟨rfl, rfl⟩

theorem step_routes (s : Session Number) (event : Event) :
    Routed s (step s event).1 (step s event).2 := by
  cases pdu : dispatched event with
  | none =>
      obtain ⟨silent, same⟩ := step_silent s event pdu
      exact .nothing silent same
  | some dispatchedPdu =>
      rcases dispatchedPdu with ⟨env, hdr, body⟩
      rw [step_of_dispatched s event env hdr body pdu]
      exact dispatchAndRead_routes env hdr body s

end Steps

/-! ### The length of a delivered message -/

theorem deliverSm_returns {srcAddr dstAddr shortMessage : Octets}
    {s : Session Number} {sequenceNumber : UInt32}
    (returned : Effect.returnDeliverSm sequenceNumber ∈
      (deliverSm srcAddr dstAddr shortMessage s).2) :
    (deliverSm srcAddr dstAddr shortMessage s).2 =
      [.sendPdu (makeDeliverSm sequenceNumber srcAddr dstAddr shortMessage),
        .returnDeliverSm sequenceNumber] := by
  unfold deliverSm at returned ⊢
  split at returned
  · simp at returned
  · rename_i mayReceive
    rw [if_neg mayReceive]
    simp only [nextDeliverSeq, List.mem_cons, List.not_mem_nil, or_false,
      reduceCtorEq, false_or, Effect.returnDeliverSm.injEq] at returned ⊢
    rw [returned]

/-- The octet in front of the message is its length, and the message read back
by it the whole message, exactly for messages of up to 255 octets. -/
theorem deliverSm_smLength_iff (srcAddr dstAddr shortMessage : Octets)
    (s : Session Number) (sequenceNumber : UInt32)
    (returned : Effect.returnDeliverSm sequenceNumber ∈
      (deliverSm srcAddr dstAddr shortMessage s).2) :
    ∃ pdu smLength,
      sentPdus (deliverSm srcAddr dstAddr shortMessage s).2 = [pdu] ∧
        pdu.drop (32 + srcAddr.length + dstAddr.length) =
          smLength :: shortMessage ∧
        (smLength.toNat = shortMessage.length ↔
          shortMessage.length ≤ 255) ∧
        (shortMessage.take smLength.toNat = shortMessage ↔
          shortMessage.length ≤ 255) := by
  refine ⟨makeDeliverSm sequenceNumber srcAddr dstAddr shortMessage,
    UInt8.ofNat shortMessage.length, ?_, ?_, ?_, ?_⟩
  · rw [deliverSm_returns returned]
    rfl
  · exact makeDeliverSm_message sequenceNumber srcAddr dstAddr shortMessage
      0 0 0 0
  · exact narrowed_length_iff shortMessage
  · have narrowed := UInt8.toNat_lt (UInt8.ofNat shortMessage.length)
    rw [List.take_eq_self_iff]
    constructor
    · intro whole
      omega
    · intro short
      exact Nat.le_of_eq ((narrowed_length_iff shortMessage).mpr short).symm

theorem deliverSm_smLength_hi :
    let s : Session Float :=
      { create { uuid := text "c1", clientIp := text "10.0.0.1" } with
        state := .boundRx }
    Effect.returnDeliverSm 0x20000000 ∈
        (deliverSm (text "441234") (text "esme1") (text "Hi") s).2 ∧
      ∃ pdu smLength,
        sentPdus (deliverSm (text "441234") (text "esme1")
            (text "Hi") s).2 = [pdu] ∧
          pdu.drop 43 = smLength :: text "Hi" ∧ smLength.toNat = 2 := by
  intro s
  have returned : Effect.returnDeliverSm 0x20000000 ∈
      (deliverSm (text "441234") (text "esme1") (text "Hi") s).2 := by
    decide
  obtain ⟨pdu, smLength, sent, placed, isLength, _⟩ :=
    deliverSm_smLength_iff (text "441234") (text "esme1") (text "Hi") s
      0x20000000 returned
  exact ⟨returned, pdu, smLength, sent, placed, isLength.mpr (by decide)⟩

/-- A message of 256 octets is sent behind a length octet of zero. -/
theorem deliverSm_smLength_wraps :
    let s : Session Float :=
      { create { uuid := text "c1", clientIp := text "10.0.0.1" } with
        state := .boundRx }
    let message := List.replicate 256 0x41
    Effect.returnDeliverSm 0x20000000 ∈
        (deliverSm (text "441234") (text "esme1") message s).2 ∧
      ∃ pdu ∈ sentPdus
          (deliverSm (text "441234") (text "esme1") message s).2,
        pdu.drop 43 = 0 :: message := by
  decide +kernel

end OpenSmsc.SmppSession
