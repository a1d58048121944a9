/-
One answer per request.

Every PDU a session dispatches is answered by exactly one response, in the
order of the dispatches, with two exceptions: the responses the session knows
of are taken in silence.
-/

import Mathlib.Data.List.Forall2
import OpenSmsc.Client.Outputs

namespace OpenSmsc.SmppSession

open Foundation Smpp

variable {Number : Type}

/-! ### Answers -/

/-- Bit 31 of a command id, which responses have set. -/
def isResponseId (commandId : UInt32) : Bool :=
  commandId &&& 0x80000000 != 0

def IsServed (commandId : UInt32) : Prop :=
  IsBind commandId ∨ commandId = Smpp.unbind ∨
    commandId = Smpp.enquireLink ∨ commandId = Smpp.submitSm

instance (commandId : UInt32) : Decidable (IsServed commandId) :=
  inferInstanceAs (Decidable (_ ∨ _ ∨ _ ∨ _))

def answerId (commandId : UInt32) : UInt32 :=
  if IsServed commandId then commandId ||| 0x80000000 else genericNack

structure Answers (request : Header) (pdu : Octets) : Prop where
  commandId : (decodeHeader pdu).commandId = answerId request.commandId
  sequenceNumber :
    (decodeHeader pdu).sequenceNumber = request.sequenceNumber
  unserved : ¬IsServed request.commandId →
    (decodeHeader pdu).commandStatus = esmeRinvcmdid
  commandLength : (decodeHeader pdu).commandLength.toNat = pdu.length

theorem makeResponse_commandLength
    (commandId status sequenceNumber : UInt32) (systemId : Octets)
    (short : systemId.length < 32) :
    (decodeHeader (makeResponse commandId status sequenceNumber
        systemId)).commandLength.toNat =
      (makeResponse commandId status sequenceNumber systemId).length := by
  rw [decodeHeader_makeResponse]
  unfold makeResponse
  rw [List.length_append, writeHeader_length]
  cases systemId with
  | nil => rfl
  | cons octet rest =>
      rw [List.length_cons] at short
      have total :
          (16 + UInt32.ofNat (rest.length + 1 + 1)).toNat =
            16 + (rest.length + 2) := by
        rw [UInt32.toNat_add, UInt32.toNat_ofNat']
        change (16 + (rest.length + 1 + 1) % 2 ^ 32) % 2 ^ 32 = _
        omega
      simpa using total

/-- Exactly one PDU is sent, under the answer's id and the request's sequence
number.  Its body is empty, the name of the server or a message id. -/
def Replied (hdr : Header) (s : Session Number) (outputs : List Effect) :
    Prop :=
  ∃ status systemId,
    sentPdus outputs =
        [makeResponse (answerId hdr.commandId) status hdr.sequenceNumber
          systemId] ∧
      (¬IsServed hdr.commandId → status = esmeRinvcmdid) ∧
      systemId.length ≤ s.msgIdPrefix.length + 11

/-- The text in an answer is short because the session keeps at most eight
characters of its uuid, so the length field does not wrap. -/
theorem Replied.answers {hdr : Header} {s : Session Number}
    {outputs : List Effect} (replied : Replied hdr s outputs)
    (short : s.msgIdPrefix.length ≤ 8) :
    ∃ pdu, sentPdus outputs = [pdu] ∧ Answers hdr pdu := by
  obtain ⟨status, systemId, sent, unserved, bounded⟩ := replied
  refine ⟨_, sent, ?_, ?_, ?_, ?_⟩
  · rw [decodeHeader_makeResponse]
  · rw [decodeHeader_makeResponse]
  · intro notServed
    rw [decodeHeader_makeResponse]
    exact unserved notServed
  · exact makeResponse_commandLength _ _ _ systemId (by omega)

/-! ### Handlers -/

theorem answerId_of_served (commandId : UInt32)
    (served : IsServed commandId) :
    answerId commandId = commandId ||| 0x80000000 :=
  if_pos served

theorem handleBind_replied (env : Env) (hdr : Header) (body : Octets)
    (s : Session Number) (isBind : IsBind hdr.commandId) :
    Replied hdr s (handleBind env hdr body s).2 := by
  have served : IsServed hdr.commandId := Or.inl isBind
  have isAnswer : bindRespId hdr.commandId = answerId hdr.commandId :=
    (answerId_of_served hdr.commandId served).symm
  have headerOnly : ([] : Octets).length ≤ s.msgIdPrefix.length + 11 :=
    Nat.zero_le _
  cases handleBind_answered env hdr body s with
  | alreadyBound notOpen isResult =>
      rw [isResult, isAnswer]
      exact ⟨_, [], rfl, fun unserved => absurd served unserved, headerOnly⟩
  | refused code wasOpen answered isResult =>
      rw [isResult, isAnswer]
      exact ⟨_, [], rfl, fun unserved => absurd served unserved, headerOnly⟩
  | accepted code wasOpen answered isResult =>
      rw [isResult, isAnswer]
      refine ⟨_, text "smpp-server", rfl,
        fun unserved => absurd served unserved, ?_⟩
      have nameLength : (text "smpp-server").length = 11 := by decide
      omega

theorem handleUnbind_replied (hdr : Header) (s : Session Number)
    (isUnbind : hdr.commandId = Smpp.unbind) :
    Replied hdr s (handleUnbind hdr s).2 := by
  have served : IsServed hdr.commandId := Or.inr (Or.inl isUnbind)
  refine ⟨esmeRok, [], ?_, fun unserved => absurd served unserved,
    Nat.zero_le _⟩
  have isAnswer : answerId hdr.commandId = unbindResp := by
    rw [isUnbind]
    decide
  rw [handleUnbind_sent, isAnswer]

theorem handleEnquireLink_replied (hdr : Header) (s : Session Number)
    (isEnquiry : hdr.commandId = Smpp.enquireLink) :
    Replied hdr s (handleEnquireLink hdr s).2 := by
  have served : IsServed hdr.commandId :=
    Or.inr (Or.inr (Or.inl isEnquiry))
  refine ⟨esmeRok, [], ?_, fun unserved => absurd served unserved,
    Nat.zero_le _⟩
  have isAnswer : answerId hdr.commandId = enquireLinkResp := by
    rw [isEnquiry]
    decide
  rw [isAnswer]
  rfl

theorem handleSubmitSm_replied [TokenArith Number] (env : Env)
    (hdr : Header) (body : Octets) (s : Session Number)
    (isSubmit : hdr.commandId = Smpp.submitSm) :
    Replied hdr s (handleSubmitSm env hdr body s).2 := by
  have served : IsServed hdr.commandId := Or.inr (Or.inr (Or.inr isSubmit))
  have isAnswer : answerId hdr.commandId = submitSmResp := by
    rw [isSubmit]
    decide
  unfold Replied
  rw [isAnswer]
  cases handleSubmitSm_submitted env hdr body s with
  | accepted tokens lastRefill mayTransmit isResult =>
      rw [isResult]
      refine ⟨_, messageId s.msgIdPrefix (s.msgSeq + 1), rfl,
        fun unserved => absurd served unserved, ?_⟩
      rw [messageId, List.length_append, setwHex_word_length]
      omega
  | refused tokens lastRefill status isError isResult =>
      rw [isResult]
      exact ⟨status, [], rfl, fun unserved => absurd served unserved,
        Nat.zero_le _⟩

/-! ### Dispatch -/

def IsKnownResponse (commandId : UInt32) : Prop :=
  commandId = Smpp.enquireLinkResp ∨ commandId = Smpp.deliverSmResp

instance (commandId : UInt32) : Decidable (IsKnownResponse commandId) :=
  inferInstanceAs (Decidable (_ ∨ _))

theorem isResponseId_of_known (commandId : UInt32)
    (known : IsKnownResponse commandId) : isResponseId commandId = true := by
  rcases known with rfl | rfl <;> decide

theorem isResponseId_of_served (commandId : UInt32)
    (served : IsServed commandId) : isResponseId commandId = false := by
  rcases served with (rfl | rfl | rfl) | rfl | rfl | rfl <;> decide

theorem isResponseId_answerId (commandId : UInt32) :
    isResponseId (answerId commandId) = true := by
  unfold answerId
  split
  · rename_i served
    rcases served with (rfl | rfl | rfl) | rfl | rfl | rfl <;> decide
  · decide

section Dispatch

variable [TokenArith Number]

theorem dispatch_replied (env : Env) (hdr : Header) (body : Octets)
    (s : Session Number) (unknown : ¬IsKnownResponse hdr.commandId) :
    Replied hdr s (dispatch env hdr body s).2 := by
  cases dispatch_dispatchedTo env hdr body s with
  | bind isBind isResult =>
      rw [isResult]
      exact handleBind_replied env hdr body s isBind
  | unbind isUnbind isResult =>
      rw [isResult]
      exact handleUnbind_replied hdr s isUnbind
  | enquireLink isEnquiry isResult =>
      rw [isResult]
      exact handleEnquireLink_replied hdr s isEnquiry
  | submitSm isSubmit isResult =>
      rw [isResult]
      exact handleSubmitSm_replied env hdr body s isSubmit
  | enquireLinkResp isResponse isResult =>
      exact absurd (Or.inl isResponse) unknown
  | deliverSmResp isResponse isResult =>
      exact absurd (Or.inr isResponse) unknown
  | unknown notBind notUnbind notEnquiry notSubmit _ _ isResult =>
      have unserved : ¬IsServed hdr.commandId := by
        rintro (isBind | isUnbind | isEnquiry | isSubmit)
        · exact notBind isBind
        · exact notUnbind isUnbind
        · exact notEnquiry isEnquiry
        · exact notSubmit isSubmit
      refine ⟨esmeRinvcmdid, [], ?_, fun _ => rfl, Nat.zero_le _⟩
      rw [isResult, answerId, if_neg unserved]
      rfl

/-- A response without a handler, generic_nack included. -/
def IsUnlistedResponse (commandId : UInt32) : Prop :=
  isResponseId commandId = true ∧ ¬IsKnownResponse commandId

/-- The default branch of `dispatch` does not look at bit 31. -/
theorem dispatch_of_unlisted (env : Env) (hdr : Header) (body : Octets)
    (s : Session Number) (unlisted : IsUnlistedResponse hdr.commandId) :
    dispatch env hdr body s =
      (s, [.sendPdu (makeResponse genericNack esmeRinvcmdid
        hdr.sequenceNumber)]) := by
  have unserved : ¬IsServed hdr.commandId := by
    intro served
    have isResponse := unlisted.1
    rw [isResponseId_of_served hdr.commandId served] at isResponse
    contradiction
  cases dispatch_dispatchedTo env hdr body s with
  | bind isBind isResult => exact absurd (Or.inl isBind) unserved
  | unbind isUnbind isResult =>
      exact absurd (Or.inr (Or.inl isUnbind)) unserved
  | enquireLink isEnquiry isResult =>
      exact absurd (Or.inr (Or.inr (Or.inl isEnquiry))) unserved
  | submitSm isSubmit isResult =>
      exact absurd (Or.inr (Or.inr (Or.inr isSubmit))) unserved
  | enquireLinkResp isKnown isResult =>
      exact absurd (Or.inl isKnown) unlisted.2
  | deliverSmResp isKnown isResult =>
      exact absurd (Or.inr isKnown) unlisted.2
  | unknown _ _ _ _ _ _ isResult => exact isResult

theorem dispatch_known_sent (env : Env) (hdr : Header) (body : Octets)
    (s : Session Number) (known : IsKnownResponse hdr.commandId) :
    sentPdus (dispatch env hdr body s).2 = [] := by
  have response := isResponseId_of_known hdr.commandId known
  cases dispatch_dispatchedTo env hdr body s with
  | bind isBind isResult =>
      rw [isResponseId_of_served _ (Or.inl isBind)] at response
      contradiction
  | unbind isUnbind isResult =>
      rw [isUnbind] at response
      contradiction
  | enquireLink isEnquiry isResult =>
      rw [isEnquiry] at response
      contradiction
  | submitSm isSubmit isResult =>
      rw [isSubmit] at response
      contradiction
  | enquireLinkResp isResponse isResult =>
      rw [isResult]
      exact handleEnquireLinkResp_sent hdr s
  | deliverSmResp isResponse isResult =>
      rw [isResult]
      rfl
  | unknown _ _ _ _ notEnquiryResponse notDeliveryResponse isResult =>
      rcases known with isEnquiryResponse | isDeliveryResponse
      · exact absurd isEnquiryResponse notEnquiryResponse
      · exact absurd isDeliveryResponse notDeliveryResponse

/-! ### Runs -/

def isResponsePdu (pdu : Octets) : Bool :=
  isResponseId (decodeHeader pdu).commandId

/-- The header of the PDU an event dispatches, unless it is one of the two
responses that are not answered. -/
def answered (event : Event) : Option Header :=
  match dispatched event with
  | some (_, hdr, _) =>
      if IsKnownResponse hdr.commandId then none else some hdr
  | none => none

theorem step_answers (s : Session Number) (event : Event)
    (short : s.msgIdPrefix.length ≤ 8) :
    List.Forall₂ Answers (answered event).toList
      ((sentPdus (step s event).2).filter isResponsePdu) := by
  cases pdu : dispatched event with
  | some parts =>
      rcases parts with ⟨env, hdr, body⟩
      rw [step_of_dispatched s event env hdr body pdu,
        dispatchAndRead_sentPdus]
      by_cases known : IsKnownResponse hdr.commandId
      · rw [dispatch_known_sent env hdr body s known]
        simp [answered, pdu, known]
      · obtain ⟨answer, sent, answers⟩ :=
          (dispatch_replied env hdr body s known).answers short
        have isResponse : isResponsePdu answer = true := by
          rw [isResponsePdu, answers.commandId]
          exact isResponseId_answerId _
        simp [answered, pdu, known, sent, isResponse, answers]
  | none =>
      have nothing : answered event = none := by
        simp only [answered, pdu]
      rw [nothing]
      -- Without a dispatch only the server's own requests go out.
      have requests : (sentPdus (step s event).2).filter isResponsePdu =
          [] := by
        cases step_handled s event with
        | idle outputs quiet isResult =>
            rw [isResult, List.filter_eq_nil_iff]
            intro sent member
            rw [mem_sentPdus] at member
            rcases quiet _ member with
              ⟨hdr, same⟩ | ⟨name, message, same⟩ | same
            all_goals contradiction
        | disconnects reason isResult =>
            rw [isResult, doDisconnect_sent]
            rfl
        | dispatches env hdr body some isResult =>
            rw [pdu] at some
            contradiction
        | enquires elSeq live isResult =>
            rw [isResult, List.filter_eq_nil_iff]
            intro sent member
            rw [List.mem_singleton.mp member, isResponsePdu,
              decodeHeader_makeResponse]
            exact (by decide : ¬isResponseId Smpp.enquireLink = true)
        | delivers srcAddr dstAddr shortMessage mayReceive isResult =>
            rw [isResult, List.filter_eq_nil_iff]
            intro sent member
            rw [List.mem_singleton.mp member, isResponsePdu,
              decodeHeader_makeDeliverSm]
            exact (by decide : ¬isResponseId Smpp.deliverSm = true)
      rw [requests]
      exact .nil

abbrev History (Number : Type) :=
  List (Machine.Entry (Session Number) Event Effect)

def outbound (past : History Number) : List Octets :=
  past.flatMap fun entry => sentPdus entry.outputs

def answeredPdus (past : History Number) : List Header :=
  past.filterMap fun entry => answered entry.event

omit [TokenArith Number] in
theorem outbound_concat (past : History Number)
    (entry : Machine.Entry (Session Number) Event Effect) :
    outbound (past ++ [entry]) =
      outbound past ++ sentPdus entry.outputs := by
  rw [outbound, List.flatMap_append, List.flatMap_singleton]
  rfl

omit [TokenArith Number] in
theorem answeredPdus_concat (past : History Number)
    (entry : Machine.Entry (Session Number) Event Effect) :
    answeredPdus (past ++ [entry]) =
      answeredPdus past ++ (answered entry.event).toList := by
  rw [answeredPdus, List.filterMap_append, List.filterMap_cons]
  cases answered entry.event <;> rfl

theorem create_msgIdPrefix_length (config : Config) :
    (create config : Session Number).msgIdPrefix.length ≤ 8 := by
  unfold create
  dsimp only
  split
  · rw [List.length_take]
    omega
  · omega

theorem step_msgIdPrefix (s : Session Number) (event : Event) :
    (step s event).1.msgIdPrefix = s.msgIdPrefix :=
  congrArg (·.2.2.1) (step_fixed s event)

theorem outbound_answers (config : Config) (events : List Event) :
    let past := machine.history (create config : Session Number) events
    List.Forall₂ Answers (answeredPdus past)
      ((outbound past).filter isResponsePdu) := by
  have both := machine.history_rule
    (fun s past => s.msgIdPrefix.length ≤ 8 ∧
      List.Forall₂ Answers (answeredPdus past)
        ((outbound past).filter isResponsePdu))
    (create config : Session Number)
    ⟨create_msgIdPrefix_length config, .nil⟩
    (by
      intro s past event earlier
      refine ⟨?_, ?_⟩
      · change (step s event).1.msgIdPrefix.length ≤ 8
        rw [step_msgIdPrefix]
        exact earlier.1
      · rw [answeredPdus_concat, outbound_concat, List.filter_append]
        exact List.rel_append earlier.2 (step_answers s event earlier.1))
    events
  exact both.2

/-- For every run: each dispatched request, whatever the state, the body and
the answers from outside, has exactly one PDU sent for it, its answer; and the
responses among all PDUs sent are, one for one and in the same order, the
answers to the PDUs dispatched other than the two known responses.  Requests
of the server, which carry no response id, may stand anywhere between. -/
theorem requests_answered_in_order (config : Config) (events : List Event) :
    let past := machine.history (create config : Session Number) events
    (∀ entry ∈ past, ∀ env hdr body,
        dispatched entry.event = some (env, hdr, body) →
        isResponseId hdr.commandId = false →
        ∃ pdu, sentPdus entry.outputs = [pdu] ∧ Answers hdr pdu) ∧
      List.Forall₂ Answers (answeredPdus past)
        ((outbound past).filter isResponsePdu) := by
  intro past
  refine ⟨?_, outbound_answers config events⟩
  refine machine.every_step_rule (fun s => s.msgIdPrefix.length ≤ 8)
    (fun entry => ∀ env hdr body,
      dispatched entry.event = some (env, hdr, body) →
      isResponseId hdr.commandId = false →
      ∃ pdu, sentPdus entry.outputs = [pdu] ∧ Answers hdr pdu)
    (create config) (create_msgIdPrefix_length config) ?_ ?_ events
  · intro s event short
    change (step s event).1.msgIdPrefix.length ≤ 8
    rw [step_msgIdPrefix]
    exact short
  · intro s event short env hdr body pdu isRequest
    change ∃ answer, sentPdus (step s event).2 = [answer] ∧ _
    rw [step_of_dispatched s event env hdr body pdu,
      dispatchAndRead_sentPdus]
    refine (dispatch_replied env hdr body s ?_).answers short
    intro known
    rw [isResponseId_of_known hdr.commandId known] at isRequest
    contradiction

end Dispatch

end OpenSmsc.SmppSession
