/-
The requests a session makes of its own accord.

A session sends ENQUIRE_LINK when its keepalive timer expires and DELIVER_SM
when the bus asks for it; everything else it sends answers the peer.  Each
step is classified by what it does to these two requests, to their sequence
numbers and to the timers.
-/

import OpenSmsc.Client.Outputs

namespace OpenSmsc.SmppSession

open Foundation Smpp

variable {Number : Type}

def isRequest (hdr : Header) : Bool :=
  hdr.commandId == enquireLink || hdr.commandId == Smpp.deliverSm

def requestsIn (outputs : List Effect) : List Header :=
  ((sentPdus outputs).map decodeHeader).filter isRequest

def returnedIn (outputs : List Effect) : List UInt32 :=
  outputs.filterMap fun
    | .returnDeliverSm sequenceNumber => some sequenceNumber
    | _ => none

def isTimerEffect : Effect → Bool
  | .asyncWait _ _ => true
  | .cancel _ => true
  | _ => false

def timersIn (outputs : List Effect) : List Effect :=
  outputs.filter isTimerEffect

structure Quiet (s : Session Number) (result : Result Number) : Prop where
  elSeq : result.1.elSeq = s.elSeq
  elPending : result.1.elPending = s.elPending
  deliverSeq : result.1.deliverSeq = s.deliverSeq
  requests : requestsIn result.2 = []
  returned : returnedIn result.2 = []
  timers : timersIn result.2 = []

theorem requestsIn_append (first second : List Effect) :
    requestsIn (first ++ second) = requestsIn first ++ requestsIn second := by
  unfold requestsIn
  rw [sentPdus_append, List.map_append, List.filter_append]

theorem requestsIn_sendPdu (pdu : Octets) (later : List Effect) :
    requestsIn (.sendPdu pdu :: later) =
      if isRequest (decodeHeader pdu) = true then
        decodeHeader pdu :: requestsIn later
      else requestsIn later :=
  List.filter_cons

theorem requestsIn_response (commandId status sequenceNumber : UInt32)
    (systemId : Octets) (notEnquiry : commandId ≠ enquireLink)
    (notDelivery : commandId ≠ Smpp.deliverSm) (later : List Effect) :
    requestsIn
        (.sendPdu (makeResponse commandId status sequenceNumber systemId) ::
          later) =
      requestsIn later := by
  have isResponse : isRequest (decodeHeader
      (makeResponse commandId status sequenceNumber systemId)) = false := by
    rw [decodeHeader_makeResponse]
    simp [isRequest, notEnquiry, notDelivery]
  rw [requestsIn_sendPdu, isResponse]
  rfl

theorem requestsIn_enquiry (sequenceNumber : UInt32) (later : List Effect)
    (noRequest : requestsIn later = []) :
    ∃ hdr : Header, hdr.commandId = enquireLink ∧
      hdr.sequenceNumber = sequenceNumber ∧
      requestsIn
        (.sendPdu (makeResponse enquireLink esmeRok sequenceNumber) ::
          later) = [hdr] := by
  have isHeader :=
    decodeHeader_makeResponse enquireLink esmeRok sequenceNumber []
  refine ⟨_, congrArg (·.commandId) isHeader,
    congrArg (·.sequenceNumber) isHeader, ?_⟩
  rw [requestsIn_sendPdu, if_pos (by rw [isHeader]; rfl), noRequest]

theorem requestsIn_delivery (sequenceNumber : UInt32)
    (srcAddr dstAddr shortMessage : Octets) (later : List Effect)
    (noRequest : requestsIn later = []) :
    ∃ hdr : Header, hdr.commandId = Smpp.deliverSm ∧
      hdr.sequenceNumber = sequenceNumber ∧
      requestsIn
        (.sendPdu (makeDeliverSm sequenceNumber srcAddr dstAddr
            shortMessage) :: later) = [hdr] := by
  have isHeader := decodeHeader_makeDeliverSm sequenceNumber srcAddr dstAddr
    shortMessage 0 0 0 0
  refine ⟨_, congrArg (·.commandId) isHeader,
    congrArg (·.sequenceNumber) isHeader, ?_⟩
  rw [requestsIn_sendPdu, if_pos (by rw [isHeader]; rfl), noRequest]

/-! ### Quiet handlers -/

theorem quiet_still (s : Session Number) : Quiet s (s, []) :=
  ⟨rfl, rfl, rfl, rfl, rfl, rfl⟩

theorem doDisconnect_quiet (reason : Octets) (s : Session Number) :
    Quiet s (doDisconnect reason s) := by
  unfold doDisconnect
  split
  · exact quiet_still s
  · exact ⟨rfl, rfl, rfl, rfl, rfl, rfl⟩

private theorem bindRespId_notRequest (commandId : UInt32)
    (isBind : IsBind commandId) :
    bindRespId commandId ≠ enquireLink ∧
      bindRespId commandId ≠ Smpp.deliverSm := by
  rcases isBind with rfl | rfl | rfl <;> decide

theorem handleBind_quiet (env : Env) (hdr : Header) (body : Octets)
    (s : Session Number) (isBind : IsBind hdr.commandId) :
    Quiet s (handleBind env hdr body s) := by
  obtain ⟨notEnquiry, notDelivery⟩ :=
    bindRespId_notRequest hdr.commandId isBind
  cases handleBind_answered env hdr body s with
  | alreadyBound notOpen isResult =>
      rw [isResult]
      refine ⟨rfl, rfl, rfl, ?_, rfl, rfl⟩
      exact requestsIn_response _ _ _ _ notEnquiry notDelivery []
  | refused code wasOpen answered isResult =>
      rw [isResult]
      refine ⟨rfl, rfl, rfl, ?_, rfl, rfl⟩
      exact requestsIn_response _ _ _ _ notEnquiry notDelivery _
  | accepted code wasOpen answered isResult =>
      rw [isResult]
      refine ⟨rfl, rfl, rfl, ?_, rfl, rfl⟩
      exact requestsIn_response _ _ _ _ notEnquiry notDelivery _

theorem handleUnbind_quiet (hdr : Header) (s : Session Number) :
    Quiet s (handleUnbind hdr s) := by
  have ended := doDisconnect_quiet (text "unbind") s
  refine ⟨ended.elSeq, ended.elPending, ended.deliverSeq, ?_,
    ended.returned, ended.timers⟩
  exact (requestsIn_response _ _ _ _ (by decide) (by decide) _).trans
    ended.requests

theorem handleSubmitSm_quiet [TokenArith Number] (env : Env) (hdr : Header)
    (body : Octets) (s : Session Number) :
    Quiet s (handleSubmitSm env hdr body s) := by
  cases handleSubmitSm_submitted env hdr body s with
  | accepted tokens lastRefill mayTransmit isResult =>
      rw [isResult]
      refine ⟨rfl, rfl, rfl, ?_, rfl, rfl⟩
      exact requestsIn_response _ _ _ _ (by decide) (by decide) _
  | refused tokens lastRefill status isError isResult =>
      rw [isResult]
      refine ⟨rfl, rfl, rfl, ?_, rfl, rfl⟩
      exact requestsIn_response _ _ _ _ (by decide) (by decide) []

theorem response_quiet (s : Session Number)
    (commandId status sequenceNumber : UInt32)
    (notEnquiry : commandId ≠ enquireLink)
    (notDelivery : commandId ≠ Smpp.deliverSm) :
    Quiet s
      (s, [.sendPdu (makeResponse commandId status sequenceNumber)]) := by
  refine ⟨rfl, rfl, rfl, ?_, rfl, rfl⟩
  exact requestsIn_response _ _ _ _ notEnquiry notDelivery []

theorem Quiet.append {s : Session Number} {result : Result Number}
    (quiet : Quiet s result) {more : List Effect}
    (noRequest : requestsIn more = []) (noReturn : returnedIn more = [])
    (noTimer : timersIn more = []) :
    Quiet s (result.1, result.2 ++ more) := by
  refine ⟨quiet.elSeq, quiet.elPending, quiet.deliverSeq, ?_, ?_, ?_⟩
  · rw [requestsIn_append, quiet.requests, noRequest]
    rfl
  · unfold returnedIn at noReturn ⊢
    rw [List.filterMap_append, noReturn, List.append_nil]
    exact quiet.returned
  · unfold timersIn at noTimer ⊢
    rw [List.filter_append, noTimer, List.append_nil]
    exact quiet.timers

/-! ### Steps -/

def AnswersEnquiry (s : Session Number) (event : Event) : Prop :=
  ∃ env hdr body, dispatched event = some (env, hdr, body) ∧
    hdr.commandId = enquireLinkResp ∧ hdr.sequenceNumber = s.elSeq ∧
    s.elPending = true

def nextElSeq (elSeq : UInt32) : UInt32 :=
  if elSeq = 0 then 0x10000000 else elSeq + 1

def DueEnquiry (s : Session Number) (event : Event) : Prop :=
  event = .onEnquireLinkTimer false ∧ s.elPending = false ∧
    s.state ≠ .unbound

inductive Requested (s : Session Number) (event : Event)
    (result : Result Number) : Prop
  | quiet (isQuiet : Quiet s result) (notDue : ¬DueEnquiry s event)
      (unanswered : ¬AnswersEnquiry s event)
  | enquires (due : DueEnquiry s event)
      (isResult : result =
        ({ s with elSeq := nextElSeq s.elSeq, elPending := true },
          [.sendPdu (makeResponse enquireLink esmeRok (nextElSeq s.elSeq)),
            .asyncWait .enquireLinkTimeout s.elTimeoutSec]))
  | answered (answers : AnswersEnquiry s event)
      (isResult : result =
        ({ s with elPending := false },
          [.cancel .enquireLinkTimeout,
            .asyncWait .enquireLink s.elIntervalSec, .asyncReadHeader]))
  | delivers (srcAddr dstAddr shortMessage : Octets)
      (isDelivery : event = .deliverSm srcAddr dstAddr shortMessage)
      (isResult : result =
        ({ s with deliverSeq := s.deliverSeq + 1 },
          [.sendPdu (makeDeliverSm s.deliverSeq srcAddr dstAddr
              shortMessage),
            .returnDeliverSm s.deliverSeq]))

theorem requested_of_quiet {s : Session Number} {event : Event}
    {result : Result Number} (quiet : Quiet s result)
    (noPdu : dispatched event = none)
    (notTimer : event ≠ .onEnquireLinkTimer false) :
    Requested s event result := by
  refine .quiet quiet (fun due => notTimer due.1) ?_
  rintro ⟨env, hdr, body, pdu, _⟩
  rw [noPdu] at pdu
  cases pdu

theorem onEnquireLinkTimer_requested (failed : Bool) (s : Session Number) :
    Requested s (.onEnquireLinkTimer failed)
      (onEnquireLinkTimer failed s) := by
  have unanswered : ¬AnswersEnquiry s (.onEnquireLinkTimer failed) := by
    rintro ⟨env, hdr, body, pdu, _⟩
    cases pdu
  unfold onEnquireLinkTimer
  by_cases skipped : (failed || s.elPending) = true
  · rw [if_pos skipped]
    refine .quiet (quiet_still s) ?_ unanswered
    rintro ⟨isTimer, notPending, _⟩
    cases isTimer
    rw [notPending] at skipped
    contradiction
  · rw [if_neg skipped]
    rw [Bool.or_eq_true, not_or, Bool.not_eq_true, Bool.not_eq_true]
      at skipped
    by_cases ended : s.state = .unbound
    · rw [if_pos ended]
      exact .quiet (quiet_still s) (fun due => due.2.2 ended) unanswered
    · rw [if_neg ended]
      refine .enquires ⟨?_, skipped.2, ended⟩ rfl
      rw [skipped.1]

theorem onEnquireLinkTimeout_quiet (failed : Bool) (s : Session Number) :
    Quiet s (onEnquireLinkTimeout failed s) := by
  unfold onEnquireLinkTimeout
  split
  · exact quiet_still s
  · split
    · exact quiet_still s
    · exact doDisconnect_quiet _ s

theorem deliverSm_requested (srcAddr dstAddr shortMessage : Octets)
    (s : Session Number) :
    Requested s (.deliverSm srcAddr dstAddr shortMessage)
      (deliverSm srcAddr dstAddr shortMessage s) := by
  unfold deliverSm
  split
  · exact requested_of_quiet ⟨rfl, rfl, rfl, rfl, rfl, rfl⟩ rfl nofun
  · exact .delivers srcAddr dstAddr shortMessage rfl rfl

section Steps

variable [TokenArith Number]

theorem dispatch_requested (env : Env) (hdr : Header) (body : Octets)
    (s : Session Number) :
    (Quiet s (dispatch env hdr body s) ∧
        ¬(hdr.commandId = enquireLinkResp ∧
          hdr.sequenceNumber = s.elSeq ∧ s.elPending = true)) ∨
      (hdr.commandId = enquireLinkResp ∧ hdr.sequenceNumber = s.elSeq ∧
        s.elPending = true ∧
        dispatch env hdr body s =
          ({ s with elPending := false },
            [.cancel .enquireLinkTimeout,
              .asyncWait .enquireLink s.elIntervalSec])) := by
  have other {commandId : UInt32} (isOther : hdr.commandId = commandId)
      (different : commandId ≠ enquireLinkResp) :
      ¬(hdr.commandId = enquireLinkResp ∧
        hdr.sequenceNumber = s.elSeq ∧ s.elPending = true) :=
    fun awaited => different (isOther.symm.trans awaited.1)
  cases dispatch_dispatchedTo env hdr body s with
  | bind isBind isResult =>
      rw [isResult]
      refine .inl ⟨handleBind_quiet env hdr body s isBind, ?_⟩
      rcases isBind with isId | isId | isId
      · exact other isId (by decide)
      · exact other isId (by decide)
      · exact other isId (by decide)
  | unbind isUnbind isResult =>
      rw [isResult]
      exact .inl ⟨handleUnbind_quiet hdr s, other isUnbind (by decide)⟩
  | enquireLink isEnquiry isResult =>
      rw [isResult]
      exact .inl ⟨response_quiet s _ _ _ (by decide) (by decide),
        other isEnquiry (by decide)⟩
  | submitSm isSubmit isResult =>
      rw [isResult]
      exact .inl ⟨handleSubmitSm_quiet env hdr body s,
        other isSubmit (by decide)⟩
  | enquireLinkResp isResponse isResult =>
      rw [isResult]
      unfold handleEnquireLinkResp
      by_cases awaited : hdr.sequenceNumber = s.elSeq ∧ s.elPending = true
      · rw [if_pos awaited]
        exact .inr ⟨isResponse, awaited.1, awaited.2, rfl⟩
      · rw [if_neg awaited]
        exact .inl ⟨quiet_still s, fun both => awaited both.2⟩
  | deliverSmResp isResponse isResult =>
      rw [isResult]
      exact .inl ⟨quiet_still s, other isResponse (by decide)⟩
  | unknown _ _ _ _ notResponse _ isResult =>
      rw [isResult]
      exact .inl ⟨response_quiet s _ _ _ (by decide) (by decide),
        fun awaited => notResponse awaited.1⟩

theorem step_dispatched_requested (s : Session Number) {event : Event}
    {env : Env} {hdr : Header} {body : Octets}
    (pdu : dispatched event = some (env, hdr, body)) :
    Requested s event (step s event) := by
  rw [step_of_dispatched s event env hdr body pdu]
  rcases dispatch_requested env hdr body s with
    ⟨quiet, notAwaited⟩ | ⟨isResponse, sameSeq, pending, isResult⟩
  · refine .quiet (quiet.append rfl rfl rfl) ?_ ?_
    · rintro ⟨isTimer, _⟩
      rw [isTimer] at pdu
      cases pdu
    · rintro ⟨env', hdr', body', pdu', awaited⟩
      rw [pdu] at pdu'
      cases pdu'
      exact notAwaited awaited
  · refine .answered ⟨env, hdr, body, pdu, isResponse, sameSeq, pending⟩ ?_
    unfold dispatchAndRead
    rw [isResult]
    rfl

theorem onHeader_requested (env : Env) (completion : ReadResult)
    (s : Session Number)
    (noPdu : dispatched (.onHeader env completion) = none) :
    Requested s (.onHeader env completion) (onHeader env completion s) := by
  cases completion with
  | error message =>
      exact requested_of_quiet (doDisconnect_quiet _ s) noPdu nofun
  | ok headerBuf =>
      unfold onHeader readBody
      dsimp only
      split
      · exact requested_of_quiet (doDisconnect_quiet _ s) noPdu nofun
      · split
        · next noBody =>
            have headerOnly :
                (decodeHeader headerBuf).commandLength = 16 := by
              have added := congrArg (· + 16) noBody
              simpa using added
            unfold dispatched at noPdu
            dsimp only at noPdu
            rw [if_pos headerOnly] at noPdu
            cases noPdu
        · exact requested_of_quiet ⟨rfl, rfl, rfl, rfl, rfl, rfl⟩ noPdu nofun

theorem step_requested (s : Session Number) (event : Event) :
    Requested s event (step s event) := by
  cases pdu : dispatched event with
  | some dispatchedPdu => exact step_dispatched_requested s pdu
  | none =>
      cases event with
      | onHeader env completion => exact onHeader_requested env completion s pdu
      | onBody env hdr completion =>
          cases completion with
          | error message =>
              exact requested_of_quiet (doDisconnect_quiet _ s) pdu nofun
          | ok body => cases pdu
      | onEnquireLinkTimer failed =>
          exact onEnquireLinkTimer_requested failed s
      | onEnquireLinkTimeout failed =>
          exact requested_of_quiet (onEnquireLinkTimeout_quiet failed s) pdu
            nofun
      | disconnect reason =>
          exact requested_of_quiet (doDisconnect_quiet reason s) pdu nofun
      | deliverSm srcAddr dstAddr shortMessage =>
          exact deliverSm_requested srcAddr dstAddr shortMessage s
      | getSessionInfo =>
          exact requested_of_quiet ⟨rfl, rfl, rfl, rfl, rfl, rfl⟩ pdu nofun

end Steps

end OpenSmsc.SmppSession
