/-
What one step of a session can do to its life: nothing, an accepted bind, or
the end.

Every handler is classified once.  Results about runs are derived from the
classification and never unfold a handler again.
-/

import OpenSmsc.Client.Session

namespace OpenSmsc.SmppSession

open Foundation Smpp

variable {Number : Type}

theorem doDisconnect_state (reason : Octets) (s : Session Number) :
    (doDisconnect reason s).1.state = .unbound := by
  unfold doDisconnect
  split
  · assumption
  · rfl

/-! ### Submits -/

def Session.withBucket (s : Session Number) (tokens : Number)
    (lastRefill : Int) : Session Number :=
  { s with tbTokens := tokens, tbLastRefill := lastRefill }

def messageId (msgIdPrefix : Octets) (seq : UInt32) : Octets :=
  msgIdPrefix ++ setwHex 8 seq.toNat

theorem setwHex_word_length (number : UInt32) :
    (setwHex 8 number.toNat).length = 8 :=
  setwHex_length 8 number.toNat (by decide) number.toNat_lt

theorem messageId_nonempty (msgIdPrefix : Octets) (seq : UInt32) :
    (messageId msgIdPrefix seq).isEmpty = false := by
  rw [List.isEmpty_eq_false_iff, ← List.length_pos_iff]
  simp only [messageId, List.length_append, setwHex_word_length]
  omega

theorem throttleCheck_bucket [TokenArith Number] (now : Int)
    (s : Session Number) :
    ∃ tokens lastRefill,
      (throttleCheck now s).2 = s.withBucket tokens lastRefill := by
  unfold throttleCheck
  split
  · exact ⟨s.tbTokens, s.tbLastRefill, rfl⟩
  · dsimp only
    split
    · exact ⟨_, now, rfl⟩
    · exact ⟨_, now, rfl⟩

/-- A submit is either accepted, in a transmitting state and with the next id,
or refused with an error and no further effect.  Both may touch the bucket. -/
inductive Submitted (hdr : Header) (body : Octets) (s : Session Number)
    (result : Result Number) : Prop
  | accepted (tokens : Number) (lastRefill : Int)
      (mayTransmit : s.state = .boundTx ∨ s.state = .boundTrx)
      (isResult : result =
        ({ s.withBucket tokens lastRefill with msgSeq := s.msgSeq + 1 },
          [.sendPdu (makeResponse submitSmResp esmeRok hdr.sequenceNumber
              (messageId s.msgIdPrefix (s.msgSeq + 1))),
            .callRouteMessage (parseSubmitSm body).srcAddr
              (parseSubmitSm body).dstAddr (parseSubmitSm body).shortMessage
              (messageId s.msgIdPrefix (s.msgSeq + 1))]))
  | refused (tokens : Number) (lastRefill : Int) (status : UInt32)
      (isError : status ≠ esmeRok)
      (isResult : result =
        (s.withBucket tokens lastRefill,
          [.sendPdu (makeResponse submitSmResp status
            hdr.sequenceNumber)]))

theorem handleSubmitSm_submitted [TokenArith Number] (env : Env)
    (hdr : Header) (body : Octets) (s : Session Number) :
    Submitted hdr body s (handleSubmitSm env hdr body s) := by
  unfold handleSubmitSm
  by_cases mayTransmit : s.state = .boundTx ∨ s.state = .boundTrx
  · obtain ⟨tokens, lastRefill, bucket⟩ :=
      throttleCheck_bucket env.steadyClock s
    cases allowed : (throttleCheck env.steadyClock s).1 with
    | true =>
        refine .accepted tokens lastRefill mayTransmit ?_
        have nonempty :=
          messageId_nonempty s.msgIdPrefix (s.msgSeq + 1)
        unfold messageId at nonempty
        simp only [if_pos mayTransmit, if_true, allowed, bucket,
          nextMessageId, Session.withBucket, nonempty, Bool.false_eq_true,
          if_false]
        rfl
    | false =>
        refine .refused tokens lastRefill esmeRthrottled (by decide) ?_
        simp only [if_pos mayTransmit, if_true, allowed, bucket]
        rfl
  · refine .refused s.tbTokens s.tbLastRefill esmeRinvbndsts (by decide) ?_
    simp only [if_neg mayTransmit]
    rfl

/-! ### Binds -/

def bindAnswer (env : Env) (body : Octets) (s : Session Number) :
    Option (Bool × UInt32) :=
  env.authenticate s.uuid (bindCredentials body 0).1.1
    (bindCredentials body 0).1.2 s.clientIp

def bindCall (env : Env) (body : Octets) (s : Session Number) : Effect :=
  .callAuthenticate s.uuid (bindCredentials body 0).1.1
    (bindCredentials body 0).1.2 s.clientIp (bindAnswer env body s)

/-- The three ways a bind is answered.  A refusal carries the code of the
answer, or the preset one when the call threw. -/
inductive BindAnswered (env : Env) (hdr : Header) (body : Octets)
    (s : Session Number) (result : Result Number) : Prop
  | alreadyBound (notOpen : s.state ≠ .opened)
      (isResult : result =
        (s, [.sendPdu (makeResponse (bindRespId hdr.commandId) esmeRalybnd
          hdr.sequenceNumber)]))
  | refused (code : UInt32) (wasOpen : s.state = .opened)
      (answered : (bindAnswer env body s).getD (false, esmeRinvsysid) =
        (false, code))
      (isResult : result =
        ({ s with state := .unbound },
          [bindCall env body s,
            .sendPdu (makeResponse (bindRespId hdr.commandId) code
              hdr.sequenceNumber),
            .closeSocket, .emitSessionExited s.uuid (text "auth failed")]))
  | accepted (code : UInt32) (wasOpen : s.state = .opened)
      (answered : bindAnswer env body s = some (true, code))
      (isResult : result =
        ({ s with
            systemId := (bindCredentials body 0).1.1
            state := boundState hdr.commandId .opened
            bindTime := env.systemClock },
          [bindCall env body s,
            .sendPdu (makeResponse (bindRespId hdr.commandId) esmeRok
              hdr.sequenceNumber (text "smpp-server")),
            .callUpdateSessionDetails s.uuid (bindCredentials body 0).1.1
              (stateName (boundState hdr.commandId .opened))]))

theorem handleBind_answered (env : Env) (hdr : Header) (body : Octets)
    (s : Session Number) :
    BindAnswered env hdr body s (handleBind env hdr body s) := by
  by_cases notOpen : s.state ≠ .opened
  · refine .alreadyBound notOpen ?_
    unfold handleBind
    rw [if_pos notOpen]
  · have wasOpen : s.state = .opened := not_not.mp notOpen
    have refusal (code : UInt32)
        (answered : (bindAnswer env body s).getD (false, esmeRinvsysid) =
          (false, code)) :
        BindAnswered env hdr body s (handleBind env hdr body s) := by
      refine .refused code wasOpen answered ?_
      unfold bindAnswer at answered
      simp only [handleBind, answered, if_true, doDisconnect, wasOpen]
      rfl
    cases answered : bindAnswer env body s with
    | none => exact refusal esmeRinvsysid (by rw [answered]; rfl)
    | some answer =>
        rcases answer with ⟨authOk, code⟩
        cases authOk with
        | false => exact refusal code (by rw [answered]; rfl)
        | true =>
            refine .accepted code wasOpen answered ?_
            have called := answered
            unfold bindAnswer at called
            simp only [handleBind, called, Option.getD_some,
              Bool.true_eq_false, if_false, wasOpen, bindCall, answered,
              updateSessionDetails]
            rfl

/-! ### Dispatch -/

def IsBind (commandId : UInt32) : Prop :=
  commandId = bindTransmitter ∨ commandId = bindReceiver ∨
    commandId = bindTransceiver

instance (commandId : UInt32) : Decidable (IsBind commandId) :=
  inferInstanceAs (Decidable (_ ∨ _ ∨ _))

theorem boundState_live (commandId : UInt32) (isBind : IsBind commandId)
    (state : SessionState) : boundState commandId state ≠ .unbound := by
  rcases isBind with rfl | rfl | rfl
  · exact (by decide : SessionState.boundTx ≠ .unbound)
  · exact (by decide : SessionState.boundRx ≠ .unbound)
  · exact (by decide : SessionState.boundTrx ≠ .unbound)

inductive DispatchedTo [TokenArith Number] (env : Env) (hdr : Header)
    (body : Octets) (s : Session Number) (result : Result Number) : Prop
  | bind (isBind : IsBind hdr.commandId)
      (isResult : result = handleBind env hdr body s)
  | unbind (isUnbind : hdr.commandId = Smpp.unbind)
      (isResult : result = handleUnbind hdr s)
  | enquireLink (isEnquiry : hdr.commandId = Smpp.enquireLink)
      (isResult : result = handleEnquireLink hdr s)
  | submitSm (isSubmit : hdr.commandId = Smpp.submitSm)
      (isResult : result = handleSubmitSm env hdr body s)
  | enquireLinkResp (isResponse : hdr.commandId = Smpp.enquireLinkResp)
      (isResult : result = handleEnquireLinkResp hdr s)
  | deliverSmResp (isResponse : hdr.commandId = Smpp.deliverSmResp)
      (isResult : result = (s, []))
  | unknown (notBind : ¬IsBind hdr.commandId)
      (notUnbind : hdr.commandId ≠ Smpp.unbind)
      (notEnquiry : hdr.commandId ≠ Smpp.enquireLink)
      (notSubmit : hdr.commandId ≠ Smpp.submitSm)
      (notEnquiryResponse : hdr.commandId ≠ Smpp.enquireLinkResp)
      (notDeliveryResponse : hdr.commandId ≠ Smpp.deliverSmResp)
      (isResult : result =
        (s, [.sendPdu (makeResponse genericNack esmeRinvcmdid
          hdr.sequenceNumber)]))

theorem dispatch_dispatchedTo [TokenArith Number] (env : Env) (hdr : Header)
    (body : Octets) (s : Session Number) :
    DispatchedTo env hdr body s (dispatch env hdr body s) := by
  by_cases isBind : IsBind hdr.commandId
  · exact .bind isBind (if_pos isBind)
  by_cases isUnbind : hdr.commandId = Smpp.unbind
  · exact .unbind isUnbind ((if_neg isBind).trans (if_pos isUnbind))
  by_cases isEnquiry : hdr.commandId = Smpp.enquireLink
  · exact .enquireLink isEnquiry ((if_neg isBind).trans
      ((if_neg isUnbind).trans (if_pos isEnquiry)))
  by_cases isSubmit : hdr.commandId = Smpp.submitSm
  · exact .submitSm isSubmit ((if_neg isBind).trans
      ((if_neg isUnbind).trans ((if_neg isEnquiry).trans
        (if_pos isSubmit))))
  -- The responses come last in the chain.
  have late : dispatch env hdr body s =
      if hdr.commandId = Smpp.enquireLinkResp then handleEnquireLinkResp hdr s
      else if hdr.commandId = Smpp.deliverSmResp then
        handleDeliverSmResp hdr s
      else
        (s, [.sendPdu (makeResponse genericNack esmeRinvcmdid
          hdr.sequenceNumber)]) :=
    (if_neg isBind).trans ((if_neg isUnbind).trans ((if_neg isEnquiry).trans
      (if_neg isSubmit)))
  by_cases isEnquiryResp : hdr.commandId = Smpp.enquireLinkResp
  · exact .enquireLinkResp isEnquiryResp (late.trans (if_pos isEnquiryResp))
  by_cases isDeliveryResp : hdr.commandId = Smpp.deliverSmResp
  · exact .deliverSmResp isDeliveryResp (late.trans
      ((if_neg isEnquiryResp).trans (if_pos isDeliveryResp)))
  · exact .unknown isBind isUnbind isEnquiry isSubmit isEnquiryResp
      isDeliveryResp (late.trans ((if_neg isEnquiryResp).trans
        (if_neg isDeliveryResp)))

theorem dispatch_unbind [TokenArith Number] (env : Env) (hdr : Header)
    (body : Octets) (s : Session Number)
    (isUnbind : hdr.commandId = Smpp.unbind) :
    dispatch env hdr body s = handleUnbind hdr s := by
  have notBind : ¬IsBind hdr.commandId := by
    rw [isUnbind]
    decide
  exact (if_neg notBind).trans (if_pos isUnbind)

theorem dispatch_submit [TokenArith Number] (env : Env) (hdr : Header)
    (body : Octets) (s : Session Number)
    (isSubmit : hdr.commandId = Smpp.submitSm) :
    dispatch env hdr body s = handleSubmitSm env hdr body s := by
  cases dispatch_dispatchedTo env hdr body s with
  | submitSm _ isResult => exact isResult
  | bind isBind =>
      rw [isSubmit] at isBind
      exact absurd isBind (by decide)
  | unbind isUnbind => exact absurd (isSubmit.symm.trans isUnbind) (by decide)
  | enquireLink isEnquiry =>
      exact absurd (isSubmit.symm.trans isEnquiry) (by decide)
  | enquireLinkResp isResponse =>
      exact absurd (isSubmit.symm.trans isResponse) (by decide)
  | deliverSmResp isResponse =>
      exact absurd (isSubmit.symm.trans isResponse) (by decide)
  | unknown _ _ _ notSubmit => exact absurd isSubmit notSubmit

/-! ### Steps -/

/-- What the handlers amount to, once the read loop, the timers and the D-Bus
methods have made their checks. -/
inductive Handled [TokenArith Number] (s : Session Number) (event : Event)
    (result : Result Number) : Prop
  | idle (outputs : List Effect)
      (quiet : ∀ effect ∈ outputs,
        (∃ hdr, effect = .asyncReadBody hdr) ∨
          (∃ name message, effect = .throwError name message) ∨
          effect = .returnSessionInfo (getSessionInfo s))
      (isResult : result = (s, outputs))
  | disconnects (reason : Octets)
      (isResult : result = doDisconnect reason s)
  | dispatches (env : Env) (hdr : Header) (body : Octets)
      (pdu : dispatched event = some (env, hdr, body))
      (isResult : result = dispatchAndRead env hdr body s)
  | enquires (elSeq : UInt32) (live : s.state ≠ .unbound)
      (isResult : result =
        ({ s with elSeq := elSeq, elPending := true },
          [.sendPdu (makeResponse enquireLink esmeRok elSeq),
            .asyncWait .enquireLinkTimeout s.elTimeoutSec]))
  | delivers (srcAddr dstAddr shortMessage : Octets)
      (mayReceive : s.state = .boundRx ∨ s.state = .boundTrx)
      (isResult : result =
        ({ s with deliverSeq := s.deliverSeq + 1 },
          [.sendPdu (makeDeliverSm s.deliverSeq srcAddr dstAddr
              shortMessage),
            .returnDeliverSm s.deliverSeq]))

theorem step_handled [TokenArith Number] (s : Session Number)
    (event : Event) : Handled s event (step s event) := by
  have nothing : Handled s event (s, []) := .idle [] (by simp) rfl
  cases event with
  | onHeader env completion =>
      cases completion with
      | error message => exact .disconnects _ rfl
      | ok headerBuf =>
          simp only [step, onHeader, readBody]
          split
          · exact .disconnects _ rfl
          · split
            · rename_i noBody
              have headerOnly :
                  (decodeHeader headerBuf).commandLength = 16 := by
                have added := congrArg (· + 16) noBody
                simpa using added
              exact .dispatches env _ [] (by simp [dispatched, headerOnly])
                rfl
            · exact .idle [_] (by simp) rfl
  | onBody env hdr completion =>
      cases completion with
      | error message => exact .disconnects _ rfl
      | ok body => exact .dispatches env hdr body rfl rfl
  | onEnquireLinkTimer failed =>
      simp only [step, onEnquireLinkTimer]
      split
      · exact nothing
      · split
        · exact nothing
        · rename_i live
          exact .enquires _ live rfl
  | onEnquireLinkTimeout failed =>
      simp only [step, onEnquireLinkTimeout]
      split
      · exact nothing
      · split
        · exact nothing
        · exact .disconnects _ rfl
  | disconnect reason => exact .disconnects reason rfl
  | deliverSm srcAddr dstAddr shortMessage =>
      simp only [step, deliverSm]
      split
      · exact .idle [_] (by simp) rfl
      · rename_i notRefused
        refine .delivers srcAddr dstAddr shortMessage ?_ rfl
        by_contra neither
        rw [not_or] at neither
        exact notRefused neither
  | getSessionInfo => exact .idle [_] (by simp) rfl

theorem step_of_dispatched [TokenArith Number] (s : Session Number)
    (event : Event) (env : Env) (hdr : Header) (body : Octets)
    (pdu : dispatched event = some (env, hdr, body)) :
    step s event = dispatchAndRead env hdr body s := by
  cases event with
  | onHeader headerEnv completion =>
      cases completion with
      | error message => contradiction
      | ok headerBuf =>
          simp only [dispatched] at pdu
          split at pdu
          · rename_i headerOnly
            cases pdu
            simp only [step, onHeader, readBody, headerOnly]
            rfl
          · contradiction
  | onBody bodyEnv bodyHdr completion =>
      cases completion with
      | error message => contradiction
      | ok octets =>
          cases pdu
          rfl
  | onEnquireLinkTimer failed => contradiction
  | onEnquireLinkTimeout failed => contradiction
  | disconnect reason => contradiction
  | deliverSm srcAddr dstAddr shortMessage => contradiction
  | getSessionInfo => contradiction

/-! ### Fixed fields -/

/-- The fields no handler writes. -/
def Session.fixed (s : Session Number) :
    Octets × Octets × Octets × UInt32 × UInt32 × UInt32 :=
  (s.uuid, s.clientIp, s.msgIdPrefix, s.elIntervalSec, s.elTimeoutSec,
    s.maxSubmitPerSec)

theorem doDisconnect_fixed (reason : Octets) (s : Session Number) :
    (doDisconnect reason s).1.fixed = s.fixed := by
  unfold doDisconnect
  split <;> rfl

theorem handleBind_fixed (env : Env) (hdr : Header) (body : Octets)
    (s : Session Number) :
    (handleBind env hdr body s).1.fixed = s.fixed := by
  cases handleBind_answered env hdr body s with
  | alreadyBound notOpen isResult =>
      rw [isResult]
  | refused code wasOpen answered isResult =>
      rw [isResult]
      rfl
  | accepted code wasOpen answered isResult =>
      rw [isResult]
      rfl

theorem handleSubmitSm_fixed [TokenArith Number] (env : Env)
    (hdr : Header) (body : Octets) (s : Session Number) :
    (handleSubmitSm env hdr body s).1.fixed = s.fixed := by
  cases handleSubmitSm_submitted env hdr body s with
  | accepted tokens lastRefill mayTransmit isResult =>
      rw [isResult]
      rfl
  | refused tokens lastRefill status isError isResult =>
      rw [isResult]
      rfl

theorem handleEnquireLinkResp_fixed (hdr : Header) (s : Session Number) :
    (handleEnquireLinkResp hdr s).1.fixed = s.fixed := by
  unfold handleEnquireLinkResp
  split <;> rfl

section Handlers

variable [TokenArith Number]

theorem dispatch_fixed (env : Env) (hdr : Header) (body : Octets)
    (s : Session Number) :
    (dispatch env hdr body s).1.fixed = s.fixed := by
  cases dispatch_dispatchedTo env hdr body s with
  | bind isBind isResult =>
      rw [isResult]
      exact handleBind_fixed env hdr body s
  | unbind isUnbind isResult =>
      rw [isResult]
      exact doDisconnect_fixed _ s
  | enquireLink isEnquiry isResult =>
      rw [isResult]
      rfl
  | submitSm isSubmit isResult =>
      rw [isResult]
      exact handleSubmitSm_fixed env hdr body s
  | enquireLinkResp isResponse isResult =>
      rw [isResult]
      exact handleEnquireLinkResp_fixed hdr s
  | deliverSmResp isResponse isResult => rw [isResult]
  | unknown _ _ _ _ _ _ isResult => rw [isResult]

theorem step_fixed (s : Session Number) (event : Event) :
    (step s event).1.fixed = s.fixed := by
  cases step_handled s event with
  | idle outputs quiet isResult => rw [isResult]
  | disconnects reason isResult =>
      rw [isResult]
      exact doDisconnect_fixed reason s
  | dispatches env hdr body pdu isResult =>
      rw [isResult]
      exact dispatch_fixed env hdr body s
  | enquires elSeq live isResult =>
      rw [isResult]
      rfl
  | delivers srcAddr dstAddr shortMessage mayReceive isResult =>
      rw [isResult]
      rfl

theorem final_fixed (s : Session Number) (events : List Event) :
    (machine.final s events).fixed = s.fixed :=
  machine.invariant_rule (fun later => later.fixed = s.fixed) s rfl
    (fun later event same => (step_fixed later event).trans same) events

end Handlers

/-! ### Changes of life -/

def isNotice : Effect → Bool
  | .emitSessionExited _ _ => true
  | .callUpdateSessionDetails _ _ _ => true
  | _ => false

def notices (outputs : List Effect) : List Effect :=
  outputs.filter isNotice

/-- The three things a step can do to the life of a session. -/
inductive Change (s : Session Number) (event : Event)
    (after : Session Number) (outputs : List Effect) : Prop
  | kept (state : after.state = s.state)
      (systemId : after.systemId = s.systemId)
      (bindTime : after.bindTime = s.bindTime)
      (silent : notices outputs = [])
  | bound (env : Env) (hdr : Header) (body pass : Octets) (code : UInt32)
      (pdu : dispatched event = some (env, hdr, body))
      (isBind : IsBind hdr.commandId)
      (wasOpen : s.state = .opened)
      (state : after.state = boundState hdr.commandId .opened)
      (accepted : Effect.callAuthenticate s.uuid after.systemId pass
        s.clientIp (some (true, code)) ∈ outputs)
      (notice : notices outputs =
        [.callUpdateSessionDetails s.uuid after.systemId
          (stateName after.state)])
  | ended (reason : Octets)
      (wasLive : s.state ≠ .unbound)
      (state : after.state = .unbound)
      (systemId : after.systemId = s.systemId)
      (bindTime : after.bindTime = s.bindTime)
      (notice : notices outputs = [.emitSessionExited s.uuid reason])

theorem Change.append_quiet {s after : Session Number} {event : Event}
    {outputs extra : List Effect} (change : Change s event after outputs)
    (quiet : notices extra = []) :
    Change s event after (outputs ++ extra) := by
  have same : notices (outputs ++ extra) = notices outputs := by
    unfold notices at quiet ⊢
    rw [List.filter_append, quiet, List.append_nil]
  cases change with
  | kept state systemId bindTime silent =>
      exact .kept state systemId bindTime (same.trans silent)
  | bound env hdr body pass code pdu isBind wasOpen state accepted notice =>
      exact .bound env hdr body pass code pdu isBind wasOpen state
        (List.mem_append_left extra accepted) (same.trans notice)
  | ended reason wasLive state systemId bindTime notice =>
      exact .ended reason wasLive state systemId bindTime
        (same.trans notice)

theorem doDisconnect_change (reason : Octets) (s : Session Number)
    (event : Event) (earlier : List Effect)
    (quiet : notices earlier = []) :
    Change s event (doDisconnect reason s).1
      (earlier ++ (doDisconnect reason s).2) := by
  unfold doDisconnect
  by_cases ended : s.state = .unbound
  · simp only [if_pos ended, List.append_nil]
    exact .kept rfl rfl rfl quiet
  · simp only [if_neg ended]
    refine .ended reason ended rfl rfl rfl ?_
    unfold notices at quiet ⊢
    rw [List.filter_append, quiet]
    rfl

theorem handleBind_change (env : Env) (hdr : Header) (body : Octets)
    (s : Session Number) (event : Event)
    (pdu : dispatched event = some (env, hdr, body))
    (isBind : IsBind hdr.commandId) :
    Change s event (handleBind env hdr body s).1
      (handleBind env hdr body s).2 := by
  cases handleBind_answered env hdr body s with
  | alreadyBound notOpen isResult =>
      rw [isResult]
      exact .kept rfl rfl rfl rfl
  | refused code wasOpen answered isResult =>
      rw [isResult]
      refine .ended (text "auth failed") ?_ rfl rfl rfl rfl
      rw [wasOpen]
      decide
  | accepted code wasOpen answered isResult =>
      rw [isResult]
      refine .bound env hdr body (bindCredentials body 0).1.2 code
        pdu isBind wasOpen rfl ?_ rfl
      simp [bindCall, answered]

theorem handleSubmitSm_change [TokenArith Number] (env : Env)
    (hdr : Header) (body : Octets) (s : Session Number) (event : Event) :
    Change s event (handleSubmitSm env hdr body s).1
      (handleSubmitSm env hdr body s).2 := by
  cases handleSubmitSm_submitted env hdr body s with
  | accepted tokens lastRefill mayTransmit isResult =>
      rw [isResult]
      exact .kept rfl rfl rfl rfl
  | refused tokens lastRefill status isError isResult =>
      rw [isResult]
      exact .kept rfl rfl rfl rfl

theorem handleEnquireLinkResp_change (hdr : Header) (s : Session Number)
    (event : Event) :
    Change s event (handleEnquireLinkResp hdr s).1
      (handleEnquireLinkResp hdr s).2 := by
  unfold handleEnquireLinkResp
  split <;> exact .kept rfl rfl rfl rfl

section Steps

variable [TokenArith Number]

theorem dispatch_change (env : Env) (hdr : Header) (body : Octets)
    (s : Session Number) (event : Event)
    (pdu : dispatched event = some (env, hdr, body)) :
    Change s event (dispatch env hdr body s).1
      (dispatch env hdr body s).2 := by
  cases dispatch_dispatchedTo env hdr body s with
  | bind isBind isResult =>
      rw [isResult]
      exact handleBind_change env hdr body s event pdu isBind
  | unbind isUnbind isResult =>
      rw [isResult]
      exact doDisconnect_change _ s event [_] rfl
  | enquireLink isEnquiry isResult =>
      rw [isResult]
      exact .kept rfl rfl rfl rfl
  | submitSm isSubmit isResult =>
      rw [isResult]
      exact handleSubmitSm_change env hdr body s event
  | enquireLinkResp isResponse isResult =>
      rw [isResult]
      exact handleEnquireLinkResp_change hdr s event
  | deliverSmResp isResponse isResult =>
      rw [isResult]
      exact .kept rfl rfl rfl rfl
  | unknown _ _ _ _ _ _ isResult =>
      rw [isResult]
      exact .kept rfl rfl rfl rfl

theorem step_change (s : Session Number) (event : Event) :
    Change s event (step s event).1 (step s event).2 := by
  cases step_handled s event with
  | idle outputs quiet isResult =>
      rw [isResult]
      refine .kept rfl rfl rfl (List.filter_eq_nil_iff.mpr ?_)
      intro effect member
      rcases quiet effect member with ⟨hdr, rfl⟩ | ⟨name, message, rfl⟩ | rfl
      all_goals simp [isNotice]
  | disconnects reason isResult =>
      rw [isResult]
      exact doDisconnect_change reason s event [] rfl
  | dispatches env hdr body pdu isResult =>
      rw [isResult]
      exact (dispatch_change env hdr body s event pdu).append_quiet rfl
  | enquires elSeq live isResult =>
      rw [isResult]
      exact .kept rfl rfl rfl rfl
  | delivers srcAddr dstAddr shortMessage mayReceive isResult =>
      rw [isResult]
      exact .kept rfl rfl rfl rfl

end Steps

end OpenSmsc.SmppSession
