/-
The two threads of a client handler process.

Completion handlers run on the thread of the `io_context`; `GetSessionInfo`
and `DeliverSm` run on the thread of the bus connection.  Both read `state_`,
`system_id_` and `bind_time_` under `state_mutex_` and hold it for single
sections only, so a D-Bus method may run between any two sections of a handler.
Here every handler is cut at its sections.  The D-Bus thread's own state is the
counter `deliver_seq_`, which no handler touches.
-/

import OpenSmsc.Foundation.Threads
import OpenSmsc.Client.Lifecycle

namespace OpenSmsc.SmppSession

open Foundation Smpp

variable {Number : Type}

/-- What the D-Bus thread can see of the handlers' state: the fields under
`state_mutex_` and the two that never change. -/
structure Shown where
  uuid : Octets
  clientIp : Octets
  systemId : Octets
  state : SessionState
  bindTime : UInt64

def shown (s : Session Number) : Shown :=
  { uuid := s.uuid
    clientIp := s.clientIp
    systemId := s.systemId
    state := s.state
    bindTime := s.bindTime }

/-! ### The handlers, section by section -/

namespace IoThread

abbrev Code (Number : Type) := Program (Session Number) Effect

def sendPdu (pdu : Octets) : Code Number :=
  .emit fun _ => .sendPdu pdu

/-- The first section leaves the lock with `state_` set; the socket and the
signal come after it. -/
def doDisconnect (reason : Octets) : Code Number :=
  .atomic
    (fun s =>
      if s.state = .unbound then (s, [])
      else ({ s with state := .unbound }, []))
    fun found =>
      if found.state = .unbound then .done
      else
        (Program.emit fun _ => .closeSocket).append
          (.emit fun s => .emitSessionExited s.uuid reason)

def onEnquireLinkTimer (failed : Bool) : Code Number :=
  .look fun found =>
    if failed || found.elPending then .done
    else
      .look fun found =>
        if found.state = .unbound then .done
        else
          (Program.update fun s =>
            { s with
              elSeq := if s.elSeq = 0 then 0x10000000 else s.elSeq + 1
              elPending := true }).append
          ((Program.emit fun s =>
            .sendPdu (makeResponse enquireLink esmeRok s.elSeq)).append
          (.emit fun s => .asyncWait .enquireLinkTimeout s.elTimeoutSec))

def handleEnquireLinkResp (hdr : Header) : Code Number :=
  .look fun found =>
    if hdr.sequenceNumber = found.elSeq ∧ found.elPending = true then
      (Program.update fun s => { s with elPending := false }).append
        ((Program.emit fun _ => .cancel .enquireLinkTimeout).append
          (.emit fun s => .asyncWait .enquireLink s.elIntervalSec))
    else .done

def onEnquireLinkTimeout (failed : Bool) : Code Number :=
  if failed then .done
  else
    .look fun found =>
      if found.elPending = false then .done
      else doDisconnect (text "enquire_link timeout")

/-- `Authenticate` is called between two sections, with the lock free. -/
def handleBind (env : Env) (hdr : Header) (body : Octets) : Code Number :=
  .atomic
    (fun s =>
      if s.state ≠ .opened then
        (s, [.sendPdu (makeResponse (bindRespId hdr.commandId) esmeRalybnd
          hdr.sequenceNumber)])
      else (s, []))
    fun found =>
      if found.state ≠ .opened then .done
      else
        let sid := (bindCredentials body 0).1.1
        let pass := (bindCredentials body 0).1.2
        let answer := env.authenticate found.uuid sid pass found.clientIp
        let authOk := (answer.getD (false, esmeRinvsysid)).1
        let errCode := (answer.getD (false, esmeRinvsysid)).2
        (Program.emit fun s =>
          .callAuthenticate s.uuid sid pass s.clientIp answer).append
        (if authOk = false then
          (sendPdu (makeResponse (bindRespId hdr.commandId) errCode
            hdr.sequenceNumber)).append
          (doDisconnect (text "auth failed"))
        else
          (Program.update fun s =>
            { s with
              systemId := sid
              state := boundState hdr.commandId s.state
              bindTime := env.systemClock }).append
          ((sendPdu (makeResponse (bindRespId hdr.commandId) esmeRok
            hdr.sequenceNumber (text "smpp-server"))).append
          -- `update_session_details` copies under the lock, then calls
          (.look fun copied => .emit fun _ => updateSessionDetails copied)))

def handleUnbind (hdr : Header) : Code Number :=
  (sendPdu (makeResponse unbindResp esmeRok hdr.sequenceNumber)).append
    (doDisconnect (text "unbind"))

def handleEnquireLink (hdr : Header) : Code Number :=
  sendPdu (makeResponse enquireLinkResp esmeRok hdr.sequenceNumber)

variable [TokenArith Number]

def handleSubmitSm (env : Env) (hdr : Header) (body : Octets) :
    Code Number :=
  .look fun found =>
    if found.state = .boundTx ∨ found.state = .boundTrx then
      .atomic (fun s => ((throttleCheck env.steadyClock s).2, []))
        fun found =>
          if (throttleCheck env.steadyClock found).1 = true then
            .atomic (fun s => ((nextMessageId s).2, []))
              fun found =>
                let sm := parseSubmitSm body
                let msgId := (nextMessageId found).1
                (sendPdu (makeResponse submitSmResp esmeRok
                  hdr.sequenceNumber msgId)).append
                (if msgId.isEmpty then .done
                else
                  .emit fun _ =>
                    .callRouteMessage sm.srcAddr sm.dstAddr sm.shortMessage
                      msgId)
          else
            sendPdu (makeResponse submitSmResp esmeRthrottled
              hdr.sequenceNumber)
    else
      sendPdu (makeResponse submitSmResp esmeRinvbndsts hdr.sequenceNumber)

def dispatch (env : Env) (hdr : Header) (body : Octets) : Code Number :=
  if hdr.commandId = bindTransmitter ∨ hdr.commandId = bindReceiver ∨
      hdr.commandId = bindTransceiver then
    handleBind env hdr body
  else if hdr.commandId = unbind then handleUnbind hdr
  else if hdr.commandId = enquireLink then handleEnquireLink hdr
  else if hdr.commandId = submitSm then handleSubmitSm env hdr body
  else if hdr.commandId = enquireLinkResp then handleEnquireLinkResp hdr
  else if hdr.commandId = deliverSmResp then .done
  else
    sendPdu (makeResponse genericNack esmeRinvcmdid hdr.sequenceNumber)

def dispatchAndRead (env : Env) (hdr : Header) (body : Octets) :
    Code Number :=
  (dispatch env hdr body).append (.emit fun _ => .asyncReadHeader)

def readBody (env : Env) (hdr : Header) : Code Number :=
  if hdr.commandLength - 16 = 0 then dispatchAndRead env hdr []
  else .emit fun _ => .asyncReadBody hdr

def onHeader (env : Env) : ReadResult → Code Number
  | .error message => doDisconnect (text "socket closed: " ++ message)
  | .ok headerBuf =>
      if (decodeHeader headerBuf).commandLength < 16 then
        doDisconnect (text "invalid PDU length")
      else readBody env (decodeHeader headerBuf)

def onBody (env : Env) (hdr : Header) : ReadResult → Code Number
  | .error message => doDisconnect (text "body read: " ++ message)
  | .ok body => dispatchAndRead env hdr body

end IoThread

def onIoThread : Event → Bool
  | .deliverSm _ _ _ => false
  | .getSessionInfo => false
  | _ => true

abbrev IoCall := { event : Event // onIoThread event = true }

variable [TokenArith Number]

def ioProgram (call : IoCall) : Program (Session Number) Effect :=
  match call.val with
  | .onHeader env completion => IoThread.onHeader env completion
  | .onBody env hdr completion => IoThread.onBody env hdr completion
  | .onEnquireLinkTimer failed => IoThread.onEnquireLinkTimer failed
  | .onEnquireLinkTimeout failed => IoThread.onEnquireLinkTimeout failed
  | .disconnect reason => IoThread.doDisconnect reason
  | .deliverSm _ _ _ => .done
  | .getSessionInfo => .done

/-! ### The D-Bus methods, section by section -/

inductive BusCall where
  | getSessionInfo
  | deliverSm (srcAddr dstAddr shortMessage : Octets)

def BusCall.event : BusCall → Event
  | .getSessionInfo => .getSessionInfo
  | .deliverSm srcAddr dstAddr shortMessage =>
      .deliverSm srcAddr dstAddr shortMessage

/-- What follows the section under the lock, over `deliver_seq_`. -/
def busProgram : BusCall → Shown → Program UInt32 Effect
  | .getSessionInfo, seen =>
      .emit fun _ =>
        .returnSessionInfo (seen.uuid, seen.clientIp, seen.systemId,
          stateName seen.state, seen.bindTime)
  | .deliverSm srcAddr dstAddr shortMessage, seen =>
      if seen.state ≠ .boundRx ∧ seen.state ≠ .boundTrx then
        .emit fun _ =>
          .throwError (text "com.telecom.smpp.Error.InvalidBindState")
            (text "session is not BOUND_RX or BOUND_TRX")
      else
        .atomic (fun deliverSeq => (deliverSeq + 1, [])) fun seq =>
          (Program.emit fun _ =>
            .sendPdu (makeDeliverSm seq srcAddr dstAddr
              shortMessage)).append
          (.emit fun _ => .returnDeliverSm seq)

/-! ### The sections of a handler together are the handler -/

namespace IoThread

omit [TokenArith Number] in
@[simp] theorem run_sendPdu (pdu : Octets) (s : Session Number) :
    (sendPdu pdu).run s = (s, [.sendPdu pdu]) := rfl

omit [TokenArith Number] in
theorem run_doDisconnect (reason : Octets) (s : Session Number) :
    (doDisconnect reason).run s = SmppSession.doDisconnect reason s := by
  by_cases ended : s.state = .unbound
  · simp [doDisconnect, SmppSession.doDisconnect, Program.run, andThen,
      ended]
  · simp [doDisconnect, SmppSession.doDisconnect, Program.run, andThen,
      ended]

omit [TokenArith Number] in
theorem run_onEnquireLinkTimer (failed : Bool) (s : Session Number) :
    (onEnquireLinkTimer failed).run s =
      SmppSession.onEnquireLinkTimer failed s := by
  unfold onEnquireLinkTimer SmppSession.onEnquireLinkTimer
  rw [Program.run_look]
  split
  · rfl
  · rw [Program.run_look]
    split
    · rfl
    · rfl

omit [TokenArith Number] in
theorem run_handleEnquireLinkResp (hdr : Header) (s : Session Number) :
    (handleEnquireLinkResp hdr).run s =
      SmppSession.handleEnquireLinkResp hdr s := by
  unfold handleEnquireLinkResp SmppSession.handleEnquireLinkResp
  rw [Program.run_look]
  split
  · rfl
  · rfl

omit [TokenArith Number] in
theorem run_onEnquireLinkTimeout (failed : Bool) (s : Session Number) :
    (onEnquireLinkTimeout failed).run s =
      SmppSession.onEnquireLinkTimeout failed s := by
  unfold onEnquireLinkTimeout SmppSession.onEnquireLinkTimeout
  split
  · rfl
  · rw [Program.run_look]
    split
    · rfl
    · exact run_doDisconnect _ s

omit [TokenArith Number] in
theorem run_handleBind (env : Env) (hdr : Header) (body : Octets)
    (s : Session Number) :
    (handleBind env hdr body).run s =
      SmppSession.handleBind env hdr body s := by
  by_cases isOpen : s.state = .opened
  · simp only [handleBind, SmppSession.handleBind, Program.run, andThen,
      isOpen, ne_eq, not_true_eq_false, if_false, Program.run_append,
      Program.run_emit, List.nil_append]
    split
    · simp [run_doDisconnect]
    · simp [isOpen]
  · simp [handleBind, SmppSession.handleBind, Program.run, andThen, isOpen]

omit [TokenArith Number] in
theorem run_handleUnbind (hdr : Header) (s : Session Number) :
    (handleUnbind hdr).run s = SmppSession.handleUnbind hdr s := by
  simp [handleUnbind, SmppSession.handleUnbind, run_doDisconnect]

theorem run_handleSubmitSm (env : Env) (hdr : Header) (body : Octets)
    (s : Session Number) :
    (handleSubmitSm env hdr body).run s =
      SmppSession.handleSubmitSm env hdr body s := by
  unfold handleSubmitSm SmppSession.handleSubmitSm
  rw [Program.run_look]
  by_cases transmits : s.state = .boundTx ∨ s.state = .boundTrx
  · by_cases allowed : (throttleCheck env.steadyClock s).1 = true
    · simp only [transmits, allowed, if_true, Program.run, andThen,
        Program.run_append, run_sendPdu, List.nil_append]
      split
      · simp
      · simp
    · simp [transmits, allowed, Program.run, andThen, esmeRok,
        esmeRthrottled]
  · simp [transmits, esmeRok, esmeRinvbndsts]

theorem run_dispatch (env : Env) (hdr : Header) (body : Octets)
    (s : Session Number) :
    (dispatch env hdr body).run s = SmppSession.dispatch env hdr body s := by
  unfold dispatch SmppSession.dispatch
  split_ifs
  · exact run_handleBind env hdr body s
  · exact run_handleUnbind hdr s
  · rfl
  · exact run_handleSubmitSm env hdr body s
  · exact run_handleEnquireLinkResp hdr s
  · rfl
  · rfl

theorem run_dispatchAndRead (env : Env) (hdr : Header) (body : Octets)
    (s : Session Number) :
    (dispatchAndRead env hdr body).run s =
      SmppSession.dispatchAndRead env hdr body s := by
  simp [dispatchAndRead, SmppSession.dispatchAndRead, run_dispatch]

theorem run_onHeader (env : Env) (completion : ReadResult)
    (s : Session Number) :
    (onHeader env completion).run s =
      SmppSession.onHeader env completion s := by
  cases completion with
  | error message => exact run_doDisconnect _ s
  | ok headerBuf =>
      simp only [onHeader, SmppSession.onHeader, readBody,
        SmppSession.readBody]
      split_ifs
      · exact run_doDisconnect _ s
      · exact run_dispatchAndRead env _ [] s
      · rfl

theorem run_onBody (env : Env) (hdr : Header) (completion : ReadResult)
    (s : Session Number) :
    (onBody env hdr completion).run s =
      SmppSession.onBody env hdr completion s := by
  cases completion with
  | error message => exact run_doDisconnect _ s
  | ok body => exact run_dispatchAndRead env hdr body s

end IoThread

theorem run_ioProgram (call : IoCall) (s : Session Number) :
    (ioProgram call).run s = step s call.val := by
  obtain ⟨event, isIo⟩ := call
  cases event with
  | onHeader env completion => exact IoThread.run_onHeader env completion s
  | onBody env hdr completion =>
      exact IoThread.run_onBody env hdr completion s
  | onEnquireLinkTimer failed =>
      exact IoThread.run_onEnquireLinkTimer failed s
  | onEnquireLinkTimeout failed =>
      exact IoThread.run_onEnquireLinkTimeout failed s
  | disconnect reason => exact IoThread.run_doDisconnect reason s
  | deliverSm srcAddr dstAddr shortMessage => cases isIo
  | getSessionInfo => cases isIo

/-! ### A handler changes what is shown in one section at most -/

namespace IoThread

omit [TokenArith Number] in
theorem quiet_sendPdu (pdu : Octets) (s : Session Number) :
    (sendPdu pdu).Quiet shown s :=
  Program.quiet_emit _ s

omit [TokenArith Number] in
theorem showsOnce_doDisconnect (reason : Octets) (s : Session Number) :
    (doDisconnect reason).ShowsOnce shown s := by
  refine Or.inr ?_
  by_cases ended : s.state = .unbound
  · simp only [ended, if_true]
    exact True.intro
  · simp only [ended, if_false]
    exact (Program.quiet_emit _ _).append (Program.quiet_emit _ _)

omit [TokenArith Number] in
theorem quiet_onEnquireLinkTimer (failed : Bool) (s : Session Number) :
    (onEnquireLinkTimer failed).Quiet shown s := by
  refine Program.quiet_look ?_
  split
  · exact True.intro
  · refine Program.quiet_look ?_
    split
    · exact True.intro
    · exact ⟨rfl, (Program.quiet_emit _ _).append (Program.quiet_emit _ _)⟩

omit [TokenArith Number] in
theorem quiet_handleEnquireLinkResp (hdr : Header) (s : Session Number) :
    (handleEnquireLinkResp hdr).Quiet shown s := by
  refine Program.quiet_look ?_
  split
  · exact ⟨rfl, (Program.quiet_emit _ _).append (Program.quiet_emit _ _)⟩
  · exact True.intro

omit [TokenArith Number] in
theorem showsOnce_onEnquireLinkTimeout (failed : Bool)
    (s : Session Number) :
    (onEnquireLinkTimeout failed).ShowsOnce shown s := by
  unfold onEnquireLinkTimeout
  split
  · exact True.intro
  · refine Program.showsOnce_look ?_
    split
    · exact True.intro
    · exact showsOnce_doDisconnect _ s

omit [TokenArith Number] in
/-- A refused bind shows the end of the session, an accepted one the three
bind fields together. -/
theorem showsOnce_handleBind (env : Env) (hdr : Header) (body : Octets)
    (s : Session Number) : (handleBind env hdr body).ShowsOnce shown s := by
  by_cases isOpen : s.state = .opened
  · refine Or.inl ⟨by simp [isOpen], ?_⟩
    simp only [isOpen, ne_eq, not_true_eq_false, if_false]
    refine (Program.quiet_emit _ _).append_showsOnce ?_
    split
    · exact (quiet_sendPdu _ _).append_showsOnce
        (showsOnce_doDisconnect _ _)
    · refine Or.inr ((quiet_sendPdu _ _).append ?_)
      exact Program.quiet_look (Program.quiet_emit _ _)
  · refine Or.inl ⟨by simp [isOpen], ?_⟩
    simp only [isOpen, ne_eq, not_false_eq_true, if_true]
    exact True.intro

omit [TokenArith Number] in
theorem showsOnce_handleUnbind (hdr : Header) (s : Session Number) :
    (handleUnbind hdr).ShowsOnce shown s :=
  (quiet_sendPdu _ s).append_showsOnce (showsOnce_doDisconnect _ _)

theorem shown_throttleCheck (now : Int) (s : Session Number) :
    shown (throttleCheck now s).2 = shown s := by
  unfold throttleCheck
  split
  · rfl
  · simp only
    split
    · rfl
    · rfl

theorem quiet_handleSubmitSm (env : Env) (hdr : Header) (body : Octets)
    (s : Session Number) : (handleSubmitSm env hdr body).Quiet shown s := by
  refine Program.quiet_look ?_
  split
  · refine ⟨shown_throttleCheck _ s, ?_⟩
    beta_reduce
    split
    · refine ⟨rfl, (quiet_sendPdu _ _).append ?_⟩
      split
      · exact True.intro
      · exact Program.quiet_emit _ _
    · exact quiet_sendPdu _ _
  · exact quiet_sendPdu _ s

theorem showsOnce_dispatch (env : Env) (hdr : Header) (body : Octets)
    (s : Session Number) : (dispatch env hdr body).ShowsOnce shown s := by
  unfold dispatch
  split_ifs
  · exact showsOnce_handleBind env hdr body s
  · exact showsOnce_handleUnbind hdr s
  · exact (quiet_sendPdu _ s).showsOnce
  · exact (quiet_handleSubmitSm env hdr body s).showsOnce
  · exact (quiet_handleEnquireLinkResp hdr s).showsOnce
  · exact True.intro
  · exact (quiet_sendPdu _ s).showsOnce

theorem showsOnce_dispatchAndRead (env : Env) (hdr : Header)
    (body : Octets) (s : Session Number) :
    (dispatchAndRead env hdr body).ShowsOnce shown s :=
  (showsOnce_dispatch env hdr body s).append (Program.quiet_emit _ _)

theorem showsOnce_onHeader (env : Env) (completion : ReadResult)
    (s : Session Number) :
    (onHeader env completion).ShowsOnce shown s := by
  cases completion with
  | error message => exact showsOnce_doDisconnect _ s
  | ok headerBuf =>
      simp only [onHeader, readBody]
      split_ifs
      · exact showsOnce_doDisconnect _ s
      · exact showsOnce_dispatchAndRead env _ [] s
      · exact (Program.quiet_emit _ s).showsOnce

theorem showsOnce_onBody (env : Env) (hdr : Header)
    (completion : ReadResult) (s : Session Number) :
    (onBody env hdr completion).ShowsOnce shown s := by
  cases completion with
  | error message => exact showsOnce_doDisconnect _ s
  | ok body => exact showsOnce_dispatchAndRead env hdr body s

end IoThread

theorem showsOnce_ioProgram (call : IoCall) (s : Session Number) :
    (ioProgram call).ShowsOnce shown s := by
  obtain ⟨event, isIo⟩ := call
  cases event with
  | onHeader env completion =>
      exact IoThread.showsOnce_onHeader env completion s
  | onBody env hdr completion =>
      exact IoThread.showsOnce_onBody env hdr completion s
  | onEnquireLinkTimer failed =>
      exact (IoThread.quiet_onEnquireLinkTimer failed s).showsOnce
  | onEnquireLinkTimeout failed =>
      exact IoThread.showsOnce_onEnquireLinkTimeout failed s
  | disconnect reason => exact IoThread.showsOnce_doDisconnect reason s
  | deliverSm srcAddr dstAddr shortMessage => cases isIo
  | getSessionInfo => cases isIo

/-! ### The counter of the other thread -/

def Session.withDeliverSeq (s : Session Number) (seq : UInt32) :
    Session Number :=
  { s with deliverSeq := seq }

/-- The result of a handler that neither reads nor writes `deliver_seq_`. -/
def withSeq (seq : UInt32) (result : Result Number) : Result Number :=
  (result.1.withDeliverSeq seq, result.2)

-- the conditions of a handler do not mention the counter, so it moves inside
-- every branch

omit [TokenArith Number] in
theorem doDisconnect_withSeq (reason : Octets) (s : Session Number)
    (seq : UInt32) :
    doDisconnect reason (s.withDeliverSeq seq) =
      withSeq seq (doDisconnect reason s) := by
  simp only [doDisconnect, apply_ite (withSeq seq)]
  rfl

omit [TokenArith Number] in
theorem onEnquireLinkTimer_withSeq (failed : Bool) (s : Session Number)
    (seq : UInt32) :
    onEnquireLinkTimer failed (s.withDeliverSeq seq) =
      withSeq seq (onEnquireLinkTimer failed s) := by
  simp only [onEnquireLinkTimer, apply_ite (withSeq seq)]
  rfl

omit [TokenArith Number] in
theorem handleEnquireLinkResp_withSeq (hdr : Header) (s : Session Number)
    (seq : UInt32) :
    handleEnquireLinkResp hdr (s.withDeliverSeq seq) =
      withSeq seq (handleEnquireLinkResp hdr s) := by
  simp only [handleEnquireLinkResp, apply_ite (withSeq seq)]
  rfl

omit [TokenArith Number] in
theorem onEnquireLinkTimeout_withSeq (failed : Bool) (s : Session Number)
    (seq : UInt32) :
    onEnquireLinkTimeout failed (s.withDeliverSeq seq) =
      withSeq seq (onEnquireLinkTimeout failed s) := by
  simp only [onEnquireLinkTimeout, apply_ite (withSeq seq),
    doDisconnect_withSeq]
  rfl

omit [TokenArith Number] in
theorem handleBind_withSeq (env : Env) (hdr : Header) (body : Octets)
    (s : Session Number) (seq : UInt32) :
    handleBind env hdr body (s.withDeliverSeq seq) =
      withSeq seq (handleBind env hdr body s) := by
  simp only [handleBind, apply_ite (withSeq seq), doDisconnect_withSeq]
  rfl

omit [TokenArith Number] in
theorem handleUnbind_withSeq (hdr : Header) (s : Session Number)
    (seq : UInt32) :
    handleUnbind hdr (s.withDeliverSeq seq) =
      withSeq seq (handleUnbind hdr s) := by
  simp only [handleUnbind, doDisconnect_withSeq]
  rfl

theorem throttleCheck_withDeliverSeq (now : Int) (s : Session Number)
    (seq : UInt32) :
    throttleCheck now (s.withDeliverSeq seq) =
      (throttleCheck now s).map id (·.withDeliverSeq seq) := by
  simp only [throttleCheck, apply_ite (Prod.map id
    fun s : Session Number => s.withDeliverSeq seq)]
  rfl

theorem handleSubmitSm_withSeq (env : Env) (hdr : Header) (body : Octets)
    (s : Session Number) (seq : UInt32) :
    handleSubmitSm env hdr body (s.withDeliverSeq seq) =
      withSeq seq (handleSubmitSm env hdr body s) := by
  simp only [handleSubmitSm, throttleCheck_withDeliverSeq,
    apply_ite (withSeq seq)]
  by_cases transmits : s.state = .boundTx ∨ s.state = .boundTrx
  · simp only [Session.withDeliverSeq, transmits, if_true]
    rfl
  · simp only [Session.withDeliverSeq, transmits, if_false]
    rfl

theorem dispatch_withSeq (env : Env) (hdr : Header) (body : Octets)
    (s : Session Number) (seq : UInt32) :
    dispatch env hdr body (s.withDeliverSeq seq) =
      withSeq seq (dispatch env hdr body s) := by
  unfold dispatch
  split_ifs
  · exact handleBind_withSeq env hdr body s seq
  · exact handleUnbind_withSeq hdr s seq
  · rfl
  · exact handleSubmitSm_withSeq env hdr body s seq
  · exact handleEnquireLinkResp_withSeq hdr s seq
  · rfl
  · rfl

theorem dispatchAndRead_withSeq (env : Env) (hdr : Header) (body : Octets)
    (s : Session Number) (seq : UInt32) :
    dispatchAndRead env hdr body (s.withDeliverSeq seq) =
      withSeq seq (dispatchAndRead env hdr body s) := by
  unfold dispatchAndRead
  rw [dispatch_withSeq]
  rfl

theorem step_withSeq (call : IoCall) (s : Session Number) (seq : UInt32) :
    step (s.withDeliverSeq seq) call.val =
      withSeq seq (step s call.val) := by
  obtain ⟨event, isIo⟩ := call
  cases event with
  | onHeader env completion =>
      cases completion with
      | error message => exact doDisconnect_withSeq _ s seq
      | ok headerBuf =>
          simp only [step, onHeader, readBody]
          split_ifs
          · exact doDisconnect_withSeq _ s seq
          · exact dispatchAndRead_withSeq env _ [] s seq
          · rfl
  | onBody env hdr completion =>
      cases completion with
      | error message => exact doDisconnect_withSeq _ s seq
      | ok body => exact dispatchAndRead_withSeq env hdr body s seq
  | onEnquireLinkTimer failed =>
      exact onEnquireLinkTimer_withSeq failed s seq
  | onEnquireLinkTimeout failed =>
      exact onEnquireLinkTimeout_withSeq failed s seq
  | disconnect reason => exact doDisconnect_withSeq reason s seq
  | deliverSm srcAddr dstAddr shortMessage => cases isIo
  | getSessionInfo => cases isIo

theorem step_busCall (call : BusCall) (s : Session Number) (seq : UInt32) :
    step (s.withDeliverSeq seq) call.event =
      (s.withDeliverSeq ((busProgram call (shown s)).run seq).1,
        ((busProgram call (shown s)).run seq).2) := by
  cases call with
  | getSessionInfo => rfl
  | deliverSm srcAddr dstAddr shortMessage =>
      by_cases refused : s.state ≠ .boundRx ∧ s.state ≠ .boundTrx
      · simp [BusCall.event, step, deliverSm, busProgram, shown,
          Session.withDeliverSeq, refused]
      · simp only [BusCall.event, step, deliverSm, busProgram, shown,
          Session.withDeliverSeq, refused, if_false]
        rfl

/-! ### Any interleaving is a run of the session -/

variable (Number) in
def sessionThreads : Machine
    (Threads (Session Number) UInt32 Effect Effect)
    (ThreadMove IoCall BusCall) (Effect ⊕ Effect) :=
  Threads.machine ioProgram shown busProgram

variable (Number) in
def idleThreads (config : Config) :
    Threads (Session Number) UInt32 Effect Effect :=
  Threads.idle (create config, (create config : Session Number).deliverSeq)

def onBusThread (event : Event) : Bool :=
  !onIoThread event

def outputsOf (thread : Event → Bool)
    (past : List (Machine.Entry (Session Number) Event Effect)) :
    List Effect :=
  (past.filter fun entry => thread entry.event).flatMap (·.outputs)

def eventOf : IoCall ⊕ BusCall → Event
  | .inl call => call.val
  | .inr call => call.event

theorem onIoThread_eventOf (call : IoCall ⊕ BusCall) :
    onIoThread (eventOf call) = call.isLeft := by
  cases call with
  | inl call => exact call.property
  | inr call =>
      cases call with
      | getSessionInfo => rfl
      | deliverSm srcAddr dstAddr shortMessage => rfl

theorem onBusThread_eventOf (call : IoCall ⊕ BusCall) :
    onBusThread (eventOf call) = call.isRight := by
  unfold onBusThread
  rw [onIoThread_eventOf]
  cases call with
  | inl call => rfl
  | inr call => rfl

theorem filter_onIoThread (calls : List (IoCall ⊕ BusCall)) :
    (calls.map eventOf).filter onIoThread =
      (Threads.lefts calls).map (·.val) := by
  induction calls with
  | nil => rfl
  | cons call rest ih =>
      rw [List.map_cons, List.filter_cons, onIoThread_eventOf, ih]
      cases call with
      | inl call => rfl
      | inr call => rfl

theorem filter_onBusThread (calls : List (IoCall ⊕ BusCall)) :
    (calls.map eventOf).filter onBusThread =
      (Threads.rights calls).map BusCall.event := by
  induction calls with
  | nil => rfl
  | cons call rest ih =>
      rw [List.map_cons, List.filter_cons, onBusThread_eventOf, ih]
      cases call with
      | inl call => rfl
      | inr call => rfl

/-- Calls made one at a time are events of the session machine. -/
theorem atomically_session (start : Session Number × UInt32)
    (calls : List (IoCall ⊕ BusCall)) :
    let account := Threads.atomicAccount ioProgram shown busProgram start
      calls
    let s := start.1.withDeliverSeq start.2
    machine.final s (calls.map eventOf) =
        account.left.withDeliverSeq account.right ∧
      outputsOf onIoThread (machine.history s (calls.map eventOf)) =
        account.leftOutputs ∧
      outputsOf onBusThread (machine.history s (calls.map eventOf)) =
        account.rightOutputs := by
  induction calls using List.reverseRecOn with
  | nil => exact ⟨rfl, rfl, rfl⟩
  | append_singleton earlier call ih =>
      obtain ⟨atState, ioOutputs, busOutputs⟩ := ih
      simp only [List.map_append, List.map_cons, List.map_nil,
        Machine.final_concat, Machine.history_concat, outputsOf,
        List.filter_append, List.flatMap_append] at *
      rw [ioOutputs, busOutputs, atState]
      cases call with
      | inl call =>
          have isIo : onIoThread call.val = true := call.property
          have notBus : onBusThread call.val = false :=
            onBusThread_eventOf (.inl call)
          rw [Threads.atomicAccount_left]
          simp only [run_ioProgram]
          simp [machine, Machine.entry, eventOf, step_withSeq, withSeq, isIo,
            notBus]
      | inr call =>
          have notIo : onIoThread call.event = false :=
            onIoThread_eventOf (.inr call)
          have isBus : onBusThread call.event = true :=
            onBusThread_eventOf (.inr call)
          rw [Threads.atomicAccount_right]
          simp [machine, Machine.entry, eventOf, step_busCall, notIo, isBus]

/-- However the sections of the two threads interleave, the handlers and the
D-Bus methods begun so far could have run one at a time.  Some run of the
session has each thread's calls in that thread's order; it ends where the
process is once both threads finish what they have begun, and each thread has
put out the same in it. -/
theorem interleaving_serialisable (config : Config)
    (moves : List (ThreadMove IoCall BusCall)) :
    let t := (sessionThreads Number).final (idleThreads Number config) moves
    let past := (sessionThreads Number).history (idleThreads Number config)
      moves
    let outputs := (sessionThreads Number).emitted
      (idleThreads Number config) moves
    ∃ events : List Event,
      machine.final (create config : Session Number) events =
          (t.leftCode.run t.left).1.withDeliverSeq
            (t.rightCode.run t.right).1 ∧
        outputsOf onIoThread
            (machine.history (create config : Session Number) events) =
          Threads.lefts outputs ++ (t.leftCode.run t.left).2 ∧
        outputsOf onBusThread
            (machine.history (create config : Session Number) events) =
          Threads.rights outputs ++ (t.rightCode.run t.right).2 ∧
        events.filter onIoThread =
          (Threads.lefts (Threads.begun past)).map (·.val) ∧
        events.filter onBusThread =
          (Threads.rights (Threads.begun past)).map BusCall.event := by
  intro t past outputs
  obtain ⟨calls, made, agrees⟩ := Threads.serialisable ioProgram shown
    busProgram showsOnce_ioProgram
    ((create config : Session Number), (create config : Session
      Number).deliverSeq) moves
  obtain ⟨atState, ioOutputs, busOutputs⟩ := atomically_session
    ((create config : Session Number), (create config : Session
      Number).deliverSeq) calls
  refine ⟨calls.map eventOf, ?_, ?_, ?_, ?_, ?_⟩
  · exact atState.trans (congrArg₂ Session.withDeliverSeq made.state
      agrees.state)
  · exact ioOutputs.trans made.outputs
  · exact busOutputs.trans agrees.outputs
  · rw [filter_onIoThread]
    exact congrArg _ made.calls
  · rw [filter_onBusThread]
    exact congrArg _ agrees.calls

end OpenSmsc.SmppSession
