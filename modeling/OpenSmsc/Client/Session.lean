/-
The live session of one client handler process.

Every completion handler and every D-Bus method of `SmppSession` is a function
from the session to the session afterwards and the effects it asked for, in
order.  What the handler learns from outside (the answer of `Authenticate`, the
clocks, a read result) is part of the event that runs it.  Log output is left
out.
-/

import OpenSmsc.Foundation.Machine
import OpenSmsc.Client.Pdu

namespace OpenSmsc.SmppSession

open Foundation Smpp

inductive SessionState where
  | opened
  | boundTx
  | boundRx
  | boundTrx
  | unbound
  deriving DecidableEq, Repr

def stateName : SessionState → Octets
  | .opened => text "OPEN"
  | .boundTx => text "BOUND_TX"
  | .boundRx => text "BOUND_RX"
  | .boundTrx => text "BOUND_TRX"
  | .unbound => text "UNBOUND"

/-- The number operations of the token bucket.  The source computes them in
`double`; nothing outside the bucket depends on how they round. -/
class TokenArith (Number : Type) where
  ofUnsigned : UInt32 → Number
  /-- `duration<double>(ticks).count()` of a steady-clock difference. -/
  seconds : Int → Number
  one : Number
  add : Number → Number → Number
  sub : Number → Number → Number
  mul : Number → Number → Number
  gt : Number → Number → Bool
  ge : Number → Number → Bool

/-- The program's own arithmetic, with a nanosecond clock. -/
instance : TokenArith Float where
  ofUnsigned number := Float.ofNat number.toNat
  seconds ticks := Float.ofInt ticks / 1000000000
  one := 1
  add left right := left + right
  sub left right := left - right
  mul left right := left * right
  gt left right := left > right
  ge left right := left ≥ right

structure Session (Number : Type) where
  uuid : Octets
  clientIp : Octets
  systemId : Octets := []
  state : SessionState := .opened
  bindTime : UInt64 := 0
  elIntervalSec : UInt32
  elTimeoutSec : UInt32
  elSeq : UInt32 := 0
  elPending : Bool := false
  msgSeq : UInt32 := 0
  deliverSeq : UInt32 := 0x20000000
  maxSubmitPerSec : UInt32
  tbTokens : Number
  tbLastRefill : Int
  msgIdPrefix : Octets

inductive Timer where
  | enquireLink
  | enquireLinkTimeout
  deriving DecidableEq, Repr

inductive Effect where
  | asyncReadHeader
  | asyncReadBody (hdr : Header)
  | sendPdu (pdu : Octets)
  | closeSocket
  | emitSessionExited (uuid reason : Octets)
  | callAuthenticate (uuid systemId password sourceIp : Octets)
      (answer : Option (Bool × UInt32))
  | callUpdateSessionDetails (uuid systemId state : Octets)
  | callRouteMessage (srcAddr dstAddr shortMessage messageId : Octets)
  /-- `expires_after`, which cancels a wait still outstanding, and
  `async_wait`. -/
  | asyncWait (timer : Timer) (seconds : UInt32)
  | cancel (timer : Timer)
  | returnSessionInfo
      (info : Octets × Octets × Octets × Octets × UInt64)
  | returnDeliverSm (sequenceNumber : UInt32)
  | throwError (name message : Octets)
  deriving DecidableEq, Repr

/-- What the outside answers while one PDU is dispatched.  `authenticate` is
`none` when the D-Bus call throws. -/
structure Env where
  authenticate : Octets → Octets → Octets → Octets → Option (Bool × UInt32)
  systemClock : UInt64
  steadyClock : Int

/-- Constructor arguments, with the steady clock read at construction. -/
structure Config where
  uuid : Octets
  clientIp : Octets
  enquireLinkIntervalSec : UInt32 := 60
  enquireLinkTimeoutSec : UInt32 := 10
  maxSubmitPerSec : UInt32 := 0
  constructedAt : Int := 0

variable {Number : Type} [TokenArith Number]

def create (config : Config) : Session Number :=
  { uuid := config.uuid
    clientIp := config.clientIp
    elIntervalSec := config.enquireLinkIntervalSec
    elTimeoutSec := config.enquireLinkTimeoutSec
    maxSubmitPerSec := config.maxSubmitPerSec
    tbTokens := TokenArith.ofUnsigned config.maxSubmitPerSec
    tbLastRefill := config.constructedAt
    msgIdPrefix :=
      if 8 ≤ config.uuid.length then config.uuid.take 8 else config.uuid }

abbrev Result (Number : Type) := Session Number × List Effect

/-! ### Ending a session -/

def doDisconnect (reason : Octets) (s : Session Number) : Result Number :=
  if s.state = .unbound then (s, [])
  else
    ({ s with state := .unbound },
      [.closeSocket, .emitSessionExited s.uuid reason])

/-! ### Keepalive -/

def scheduleEnquireLink (s : Session Number) : List Effect :=
  [.asyncWait .enquireLink s.elIntervalSec]

def armEnquireLinkTimeout (s : Session Number) : List Effect :=
  [.asyncWait .enquireLinkTimeout s.elTimeoutSec]

/-- `failed` is a completion with an error code, as after a cancel. -/
def onEnquireLinkTimer (failed : Bool) (s : Session Number) :
    Result Number :=
  if failed || s.elPending then (s, [])
  else if s.state = .unbound then (s, [])
  else
    let elSeq := if s.elSeq = 0 then 0x10000000 else s.elSeq + 1
    let s := { s with elSeq := elSeq, elPending := true }
    (s, .sendPdu (makeResponse enquireLink esmeRok elSeq) ::
      armEnquireLinkTimeout s)

def handleEnquireLinkResp (hdr : Header) (s : Session Number) :
    Result Number :=
  if hdr.sequenceNumber = s.elSeq ∧ s.elPending = true then
    let s := { s with elPending := false }
    (s, .cancel .enquireLinkTimeout :: scheduleEnquireLink s)
  else (s, [])

def onEnquireLinkTimeout (failed : Bool) (s : Session Number) :
    Result Number :=
  if failed then (s, [])
  else if s.elPending = false then (s, [])
  else doDisconnect (text "enquire_link timeout") s

/-! ### Requests of the peer -/

def bindCredentials (body : Octets) : Scanner (Octets × Octets) := do
  let sid ← readCstr body
  let pass ← readCstr body
  pure (sid, pass)

/-- The switch of `handle_bind`, which has no default branch. -/
def boundState (commandId : UInt32) (state : SessionState) : SessionState :=
  if commandId = bindTransmitter then .boundTx
  else if commandId = bindReceiver then .boundRx
  else if commandId = bindTransceiver then .boundTrx
  else state

def updateSessionDetails (s : Session Number) : Effect :=
  .callUpdateSessionDetails s.uuid s.systemId (stateName s.state)

def handleBind (env : Env) (hdr : Header) (body : Octets)
    (s : Session Number) : Result Number :=
  if s.state ≠ .opened then
    (s, [.sendPdu (makeResponse (bindRespId hdr.commandId) esmeRalybnd
      hdr.sequenceNumber)])
  else
    let sid := (bindCredentials body 0).1.1
    let pass := (bindCredentials body 0).1.2
    let answer := env.authenticate s.uuid sid pass s.clientIp
    let call := Effect.callAuthenticate s.uuid sid pass s.clientIp answer
    -- `auth_ok` and `err_code` keep their initial values when the call throws
    let authOk := (answer.getD (false, esmeRinvsysid)).1
    let errCode := (answer.getD (false, esmeRinvsysid)).2
    if authOk = false then
      let ended := doDisconnect (text "auth failed") s
      (ended.1,
        call :: .sendPdu (makeResponse (bindRespId hdr.commandId) errCode
          hdr.sequenceNumber) :: ended.2)
    else
      let s :=
        { s with
          systemId := sid
          state := boundState hdr.commandId s.state
          bindTime := env.systemClock }
      (s,
        [call,
          .sendPdu (makeResponse (bindRespId hdr.commandId) esmeRok
            hdr.sequenceNumber (text "smpp-server")),
          updateSessionDetails s])

def handleUnbind (hdr : Header) (s : Session Number) : Result Number :=
  let ended := doDisconnect (text "unbind") s
  (ended.1,
    .sendPdu (makeResponse unbindResp esmeRok hdr.sequenceNumber) :: ended.2)

def handleEnquireLink (hdr : Header) (s : Session Number) : Result Number :=
  (s, [.sendPdu (makeResponse enquireLinkResp esmeRok hdr.sequenceNumber)])

def refilledTokens (now : Int) (s : Session Number) : Number :=
  let size := TokenArith.ofUnsigned s.maxSubmitPerSec
  let elapsed := TokenArith.seconds (now - s.tbLastRefill)
  let tokens := TokenArith.add s.tbTokens (TokenArith.mul elapsed size)
  if TokenArith.gt tokens size then size else tokens

def throttleCheck (now : Int) (s : Session Number) :
    Bool × Session Number :=
  if s.maxSubmitPerSec = 0 then (true, s)
  else
    let tokens := refilledTokens now s
    if TokenArith.ge tokens TokenArith.one then
      (true,
        { s with
          tbLastRefill := now
          tbTokens := TokenArith.sub tokens TokenArith.one })
    else (false, { s with tbLastRefill := now, tbTokens := tokens })

def nextMessageId (s : Session Number) : Octets × Session Number :=
  let seq := s.msgSeq + 1
  (s.msgIdPrefix ++ setwHex 8 seq.toNat, { s with msgSeq := seq })

def handleSubmitSm (env : Env) (hdr : Header) (body : Octets)
    (s : Session Number) : Result Number :=
  let bindStatus :=
    if s.state = .boundTx ∨ s.state = .boundTrx then esmeRok
    else esmeRinvbndsts
  -- the bucket is only consulted when the bind state allows the submit
  let checked :=
    if bindStatus = esmeRok then throttleCheck env.steadyClock s
    else (true, s)
  let status := if checked.1 = true then bindStatus else esmeRthrottled
  let s := checked.2
  if status = esmeRok then
    let sm := parseSubmitSm body
    let msgId := (nextMessageId s).1
    ((nextMessageId s).2,
      .sendPdu (makeResponse submitSmResp status hdr.sequenceNumber msgId) ::
        (if msgId.isEmpty then []
        else [.callRouteMessage sm.srcAddr sm.dstAddr sm.shortMessage msgId]))
  else
    (s, [.sendPdu (makeResponse submitSmResp status hdr.sequenceNumber)])

/-- `handle_deliver_sm_resp` only logs. -/
def handleDeliverSmResp (_hdr : Header) (s : Session Number) :
    Result Number :=
  (s, [])

def dispatch (env : Env) (hdr : Header) (body : Octets)
    (s : Session Number) : Result Number :=
  if hdr.commandId = bindTransmitter ∨ hdr.commandId = bindReceiver ∨
      hdr.commandId = bindTransceiver then
    handleBind env hdr body s
  else if hdr.commandId = unbind then handleUnbind hdr s
  else if hdr.commandId = enquireLink then handleEnquireLink hdr s
  else if hdr.commandId = submitSm then handleSubmitSm env hdr body s
  else if hdr.commandId = enquireLinkResp then handleEnquireLinkResp hdr s
  else if hdr.commandId = deliverSmResp then handleDeliverSmResp hdr s
  else
    (s, [.sendPdu (makeResponse genericNack esmeRinvcmdid
      hdr.sequenceNumber)])

/-! ### The read loop -/

abbrev ReadResult := Except Octets Octets

/-- Dispatch one PDU and start reading the next header. -/
def dispatchAndRead (env : Env) (hdr : Header) (body : Octets)
    (s : Session Number) : Result Number :=
  ((dispatch env hdr body s).1,
    (dispatch env hdr body s).2 ++ [.asyncReadHeader])

def readBody (env : Env) (hdr : Header) (s : Session Number) :
    Result Number :=
  if hdr.commandLength - 16 = 0 then dispatchAndRead env hdr [] s
  else (s, [.asyncReadBody hdr])

def onHeader (env : Env) (completion : ReadResult) (s : Session Number) :
    Result Number :=
  match completion with
  | .error message => doDisconnect (text "socket closed: " ++ message) s
  | .ok headerBuf =>
      if (decodeHeader headerBuf).commandLength < 16 then
        doDisconnect (text "invalid PDU length") s
      else readBody env (decodeHeader headerBuf) s

def onBody (env : Env) (hdr : Header) (completion : ReadResult)
    (s : Session Number) : Result Number :=
  match completion with
  | .error message => doDisconnect (text "body read: " ++ message) s
  | .ok body => dispatchAndRead env hdr body s

def start (s : Session Number) : List Effect :=
  .asyncReadHeader ::
    (if 0 < s.elIntervalSec then scheduleEnquireLink s else [])

/-! ### D-Bus methods -/

def getSessionInfo (s : Session Number) :
    Octets × Octets × Octets × Octets × UInt64 :=
  (s.uuid, s.clientIp, s.systemId, stateName s.state, s.bindTime)

def nextDeliverSeq (s : Session Number) : UInt32 × Session Number :=
  (s.deliverSeq, { s with deliverSeq := s.deliverSeq + 1 })

def deliverSm (srcAddr dstAddr shortMessage : Octets) (s : Session Number) :
    Result Number :=
  if s.state ≠ .boundRx ∧ s.state ≠ .boundTrx then
    (s,
      [.throwError (text "com.telecom.smpp.Error.InvalidBindState")
        (text "session is not BOUND_RX or BOUND_TRX")])
  else
    let seq := (nextDeliverSeq s).1
    ((nextDeliverSeq s).2,
      [.sendPdu (makeDeliverSm seq srcAddr dstAddr shortMessage),
        .returnDeliverSm seq])

/-! ### The session as a machine -/

/-- The handlers, each run as one step.  A PDU is dispatched by `onHeader` when
it has no body and by `onBody` otherwise; `disconnect` is the posted half of
`Disconnect`. -/
inductive Event where
  | onHeader (env : Env) (completion : ReadResult)
  | onBody (env : Env) (hdr : Header) (completion : ReadResult)
  | onEnquireLinkTimer (failed : Bool)
  | onEnquireLinkTimeout (failed : Bool)
  | disconnect (reason : Octets)
  | deliverSm (srcAddr dstAddr shortMessage : Octets)
  | getSessionInfo

def step (s : Session Number) : Event → Result Number
  | .onHeader env completion => onHeader env completion s
  | .onBody env hdr completion => onBody env hdr completion s
  | .onEnquireLinkTimer failed => onEnquireLinkTimer failed s
  | .onEnquireLinkTimeout failed => onEnquireLinkTimeout failed s
  | .disconnect reason => doDisconnect reason s
  | .deliverSm srcAddr dstAddr shortMessage =>
      deliverSm srcAddr dstAddr shortMessage s
  | .getSessionInfo => (s, [.returnSessionInfo (getSessionInfo s)])

def machine : Machine (Session Number) Event Effect :=
  { step := step }

/-- The PDU an event dispatches, with what the outside answers it. -/
def dispatched : Event → Option (Env × Header × Octets)
  | .onHeader env (.ok headerBuf) =>
      if (decodeHeader headerBuf).commandLength = 16 then
        some (env, decodeHeader headerBuf, [])
      else none
  | .onBody env hdr (.ok body) => some (env, hdr, body)
  | _ => none

end OpenSmsc.SmppSession
