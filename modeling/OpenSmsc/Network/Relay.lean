/-
Messages on their way from a session through the server to a session.

A client handler calls the server from its `io_context` thread and waits for
the answer: `GetSocket` when it starts, `UpdateSessionDetails` after a bind and
`RouteMessage` after an accepted submit_sm.  The server serves these calls one
at a time on the thread of its bus connection.  For `RouteMessage` it calls
`DeliverSm` of the first recorded receiver from that thread and waits in its
turn.  A receiver serves `DeliverSm` on its own bus thread.

The bus keeps the order of the calls between two ends and nothing more.  A
caller whose call times out goes on, and the call may still be served later.
The two ids of a call that no code reads, its sender and its number, are kept
to tell calls with the same arguments apart.

What becomes of a string on the bus is a parameter.  It applies to the strings
that come from the peers: system ids, addresses and texts.  The others (uuids,
names of states, message ids) are ASCII that the programs make themselves, and
are assumed to arrive as they are.
-/

import OpenSmsc.Foundation.Lanes
import OpenSmsc.Client.SessionThreads
import OpenSmsc.Network.Processes

namespace OpenSmsc.Relay

open Foundation
open Smpp (Message)
open SmppSession (Session TokenArith IoCall)
open SmppServerService (Service)

/-! ### Strings on the bus -/

/-- What the called side gets for a string argument, `none` if the string
cannot be sent and the call throws.  Nothing is ever added to a string. -/
class Transport where
  carries : Octets → Option Octets
  cuts : ∀ {sent arrived : Octets},
    carries sent = some arrived → arrived <+: sent

/-- A string that can be sent arrives as it is. -/
def Transport.Exact [Transport] : Prop :=
  ∀ sent arrived, Transport.carries sent = some arrived → arrived = sent

section Strings

variable [Transport]

def carried (message : Message) : Option Message := do
  let srcAddr ← Transport.carries message.srcAddr
  let dstAddr ← Transport.carries message.dstAddr
  let shortMessage ← Transport.carries message.shortMessage
  return ⟨srcAddr, dstAddr, shortMessage⟩

theorem carried_eq_some_iff {message arrived : Message} :
    carried message = some arrived ↔
      Transport.carries message.srcAddr = some arrived.srcAddr ∧
        Transport.carries message.dstAddr = some arrived.dstAddr ∧
        Transport.carries message.shortMessage =
          some arrived.shortMessage := by
  obtain ⟨srcAddr, dstAddr, shortMessage⟩ := arrived
  simp only [carried, Option.bind_eq_bind, Option.bind_eq_some_iff,
    Option.pure_def, Option.some.injEq, Message.mk.injEq]
  constructor
  · rintro ⟨src, isSrc, dst, isDst, short, isShort, rfl, rfl, rfl⟩
    exact ⟨isSrc, isDst, isShort⟩
  · rintro ⟨isSrc, isDst, isShort⟩
    exact ⟨_, isSrc, _, isDst, _, isShort, rfl, rfl, rfl⟩

/-- A message after two calls, `RouteMessage` and `DeliverSm`. -/
def carriedTwice (message : Message) : Option Message :=
  (carried message).bind carried

structure CutFrom (message arrived : Message) : Prop where
  srcAddr : arrived.srcAddr <+: message.srcAddr
  dstAddr : arrived.dstAddr <+: message.dstAddr
  shortMessage : arrived.shortMessage <+: message.shortMessage

theorem carried_cutFrom {message arrived : Message}
    (arrives : carried message = some arrived) : CutFrom message arrived := by
  obtain ⟨isSrc, isDst, isShort⟩ := carried_eq_some_iff.mp arrives
  exact ⟨Transport.cuts isSrc, Transport.cuts isDst, Transport.cuts isShort⟩

theorem carriedTwice_cutFrom {message arrived : Message}
    (arrives : carriedTwice message = some arrived) :
    CutFrom message arrived := by
  obtain ⟨between, first, second⟩ := Option.bind_eq_some_iff.mp arrives
  have toServer := carried_cutFrom first
  have toReceiver := carried_cutFrom second
  exact ⟨toReceiver.srcAddr.trans toServer.srcAddr,
    toReceiver.dstAddr.trans toServer.dstAddr,
    toReceiver.shortMessage.trans toServer.shortMessage⟩

theorem Transport.Exact.carried (exact : Transport.Exact)
    {message arrived : Message}
    (arrives : Relay.carried message = some arrived) : arrived = message := by
  obtain ⟨isSrc, isDst, isShort⟩ := carried_eq_some_iff.mp arrives
  cases arrived
  cases exact _ _ isSrc
  cases exact _ _ isDst
  cases exact _ _ isShort
  rfl

theorem Transport.Exact.carriedTwice (exact : Transport.Exact)
    {message arrived : Message}
    (arrives : Relay.carriedTwice message = some arrived) :
    arrived = message := by
  obtain ⟨between, first, second⟩ := Option.bind_eq_some_iff.mp arrives
  exact (exact.carried second).trans (exact.carried first)

end Strings

/-- A bus that refuses whatever is not ASCII or has a NUL. -/
@[reducible] def asciiTransport : Transport where
  carries sent :=
    if sent.all fun octet => octet != 0 && octet < 128 then some sent
    else none
  cuts := by
    intro sent arrived isSent
    rw [Option.ite_none_right_eq_some] at isSent
    rw [Option.some.inj isSent.2]

example : @Transport.Exact asciiTransport := by
  intro sent arrived isSent
  exact (Option.some.inj (Option.ite_none_right_eq_some.mp isSent).2).symm

/-! ### Calls -/

/-- The methods of `IServer` that a client handler calls. -/
inductive Request where
  | getSocket (uuid : Octets)
  | updateSessionDetails (uuid systemId state : Octets)
  | routeMessage (srcAddr dstAddr shortMessage messageId : Octets)
  deriving DecidableEq, Repr

structure Call where
  sender : Octets
  serial : Nat
  request : Request
  deriving DecidableEq, Repr

def Request.arrives [Transport] : Request → Option Request
  | .getSocket uuid => some (.getSocket uuid)
  | .updateSessionDetails uuid systemId state =>
      (Transport.carries systemId).map fun systemId =>
        .updateSessionDetails uuid systemId state
  | .routeMessage srcAddr dstAddr shortMessage messageId =>
      (carried ⟨srcAddr, dstAddr, shortMessage⟩).map fun message =>
        .routeMessage message.srcAddr message.dstAddr message.shortMessage
          messageId

inductive Request.Arrived [Transport] : (sent arrived : Request) → Prop
  | getSocket (uuid : Octets) : Arrived (.getSocket uuid) (.getSocket uuid)
  | updateSessionDetails (uuid systemId arrived state : Octets)
      (carries : Transport.carries systemId = some arrived) :
      Arrived (.updateSessionDetails uuid systemId state)
        (.updateSessionDetails uuid arrived state)
  | routeMessage (srcAddr dstAddr shortMessage messageId : Octets)
      (arrived : Message)
      (carries : carried ⟨srcAddr, dstAddr, shortMessage⟩ = some arrived) :
      Arrived (.routeMessage srcAddr dstAddr shortMessage messageId)
        (.routeMessage arrived.srcAddr arrived.dstAddr arrived.shortMessage
          messageId)

theorem Request.arrived_of_arrives [Transport] {sent arrived : Request}
    (arrives : sent.arrives = some arrived) : sent.Arrived arrived := by
  cases sent with
  | getSocket uuid =>
      cases arrives
      exact .getSocket uuid
  | updateSessionDetails uuid systemId state =>
      obtain ⟨given, carries, rfl⟩ := Option.map_eq_some_iff.mp arrives
      exact .updateSessionDetails uuid systemId given state carries
  | routeMessage srcAddr dstAddr shortMessage messageId =>
      obtain ⟨message, carries, rfl⟩ := Option.map_eq_some_iff.mp arrives
      exact .routeMessage srcAddr dstAddr shortMessage messageId message
        carries

def Call.arrives [Transport] (call : Call) : Option Call :=
  call.request.arrives.map fun request => { call with request := request }

/-- A call of `DeliverSm` at `target`, made for the `RouteMessage` that
`sender` numbered `serial`. -/
structure Delivery extends Message where
  target : Octets
  sender : Octets
  serial : Nat
  deriving DecidableEq, Repr

def requestOf : SmppSession.Effect → Option Request
  | .callUpdateSessionDetails uuid systemId state =>
      some (.updateSessionDetails uuid systemId state)
  | .callRouteMessage srcAddr dstAddr shortMessage messageId =>
      some (.routeMessage srcAddr dstAddr shortMessage messageId)
  | _ => none

/-! ### Processes -/

/-- A running client handler.  `calls` is how many calls it has made, and
`waiting` the number of the one its `io_context` thread is blocked in. -/
structure Peer (Number : Type) where
  session : Session Number
  calls : Nat
  waiting : Option Nat

/-- A starting process is blocked in `GetSocket`, its call 0. -/
inductive Process (Number : Type) where
  | starting (clientIp : Octets)
  | running (peer : Peer Number)
  | exited

/-- `serving` is the `DeliverSm` that the server's bus thread is blocked in. -/
structure State (Number : Type) where
  service : Service
  processes : Std.TreeMap Octets (Process Number)
  requests : List Call
  serving : Option Delivery
  deliveries : List Delivery

def create {Number : Type} (maxPerIp : UInt32) : State Number :=
  { service := SmppServerService.create (ConnectionRegistry.create maxPerIp)
    processes := ∅
    requests := []
    serving := none
    deliveries := [] }

section Steps

variable {Number : Type}

def setProcess (uuid : Octets) (process : Process Number)
    (n : State Number) : State Number :=
  { n with processes := n.processes.insert uuid process }

def isNew (uuid : Octets) (n : State Number) : Bool :=
  Network.isUnused uuid n.processes n.service

/-- The server accepts on a thread of its own. -/
def connect (uuid : Octets) (fd : Int) (clientIp : Octets)
    (launched : Bool) (n : State Number) : State Number :=
  Network.handleConnection uuid fd clientIp launched (isNew uuid n) n.service
    (fun service => { n with service := service })
    (fun service =>
      { n with
        service := service
        processes := n.processes.insert uuid (.starting clientIp)
        requests := n.requests ++
          [{ sender := uuid, serial := 0, request := .getSocket uuid }] })
    n

/-- The answer of a call reaches the thread that waits for it.  The answer of
a call given up is dropped. -/
def answer (sender : Octets) (serial : Nat) (n : State Number) :
    State Number :=
  match n.processes[sender]? with
  | some (.running peer) =>
      if peer.waiting = some serial then
        setProcess sender (.running { peer with waiting := none }) n
      else n
  | _ => n

/-- The answer of `GetSocket` starts the session or ends the process. -/
def answerSocket [TokenArith Number] (steadyClock : Int) (uuid : Octets)
    (fd : Option Int) (n : State Number) : State Number :=
  match n.processes[uuid]? with
  | some (.starting clientIp) =>
      match fd with
      | some _ =>
          setProcess uuid
            (.running
              { session := SmppSession.create
                  { uuid := uuid
                    clientIp := clientIp
                    constructedAt := steadyClock }
                calls := 1
                waiting := none })
            n
      | none => setProcess uuid .exited n
  | _ => n

/-- The uuid `RouteMessage` picks, empty if there is no receiver. -/
def targetUuid (s : Service) : Octets :=
  match s.sessions.toList.find? fun (_, info) =>
    SmppServerService.isReceiver info with
  | some (uuid, _) => uuid
  | none => text ""

def deliveryFor (call : Call) (target : Octets) (message : Message) :
    Delivery :=
  { message with
    target := target
    sender := call.sender
    serial := call.serial }

/-- The server's thread serves a call.  A call of `DeliverSm` under a name
that nobody owns fails at once, and so does one that cannot be sent. -/
def serveCall [Transport] [TokenArith Number] (steadyClock : Int)
    (call : Call) (n : State Number) : State Number :=
  match call.request with
  | .getSocket uuid =>
      let (service, answers) := SmppServerService.getSocket uuid n.service
      answerSocket steadyClock call.sender
        (answers.findSome? Network.socketOf) { n with service := service }
  | .updateSessionDetails uuid systemId state =>
      answer call.sender call.serial
        { n with
          service := SmppServerService.updateSessionDetails uuid systemId
            state n.service }
  | .routeMessage srcAddr dstAddr shortMessage _ =>
      let target := targetUuid n.service
      if target.isEmpty then answer call.sender call.serial n
      else
        match n.processes[target]?,
          carried ⟨srcAddr, dstAddr, shortMessage⟩ with
        | some (.running _), some message =>
            let delivery := deliveryFor call target message
            { n with
              serving := some delivery
              deliveries := n.deliveries ++ [delivery] }
        | _, _ => answer call.sender call.serial n

def endServing (delivery : Delivery) (n : State Number) : State Number :=
  if n.serving = some delivery then
    answer delivery.sender delivery.serial { n with serving := none }
  else n

/-- What can be seen of a step: an accepted message handed to the bus for the
server, and a `DeliverSm` served, with its effects. -/
inductive Observed where
  | routes (sender : Octets) (serial : Nat)
      (srcAddr dstAddr shortMessage messageId : Octets)
  | delivers (delivery : Delivery) (outputs : List SmppSession.Effect)

def observed (call : Call) : List Observed :=
  match call.request with
  | .routeMessage srcAddr dstAddr shortMessage messageId =>
      [.routes call.sender call.serial srcAddr dstAddr shortMessage messageId]
  | _ => []

/-- A completion handler runs on the `io_context` thread of a session that is
not blocked.  A handler makes one call at most.  It catches the error of a call
that cannot be sent and goes on. -/
def handle [Transport] [TokenArith Number] (uuid : Octets) (handler : IoCall)
    (n : State Number) : State Number × List Observed :=
  match n.processes[uuid]? with
  | some (.running peer) =>
      if peer.waiting.isSome then (n, [])
      else
        let (after, outputs) := SmppSession.step peer.session handler.val
        match outputs.findSome? requestOf with
        | none =>
            (setProcess uuid (.running { peer with session := after }) n, [])
        | some request =>
            let call : Call :=
              { sender := uuid, serial := peer.calls, request := request }
            (setProcess uuid
                (.running
                  { session := after
                    calls := peer.calls + 1
                    waiting := call.arrives.map Call.serial })
                { n with requests := n.requests ++ call.arrives.toList },
              observed call)
  | _ => (n, [])

/-- The server's thread, when it is not blocked, takes the next call of a
sender. -/
def serve [Transport] [TokenArith Number] (steadyClock : Int) (sender : Octets)
    (n : State Number) : State Number :=
  if n.serving.isSome then n
  else
    match Lanes.takeNext Call.sender sender n.requests with
    | none => n
    | some (call, rest) =>
        serveCall steadyClock call { n with requests := rest }

/-- The bus thread of a running handler serves its next `DeliverSm`. -/
def execute [TokenArith Number] (target : Octets) (n : State Number) :
    State Number × List Observed :=
  match n.processes[target]?,
    Lanes.takeNext Delivery.target target n.deliveries with
  | some (.running peer), some (delivery, rest) =>
      let (after, outputs) := SmppSession.deliverSm delivery.srcAddr
        delivery.dstAddr delivery.shortMessage peer.session
      (endServing delivery
          (setProcess target (.running { peer with session := after })
            { n with deliveries := rest }),
        [.delivers delivery outputs])
  | _, _ => (n, [])

/-- A blocked caller goes on without an answer.  `main` does not catch the
error of `GetSocket` before it ends the process. -/
def giveUp (uuid : Octets) (n : State Number) : State Number :=
  match n.processes[uuid]? with
  | some (.starting _) => setProcess uuid .exited n
  | some (.running peer) =>
      setProcess uuid (.running { peer with waiting := none }) n
  | _ => n

def giveUpDelivery (n : State Number) : State Number :=
  match n.serving with
  | some delivery => endServing delivery n
  | none => n

/-- The end of a process.  The bus fails the calls it has not served. -/
def terminate (uuid : Octets) (n : State Number) : State Number :=
  match n.processes[uuid]? with
  | none => n
  | some _ =>
      let ended :=
        setProcess uuid .exited
          { n with
            deliveries := n.deliveries.filter fun delivery =>
              decide (delivery.target ≠ uuid) }
      match n.serving with
      | some delivery =>
          if delivery.target = uuid then endServing delivery ended else ended
      | none => ended

inductive Action where
  | connect (uuid : Octets) (fd : Int) (clientIp : Octets) (launched : Bool)
  | handle (uuid : Octets) (handler : IoCall)
  | serve (steadyClock : Int) (sender : Octets)
  | execute (target : Octets)
  | giveUp (uuid : Octets)
  | giveUpDelivery
  | terminate (uuid : Octets)
  | setMaxConnectionsPerIp (ip : Octets) (max : UInt32)

def step [Transport] [TokenArith Number] (n : State Number) :
    Action → State Number × List Observed
  | .connect uuid fd clientIp launched =>
      (connect uuid fd clientIp launched n, [])
  | .handle uuid handler => handle uuid handler n
  | .serve steadyClock sender => (serve steadyClock sender n, [])
  | .execute target => execute target n
  | .giveUp uuid => (giveUp uuid n, [])
  | .giveUpDelivery => (giveUpDelivery n, [])
  | .terminate uuid => (terminate uuid n, [])
  | .setMaxConnectionsPerIp ip max =>
      ({ n with
          service := SmppServerService.setMaxConnectionsPerIp ip max
            n.service }, [])

def machine [Transport] [TokenArith Number] :
    Machine (State Number) Action Observed :=
  { step := step }

/-! ### Against the functions of one process -/

/-- The `RouteMessage` of the service calls the handler that `serveCall`
hands the message to, and nobody if there is none. -/
theorem routeMessage_targetUuid (deliver : Octets → Option UInt32)
    (srcAddr dstAddr shortMessage messageId : Octets) (s : Service) :
    (SmppServerService.routeMessage deliver srcAddr dstAddr shortMessage
        messageId s).2 =
      if (targetUuid s).isEmpty then []
      else
        [.callDeliverSm (clientBusName (targetUuid s))
          srcAddr dstAddr shortMessage (deliver (targetUuid s))] := by
  unfold SmppServerService.routeMessage targetUuid
  cases found : s.sessions.toList.find? fun (_, info) =>
      SmppServerService.isReceiver info with
  | none => rfl
  | some row =>
      obtain ⟨uuid, info⟩ := row
      dsimp only
      split
      · rfl
      · cases answer : deliver uuid with
        | none => rfl
        | some sequenceNumber => rfl

theorem targetUuid_of_first {s : Service} {uuid : Octets}
    (first : SmppServerService.FirstReceiver s uuid) :
    targetUuid s = uuid := by
  unfold targetUuid
  cases found : s.sessions.toList.find? fun (_, info) =>
      SmppServerService.isReceiver info with
  | none =>
      exact absurd (SmppServerService.find?_receiver_none s found)
        first.not_noReceiver
  | some row =>
      obtain ⟨target, info⟩ := row
      exact (SmppServerService.find?_receiver_some s target info
        found).unique first

theorem requests_nil {outputs : List SmppSession.Effect}
    (none : ∀ effect ∈ outputs, requestOf effect = none) :
    outputs.filterMap requestOf = [] :=
  List.filterMap_eq_nil_iff.mpr none

/-- A step of a session makes one call of the server at most, so a blocked
thread has nothing else to hand over. -/
theorem step_requests_le_one [TokenArith Number] (s : Session Number)
    (event : SmppSession.Event) :
    ((SmppSession.step s event).2.filterMap requestOf).length ≤ 1 := by
  have ending : ∀ reason,
      (SmppSession.doDisconnect reason s).2.filterMap requestOf = [] := by
    intro reason
    unfold SmppSession.doDisconnect
    split <;> rfl
  cases SmppSession.step_handled s event with
  | idle outputs quiet isResult =>
      rw [isResult, requests_nil]
      · exact Nat.zero_le 1
      · intro effect member
        rcases quiet effect member with
          ⟨hdr, rfl⟩ | ⟨name, message, rfl⟩ | rfl
        all_goals rfl
  | disconnects reason isResult =>
      rw [isResult, ending]
      exact Nat.zero_le 1
  | enquires elSeq live isResult =>
      rw [isResult]
      exact Nat.zero_le 1
  | delivers srcAddr dstAddr shortMessage mayReceive isResult =>
      rw [isResult]
      exact Nat.zero_le 1
  | dispatches env hdr body pdu isResult =>
      rw [isResult]
      unfold SmppSession.dispatchAndRead
      rw [List.filterMap_append, List.length_append]
      change _ + 0 ≤ 1
      rw [Nat.add_zero]
      cases SmppSession.dispatch_dispatchedTo env hdr body s with
      | bind isBind isResult =>
          rw [isResult]
          cases SmppSession.handleBind_answered env hdr body s with
          | alreadyBound notOpen isResult =>
              rw [isResult]
              exact Nat.zero_le 1
          | refused code wasOpen answered isResult =>
              rw [isResult]
              exact Nat.zero_le 1
          | accepted code wasOpen answered isResult =>
              rw [isResult]
              exact Nat.le_refl 1
      | unbind isUnbind isResult =>
          rw [isResult]
          change ((SmppSession.doDisconnect (text "unbind") s).2.filterMap
            requestOf).length ≤ 1
          rw [ending]
          exact Nat.zero_le 1
      | enquireLink isEnquiry isResult =>
          rw [isResult]
          exact Nat.zero_le 1
      | submitSm isSubmit isResult =>
          rw [isResult]
          cases SmppSession.handleSubmitSm_submitted env hdr body s with
          | accepted tokens lastRefill mayTransmit isResult =>
              rw [isResult]
              exact Nat.le_refl 1
          | refused tokens lastRefill status isError isResult =>
              rw [isResult]
              exact Nat.zero_le 1
      | enquireLinkResp isResponse isResult =>
          rw [isResult]
          unfold SmppSession.handleEnquireLinkResp
          split <;> exact Nat.zero_le 1
      | deliverSmResp isResponse isResult =>
          rw [isResult]
          exact Nat.zero_le 1
      | unknown _ _ _ _ _ _ isResult =>
          rw [isResult]
          exact Nat.zero_le 1

/-! ### What a step does to the calls under way -/

section Frames

@[simp] theorem setProcess_requests (uuid : Octets)
    (process : Process Number) (n : State Number) :
    (setProcess uuid process n).requests = n.requests := rfl

@[simp] theorem setProcess_deliveries (uuid : Octets)
    (process : Process Number) (n : State Number) :
    (setProcess uuid process n).deliveries = n.deliveries := rfl

@[simp] theorem answer_requests (sender : Octets) (serial : Nat)
    (n : State Number) : (answer sender serial n).requests = n.requests := by
  unfold answer
  split
  · split <;> rfl
  · rfl

@[simp] theorem answer_deliveries (sender : Octets) (serial : Nat)
    (n : State Number) :
    (answer sender serial n).deliveries = n.deliveries := by
  unfold answer
  split
  · split <;> rfl
  · rfl

@[simp] theorem answerSocket_requests [TokenArith Number]
    (steadyClock : Int) (uuid : Octets) (fd : Option Int)
    (n : State Number) :
    (answerSocket steadyClock uuid fd n).requests = n.requests := by
  unfold answerSocket
  split
  · split <;> rfl
  · rfl

@[simp] theorem answerSocket_deliveries [TokenArith Number]
    (steadyClock : Int) (uuid : Octets) (fd : Option Int)
    (n : State Number) :
    (answerSocket steadyClock uuid fd n).deliveries = n.deliveries := by
  unfold answerSocket
  split
  · split <;> rfl
  · rfl

@[simp] theorem endServing_requests (delivery : Delivery)
    (n : State Number) : (endServing delivery n).requests = n.requests := by
  unfold endServing
  split
  · rw [answer_requests]
  · rfl

@[simp] theorem endServing_deliveries (delivery : Delivery)
    (n : State Number) :
    (endServing delivery n).deliveries = n.deliveries := by
  unfold endServing
  split
  · rw [answer_deliveries]
  · rfl

@[simp] theorem answer_serving (sender : Octets) (serial : Nat)
    (n : State Number) : (answer sender serial n).serving = n.serving := by
  unfold answer
  split
  · split <;> rfl
  · rfl

@[simp] theorem answerSocket_serving [TokenArith Number]
    (steadyClock : Int) (uuid : Octets) (fd : Option Int)
    (n : State Number) :
    (answerSocket steadyClock uuid fd n).serving = n.serving := by
  unfold answerSocket
  split
  · split <;> rfl
  · rfl

@[simp] theorem answer_service (sender : Octets) (serial : Nat)
    (n : State Number) : (answer sender serial n).service = n.service := by
  unfold answer
  split
  · split <;> rfl
  · rfl

@[simp] theorem answerSocket_service [TokenArith Number]
    (steadyClock : Int) (uuid : Octets) (fd : Option Int)
    (n : State Number) :
    (answerSocket steadyClock uuid fd n).service = n.service := by
  unfold answerSocket
  split
  · split <;> rfl
  · rfl

@[simp] theorem endServing_service (delivery : Delivery)
    (n : State Number) : (endServing delivery n).service = n.service := by
  unfold endServing
  split
  · rw [answer_service]
  · rfl

theorem serveCall_requests [Transport] [TokenArith Number] (steadyClock : Int)
    (call : Call) (n : State Number) :
    (serveCall steadyClock call n).requests = n.requests := by
  unfold serveCall
  split
  · rw [answerSocket_requests]
  · rw [answer_requests]
  · dsimp only
    split
    · rw [answer_requests]
    · split
      · rfl
      · rw [answer_requests]

end Frames

theorem setProcess_self (uuid : Octets) (process : Process Number)
    (n : State Number) :
    (setProcess uuid process n).processes[uuid]? = some process :=
  Table.lookup_insert_self _ _ _

theorem setProcess_other {uuid other : Octets} (different : uuid ≠ other)
    (process : Process Number) (n : State Number) :
    (setProcess uuid process n).processes[other]? = n.processes[other]? :=
  Table.lookup_insert_ne _ _ different

/-- The thread that waits for this answer goes on; nothing else happens. -/
inductive Answered (sender : Octets) (serial : Nat) (n : State Number)
    (uuid : Octets) : Prop
  | same (unmoved : (answer sender serial n).processes[uuid]? =
      n.processes[uuid]?)
  | freed (peer : Peer Number) (isSender : uuid = sender)
      (was : n.processes[uuid]? = some (.running peer))
      (waited : peer.waiting = some serial)
      (now : (answer sender serial n).processes[uuid]? =
        some (.running { peer with waiting := none }))

theorem answer_answered (sender : Octets) (serial : Nat) (n : State Number)
    (uuid : Octets) : Answered sender serial n uuid := by
  by_cases isSender : sender = uuid
  · subst isSender
    cases was : n.processes[sender]? with
    | none => exact .same (by simp only [answer, was])
    | some process =>
        cases process with
        | starting clientIp => exact .same (by simp only [answer, was])
        | exited => exact .same (by simp only [answer, was])
        | running peer =>
            by_cases waited : peer.waiting = some serial
            · refine .freed peer rfl was waited ?_
              simp only [answer, was, waited, if_true]
              exact setProcess_self _ _ n
            · exact .same (by simp only [answer, was, waited, if_false])
  · refine .same ?_
    unfold answer
    split
    · split
      · exact setProcess_other isSender _ n
      · rfl
    · rfl

def Unblocked (n : State Number) (sender : Octets) (serial : Nat) : Prop :=
  ∀ peer, n.processes[sender]? = some (.running peer) →
    peer.waiting ≠ some serial

theorem answer_unblocked (sender : Octets) (serial : Nat)
    (n : State Number) :
    Unblocked (answer sender serial n) sender serial := by
  intro peer now waiting
  cases answer_answered sender serial n sender with
  | same unmoved =>
      have was := unmoved.symm.trans now
      have cleared : (answer sender serial n).processes[sender]? =
          some (.running { peer with waiting := none }) := by
        simp only [answer, was, waiting, if_true]
        exact setProcess_self _ _ n
      have equal := Process.running.inj
        (Option.some.inj (now.symm.trans cleared))
      have impossible := waiting.symm.trans (congrArg Peer.waiting equal)
      cases impossible
  | freed freed isSender was waited cleared =>
      rw [now] at cleared
      cases cleared
      cases waiting

theorem answerSocket_done [TokenArith Number] (steadyClock : Int)
    (uuid : Octets) (fd : Option Int) (n : State Number)
    (clientIp : Octets) :
    (answerSocket steadyClock uuid fd n).processes[uuid]? ≠
      some (.starting clientIp) := by
  unfold answerSocket
  split
  · split
    · rw [setProcess_self]
      simp
    · rw [setProcess_self]
      simp
  · rename_i notStarting
    exact notStarting clientIp

def Call.isSocket (call : Call) : Bool :=
  match call.request with
  | .getSocket _ => true
  | _ => false

def Ended (n after : State Number) : Prop :=
  ∃ delivery, n.serving = some delivery ∧ after.serving = none ∧
    Unblocked after delivery.sender delivery.serial

theorem endServing_serving {delivery : Delivery} {n : State Number}
    (other : n.serving ≠ some delivery) :
    (endServing delivery n).serving = n.serving := by
  rw [endServing, if_neg other]

theorem endServing_ended (delivery : Delivery) (n before : State Number)
    (was : n.serving = some delivery)
    (serving : before.serving = some delivery) :
    Ended n (endServing delivery before) := by
  refine ⟨delivery, was, ?_, ?_⟩
  · rw [endServing, if_pos serving, answer_serving]
  · rw [endServing, if_pos serving]
    exact answer_unblocked _ _ _

/-- A step adds a call, serves one, or leaves the calls alone; the same for
the calls of `DeliverSm`. -/
inductive Traffic [Transport] (n after : State Number) :
    List Observed → Prop
  | kept (requests : after.requests = n.requests)
      (deliveries : after.deliveries = n.deliveries)
      (serving : after.serving = n.serving ∨ Ended n after) :
      Traffic n after []
  | dropped (uuid : Octets) (requests : after.requests = n.requests)
      (deliveries : after.deliveries = n.deliveries.filter fun delivery =>
        decide (delivery.target ≠ uuid))
      (serving : (after.serving = n.serving ∧
          ∀ delivery, n.serving = some delivery →
            delivery.target ≠ uuid) ∨
        Ended n after) : Traffic n after []
  | called (call : Call)
      (requests : after.requests = n.requests ++ call.arrives.toList)
      (deliveries : after.deliveries = n.deliveries)
      (serving : after.serving = n.serving) :
      Traffic n after (observed call)
  | served (call : Call)
      (taken : Lanes.Taken Call.sender call.sender n.requests call
        after.requests)
      (deliveries : after.deliveries = n.deliveries)
      (free : n.serving = none) (serving : after.serving = none)
      (socket : call.isSocket = true → ∀ clientIp,
        after.processes[call.sender]? ≠ some (.starting clientIp))
      (answered : call.isSocket = false →
        Unblocked after call.sender call.serial) : Traffic n after []
  | dispatched (call : Call)
      (target srcAddr dstAddr shortMessage messageId : Octets)
      (message : Message)
      (taken : Lanes.Taken Call.sender call.sender n.requests call
        after.requests)
      (isRoute : call.request =
        .routeMessage srcAddr dstAddr shortMessage messageId)
      (arrives : carried ⟨srcAddr, dstAddr, shortMessage⟩ = some message)
      (deliveries : after.deliveries = n.deliveries ++
        [deliveryFor call target message])
      (free : n.serving = none)
      (serving : after.serving = some (deliveryFor call target message))
      (isTarget : target = targetUuid n.service)
      (running : ∃ peer, n.processes[target]? = some (.running peer)) :
      Traffic n after []
  | executed (delivery : Delivery) (outputs : List SmppSession.Effect)
      (requests : after.requests = n.requests)
      (taken : Lanes.Taken Delivery.target delivery.target n.deliveries
        delivery after.deliveries)
      (serving : (after.serving = n.serving ∧
          n.serving ≠ some delivery) ∨
        Ended n after) :
      Traffic n after [.delivers delivery outputs]

theorem serveCall_traffic [Transport] [TokenArith Number]
    (steadyClock : Int) (call : Call) (n : State Number) (rest : List Call)
    (free : n.serving = none)
    (taken : Lanes.Taken Call.sender call.sender n.requests call rest) :
    Traffic n (serveCall steadyClock call { n with requests := rest }) [] := by
  have answered : ∀ before : State Number, before.requests = rest →
      before.deliveries = n.deliveries → before.serving = none →
      call.isSocket = false →
        Traffic n (answer call.sender call.serial before) [] := by
    intro before requests deliveries serving notSocket
    refine .served call ?_ ?_ free ?_ ?_ ?_
    · rw [answer_requests, requests]
      exact taken
    · rw [answer_deliveries, deliveries]
    · rw [answer_serving, serving]
    · intro isSocket
      rw [notSocket] at isSocket
      cases isSocket
    · intro _
      exact answer_unblocked _ _ _
  unfold serveCall
  split
  · rename_i uuid isSocket
    refine .served call ?_ ?_ free ?_ ?_ ?_
    · rw [answerSocket_requests]
      exact taken
    · rw [answerSocket_deliveries]
    · rw [answerSocket_serving]
      exact free
    · intro _ clientIp
      exact answerSocket_done _ _ _ _ clientIp
    · intro notSocket
      simp [Call.isSocket, isSocket] at notSocket
  · rename_i uuid systemId state isUpdate
    exact answered _ rfl rfl free (by simp [Call.isSocket, isUpdate])
  · rename_i srcAddr dstAddr shortMessage messageId isRoute
    have notSocket : call.isSocket = false := by
      simp [Call.isSocket, isRoute]
    dsimp only
    split
    · exact answered _ rfl rfl free notSocket
    · split
      · rename_i peer message running arrives
        exact .dispatched call _ srcAddr dstAddr shortMessage messageId
          message taken isRoute arrives rfl free rfl rfl ⟨peer, running⟩
      · exact answered _ rfl rfl free notSocket

theorem step_traffic [Transport] [TokenArith Number] (n : State Number)
    (action : Action) : Traffic n (step n action).1 (step n action).2 := by
  cases action with
  | connect uuid fd clientIp launched =>
      simp only [step, connect, Network.handleConnection]
      split
      · split
        · exact .called
            { sender := uuid, serial := 0, request := .getSocket uuid } rfl
            rfl rfl
        · exact .kept rfl rfl (Or.inl rfl)
      · exact .kept rfl rfl (Or.inl rfl)
  | handle uuid handler =>
      simp only [step, handle]
      split
      · split
        · exact .kept rfl rfl (Or.inl rfl)
        · split
          · exact .kept rfl rfl (Or.inl rfl)
          · exact .called _ rfl rfl rfl
      · exact .kept rfl rfl (Or.inl rfl)
  | serve steadyClock sender =>
      simp only [step, serve]
      split
      · exact .kept rfl rfl (Or.inl rfl)
      · rename_i busy
        have free : n.serving = none := by
          rw [Bool.not_eq_true, Option.isSome_eq_false_iff,
            Option.isNone_iff_eq_none] at busy
          exact busy
        split
        · exact .kept rfl rfl (Or.inl rfl)
        · rename_i call rest found
          have taken := Lanes.takeNext_some found
          have own := taken.own
          subst own
          exact serveCall_traffic steadyClock call n rest free taken
  | execute target =>
      simp only [step, execute]
      split
      · rename_i peer delivery rest running found
        have taken := Lanes.takeNext_some found
        have own := taken.own
        subst own
        refine .executed delivery _ (by simp) (by simpa using taken) ?_
        by_cases serving : n.serving = some delivery
        · exact Or.inr (endServing_ended delivery n _ serving serving)
        · refine Or.inl ⟨?_, serving⟩
          apply endServing_serving
          exact serving
      · exact .kept rfl rfl (Or.inl rfl)
  | giveUp uuid =>
      simp only [step, giveUp]
      split <;> exact .kept rfl rfl (Or.inl rfl)
  | giveUpDelivery =>
      simp only [step, giveUpDelivery]
      split
      · rename_i delivery serving
        exact .kept (by simp) (by simp)
          (Or.inr (endServing_ended delivery n n serving serving))
      · exact .kept rfl rfl (Or.inl rfl)
  | terminate uuid =>
      simp only [step, terminate]
      split
      · exact .kept rfl rfl (Or.inl rfl)
      · split
        · rename_i delivery serving
          split
          · exact .dropped uuid (by simp) (by simp)
              (Or.inr (endServing_ended delivery n _ serving serving))
          · rename_i isOther
            refine .dropped uuid rfl rfl (Or.inl ⟨rfl, ?_⟩)
            intro other isServing
            rw [serving] at isServing
            cases isServing
            exact isOther
        · rename_i free
          refine .dropped uuid rfl rfl (Or.inl ⟨rfl, ?_⟩)
          intro other isServing
          rw [free] at isServing
          cases isServing
  | setMaxConnectionsPerIp ip max => exact .kept rfl rfl (Or.inl rfl)

/-! ### What a step does to a process -/

inductive Became (n after : State Number) (uuid : Octets) : Prop
  | same (unmoved : after.processes[uuid]? = n.processes[uuid]?)
  | launched (clientIp : Octets) (absent : n.processes[uuid]? = none)
      (now : after.processes[uuid]? = some (.starting clientIp))
      (asked : after.requests = n.requests ++
        [{ sender := uuid, serial := 0, request := .getSocket uuid }])
  | started (clientIp : Octets)
      (was : n.processes[uuid]? = some (.starting clientIp))
      (now : ∃ session : Session Number, session.uuid = uuid ∧
        after.processes[uuid]? = some (.running
          { session := session, calls := 1, waiting := none }))
  | ended (notRunning : ∀ peer, n.processes[uuid]? ≠ some (.running peer))
      (now : after.processes[uuid]? = some .exited)
  | terminated (now : after.processes[uuid]? = some .exited)
      (gone : ∀ delivery ∈ after.deliveries, delivery.target ≠ uuid)
  | ran (peer : Peer Number) (session : Session Number)
      (identity : session.uuid = peer.session.uuid)
      (was : n.processes[uuid]? = some (.running peer))
      (now : after.processes[uuid]? =
        some (.running { peer with session := session }))
  | freed (peer : Peer Number) (session : Session Number)
      (identity : session.uuid = peer.session.uuid)
      (was : n.processes[uuid]? = some (.running peer))
      (now : after.processes[uuid]? =
        some (.running { peer with session := session, waiting := none }))
  | called (peer : Peer Number) (session : Session Number)
      (arrived : Option Call) (identity : session.uuid = peer.session.uuid)
      (was : n.processes[uuid]? = some (.running peer))
      (now : after.processes[uuid]? =
        some (.running
          { session := session
            calls := peer.calls + 1
            waiting := arrived.map Call.serial }))
      (asked : after.requests = n.requests ++ arrived.toList)
      (ordinary : ∀ call ∈ arrived, call.sender = uuid ∧
        call.isSocket = false)

theorem Became.running {n after : State Number} {uuid : Octets}
    (became : Became n after uuid) {later : Peer Number}
    (now : after.processes[uuid]? = some (.running later)) :
    (later.session.uuid = uuid ∧ later.waiting = none) ∨
      ∃ peer, n.processes[uuid]? = some (.running peer) ∧
        later.session.uuid = peer.session.uuid ∧
        (later.waiting = none ∨ later.waiting = peer.waiting ∨
          ∃ call ∈ after.requests, call.isSocket = false ∧
            call.sender = uuid ∧ later.waiting = some call.serial) := by
  cases became with
  | same unmoved =>
      exact .inr ⟨later, unmoved.symm.trans now, rfl, .inr (.inl rfl)⟩
  | launched clientIp absent starts asked =>
      rw [starts] at now
      cases now
  | started clientIp was starts =>
      obtain ⟨session, isNamed, starts⟩ := starts
      rw [starts] at now
      cases now
      exact .inl ⟨isNamed, rfl⟩
  | ended notRunning ends =>
      rw [ends] at now
      cases now
  | terminated ends gone =>
      rw [ends] at now
      cases now
  | ran peer session identity was runs =>
      rw [runs] at now
      cases now
      exact .inr ⟨peer, was, identity, .inr (.inl rfl)⟩
  | freed peer session identity was free =>
      rw [free] at now
      cases now
      exact .inr ⟨peer, was, identity, .inl rfl⟩
  | called peer session arrived identity was calls asked ordinary =>
      rw [calls] at now
      cases now
      refine .inr ⟨peer, was, identity, ?_⟩
      cases arrived with
      | none => exact .inl rfl
      | some call =>
          obtain ⟨isSender, notSocket⟩ := ordinary call rfl
          refine .inr (.inr ⟨call, ?_, notSocket, isSender, rfl⟩)
          rw [asked]
          exact List.mem_append_right _ (List.mem_singleton_self _)

theorem Became.of_answer (sender : Octets) (serial : Nat)
    (n before : State Number) (uuid : Octets)
    (unmoved : before.processes[uuid]? = n.processes[uuid]?) :
    Became n (answer sender serial before) uuid := by
  cases answer_answered sender serial before uuid with
  | same same => exact .same (same.trans unmoved)
  | freed peer isSender was waited now =>
      exact .freed peer peer.session rfl (unmoved.symm.trans was) now

theorem Became.of_answerSocket [TokenArith Number] (steadyClock : Int)
    (sender : Octets) (fd : Option Int) (n before : State Number)
    (uuid : Octets)
    (unmoved : before.processes[uuid]? = n.processes[uuid]?) :
    Became n (answerSocket steadyClock sender fd before) uuid := by
  by_cases isSender : sender = uuid
  · subst isSender
    unfold answerSocket
    split
    · rename_i clientIp was
      split
      · exact .started clientIp (unmoved.symm.trans was)
          ⟨_, rfl, setProcess_self _ _ before⟩
      · refine .ended ?_ (setProcess_self _ _ before)
        intro peer running
        have impossible := was.symm.trans (unmoved.trans running)
        cases impossible
    · exact .same unmoved
  · refine .same (Eq.trans ?_ unmoved)
    unfold answerSocket
    split
    · split
      · exact setProcess_other isSender _ before
      · exact setProcess_other isSender _ before
    · rfl

theorem Became.of_serveCall [Transport] [TokenArith Number]
    (steadyClock : Int) (call : Call) (n before : State Number) (uuid : Octets)
    (unmoved : before.processes[uuid]? = n.processes[uuid]?) :
    Became n (serveCall steadyClock call before) uuid := by
  unfold serveCall
  split
  · exact .of_answerSocket steadyClock call.sender _ n _ uuid unmoved
  · exact .of_answer _ _ n _ uuid unmoved
  · dsimp only
    split
    · exact .of_answer _ _ n _ uuid unmoved
    · split
      · exact .same unmoved
      · exact .of_answer _ _ n _ uuid unmoved

theorem endServing_lookup (delivery : Delivery) (n : State Number)
    (uuid : Octets) :
    (endServing delivery n).processes[uuid]? = n.processes[uuid]? ∨
      ∃ peer, n.processes[uuid]? = some (.running peer) ∧
        (endServing delivery n).processes[uuid]? =
          some (.running { peer with waiting := none }) := by
  unfold endServing
  split
  · cases answer_answered delivery.sender delivery.serial
      { n with serving := none } uuid with
    | same same => exact Or.inl same
    | freed peer isSender was waited now => exact Or.inr ⟨peer, was, now⟩
  · exact Or.inl rfl

theorem Became.of_endServing (delivery : Delivery)
    (n before : State Number) (uuid : Octets)
    (unmoved : before.processes[uuid]? = n.processes[uuid]?) :
    Became n (endServing delivery before) uuid := by
  rcases endServing_lookup delivery before uuid with same | ⟨peer, was, now⟩
  · exact .same (same.trans unmoved)
  · exact .freed peer peer.session rfl (unmoved.symm.trans was) now

theorem session_uuid [TokenArith Number] (s : Session Number)
    (event : SmppSession.Event) :
    (SmppSession.step s event).1.uuid = s.uuid :=
  congrArg Prod.fst (SmppSession.step_fixed s event)

theorem Became.of_execute [TokenArith Number] (target : Octets)
    (n : State Number) (uuid : Octets) :
    Became n (execute target n).1 uuid := by
  unfold execute
  split
  · rename_i peer delivery rest was found
    have identity := session_uuid peer.session
      (.deliverSm delivery.srcAddr delivery.dstAddr delivery.shortMessage)
    by_cases isTarget : target = uuid
    · subst isTarget
      have here := setProcess_self target
        (.running { peer with
          session := (SmppSession.deliverSm delivery.srcAddr
            delivery.dstAddr delivery.shortMessage peer.session).1 })
        { n with deliveries := rest }
      rcases endServing_lookup delivery _ target with
        same | ⟨freed, wasRunning, now⟩
      · exact .ran peer _ identity was (same.trans here)
      · have isPeer := Process.running.inj
          (Option.some.inj (wasRunning.symm.trans here))
        subst isPeer
        exact .freed peer _ identity was now
    · exact .of_endServing delivery n _ uuid
        (setProcess_other isTarget _ _)
  · exact .same rfl

theorem request_own [TokenArith Number] {s : Session Number}
    {event : SmppSession.Event} {request : Request}
    (found : (SmppSession.step s event).2.findSome? requestOf = some request)
    (named systemId state : Octets)
    (isUpdate : request = .updateSessionDetails named systemId state) :
    named = s.uuid := by
  obtain ⟨effect, member, isRequest⟩ :=
    List.exists_of_findSome?_eq_some found
  have isEffect : effect =
      .callUpdateSessionDetails named systemId state := by
    rw [isUpdate] at isRequest
    unfold requestOf at isRequest
    split at isRequest
    · cases isRequest
      rfl
    · cases isRequest
    · cases isRequest
  have notice : effect ∈ SmppSession.notices (SmppSession.step s event).2 :=
    List.mem_filter.mpr ⟨member, by rw [isEffect]; rfl⟩
  rw [isEffect] at notice
  cases SmppSession.step_change s event with
  | kept sameState sameId sameTime silent =>
      rw [silent] at notice
      cases notice
  | bound env hdr body pass code pdu isBind wasOpen newState accepted
      isNotice =>
      rw [isNotice, List.mem_singleton] at notice
      cases notice
      rfl
  | ended reason wasLive newState sameId sameTime isNotice =>
      rw [isNotice, List.mem_singleton] at notice
      cases notice

theorem request_ordinary {outputs : List SmppSession.Effect}
    {request : Request}
    (found : outputs.findSome? requestOf = some request) (asked : Octets) :
    request ≠ .getSocket asked := by
  obtain ⟨effect, _, isRequest⟩ := List.exists_of_findSome?_eq_some found
  rintro rfl
  unfold requestOf at isRequest
  split at isRequest <;> cases isRequest

theorem arrives_ordinary [Transport] {uuid : Octets} {serial : Nat}
    {request : Request} (ordinary : ∀ asked, request ≠ .getSocket asked) :
    ∀ call ∈ Call.arrives
        { sender := uuid, serial := serial, request := request },
      call.sender = uuid ∧ call.isSocket = false := by
  intro call arrived
  obtain ⟨got, isGot, rfl⟩ := Option.map_eq_some_iff.mp arrived
  refine ⟨rfl, ?_⟩
  cases Request.arrived_of_arrives isGot with
  | getSocket asked => exact absurd rfl (ordinary asked)
  | updateSessionDetails _ _ _ _ _ => rfl
  | routeMessage _ _ _ _ _ _ => rfl

theorem step_became [Transport] [TokenArith Number] (n : State Number)
    (action : Action) (uuid : Octets) : Became n (step n action).1 uuid := by
  cases action with
  | connect other fd clientIp launched =>
      simp only [step, connect, Network.handleConnection]
      split
      · rename_i new
        split
        · by_cases isNew : other = uuid
          · subst isNew
            have absent : n.processes[other]? = none := by
              simp only [Relay.isNew, Network.isUnused, Bool.and_eq_true,
                Option.isNone_iff_eq_none] at new
              exact new.1.1
            exact .launched clientIp absent (Table.lookup_insert_self _ _ _)
              rfl
          · exact .same (Table.lookup_insert_ne _ _ isNew)
        · exact .same rfl
      · exact .same rfl
  | handle other handler =>
      simp only [step, handle]
      split
      · rename_i peer was
        split
        · exact .same rfl
        · by_cases isOther : other = uuid
          · subst isOther
            split
            · exact .ran peer _ (session_uuid _ _) was
                (setProcess_self _ _ n)
            · rename_i request found
              exact .called peer _ _ (session_uuid _ _) was
                (setProcess_self _ _ _) rfl
                (arrives_ordinary (request_ordinary found))
          · split
            · exact .same (setProcess_other isOther _ n)
            · exact .same (setProcess_other isOther _ _)
      · exact .same rfl
  | serve steadyClock sender =>
      simp only [step, serve]
      split
      · exact .same rfl
      · split
        · exact .same rfl
        · exact .of_serveCall steadyClock _ n _ uuid rfl
  | execute target => exact .of_execute target n uuid
  | giveUp other =>
      simp only [step, giveUp]
      by_cases isOther : other = uuid
      · subst isOther
        split
        · rename_i clientIp was
          refine .ended ?_ (setProcess_self _ _ n)
          intro peer running
          have impossible := was.symm.trans running
          cases impossible
        · rename_i peer was
          exact .freed peer peer.session rfl was (setProcess_self _ _ n)
        · exact .same rfl
      · refine .same ?_
        split
        · exact setProcess_other isOther _ n
        · exact setProcess_other isOther _ n
        · rfl
  | giveUpDelivery =>
      simp only [step, giveUpDelivery]
      split
      · exact .of_endServing _ n _ uuid rfl
      · exact .same rfl
  | terminate other =>
      simp only [step, terminate]
      split
      · exact .same rfl
      · by_cases isOther : other = uuid
        · subst isOther
          have ended := setProcess_self other .exited
            { n with deliveries := n.deliveries.filter fun delivery =>
                decide (delivery.target ≠ other) }
          have gone : ∀ delivery ∈ n.deliveries.filter fun delivery =>
              decide (delivery.target ≠ other), delivery.target ≠ other := by
            intro delivery member
            exact of_decide_eq_true (List.mem_filter.mp member).2
          split
          · split
            · rename_i delivery serving isTarget
              rcases endServing_lookup delivery _ other with
                same | ⟨peer, was, now⟩
              · refine .terminated (same.trans ended) ?_
                rw [endServing_deliveries]
                exact gone
              · have impossible := was.symm.trans ended
                cases impossible
            · exact .terminated ended gone
          · exact .terminated ended gone
        · have unmoved := setProcess_other isOther .exited
            { n with deliveries := n.deliveries.filter fun delivery =>
                decide (delivery.target ≠ other) }
          split
          · split
            · exact .of_endServing _ n _ uuid unmoved
            · exact .same unmoved
          · exact .same unmoved
  | setMaxConnectionsPerIp ip max => exact .same rfl

end Steps

end OpenSmsc.Relay
