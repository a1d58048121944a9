/-
The server and its client handlers as processes that exchange D-Bus messages.

An admitted or refused connection starts a handler process, the process asks
for its socket, and the reply starts the session or ends the process.  A
session tells the server about its bind and its end.  Messages under way are
delivered in any order.
-/

import OpenSmsc.Client.Session
import OpenSmsc.Server.Service

namespace OpenSmsc.Network

open Foundation

/-- The messages about one session.  A reply without a descriptor is the error
of `GetSocket`. -/
inductive Message where
  | getSocket (uuid : Octets)
  | socketReply (uuid : Octets) (fd : Option Int)
  | updateSessionDetails (uuid systemId state : Octets)
  | sessionExited (uuid reason : Octets)
  deriving DecidableEq, Repr

def Message.uuid : Message → Octets
  | .getSocket uuid => uuid
  | .socketReply uuid _ => uuid
  | .updateSessionDetails uuid _ _ => uuid
  | .sessionExited uuid _ => uuid

/-- A handler process before its socket arrives, with its session, and after
its end. -/
inductive Handler (Number : Type) where
  | starting (clientIp : Octets)
  | running (session : SmppSession.Session Number)
  | exited

structure State (Number : Type) where
  server : SmppServerService.Service
  handlers : Std.TreeMap Octets (Handler Number)
  inFlight : List Message

def create {Number : Type} (maxPerIp : UInt32) : State Number :=
  { server := SmppServerService.create (ConnectionRegistry.create maxPerIp)
    handlers := ∅
    inFlight := [] }

section Connections

variable {Process World : Type}

/-- Generated ids are taken to be new: no process, row or pending socket has
this one. -/
def isUnused (uuid : Octets) (processes : Std.TreeMap Octets Process)
    (server : SmppServerService.Service) : Bool :=
  processes[uuid]?.isNone && server.sessions[uuid]?.isNone &&
    server.registry.sessions[uuid]?.isNone

/-- `TcpServer::handle_connection` past the whitelist, in any world around the
server.  The handler is launched whether or not the registration was admitted;
`registered` and `launch` are the world with the new server state, without and
with the new process. -/
def handleConnection (uuid : Octets) (fd : Int) (clientIp : Octets)
    (launched unused : Bool) (server : SmppServerService.Service)
    (registered launch : SmppServerService.Service → World)
    (world : World) : World :=
  if unused then
    let server := (SmppServerService.registerSession uuid fd clientIp server).1
    if launched then launch server else registered server
  else world

end Connections

section Steps

variable {Number : Type}

def isNew (uuid : Octets) (n : State Number) : Bool :=
  isUnused uuid n.handlers n.server

/-- `main` of the launched handler calls `GetSocket` first. -/
def connect (uuid : Octets) (fd : Int) (clientIp : Octets)
    (launched : Bool) (n : State Number) : State Number :=
  handleConnection uuid fd clientIp launched (isNew uuid n) n.server
    (fun server => { n with server := server })
    (fun server =>
      { server := server
        handlers := n.handlers.insert uuid (.starting clientIp)
        inFlight := n.inFlight ++ [.getSocket uuid] })
    n

def socketOf : SmppServerService.Effect → Option Int
  | .returnSocket fd => some fd
  | _ => none

def receive [SmppSession.TokenArith Number] (steadyClock : Int)
    (message : Message) (n : State Number) : State Number :=
  match message with
  | .getSocket uuid =>
      let (server, answers) := SmppServerService.getSocket uuid n.server
      { n with
        server := server
        inFlight := n.inFlight ++
          [.socketReply uuid (answers.findSome? socketOf)] }
  | .socketReply uuid fd =>
      match n.handlers[uuid]? with
      | some (.starting clientIp) =>
          let handler : Handler Number :=
            match fd with
            | some _ =>
                .running (SmppSession.create
                  { uuid := uuid
                    clientIp := clientIp
                    constructedAt := steadyClock })
            | none => .exited
          { n with handlers := n.handlers.insert uuid handler }
      | _ => n
  | .updateSessionDetails uuid systemId state =>
      { n with
        server := SmppServerService.updateSessionDetails uuid systemId state
          n.server }
  | .sessionExited uuid reason =>
      { n with
        server := (SmppServerService.step n.server
          (.sessionExited uuid reason)).1 }

/-- A call that throws ends a starting process; a session only logs it. -/
def lose (message : Message) (n : State Number) : State Number :=
  match message with
  | .getSocket uuid | .socketReply uuid _ =>
      { n with handlers := n.handlers.insert uuid .exited }
  | .updateSessionDetails _ _ _ | .sessionExited _ _ => n

def messageOf : SmppSession.Effect → Option Message
  | .callUpdateSessionDetails uuid systemId state =>
      some (.updateSessionDetails uuid systemId state)
  | .emitSessionExited uuid reason => some (.sessionExited uuid reason)
  | _ => none

/-- `session` is any event of a running session, the D-Bus calls `Disconnect`
and `DeliverSm` included; `terminate` is a signal to the process. -/
inductive Action where
  | connect (uuid : Octets) (fd : Int) (clientIp : Octets) (launched : Bool)
  | deliver (index : Nat) (steadyClock : Int)
  | fail (index : Nat)
  | session (uuid : Octets) (event : SmppSession.Event)
  | terminate (uuid : Octets)
  | setMaxConnectionsPerIp (ip : Octets) (max : UInt32)

def step [SmppSession.TokenArith Number] (n : State Number) :
    Action → State Number × List SmppSession.Effect
  | .connect uuid fd clientIp launched =>
      (connect uuid fd clientIp launched n, [])
  | .deliver index steadyClock =>
      match n.inFlight[index]? with
      | none => (n, [])
      | some message =>
          (receive steadyClock message
            { n with inFlight := n.inFlight.eraseIdx index }, [])
  | .fail index =>
      match n.inFlight[index]? with
      | none => (n, [])
      | some message =>
          (lose message { n with inFlight := n.inFlight.eraseIdx index }, [])
  | .session uuid event =>
      match n.handlers[uuid]? with
      | some (.running s) =>
          let (after, outputs) := SmppSession.step s event
          ({ n with
              handlers := n.handlers.insert uuid (.running after)
              inFlight := n.inFlight ++ outputs.filterMap messageOf },
            outputs)
      | _ => (n, [])
  | .terminate uuid =>
      match n.handlers[uuid]? with
      | some _ =>
          ({ n with handlers := n.handlers.insert uuid .exited }, [])
      | none => (n, [])
  | .setMaxConnectionsPerIp ip max =>
      ({ n with
          server := SmppServerService.setMaxConnectionsPerIp ip max
            n.server }, [])

def machine [SmppSession.TokenArith Number] :
    Machine (State Number) Action SmppSession.Effect :=
  { step := step }

end Steps

/-! ### What the network knows about one session -/

/-- All that concerns one uuid: its row, its pending connection, its process
and its messages. -/
structure View (Number : Type) where
  row : Option SmppServerService.SessionInfo
  pending : Option ConnectionRegistry.SessionEntry
  handler : Option (Handler Number)
  messages : List Message

section Views

variable {Number : Type}

def isAbout (uuid : Octets) (message : Message) : Bool :=
  decide (message.uuid = uuid)

def view (uuid : Octets) (n : State Number) : View Number :=
  { row := n.server.sessions[uuid]?
    pending := n.server.registry.sessions[uuid]?
    handler := n.handlers[uuid]?
    messages := n.inFlight.filter (isAbout uuid) }

def AffectsOnly (uuid : Octets) (n after : State Number) : Prop :=
  ∀ other, uuid ≠ other → view other after = view other n

theorem AffectsOnly.trans {uuid : Octets} {first second third : State Number}
    (left : AffectsOnly uuid first second)
    (right : AffectsOnly uuid second third) :
    AffectsOnly uuid first third := by
  intro other different
  exact (right other different).trans (left other different)

theorem isAbout_ne {message : Message} {other : Octets}
    (different : message.uuid ≠ other) : isAbout other message = false :=
  decide_eq_false different

theorem filter_append_other (messages new : List Message) (other : Octets)
    (foreign : ∀ message ∈ new, message.uuid ≠ other) :
    (messages ++ new).filter (isAbout other) =
      messages.filter (isAbout other) := by
  have unseen : new.filter (isAbout other) = [] := by
    rw [List.filter_eq_nil_iff]
    intro message member seen
    rw [isAbout_ne (foreign message member)] at seen
    contradiction
  rw [List.filter_append, unseen, List.append_nil]

theorem filter_append_self (messages new : List Message) (uuid : Octets)
    (own : ∀ message ∈ new, message.uuid = uuid) :
    (messages ++ new).filter (isAbout uuid) =
      messages.filter (isAbout uuid) ++ new := by
  have seen : new.filter (isAbout uuid) = new := by
    rw [List.filter_eq_self]
    intro message member
    exact decide_eq_true (own message member)
  rw [List.filter_append, seen]

theorem view_eraseIdx (n : State Number) (index : Nat) (message : Message)
    (uuid : Octets) (found : n.inFlight[index]? = some message)
    (about : message.uuid = uuid) :
    AffectsOnly uuid n { n with inFlight := n.inFlight.eraseIdx index } ∧
      message ∈ (view uuid n).messages ∧
      ∀ only, (view uuid n).messages = [only] →
        message = only ∧
          view uuid { n with inFlight := n.inFlight.eraseIdx index } =
            { view uuid n with messages := [] } := by
  refine ⟨?_, ?_, ?_⟩
  · intro other different
    rw [← about] at different
    simp only [view, InFlight.filter_eraseIdx_of_not (isAbout other)
      n.inFlight index message found (isAbout_ne different)]
  · exact List.mem_filter.mpr
      ⟨List.mem_of_getElem? found, decide_eq_true about⟩
  · intro only single
    obtain ⟨same, nothing⟩ := InFlight.filter_eraseIdx_of_single
      (isAbout uuid) n.inFlight index message found (decide_eq_true about)
      only single
    refine ⟨same, ?_⟩
    simp only [view, nothing]

/-! ### Steps as changes of views -/

theorem connect_launched (uuid : Octets) (fd : Int) (clientIp : Octets)
    (n : State Number) (new : isNew uuid n = true) :
    connect uuid fd clientIp true n =
      { server :=
          (SmppServerService.registerSession uuid fd clientIp n.server).1
        handlers := n.handlers.insert uuid (.starting clientIp)
        inFlight := n.inFlight ++ [.getSocket uuid] } :=
  if_pos new

theorem connect_not_launched (uuid : Octets) (fd : Int) (clientIp : Octets)
    (n : State Number) (new : isNew uuid n = true) :
    connect uuid fd clientIp false n =
      { n with
        server := (SmppServerService.registerSession uuid fd clientIp
          n.server).1 } :=
  if_pos new

theorem connect_affectsOnly (uuid : Octets) (fd : Int) (clientIp : Octets)
    (launched : Bool) (n : State Number) (new : isNew uuid n = true) :
    AffectsOnly uuid n (connect uuid fd clientIp launched n) := by
  intro other different
  obtain ⟨sameRow, samePending⟩ := SmppServerService.registerSession_other
    uuid fd clientIp n.server different
  cases launched with
  | false =>
      rw [connect_not_launched uuid fd clientIp n new]
      simp only [view, sameRow, samePending]
  | true =>
      rw [connect_launched uuid fd clientIp n new]
      simp only [view, sameRow, samePending]
      rw [filter_append_other _ _ other (by simpa [Message.uuid]),
        Table.lookup_insert_ne _ _ different]

theorem view_connect_launched (uuid : Octets) (fd : Int) (clientIp : Octets)
    (n : State Number) (new : isNew uuid n = true) :
    view uuid (connect uuid fd clientIp true n) =
      { row := (SmppServerService.registerSession uuid fd clientIp
          n.server).1.sessions[uuid]?
        pending := (SmppServerService.registerSession uuid fd clientIp
          n.server).1.registry.sessions[uuid]?
        handler := some (.starting clientIp)
        messages := (view uuid n).messages ++ [.getSocket uuid] } := by
  rw [connect_launched uuid fd clientIp n new]
  simp only [view]
  rw [filter_append_self _ _ uuid (by simp [Message.uuid]),
    Table.lookup_insert_self]

section Delivery

variable [SmppSession.TokenArith Number]

theorem view_receive_getSocket (steadyClock : Int) (uuid : Octets)
    (n : State Number) :
    AffectsOnly uuid n (receive steadyClock (.getSocket uuid) n) ∧
      view uuid (receive steadyClock (.getSocket uuid) n) =
        { view uuid n with
          pending := none
          messages := (view uuid n).messages ++
            [.socketReply uuid ((view uuid n).pending.map (·.fd))] } := by
  have own : ∀ fd, ∀ message ∈ [Message.socketReply uuid fd],
      message.uuid = uuid := by
    intro fd message member
    rw [List.mem_singleton.mp member]
    rfl
  cases SmppServerService.getSocket_claimed uuid n.server with
  | unknown absent isResult =>
      simp only [receive, isResult]
      constructor
      · intro other different
        simp only [view]
        rw [filter_append_other _ _ other fun message member =>
          (own _ message member).symm ▸ different]
      · simp only [view, absent]
        rw [filter_append_self _ _ uuid (own _)]
        rfl
  | handed entry found isResult =>
      simp only [receive, isResult]
      constructor
      · intro other different
        simp only [view, ConnectionRegistry.release]
        rw [filter_append_other _ _ other fun message member =>
          (own _ message member).symm ▸ different,
          Table.lookup_erase_ne _ different]
      · simp only [view, found, ConnectionRegistry.release]
        rw [filter_append_self _ _ uuid (own _), Table.lookup_erase_self]
        rfl

theorem view_receive_socketReply (steadyClock : Int) (uuid clientIp : Octets)
    (fd : Option Int) (n : State Number)
    (waits : (view uuid n).handler = some (.starting clientIp)) :
    AffectsOnly uuid n (receive steadyClock (.socketReply uuid fd) n) ∧
      view uuid (receive steadyClock (.socketReply uuid fd) n) =
        { view uuid n with
          handler := some
            (match fd with
            | some _ =>
                .running (SmppSession.create
                  { uuid := uuid
                    clientIp := clientIp
                    constructedAt := steadyClock })
            | none => .exited) } := by
  change n.handlers[uuid]? = some (.starting clientIp) at waits
  simp only [receive, waits]
  constructor
  · intro other different
    simp only [view]
    rw [Table.lookup_insert_ne _ _ different]
  · simp only [view]
    rw [Table.lookup_insert_self]

theorem view_receive_updateSessionDetails (steadyClock : Int)
    (uuid systemId state : Octets) (n : State Number) :
    AffectsOnly uuid n
        (receive steadyClock (.updateSessionDetails uuid systemId state) n) ∧
      view uuid
          (receive steadyClock (.updateSessionDetails uuid systemId state)
            n) =
        { view uuid n with
          row := (view uuid n).row.map fun info =>
            { info with
              systemId := systemId
              state := state } } := by
  have sameRegistry :
      (SmppServerService.updateSessionDetails uuid systemId state
        n.server).registry = n.server.registry :=
    SmppServerService.updateSessionDetails_registry uuid systemId state
      n.server
  constructor
  · intro other different
    simp only [view, receive, sameRegistry]
    rw [SmppServerService.updateSessionDetails_lookup, if_neg different]
  · simp only [view, receive, sameRegistry]
    rw [SmppServerService.updateSessionDetails_lookup, if_pos rfl]

theorem receive_affectsOnly (steadyClock : Int) (message : Message)
    (n : State Number) :
    AffectsOnly message.uuid n (receive steadyClock message n) := by
  cases message with
  | getSocket uuid => exact (view_receive_getSocket steadyClock uuid n).1
  | socketReply uuid fd =>
      cases process : n.handlers[uuid]? with
      | none =>
          simp only [receive, process]
          exact fun _ _ => rfl
      | some handler =>
          cases handler with
          | starting clientIp =>
              exact (view_receive_socketReply steadyClock uuid clientIp fd n
                process).1
          | running s =>
              simp only [receive, process]
              exact fun _ _ => rfl
          | exited =>
              simp only [receive, process]
              exact fun _ _ => rfl
  | updateSessionDetails uuid systemId state =>
      exact (view_receive_updateSessionDetails steadyClock uuid systemId
        state n).1
  | sessionExited uuid reason => exact fun _ _ => rfl

end Delivery

theorem view_exit (uuid : Octets) (n : State Number) :
    AffectsOnly uuid n
        { n with handlers := n.handlers.insert uuid .exited } ∧
      view uuid { n with handlers := n.handlers.insert uuid .exited } =
        { view uuid n with handler := some .exited } := by
  constructor
  · intro other different
    simp only [view]
    rw [Table.lookup_insert_ne _ _ different]
  · simp only [view]
    rw [Table.lookup_insert_self]

theorem view_session (uuid : Octets) (after : SmppSession.Session Number)
    (new : List Message) (n : State Number)
    (own : ∀ message ∈ new, message.uuid = uuid) :
    AffectsOnly uuid n
        { n with
          handlers := n.handlers.insert uuid (.running after)
          inFlight := n.inFlight ++ new } ∧
      view uuid
          { n with
            handlers := n.handlers.insert uuid (.running after)
            inFlight := n.inFlight ++ new } =
        { view uuid n with
          handler := some (.running after)
          messages := (view uuid n).messages ++ new } := by
  constructor
  · intro other different
    simp only [view]
    rw [filter_append_other _ _ other fun message member =>
      (own message member).symm ▸ different,
      Table.lookup_insert_ne _ _ different]
  · simp only [view]
    rw [filter_append_self _ _ uuid own, Table.lookup_insert_self]

end Views

end OpenSmsc.Network
