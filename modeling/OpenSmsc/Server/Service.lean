/-
The server's D-Bus object: the registry of pending connections, the table of
sessions, and the methods of `IServer`.

Calls the server makes to a client handler are effects; what the handler
answers is given with the event.  The server matches no signal, so a
`SessionExited` that reaches it runs no code, and nothing in the program calls
`unregister_session`.
-/

import OpenSmsc.Foundation.Machine
import OpenSmsc.Server.ConnectionRegistry
import OpenSmsc.Server.SessionId

namespace OpenSmsc.SmppServerService

open Foundation

structure SessionInfo where
  clientIp : Octets
  systemId : Octets
  state : Octets
  deriving DecidableEq, Repr

structure Service where
  registry : ConnectionRegistry.Registry
  sessions : Std.TreeMap Octets SessionInfo

def create (registry : ConnectionRegistry.Registry) : Service :=
  { registry := registry
    sessions := ∅ }

abbrev Row := Octets × Octets × Octets × Octets

/-- `callDeliverSm` carries the answer of the handler, `none` for an
exception; the errors of `callDisconnect` are only logged. -/
inductive Effect where
  | emitSessionStarted (uuid clientIp : Octets)
  | callDeliverSm (service srcAddr dstAddr shortMessage : Octets)
      (answer : Option UInt32)
  | callDisconnect (service reason : Octets)
  | returnSocket (fd : Int)
  | returnCount (count : UInt32)
  | returnSessions (rows : List Row)
  | returnRoutedTo (uuid : Octets)
  | throwError (name message : Octets)
  deriving DecidableEq, Repr

abbrev Result := Service × List Effect

def registerSession (uuid : Octets) (fd : Int) (clientIp : Octets)
    (s : Service) : Result :=
  let (admitted, registry) :=
    ConnectionRegistry.add uuid fd clientIp s.registry
  if admitted then
    ({ registry := registry
       sessions := s.sessions.insert uuid
        { clientIp := clientIp
          systemId := text ""
          state := text "OPEN" } },
      [.emitSessionStarted uuid clientIp])
  else ({ s with registry := registry }, [])

def unregisterSession (uuid : Octets) (s : Service) : Service :=
  { s with sessions := s.sessions.erase uuid }

def getSocket (uuid : Octets) (s : Service) : Result :=
  let (fdOpt, registry) := ConnectionRegistry.claimFd uuid s.registry
  match fdOpt with
  | none =>
      ({ s with registry := registry },
        [.throwError (text "com.telecom.smpp.Error.NotFound")
          (text "Unknown uuid: " ++ uuid)])
  | some fd => ({ s with registry := registry }, [.returnSocket fd])

def updateSessionDetails (uuid systemId state : Octets) (s : Service) :
    Service :=
  match s.sessions[uuid]? with
  | none => s
  | some info =>
      { s with
        sessions := s.sessions.insert uuid
          { info with
            systemId := systemId
            state := state } }

def getConnectionCount (ip : Octets) (s : Service) : UInt32 :=
  ConnectionRegistry.count ip s.registry

def getAllSessions (s : Service) : List Row :=
  s.sessions.toList.map fun (uuid, info) =>
    (uuid, info.clientIp, info.systemId, info.state)

/-- The limit is one for all IPs; the argument `ip` is not used. -/
def setMaxConnectionsPerIp (_ip : Octets) (max : UInt32) (s : Service) :
    Service :=
  { s with registry := ConnectionRegistry.setMaxPerIp max s.registry }

def disconnectAll (ip reason : Octets) (s : Service) : List Effect :=
  let targets := s.sessions.toList.filter fun (_, info) =>
    decide (info.clientIp = ip)
  targets.map fun (uuid, _) => .callDisconnect (clientBusName uuid) reason

def isReceiver (info : SessionInfo) : Bool :=
  info.state = text "BOUND_RX" || info.state = text "BOUND_TRX"

/-- `deliver` is the answer of the handler of a uuid to `DeliverSm`.  The
message id is only logged. -/
def routeMessage (deliver : Octets → Option UInt32)
    (srcAddr dstAddr shortMessage _messageId : Octets) (s : Service) :
    Octets × List Effect :=
  let targetUuid :=
    match s.sessions.toList.find? fun (_, info) => isReceiver info with
    | some (uuid, _) => uuid
    | none => text ""
  if targetUuid.isEmpty then (text "", [])
  else
    let answer := deliver targetUuid
    let call := Effect.callDeliverSm (clientBusName targetUuid) srcAddr
      dstAddr shortMessage answer
    match answer with
    | none => (text "", [call])
    | some _ => (targetUuid, [call])

/-- The calls the server serves.  `sessionExited` is the signal of a client
handler. -/
inductive Event where
  | registerSession (uuid : Octets) (fd : Int) (clientIp : Octets)
  | getSocket (uuid : Octets)
  | updateSessionDetails (uuid systemId state : Octets)
  | getConnectionCount (ip : Octets)
  | getAllSessions
  | setMaxConnectionsPerIp (ip : Octets) (max : UInt32)
  | disconnectAll (ip reason : Octets)
  | routeMessage (deliver : Octets → Option UInt32)
      (srcAddr dstAddr shortMessage messageId : Octets)
  | sessionExited (uuid reason : Octets)

def step (s : Service) : Event → Result
  | .registerSession uuid fd clientIp => registerSession uuid fd clientIp s
  | .getSocket uuid => getSocket uuid s
  | .updateSessionDetails uuid systemId state =>
      (updateSessionDetails uuid systemId state s, [])
  | .getConnectionCount ip => (s, [.returnCount (getConnectionCount ip s)])
  | .getAllSessions => (s, [.returnSessions (getAllSessions s)])
  | .setMaxConnectionsPerIp ip max => (setMaxConnectionsPerIp ip max s, [])
  | .disconnectAll ip reason => (s, disconnectAll ip reason s)
  | .routeMessage deliver srcAddr dstAddr shortMessage messageId =>
      let (routedTo, calls) :=
        routeMessage deliver srcAddr dstAddr shortMessage messageId s
      (s, calls ++ [.returnRoutedTo routedTo])
  | .sessionExited _ _ => (s, [])

def machine : Machine Service Event Effect :=
  { step := step }

/-! ### Registration and claim -/

inductive Registered (uuid : Octets) (fd : Int) (clientIp : Octets)
    (s : Service) (result : Result) : Prop
  | refused (full : s.registry.maxPerIp ≤
        ConnectionRegistry.count clientIp s.registry)
      (isResult : result =
        ({ s with
            registry :=
              (ConnectionRegistry.add uuid fd clientIp s.registry).2 },
          []))
  | admitted (below : ConnectionRegistry.count clientIp s.registry <
        s.registry.maxPerIp)
      (isResult : result =
        ({ registry :=
            (ConnectionRegistry.add uuid fd clientIp s.registry).2
           sessions := s.sessions.insert uuid
            { clientIp := clientIp
              systemId := []
              state := text "OPEN" } },
          [.emitSessionStarted uuid clientIp]))

theorem registerSession_registered (uuid : Octets) (fd : Int)
    (clientIp : Octets) (s : Service) :
    Registered uuid fd clientIp s (registerSession uuid fd clientIp s) := by
  unfold registerSession
  cases ConnectionRegistry.add_added uuid fd clientIp s.registry with
  | refused full isResult =>
      refine .refused full ?_
      rw [isResult]
      rfl
  | admitted below isResult =>
      refine .admitted below ?_
      rw [isResult]
      rfl

theorem registerSession_registry (uuid : Octets) (fd : Int)
    (clientIp : Octets) (s : Service) :
    (registerSession uuid fd clientIp s).1.registry =
      (ConnectionRegistry.add uuid fd clientIp s.registry).2 := by
  cases registerSession_registered uuid fd clientIp s with
  | refused _ isResult => rw [isResult]
  | admitted _ isResult => rw [isResult]

theorem registerSession_refused (uuid : Octets) (fd : Int)
    (clientIp : Octets) (s : Service)
    (full : s.registry.maxPerIp ≤
      ConnectionRegistry.count clientIp s.registry) :
    (registerSession uuid fd clientIp s).1.sessions = s.sessions ∧
      (registerSession uuid fd clientIp s).1.registry.sessions =
        s.registry.sessions := by
  cases registerSession_registered uuid fd clientIp s with
  | refused _ isResult =>
      rw [isResult]
      exact ⟨rfl, (ConnectionRegistry.add_refused_unchanged uuid fd clientIp
        s.registry full).1⟩
  | admitted below _ => exact absurd full (UInt32.not_le.mpr below)

theorem registerSession_admitted (uuid : Octets) (fd : Int)
    (clientIp : Octets) (s : Service)
    (below : ConnectionRegistry.count clientIp s.registry <
      s.registry.maxPerIp) :
    (registerSession uuid fd clientIp s).1.sessions =
        s.sessions.insert uuid
          { clientIp := clientIp
            systemId := []
            state := text "OPEN" } ∧
      (registerSession uuid fd clientIp s).1.registry.sessions =
        s.registry.sessions.insert uuid
          { fd := fd
            clientIp := clientIp } := by
  cases registerSession_registered uuid fd clientIp s with
  | refused full _ => exact absurd full (UInt32.not_le.mpr below)
  | admitted _ isResult =>
      rw [isResult]
      exact ⟨rfl, ConnectionRegistry.add_admitted_sessions uuid fd clientIp
        s.registry below⟩

theorem registerSession_other (uuid : Octets) (fd : Int)
    (clientIp : Octets) (s : Service) {other : Octets}
    (different : uuid ≠ other) :
    (registerSession uuid fd clientIp s).1.sessions[other]? =
        s.sessions[other]? ∧
      (registerSession uuid fd clientIp s).1.registry.sessions[other]? =
        s.registry.sessions[other]? := by
  by_cases full : s.registry.maxPerIp ≤
      ConnectionRegistry.count clientIp s.registry
  · obtain ⟨sameRows, samePending⟩ :=
      registerSession_refused uuid fd clientIp s full
    rw [sameRows, samePending]
    exact ⟨rfl, rfl⟩
  · obtain ⟨rows, pending⟩ := registerSession_admitted uuid fd clientIp s
      (UInt32.not_le.mp full)
    rw [rows, pending]
    exact ⟨Table.lookup_insert_ne _ _ different,
      Table.lookup_insert_ne _ _ different⟩

inductive Claimed (uuid : Octets) (s : Service) (result : Result) : Prop
  | unknown (absent : s.registry.sessions[uuid]? = none)
      (isResult : result =
        (s, [.throwError (text "com.telecom.smpp.Error.NotFound")
          (text "Unknown uuid: " ++ uuid)]))
  | handed (entry : ConnectionRegistry.SessionEntry)
      (found : s.registry.sessions[uuid]? = some entry)
      (isResult : result =
        ({ s with
          registry := ConnectionRegistry.release uuid entry s.registry },
          [.returnSocket entry.fd]))

theorem getSocket_claimed (uuid : Octets) (s : Service) :
    Claimed uuid s (getSocket uuid s) := by
  unfold getSocket ConnectionRegistry.claimFd
  cases found : s.registry.sessions[uuid]? with
  | none => exact .unknown found rfl
  | some entry => exact .handed entry found rfl

theorem updateSessionDetails_registry (uuid systemId state : Octets)
    (s : Service) :
    (updateSessionDetails uuid systemId state s).registry = s.registry := by
  unfold updateSessionDetails
  split <;> rfl

theorem updateSessionDetails_lookup (uuid systemId state other : Octets)
    (s : Service) :
    (updateSessionDetails uuid systemId state s).sessions[other]? =
      if uuid = other then
        s.sessions[uuid]?.map fun info =>
          { info with
            systemId := systemId
            state := state }
      else s.sessions[other]? := by
  unfold updateSessionDetails
  cases found : s.sessions[uuid]? with
  | none =>
      by_cases same : uuid = other
      · rw [if_pos same, ← same, found]
        rfl
      · rw [if_neg same]
  | some info =>
      by_cases same : uuid = other
      · subst same
        rw [if_pos rfl]
        exact Table.lookup_insert_self _ _ _
      · rw [if_neg same]
        exact Table.lookup_insert_ne _ _ same

/-! ### Services that answer alike -/

structure Alike (left right : Service) : Prop where
  registry : ConnectionRegistry.Alike left.registry right.registry
  sessions : left.sessions = right.sessions

theorem Alike.registerSession {left right : Service}
    (alike : Alike left right) (uuid : Octets) (fd : Int)
    (clientIp : Octets) :
    (registerSession uuid fd clientIp left).2 =
        (registerSession uuid fd clientIp right).2 ∧
      Alike (registerSession uuid fd clientIp left).1
        (registerSession uuid fd clientIp right).1 := by
  obtain ⟨sameAnswer, stillAlike⟩ := alike.registry.add uuid fd clientIp
  unfold SmppServerService.registerSession
  dsimp only
  rw [sameAnswer, alike.sessions]
  split <;> exact ⟨rfl, stillAlike, rfl⟩

theorem Alike.getSocket {left right : Service} (alike : Alike left right)
    (uuid : Octets) :
    (getSocket uuid left).2 = (getSocket uuid right).2 ∧
      Alike (getSocket uuid left).1 (getSocket uuid right).1 := by
  obtain ⟨sameAnswer, stillAlike⟩ := alike.registry.claimFd uuid
  unfold SmppServerService.getSocket
  dsimp only
  rw [sameAnswer]
  cases (ConnectionRegistry.claimFd uuid right.registry).1 with
  | none => exact ⟨rfl, stillAlike, alike.sessions⟩
  | some fd => exact ⟨rfl, stillAlike, alike.sessions⟩

theorem Alike.updateSessionDetails {left right : Service}
    (alike : Alike left right) (uuid systemId state : Octets) :
    Alike (updateSessionDetails uuid systemId state left)
      (updateSessionDetails uuid systemId state right) := by
  refine ⟨?_, ?_⟩
  · rw [updateSessionDetails_registry, updateSessionDetails_registry]
    exact alike.registry
  · unfold SmppServerService.updateSessionDetails
    rw [alike.sessions]
    cases right.sessions[uuid]? with
    | none => exact alike.sessions
    | some info => rfl

theorem Alike.indistinguishable {left right : Service}
    (alike : Alike left right) : machine.Indistinguishable left right := by
  refine machine.indistinguishable_rule Alike ?_ left right alike
  intro left right event alike
  have sameTable := alike.sessions
  cases event with
  | registerSession uuid fd clientIp =>
      exact alike.registerSession uuid fd clientIp
  | getSocket uuid => exact alike.getSocket uuid
  | updateSessionDetails uuid systemId state =>
      exact ⟨rfl, alike.updateSessionDetails uuid systemId state⟩
  | getConnectionCount ip =>
      exact ⟨congrArg (fun count => [Effect.returnCount count])
        (alike.registry.count ip), alike⟩
  | getAllSessions =>
      refine ⟨?_, alike⟩
      change [Effect.returnSessions (getAllSessions left)] = _
      unfold getAllSessions
      rw [sameTable]
      rfl
  | setMaxConnectionsPerIp ip max =>
      exact ⟨rfl, ⟨rfl, alike.registry.sessions, alike.registry.count⟩,
        sameTable⟩
  | disconnectAll ip reason =>
      refine ⟨?_, alike⟩
      change disconnectAll ip reason left = _
      unfold disconnectAll
      rw [sameTable]
      rfl
  | routeMessage deliver srcAddr dstAddr shortMessage messageId =>
      refine ⟨?_, alike⟩
      have sameRoute :
          routeMessage deliver srcAddr dstAddr shortMessage messageId left =
            routeMessage deliver srcAddr dstAddr shortMessage messageId
              right := by
        unfold routeMessage
        rw [sameTable]
      simp only [machine, step, sameRoute]
  | sessionExited uuid reason => exact ⟨rfl, alike⟩

theorem registerSession_refused_alike (uuid : Octets) (fd : Int)
    (clientIp : Octets) (s : Service)
    (full : s.registry.maxPerIp ≤
      ConnectionRegistry.count clientIp s.registry) :
    Alike (registerSession uuid fd clientIp s).1 s := by
  refine ⟨?_, (registerSession_refused uuid fd clientIp s full).1⟩
  rw [registerSession_registry]
  exact ConnectionRegistry.add_refused_alike uuid fd clientIp s.registry full

theorem mem_getAllSessions (uuid clientIp systemId state : Octets)
    (s : Service) :
    (uuid, clientIp, systemId, state) ∈ getAllSessions s ↔
      s.sessions[uuid]? = some
        { clientIp := clientIp
          systemId := systemId
          state := state } := by
  rw [← Std.TreeMap.mem_toList_iff_getElem?_eq_some]
  unfold getAllSessions
  rw [List.mem_map]
  constructor
  · rintro ⟨⟨key, info⟩, member, equal⟩
    cases equal
    exact member
  · intro member
    exact ⟨_, member, rfl⟩

/-! ### Routing -/

/-- The least uuid, in the order of the table, that is recorded as a
receiver. -/
structure FirstReceiver (s : Service) (uuid : Octets) : Prop where
  recorded : ∃ info, s.sessions[uuid]? = some info ∧ isReceiver info = true
  least : ∀ (other : Octets) info, s.sessions[other]? = some info →
    isReceiver info = true → other = uuid ∨ compare uuid other = .lt

theorem find?_receiver_some (s : Service) (uuid : Octets)
    (info : SessionInfo)
    (found : (s.sessions.toList.find? fun (_, info) => isReceiver info) =
      some (uuid, info)) : FirstReceiver s uuid := by
  obtain ⟨receives, before, after, rows, others⟩ :=
    List.find?_eq_some_iff_append.mp found
  have ordered := Std.TreeMap.ordered_keys_toList (t := s.sessions)
  rw [rows] at ordered
  have later := List.pairwise_cons.mp (List.pairwise_append.mp ordered).2.1
  constructor
  · refine ⟨info, ?_, receives⟩
    exact Std.TreeMap.mem_toList_iff_getElem?_eq_some.mp
      (List.mem_of_find?_eq_some found)
  · intro other otherInfo present otherReceives
    have member := Std.TreeMap.mem_toList_iff_getElem?_eq_some.mpr present
    rw [rows] at member
    rcases List.mem_append.mp member with earlier | rest
    · have silent : (!isReceiver otherInfo) = true := others _ earlier
      rw [otherReceives] at silent
      contradiction
    · rcases List.mem_cons.mp rest with same | behind
      · exact Or.inl (congrArg Prod.fst same)
      · exact Or.inr (later.1 _ behind)

theorem find?_receiver_none (s : Service)
    (missing : (s.sessions.toList.find? fun (_, info) => isReceiver info) =
      none) (uuid : Octets) (info : SessionInfo)
    (present : s.sessions[uuid]? = some info) : isReceiver info = false := by
  have member := Std.TreeMap.mem_toList_iff_getElem?_eq_some.mpr present
  exact Bool.eq_false_iff.mpr (List.find?_eq_none.mp missing _ member)

theorem FirstReceiver.unique {s : Service} {left right : Octets}
    (first : FirstReceiver s left) (second : FirstReceiver s right) :
    left = right := by
  obtain ⟨leftInfo, leftPresent, leftReceives⟩ := first.recorded
  obtain ⟨rightInfo, rightPresent, rightReceives⟩ := second.recorded
  rcases first.least right rightInfo rightPresent rightReceives with
    same | below
  · exact same.symm
  · rcases second.least left leftInfo leftPresent leftReceives with
      same | above
    · exact same
    · have impossible := Std.OrientedCmp.not_lt_of_lt below
      contradiction

def NoReceiver (s : Service) : Prop :=
  ∀ (uuid : Octets) info, s.sessions[uuid]? = some info →
    isReceiver info = false

theorem FirstReceiver.not_noReceiver {s : Service} {uuid : Octets}
    (first : FirstReceiver s uuid) : ¬NoReceiver s := by
  intro nobody
  obtain ⟨info, present, receives⟩ := first.recorded
  rw [nobody uuid info present] at receives
  contradiction

/-- The ways `RouteMessage` goes.  A first receiver under the empty uuid looks
like none to the code. -/
inductive Routing (deliver : Octets → Option UInt32)
    (srcAddr dstAddr shortMessage : Octets) (s : Service)
    (result : Octets × List Effect) : Prop
  | nobody (empty : NoReceiver s) (isResult : result = ([], []))
  | nameless (first : FirstReceiver s []) (isResult : result = ([], []))
  | tried (uuid : Octets) (named : uuid ≠ []) (first : FirstReceiver s uuid)
      (isResult : result =
        (if (deliver uuid).isSome then uuid else [],
          [.callDeliverSm (clientBusName uuid) srcAddr dstAddr shortMessage
            (deliver uuid)]))

theorem routeMessage_routing (deliver : Octets → Option UInt32)
    (srcAddr dstAddr shortMessage messageId : Octets) (s : Service) :
    Routing deliver srcAddr dstAddr shortMessage s
      (routeMessage deliver srcAddr dstAddr shortMessage messageId s) := by
  unfold routeMessage
  cases found : s.sessions.toList.find? fun (_, info) => isReceiver info with
  | none => exact .nobody (find?_receiver_none s found) rfl
  | some row =>
      rcases row with ⟨uuid, info⟩
      have first := find?_receiver_some s uuid info found
      cases uuid with
      | nil => exact .nameless first rfl
      | cons octet rest =>
          refine .tried (octet :: rest) (List.cons_ne_nil octet rest) first ?_
          cases answer : deliver (octet :: rest) with
          | none => simp [answer, text]
          | some sequenceNumber => simp [answer]

/-- `RouteMessage` tries the first recorded receiver, once, with the message
as given.  It answers that receiver's uuid when the call succeeds, and the
empty string exactly when there is no receiver, the first one has the empty
uuid, or its handler throws. -/
theorem routeMessage_tries_first_receiver (s : Service)
    (deliver : Octets → Option UInt32)
    (srcAddr dstAddr shortMessage messageId : Octets) :
    let routedTo := (routeMessage deliver srcAddr dstAddr shortMessage
      messageId s).1
    let calls := (routeMessage deliver srcAddr dstAddr shortMessage
      messageId s).2
    calls.length ≤ 1 ∧
      (∀ call ∈ calls, ∃ uuid, FirstReceiver s uuid ∧
        call = .callDeliverSm (clientBusName uuid) srcAddr dstAddr
          shortMessage (deliver uuid)) ∧
      (∀ uuid, FirstReceiver s uuid → uuid ≠ [] →
        calls = [.callDeliverSm (clientBusName uuid) srcAddr dstAddr
            shortMessage (deliver uuid)] ∧
          ((deliver uuid).isSome → routedTo = uuid)) ∧
      (routedTo = [] ↔
        NoReceiver s ∨
          ∃ uuid, FirstReceiver s uuid ∧
            (uuid = [] ∨ deliver uuid = none)) := by
  intro routedTo calls
  have routing : Routing deliver srcAddr dstAddr shortMessage s
      (routedTo, calls) :=
    routeMessage_routing deliver srcAddr dstAddr shortMessage messageId s
  cases routing with
  | nobody empty isResult =>
      obtain ⟨routedToEq, callsEq⟩ := Prod.mk.inj isResult
      rw [routedToEq, callsEq]
      refine ⟨by decide, by simp, ?_, ?_⟩
      · intro uuid first
        exact absurd empty first.not_noReceiver
      · exact iff_of_true rfl (Or.inl empty)
  | nameless first isResult =>
      obtain ⟨routedToEq, callsEq⟩ := Prod.mk.inj isResult
      rw [routedToEq, callsEq]
      refine ⟨by decide, by simp, ?_, ?_⟩
      · intro uuid other named
        exact absurd (other.unique first) named
      · exact iff_of_true rfl (Or.inr ⟨[], first, Or.inl rfl⟩)
  | tried uuid named first isResult =>
      obtain ⟨routedToEq, callsEq⟩ := Prod.mk.inj isResult
      rw [routedToEq, callsEq]
      refine ⟨Nat.le_refl 1, ?_, ?_, ?_⟩
      · intro call member
        exact ⟨uuid, first, List.mem_singleton.mp member⟩
      · intro other otherFirst _
        rw [otherFirst.unique first]
        exact ⟨rfl, fun accepted => if_pos accepted⟩
      · constructor
        · intro unrouted
          refine Or.inr ⟨uuid, first, Or.inr ?_⟩
          by_contra answered
          rw [if_pos (Option.isSome_iff_ne_none.mpr answered)] at unrouted
          exact named unrouted
        · rintro (empty | ⟨other, otherFirst, nameless | refused⟩)
          · exact absurd empty first.not_noReceiver
          · exact absurd ((first.unique otherFirst).trans nameless) named
          · rw [← otherFirst.unique first, refused]
            rfl

/-- Two receivers are recorded; the first one's handler throws and the second
one's would accept.  The message is not delivered and the answer is empty. -/
theorem routeMessage_gives_up_after_first :
    let receiver : SessionInfo :=
      { clientIp := text "10.0.0.1"
        systemId := text "user"
        state := text "BOUND_RX" }
    let s : Service :=
      { registry := ConnectionRegistry.create
        sessions := ((∅ : Std.TreeMap Octets SessionInfo).insert
          (text "a1") receiver).insert (text "b2") receiver }
    let deliver (uuid : Octets) : Option UInt32 :=
      if uuid = text "a1" then none else some 0x20000000
    s.sessions[text "b2"]? = some receiver ∧
      (deliver (text "b2")).isSome ∧
      routeMessage deliver (text "100") (text "200") (text "hi")
          (text "m1") s =
        ([],
          [.callDeliverSm (clientBusName (text "a1")) (text "100")
            (text "200") (text "hi") none]) := by
  decide

end OpenSmsc.SmppServerService
