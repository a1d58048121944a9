/-
The host the server runs on: accepted connections, the command lines it has
launched, and the handler processes that run them.

A launched process runs `main` of the client handler some time later.  It asks
the bus for the name made from its uuid and the server for its socket.  How
the bus answers is left open: it may refuse any name and lose any call or
answer.  It is assumed to refuse a name that is not valid.  Anybody on the bus
may call the methods of `IServer`, `GetSocket` included.
-/

import OpenSmsc.Client.Main
import OpenSmsc.Network.Processes
import OpenSmsc.Server.Descriptors
import OpenSmsc.Server.LaunchCommand
import OpenSmsc.Server.RegistryRuns

namespace OpenSmsc.Host

open Foundation TextInput TcpServer

/-- What becomes of a call: served with the answer delivered, served with the
answer lost, or never served. -/
inductive CallFate where
  | answered
  | unanswered
  | undelivered
  deriving DecidableEq, Repr

/-- What the bus answers to one process. -/
structure BusAnswers where
  grants : Octets → Bool
  refusesInvalid : ∀ name, grants name = true → validBusName name = true
  getSocket : CallFate

structure State where
  srv : Server
  /-- The command lines whose process has not run yet. -/
  launched : List Octets := []

inductive Event where
  | accept (accepted : Accepted)
  | start (index : Nat) (answers : BusAnswers)
  | call (event : SmppServerService.Event)

inductive Output where
  | server (effect : TcpServer.Effect)
  | process (command : Octets) (outcome : ClientMain.Outcome)
  deriving DecidableEq, Repr

/-! ### From the command line to the socket -/

def isOption (word : Octets) : Bool := (text "--").isPrefixOf word

/-- The shell splits the line at its spaces, and `systemd-run` keeps the
options in front for itself. -/
def handlerArgv (command : Octets) : List Octets :=
  ((cStr command).splitOn 32).tail.dropWhile isOption

def serviceName : Octets := text "com.telecom.smpp.Server"

def bus (answers : BusAnswers) :
    ClientMain.Bus SmppServerService.Service where
  createSystemBusConnection name svc := (answers.grants name, svc)
  getSocket serverSvc uuid svc :=
    if serverSvc = serviceName then
      let served := SmppServerService.getSocket uuid svc
      match answers.getSocket with
      | .answered => (served.2.findSome? Network.socketOf, served.1)
      | .unanswered => (none, served.1)
      | .undelivered => (none, svc)
    else (none, svc)

/-- `systemd-run` has started the unit when it returns 0. -/
def launchedBy : TcpServer.Effect → Option Octets
  | .system command rc => if rc = 0 then some command else none
  | _ => none

def step (h : State) : Event → State × List Output
  | .accept accepted =>
      let (srv, outputs) := TcpServer.server.step h.srv (.accept accepted)
      ({ srv := srv
         launched := h.launched ++ outputs.filterMap launchedBy },
        outputs.map .server)
  | .start index answers =>
      match h.launched[index]? with
      | none => (h, [])
      | some command =>
          let (outcome, svc) :=
            ClientMain.main (bus answers) (handlerArgv command) h.srv.svc
          ({ srv := { h.srv with svc := svc }
             launched := h.launched.eraseIdx index },
            [.process command outcome])
  | .call event =>
      let (srv, outputs) := TcpServer.server.step h.srv (.call event)
      ({ h with srv := srv }, outputs.map .server)

def machine : Machine State Event Output :=
  { step := step }

def create (validator : IpValidator.Validator) (maxPerIp : UInt32) : State :=
  { srv := startServer validator maxPerIp }

/-- The octets of a printed address: letters, digits, `:`, `.`, and `%`, `-`
and `_` of a scope. -/
def isAddressOctet (octet : UInt8) : Bool :=
  isNameOctet octet || octet == 58 || octet == 46 || octet == 37

def isAddress (clientIp : Octets) : Bool :=
  !clientIp.isEmpty && clientIp.all isAddressOctet

theorem not_mem_of_isAddress {clientIp : Octets}
    (address : isAddress clientIp = true) (octet : UInt8)
    (foreign : isAddressOctet octet = false) : octet ∉ clientIp := by
  intro member
  unfold isAddress at address
  rw [Bool.and_eq_true, List.all_eq_true] at address
  rw [address.2 octet member] at foreign
  contradiction

theorem generated_no_nul (ts rnd : UInt64) :
    0 ∉ generateSessionId ts rnd := by
  intro nul
  have impossible := SessionId.octet_of_mem ts rnd 0 nul
  revert impossible
  decide

theorem generated_ne_nil (ts rnd : UInt64) :
    generateSessionId ts rnd ≠ [] := by
  rw [← List.length_pos_iff, SessionId.length_eq]
  decide

theorem handlerArgv_build {uuid clientIp : Octets} (uuidNoSpace : 32 ∉ uuid)
    (uuidNoNul : 0 ∉ uuid) (address : isAddress clientIp = true) :
    handlerArgv (buildLaunchCommand uuid clientIp) =
      [handlerBin, text "--uuid=" ++ uuid,
        text "--client-ip=" ++ clientIp] := by
  have ipNoSpace : 32 ∉ clientIp :=
    not_mem_of_isAddress address 32 (by decide)
  have ipNoNul : 0 ∉ clientIp := not_mem_of_isAddress address 0 (by decide)
  have whole : cStr (buildLaunchCommand uuid clientIp) =
      buildLaunchCommand uuid clientIp := by
    apply List.takeWhile_eq_self_iff.mpr
    intro octet member
    rw [bne_iff_ne]
    rintro rfl
    simp only [buildLaunchCommand, List.mem_append, uuidNoNul, ipNoNul,
      or_false] at member
    revert member
    decide
  unfold handlerArgv
  rw [whole, buildLaunchCommand_split uuidNoSpace ipNoSpace]
  rfl

/-- What becomes of a launched process.  It fails without a name, without its
call served and without a pending entry.  Otherwise the entry is taken out,
and the process has a session if it gets the answer. -/
inductive Ran (answers : BusAnswers) (uuid clientIp : Octets)
    (svc : SmppServerService.Service)
    (result : ClientMain.Outcome × SmppServerService.Service) : Prop
  | failed
      (cause : answers.grants (clientBusName uuid) = false ∨
        answers.getSocket = .undelivered ∨
        svc.registry.sessions[uuid]? = none)
      (isResult : result = (.exitFailure, svc))
  | unanswered (granted : answers.grants (clientBusName uuid) = true)
      (entry : ConnectionRegistry.SessionEntry)
      (found : svc.registry.sessions[uuid]? = some entry)
      (isResult : result =
        (.exitFailure,
          { svc with
            registry :=
              ConnectionRegistry.release uuid entry svc.registry }))
  | claimed (granted : answers.grants (clientBusName uuid) = true)
      (entry : ConnectionRegistry.SessionEntry)
      (found : svc.registry.sessions[uuid]? = some entry)
      (isResult : result =
        (.session entry.fd uuid clientIp serviceName,
          { svc with
            registry :=
              ConnectionRegistry.release uuid entry svc.registry }))

theorem main_ran {uuid clientIp : Octets} (uuidNoSpace : 32 ∉ uuid)
    (uuidNoNul : 0 ∉ uuid) (named : uuid ≠ [])
    (address : isAddress clientIp = true) (answers : BusAnswers)
    (svc : SmppServerService.Service) :
    Ran answers uuid clientIp svc
      (ClientMain.main (bus answers)
        (handlerArgv (buildLaunchCommand uuid clientIp)) svc) := by
  have argsGiven : (uuid.isEmpty || clientIp.isEmpty) = false := by
    unfold isAddress at address
    rw [Bool.and_eq_true, Bool.not_eq_true'] at address
    rw [Bool.or_eq_false_iff, List.isEmpty_eq_false_iff]
    exact ⟨named, address.1⟩
  unfold ClientMain.main
  rw [handlerArgv_build uuidNoSpace uuidNoNul address,
    ClientMain.readArguments_launched]
  dsimp only
  rw [argsGiven, if_neg Bool.false_ne_true]
  cases granted : answers.grants (clientBusName uuid) with
  | false =>
      apply Ran.failed (.inl granted)
      simp only [bus, granted]
      rfl
  | true =>
      cases served : answers.getSocket with
      | undelivered =>
          apply Ran.failed (.inr (.inl served))
          simp only [bus, granted, served]
          rfl
      | unanswered =>
          cases SmppServerService.getSocket_claimed uuid svc with
          | unknown absent isResult =>
              apply Ran.failed (.inr (.inr absent))
              simp only [bus, granted, served, isResult]
              rfl
          | handed entry found isResult =>
              apply Ran.unanswered granted entry found
              simp only [bus, granted, served, isResult]
              rfl
      | answered =>
          cases SmppServerService.getSocket_claimed uuid svc with
          | unknown absent isResult =>
              apply Ran.failed (.inr (.inr absent))
              simp only [bus, granted, served, isResult]
              rfl
          | handed entry found isResult =>
              apply Ran.claimed granted entry found
              simp only [bus, granted, served, isResult]
              rfl

/-! ### One step -/

def pending (uuid : Octets) (h : State) :
    Option ConnectionRegistry.SessionEntry :=
  h.srv.svc.registry.sessions[uuid]?

def countOf (ip : Octets) (h : State) : UInt32 :=
  ConnectionRegistry.count ip h.srv.svc.registry

def limit (h : State) : UInt32 := h.srv.svc.registry.maxPerIp

def commandFor (accepted : Accepted) (clientIp : Octets) : Octets :=
  buildLaunchCommand accepted.uuid clientIp

def launchCode (accepted : Accepted) (clientIp : Octets) : Int :=
  accepted.system (cStr (commandFor accepted clientIp))

def launchedFor (accepted : Accepted) (clientIp : Octets) : List Octets :=
  if launchCode accepted clientIp = 0 then [commandFor accepted clientIp]
  else []

/-- The outputs of a step that neither announces a session nor runs a
process. -/
def Plain (outputs : List Output) : Prop :=
  ∀ output ∈ outputs, ∃ effect, output = .server effect ∧
    ∀ uuid clientIp, effect ≠ .service (.emitSessionStarted uuid clientIp)

/-- The ways a step goes.  A connection past the whitelist is launched whether
or not it is admitted, and a place goes to whoever asks for it by its uuid. -/
inductive Moved (h : State) (event : Event) (result : State × List Output) :
    Prop
  | quiet (plain : Plain result.2)
      (samePending : ∀ uuid, pending uuid result.1 = pending uuid h)
      (sameCounts : ∀ ip, countOf ip result.1 = countOf ip h)
      (sameLaunched : result.1.launched = h.launched)
      (sameLimit : limit result.1 = limit h ∨
        ∃ ip, event = .call (.setMaxConnectionsPerIp ip (limit result.1)))
  | refused (accepted : Accepted) (clientIp : Octets)
      (isEvent : event = .accept accepted)
      (peer : accepted.remoteEndpoint = some clientIp)
      (plain : Plain result.2)
      (samePending : ∀ uuid, pending uuid result.1 = pending uuid h)
      (sameCounts : ∀ ip, countOf ip result.1 = countOf ip h)
      (launched : result.1.launched =
        h.launched ++ launchedFor accepted clientIp)
      (sameLimit : limit result.1 = limit h)
  | admitted (accepted : Accepted) (clientIp : Octets)
      (isEvent : event = .accept accepted)
      (peer : accepted.remoteEndpoint = some clientIp)
      (outputs : result.2 =
        [.server (.service (.emitSessionStarted accepted.uuid clientIp)),
          .server (.system (commandFor accepted clientIp)
            (launchCode accepted clientIp))])
      (absent : pending accepted.uuid h = none)
      (pendingAfter : ∀ uuid, pending uuid result.1 =
        if accepted.uuid = uuid then
          some
            { fd := accepted.nativeHandle
              clientIp := clientIp }
        else pending uuid h)
      (below : countOf clientIp h < limit h)
      (countsAfter : ∀ ip, countOf ip result.1 =
        if clientIp = ip then countOf ip h + 1 else countOf ip h)
      (launched : result.1.launched =
        h.launched ++ launchedFor accepted clientIp)
      (sameLimit : limit result.1 = limit h)
  | taken (uuid : Octets) (place : ConnectionRegistry.SessionEntry)
      (isEvent : event = .call (.getSocket uuid))
      (found : pending uuid h = some place)
      (outputs : result.2 = [.server (.service (.returnSocket place.fd))])
      (pendingAfter : ∀ other, pending other result.1 =
        if uuid = other then none else pending other h)
      (sameLaunched : result.1.launched = h.launched)
  | ran (index : Nat) (answers : BusAnswers) (command : Octets)
      (isEvent : event = .start index answers)
      (found : h.launched[index]? = some command)
      (outcome : ClientMain.Outcome) (svc : SmppServerService.Service)
      (ended : ClientMain.main (bus answers) (handlerArgv command)
        h.srv.svc = (outcome, svc))
      (isResult : result =
        ({ srv := { h.srv with svc := svc }
           launched := h.launched.eraseIdx index },
          [.process command outcome]))

theorem plain_map (effects : List TcpServer.Effect)
    (silent : ∀ uuid clientIp,
      .service (.emitSessionStarted uuid clientIp) ∉ effects) :
    Plain (effects.map .server) := by
  intro output member
  obtain ⟨effect, inEffects, rfl⟩ := List.mem_map.mp member
  refine ⟨effect, rfl, ?_⟩
  rintro uuid clientIp rfl
  exact silent uuid clientIp inEffects

theorem accept_passed (h : State) (accepted : Accepted) (clientIp : Octets)
    (can : h.srv.CanAccept accepted)
    (passed : admissible h.srv.validator accepted = some clientIp) :
    let registered := SmppServerService.registerSession accepted.uuid
      accepted.nativeHandle clientIp h.srv.svc
    (step h (.accept accepted)).1.srv.svc = registered.1 ∧
      (step h (.accept accepted)).1.launched =
        h.launched ++ launchedFor accepted clientIp ∧
      (step h (.accept accepted)).2 =
        registered.2.map (fun effect => .server (.service effect)) ++
          [.server (.system (commandFor accepted clientIp)
            (launchCode accepted clientIp))] := by
  intro registered
  have isStep : server.step h.srv (.accept accepted) =
      h.srv.accept accepted := if_pos can
  have handled := handleConnection_passed h.srv.validator accepted
    h.srv.svc clientIp passed
  have noService : (registered.2.map Effect.service).filterMap launchedBy =
      [] := by
    rw [List.filterMap_map, List.filterMap_eq_nil_iff]
    intro effect _
    rfl
  have isLaunched : [Effect.system (commandFor accepted clientIp)
      (launchCode accepted clientIp)].filterMap launchedBy =
        launchedFor accepted clientIp := by
    unfold launchedFor
    simp only [List.filterMap_cons, List.filterMap_nil, launchedBy]
    split
    · next failed =>
        split at failed
        · contradiction
        · next other => rw [if_neg other]
    · next command started =>
        split at started
        · next zero =>
            cases started
            rw [if_pos zero]
        · contradiction
  simp only [step, isStep, Server.accept, handled]
  refine ⟨rfl, ?_, ?_⟩
  · rw [List.filterMap_append]
    exact congrArg (h.launched ++ ·)
      ((congrArg (· ++ _) noService).trans isLaunched)
  · rw [List.map_append, List.map_map]
    rfl

theorem accept_rejected_moved (h : State) (accepted : Accepted)
    (can : h.srv.CanAccept accepted)
    (rejected : admissible h.srv.validator accepted = none) :
    Moved h (.accept accepted) (step h (.accept accepted)) := by
  have isStep : server.step h.srv (.accept accepted) =
      h.srv.accept accepted := if_pos can
  have handled := handleConnection_rejected h.srv.validator accepted
    h.srv.svc rejected
  have isAccept : step h (.accept accepted) =
      ({ srv := (h.srv.accept accepted).1
         launched := h.launched },
        [.server (.closeSocket accepted.nativeHandle)]) := by
    simp only [step, isStep, Server.accept, handled]
    simp [launchedBy]
  rw [isAccept]
  have sameSvc : (h.srv.accept accepted).1.svc = h.srv.svc := by
    simp only [Server.accept, handled]
  have sameRegistry := congrArg (·.registry) sameSvc
  apply Moved.quiet
  · exact plain_map [.closeSocket accepted.nativeHandle] (by simp)
  · exact fun uuid => congrArg (·.sessions[uuid]?) sameRegistry
  · exact fun ip => congrArg (ConnectionRegistry.count ip) sameRegistry
  · rfl
  · exact .inl (congrArg (·.maxPerIp) sameRegistry)

theorem accept_passed_moved (h : State) (accepted : Accepted)
    (clientIp : Octets) (can : h.srv.CanAccept accepted)
    (passed : admissible h.srv.validator accepted = some clientIp) :
    Moved h (.accept accepted) (step h (.accept accepted)) := by
  have peer := (Option.filter_eq_some_iff.mp passed).1
  obtain ⟨isSvc, launched, outputs⟩ :=
    accept_passed h accepted clientIp can passed
  have isRegistry : (step h (.accept accepted)).1.srv.svc.registry =
      (ConnectionRegistry.add accepted.uuid accepted.nativeHandle clientIp
        h.srv.svc.registry).2 := by
    rw [isSvc]
    exact SmppServerService.registerSession_registry _ _ _ _
  have sameLimit : limit (step h (.accept accepted)).1 = limit h := by
    unfold limit
    rw [isRegistry, ConnectionRegistry.add_maxPerIp]
  have success := ConnectionRegistry.add_success accepted.uuid
    accepted.nativeHandle clientIp h.srv.svc.registry
  cases SmppServerService.registerSession_registered accepted.uuid
    accepted.nativeHandle clientIp h.srv.svc with
  | refused full isResult =>
      rw [decide_eq_false (UInt32.not_lt.mpr full)] at success
      rw [isResult] at outputs
      refine .refused accepted clientIp rfl peer ?_ ?_ ?_ launched sameLimit
      · rw [outputs]
        exact plain_map [.system _ _] (by simp)
      · intro uuid
        unfold pending
        rw [isRegistry, ConnectionRegistry.add_lookup, success]
        rfl
      · intro ip
        unfold countOf
        rw [isRegistry, ConnectionRegistry.add_count, success]
        rfl
  | admitted below isResult =>
      rw [decide_eq_true below] at success
      rw [isResult] at outputs
      refine .admitted accepted clientIp rfl peer outputs can.2 ?_ below ?_
        launched sameLimit
      · intro uuid
        unfold pending
        rw [isRegistry, ConnectionRegistry.add_lookup, success]
        simp only [true_and]
      · intro ip
        unfold countOf
        rw [isRegistry, ConnectionRegistry.add_count, success]
        simp only [true_and]

theorem accept_moved (h : State) (accepted : Accepted) :
    Moved h (.accept accepted) (step h (.accept accepted)) := by
  by_cases can : h.srv.CanAccept accepted
  · cases passed : admissible h.srv.validator accepted with
    | none => exact accept_rejected_moved h accepted can passed
    | some clientIp =>
        exact accept_passed_moved h accepted clientIp can passed
  · have isStep : server.step h.srv (.accept accepted) = (h.srv, []) :=
      if_neg can
    have isAccept : step h (.accept accepted) = (h, []) := by
      simp only [step, isStep, List.filterMap_nil, List.append_nil,
        List.map_nil]
    rw [isAccept]
    exact .quiet nofun (fun _ => rfl) (fun _ => rfl) rfl (.inl rfl)

theorem disconnectAll_silent (ip reason : Octets)
    (svc : SmppServerService.Service) (uuid clientIp : Octets) :
    .emitSessionStarted uuid clientIp ∉
      SmppServerService.disconnectAll ip reason svc := by
  unfold SmppServerService.disconnectAll
  simp

theorem routeMessage_silent (deliver : Octets → Option UInt32)
    (srcAddr dstAddr shortMessage messageId : Octets)
    (svc : SmppServerService.Service) (uuid clientIp : Octets) :
    .emitSessionStarted uuid clientIp ∉
      (SmppServerService.step svc (.routeMessage deliver srcAddr dstAddr
        shortMessage messageId)).2 := by
  dsimp only [SmppServerService.step]
  cases SmppServerService.routeMessage_routing deliver srcAddr dstAddr
    shortMessage messageId svc with
  | nobody _ isResult =>
      rw [isResult]
      simp
  | nameless _ isResult =>
      rw [isResult]
      simp
  | tried _ _ _ isResult =>
      rw [isResult]
      simp

theorem plain_service (effects : List SmppServerService.Effect)
    (silent : ∀ uuid clientIp,
      .emitSessionStarted uuid clientIp ∉ effects) :
    Plain ((effects.map Effect.service).map .server) := by
  apply plain_map
  intro uuid clientIp member
  obtain ⟨effect, inEffects, same⟩ := List.mem_map.mp member
  cases same
  exact silent uuid clientIp inEffects

theorem call_moved (h : State) (event : SmppServerService.Event) :
    Moved h (.call event) (step h (.call event)) := by
  cases event with
  | registerSession uuid fd clientIp =>
      exact .quiet nofun (fun _ => rfl) (fun _ => rfl) rfl (.inl rfl)
  | getSocket uuid =>
      have isStep : step h (.call (.getSocket uuid)) =
          ({ h with
              srv := { h.srv with
                svc := (SmppServerService.getSocket uuid h.srv.svc).1 } },
            ((SmppServerService.getSocket uuid h.srv.svc).2.map
              Effect.service).map .server) := rfl
      rw [isStep]
      cases SmppServerService.getSocket_claimed uuid h.srv.svc with
      | unknown absent isResult =>
          rw [isResult]
          exact .quiet (plain_service [.throwError _ _] (by simp))
            (fun _ => rfl) (fun _ => rfl) rfl (.inl rfl)
      | handed place found isResult =>
          rw [isResult]
          refine .taken uuid place rfl found rfl ?_ rfl
          intro other
          by_cases same : uuid = other
          · subst same
            rw [if_pos rfl]
            exact Table.lookup_erase_self _ _
          · rw [if_neg same]
            exact Table.lookup_erase_ne _ same
  | updateSessionDetails uuid systemId state =>
      have same := SmppServerService.updateSessionDetails_registry uuid
        systemId state h.srv.svc
      exact .quiet nofun (fun other => congrArg (·.sessions[other]?) same)
        (fun ip => congrArg (ConnectionRegistry.count ip) same) rfl
        (.inl (congrArg (·.maxPerIp) same))
  | getConnectionCount ip =>
      exact .quiet (plain_service [.returnCount _] (by simp))
        (fun _ => rfl) (fun _ => rfl) rfl (.inl rfl)
  | getAllSessions =>
      exact .quiet (plain_service [.returnSessions _] (by simp))
        (fun _ => rfl) (fun _ => rfl) rfl (.inl rfl)
  | setMaxConnectionsPerIp ip max =>
      exact .quiet nofun (fun _ => rfl) (fun _ => rfl) rfl (.inr ⟨ip, rfl⟩)
  | disconnectAll ip reason =>
      exact .quiet
        (plain_service _ (disconnectAll_silent ip reason h.srv.svc))
        (fun _ => rfl) (fun _ => rfl) rfl (.inl rfl)
  | routeMessage deliver srcAddr dstAddr shortMessage messageId =>
      exact .quiet
        (plain_service _ (routeMessage_silent deliver srcAddr dstAddr
          shortMessage messageId h.srv.svc))
        (fun _ => rfl) (fun _ => rfl) rfl (.inl rfl)
  | sessionExited uuid reason =>
      exact .quiet nofun (fun _ => rfl) (fun _ => rfl) rfl (.inl rfl)

theorem step_moved (h : State) (event : Event) :
    Moved h event (step h event) := by
  cases event with
  | accept accepted => exact accept_moved h accepted
  | call event => exact call_moved h event
  | start index answers =>
      cases found : h.launched[index]? with
      | none =>
          have idle : step h (.start index answers) = (h, []) := by
            simp only [step, found]
          rw [idle]
          exact .quiet nofun (fun _ => rfl) (fun _ => rfl) rfl (.inl rfl)
      | some command =>
          apply Moved.ran index answers command rfl found _ _
            Prod.mk.eta.symm
          simp only [step, found]

end OpenSmsc.Host
