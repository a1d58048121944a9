/-
The calls under way and the rows of the server's table.

A session calls the server under its own uuid only.  So a row of the table is
opened by the connection of its uuid, keeps its address, and afterwards holds
what that very session has reported: the identity and the state of a login it
has made.
-/

import OpenSmsc.Client.Life
import OpenSmsc.Network.RelaySessions

namespace OpenSmsc.Relay

open Foundation
open SmppSession (Session TokenArith Login)
open SmppServerService (Service)

variable {Number : Type}

/-! ### Who makes a call -/

section Asked

variable [Transport] [TokenArith Number]

inductive Asked (n : State Number) (action : Action) (call : Call) : Prop
  | before (member : call ∈ n.requests)
  | launch (fd : Int) (clientIp : Octets) (launched : Bool)
      (isConnect : action = .connect call.sender fd clientIp launched)
      (isSocket : call.request = .getSocket call.sender)
  | session (peer : Peer Number) (handler : SmppSession.IoCall)
      (running : n.processes[call.sender]? = some (.running peer))
      (isHandle : action = .handle call.sender handler)
      (ran : ranAt call.sender n action = [handler.val])
      (sent : Request)
      (asks : (SmppSession.step peer.session handler.val).2.findSome?
        requestOf = some sent)
      (arrives : sent.arrives = some call.request)

theorem handle_asked (n : State Number) (uuid : Octets)
    (handler : SmppSession.IoCall) (call : Call)
    (member : call ∈ (handle uuid handler n).1.requests) :
    Asked n (.handle uuid handler) call := by
  simp only [handle] at member
  split at member
  · rename_i peer was
    split at member
    · exact .before member
    · rename_i notBlocked
      split at member
      · exact .before member
      · rename_i request found
        rw [setProcess_requests, List.mem_append, Option.mem_toList]
          at member
        rcases member with old | isNew
        · exact .before old
        · obtain ⟨arrived, arrives, rfl⟩ := Option.map_eq_some_iff.mp isNew
          refine .session peer handler was rfl ?_ request found arrives
          simp only [ranAt, if_true, was, if_neg notBlocked]
  · exact .before member

theorem step_asked (n : State Number) (action : Action) (call : Call)
    (member : call ∈ (step n action).1.requests) : Asked n action call := by
  cases action with
  | connect uuid fd clientIp launched =>
      simp only [step, connect, Network.handleConnection] at member
      split at member
      · split at member
        · rw [List.mem_append, List.mem_singleton] at member
          rcases member with old | isNew
          · exact .before old
          · subst isNew
            exact .launch fd clientIp launched rfl rfl
        · exact .before member
      · exact .before member
  | handle uuid handler => exact handle_asked n uuid handler call member
  | serve steadyClock sender =>
      simp only [step, serve] at member
      split at member
      · exact .before member
      · split at member
        · exact .before member
        · rename_i taken rest found
          rw [serveCall_requests] at member
          have perm := (Lanes.takeNext_some found).perm
          exact .before (perm.mem_iff.mpr (List.mem_cons_of_mem _ member))
  | execute target =>
      simp only [step, execute] at member
      split at member
      · rw [endServing_requests] at member
        exact .before member
      · exact .before member
  | giveUp uuid =>
      simp only [step, giveUp] at member
      split at member <;> exact .before member
  | giveUpDelivery =>
      simp only [step, giveUpDelivery] at member
      split at member
      · rw [endServing_requests] at member
        exact .before member
      · exact .before member
  | terminate uuid =>
      simp only [step, terminate] at member
      split at member
      · exact .before member
      · split at member
        · split at member
          · rw [endServing_requests] at member
            exact .before member
          · exact .before member
        · exact .before member
  | setMaxConnectionsPerIp ip max => exact .before member

end Asked

/-- A session has the uuid of its process and calls the server with it. -/
structure Owned (n : State Number) : Prop where
  sessions : ∀ (uuid : Octets) (peer : Peer Number),
    n.processes[uuid]? = some (.running peer) → peer.session.uuid = uuid
  sockets : ∀ call ∈ n.requests, ∀ uuid,
    call.request = .getSocket uuid → uuid = call.sender
  updates : ∀ call ∈ n.requests, ∀ uuid systemId state,
    call.request = .updateSessionDetails uuid systemId state →
      uuid = call.sender

theorem Owned.step [Transport] [TokenArith Number] {n : State Number}
    (owned : Owned n) (action : Action) :
    Owned (Relay.step n action).1 := by
  refine ⟨?_, ?_, ?_⟩
  · intro uuid later now
    rcases (step_became n action uuid).running now with
      ⟨isNamed, _⟩ | ⟨peer, was, identity, _⟩
    · exact isNamed
    · exact identity.trans (owned.sessions uuid peer was)
  · intro call member uuid isSocket
    cases step_asked n action call member with
    | before old => exact owned.sockets call old uuid isSocket
    | launch fd clientIp launched isConnect asks =>
        rw [asks] at isSocket
        exact (Request.getSocket.inj isSocket).symm
    | session peer handler running isHandle ran sent asks arrives =>
        rw [isSocket] at arrives
        cases Request.arrived_of_arrives arrives with
        | getSocket => exact absurd rfl (request_ordinary asks uuid)
  · intro call member uuid systemId state isUpdate
    cases step_asked n action call member with
    | before old => exact owned.updates call old uuid systemId state isUpdate
    | launch fd clientIp launched isConnect asks =>
        rw [asks] at isUpdate
        cases isUpdate
    | session peer handler running isHandle ran sent asks arrives =>
        rw [isUpdate] at arrives
        cases Request.arrived_of_arrives arrives with
        | updateSessionDetails _ given _ _ carries =>
            rw [request_own asks uuid given state rfl]
            exact owned.sessions call.sender peer running

theorem owned_of_run [Transport] (Number : Type) [TokenArith Number]
    (maxPerIp : UInt32) (actions : List Action) :
    Owned (machine.final (create maxPerIp : State Number) actions) := by
  refine machine.invariant_rule Owned (create maxPerIp) ?_ ?_ actions
  · refine ⟨?_, ?_, ?_⟩
    · intro uuid peer running
      simp [create] at running
    · intro call member
      cases member
    · intro call member
      cases member
  · intro n action owned
    exact owned.step action

/-! ### What a step does to the server -/

def servedBy (call : Call) (s : Service) : Service :=
  match call.request with
  | .getSocket uuid => (SmppServerService.getSocket uuid s).1
  | .updateSessionDetails uuid systemId state =>
      SmppServerService.updateSessionDetails uuid systemId state s
  | .routeMessage _ _ _ _ => s

theorem serveCall_service [Transport] [TokenArith Number] (steadyClock : Int)
    (call : Call) (n : State Number) :
    (serveCall steadyClock call n).service = servedBy call n.service := by
  obtain ⟨sender, serial, request⟩ := call
  cases request with
  | getSocket uuid => exact answerSocket_service _ _ _ _
  | updateSessionDetails uuid systemId state => exact answer_service _ _ _
  | routeMessage srcAddr dstAddr shortMessage messageId =>
      simp only [serveCall, servedBy]
      split
      · rw [answer_service]
      · split
        · rfl
        · rw [answer_service]

inductive ServiceMoved (n : State Number) (action : Action)
    (after : Service) : Prop
  | kept (unmoved : after = n.service)
  | registered (uuid : Octets) (fd : Int) (clientIp : Octets)
      (launched : Bool)
      (isConnect : action = .connect uuid fd clientIp launched)
      (new : isNew uuid n = true)
      (isAfter : after = (SmppServerService.registerSession uuid fd clientIp
        n.service).1)
  | served (call : Call) (member : call ∈ n.requests)
      (isAfter : after = servedBy call n.service)
  | limited (ip : Octets) (max : UInt32)
      (isAfter : after =
        SmppServerService.setMaxConnectionsPerIp ip max n.service)

theorem step_serviceMoved [Transport] [TokenArith Number] (n : State Number)
    (action : Action) : ServiceMoved n action (step n action).1.service := by
  cases action with
  | connect uuid fd clientIp launched =>
      by_cases new : isNew uuid n = true
      · refine .registered uuid fd clientIp launched rfl new ?_
        simp only [step, connect, Network.handleConnection, if_pos new]
        split <;> rfl
      · refine .kept ?_
        simp only [step, connect, Network.handleConnection, if_neg new]
  | serve steadyClock sender =>
      simp only [step, serve]
      split
      · exact .kept rfl
      · split
        · exact .kept rfl
        · rename_i call rest found
          have taken := Lanes.takeNext_some found
          refine .served call (taken.perm.mem_iff.mpr List.mem_cons_self) ?_
          rw [serveCall_service]
  | setMaxConnectionsPerIp ip max => exact .limited ip max rfl
  | handle named handler =>
      refine .kept ?_
      simp only [step, handle]
      split
      · split
        · rfl
        · split <;> rfl
      · rfl
  | execute target =>
      refine .kept ?_
      simp only [step, execute]
      split
      · rw [endServing_service]
        rfl
      · rfl
  | giveUp named =>
      refine .kept ?_
      simp only [step, giveUp]
      split <;> rfl
  | giveUpDelivery =>
      refine .kept ?_
      simp only [step, giveUpDelivery]
      split
      · rw [endServing_service]
      · rfl
  | terminate named =>
      refine .kept ?_
      simp only [step, terminate]
      split
      · rfl
      · split
        · split
          · rw [endServing_service]
            rfl
          · rfl
        · rfl

/-- A row is opened when its session connects and changes when a report about
it is served. -/
inductive RowMoved (n : State Number) (action : Action) (uuid : Octets)
    (after : Service) : Prop
  | same (unmoved : after.sessions[uuid]? = n.service.sessions[uuid]?)
  | opened (fd : Int) (clientIp : Octets) (launched : Bool)
      (isConnect : action = .connect uuid fd clientIp launched)
      (new : isNew uuid n = true)
      (now : after.sessions[uuid]? = some
        { clientIp := clientIp
          systemId := []
          state := text "OPEN" })
  | updated (call : Call) (member : call ∈ n.requests)
      (systemId state : Octets)
      (isUpdate : call.request = .updateSessionDetails uuid systemId state)
      (now : after.sessions[uuid]? =
        n.service.sessions[uuid]?.map fun info =>
          { info with
            systemId := systemId
            state := state })

theorem ServiceMoved.row {n : State Number} {action : Action}
    {after : Service} (moved : ServiceMoved n action after)
    (uuid : Octets) : RowMoved n action uuid after := by
  cases moved with
  | kept unmoved => exact .same (by rw [unmoved])
  | limited ip max isAfter => exact .same (by rw [isAfter]; rfl)
  | registered named fd clientIp launched isConnect new isAfter =>
      by_cases same : named = uuid
      · subst same
        cases SmppServerService.registerSession_registered named fd clientIp
          n.service with
        | refused full isResult => exact .same (by rw [isAfter, isResult])
        | admitted below isResult =>
            refine .opened fd clientIp launched isConnect new ?_
            rw [isAfter, isResult]
            exact Table.lookup_insert_self _ _ _
      · refine .same ?_
        rw [isAfter]
        exact (SmppServerService.registerSession_other named fd clientIp
          n.service same).1
  | served call member isAfter =>
      unfold servedBy at isAfter
      split at isAfter
      · rename_i asked isSocket
        refine .same ?_
        cases SmppServerService.getSocket_claimed asked n.service with
        | unknown absent isResult => rw [isAfter, isResult]
        | handed entry found isResult => rw [isAfter, isResult]
      · rename_i named systemId state isUpdate
        rw [isAfter]
        by_cases same : named = uuid
        · subst same
          refine .updated call member systemId state isUpdate ?_
          rw [SmppServerService.updateSessionDetails_lookup, if_pos rfl]
        · refine .same ?_
          rw [SmppServerService.updateSessionDetails_lookup, if_neg same]
      · exact .same (by rw [isAfter])

theorem step_rowMoved [Transport] [TokenArith Number] (n : State Number)
    (action : Action) (uuid : Octets) :
    RowMoved n action uuid (step n action).1.service :=
  (step_serviceMoved n action).row uuid

theorem ServiceMoved.pending {n : State Number} {action : Action}
    {after : Service} (moved : ServiceMoved n action after) {uuid : Octets}
    {entry : ConnectionRegistry.SessionEntry}
    (now : after.registry.sessions[uuid]? = some entry) :
    n.service.registry.sessions[uuid]? = some entry ∨
      ∃ info, after.sessions[uuid]? = some info := by
  cases moved with
  | kept unmoved =>
      rw [unmoved] at now
      exact Or.inl now
  | limited ip max isAfter =>
      rw [isAfter] at now
      exact Or.inl now
  | registered named fd clientIp launched isConnect new isAfter =>
      rw [isAfter] at now ⊢
      by_cases same : named = uuid
      · subst same
        by_cases full : n.service.registry.maxPerIp ≤
            ConnectionRegistry.count clientIp n.service.registry
        · rw [(SmppServerService.registerSession_refused named fd clientIp
            n.service full).2] at now
          exact Or.inl now
        · right
          rw [(SmppServerService.registerSession_admitted named fd clientIp
            n.service (UInt32.not_le.mp full)).1]
          exact ⟨_, Table.lookup_insert_self _ _ _⟩
      · rw [(SmppServerService.registerSession_other named fd clientIp
          n.service same).2] at now
        exact Or.inl now
  | served call member isAfter =>
      left
      unfold servedBy at isAfter
      split at isAfter
      · rename_i asked isSocket
        cases SmppServerService.getSocket_claimed asked n.service with
        | unknown absent isResult =>
            rw [isAfter, isResult] at now
            exact now
        | handed taken found isResult =>
            rw [isAfter, isResult] at now
            exact (Table.lookup_of_erase now).2
      · rw [isAfter, SmppServerService.updateSessionDetails_registry] at now
        exact now
      · rw [isAfter] at now
        exact now

/-! ### Addresses -/

structure Addressed (n : State Number) (uuid : Octets) : Prop where
  pending : ∀ entry, n.service.registry.sessions[uuid]? = some entry →
    ∃ info, n.service.sessions[uuid]? = some info
  starting : ∀ clientIp, n.processes[uuid]? = some (.starting clientIp) →
    ∀ info, n.service.sessions[uuid]? = some info → info.clientIp = clientIp
  running : ∀ s, sessionOf n.processes[uuid]? = some s →
    ∃ info, n.service.sessions[uuid]? = some info ∧
      info.clientIp = s.clientIp

theorem isNew_row {uuid : Octets} {n : State Number}
    (new : isNew uuid n = true) : n.service.sessions[uuid]? = none := by
  simp only [isNew, Network.isUnused, Bool.and_eq_true,
    Option.isNone_iff_eq_none] at new
  exact new.1.2

theorem isNew_process {uuid : Octets} {n : State Number}
    (new : isNew uuid n = true) : n.processes[uuid]? = none := by
  simp only [isNew, Network.isUnused, Bool.and_eq_true,
    Option.isNone_iff_eq_none] at new
  exact new.1.1

theorem RowMoved.keeps {n : State Number} {action : Action} {uuid : Octets}
    {after : Service} (moved : RowMoved n action uuid after)
    {info : SmppServerService.SessionInfo}
    (was : n.service.sessions[uuid]? = some info) :
    ∃ later, after.sessions[uuid]? = some later ∧
      later.clientIp = info.clientIp := by
  cases moved with
  | same unmoved => exact ⟨info, unmoved.trans was, rfl⟩
  | opened fd clientIp launched isConnect new now =>
      rw [isNew_row new] at was
      cases was
  | updated call member systemId state isUpdate now =>
      rw [was] at now
      exact ⟨_, now, rfl⟩

theorem RowMoved.back {n : State Number} {action : Action} {uuid : Octets}
    {after : Service} (moved : RowMoved n action uuid after)
    {info : SmppServerService.SessionInfo}
    (now : after.sessions[uuid]? = some info) :
    (∃ earlier, n.service.sessions[uuid]? = some earlier ∧
      earlier.clientIp = info.clientIp) ∨
      isNew uuid n = true ∧ ∃ fd launched,
        action = .connect uuid fd info.clientIp launched := by
  cases moved with
  | same unmoved => exact Or.inl ⟨info, unmoved.symm.trans now, rfl⟩
  | opened fd clientIp launched isConnect new isRow =>
      rw [isRow] at now
      cases now
      exact Or.inr ⟨new, fd, launched, isConnect⟩
  | updated call member systemId state isUpdate isRow =>
      rw [isRow, Option.map_eq_some_iff] at now
      obtain ⟨earlier, was, isInfo⟩ := now
      exact Or.inl ⟨earlier, was, by rw [← isInfo]⟩

theorem session_clientIp [TokenArith Number] (s : Session Number)
    (event : SmppSession.Event) :
    (SmppSession.step s event).1.clientIp = s.clientIp :=
  congrArg (·.2.1) (SmppSession.step_fixed s event)

theorem Addressed.step [Transport] [TokenArith Number] {n : State Number}
    {uuid : Octets} (addressed : Addressed n uuid) (owned : Owned n)
    (action : Action) : Addressed (Relay.step n action).1 uuid := by
  have moved := step_rowMoved n action uuid
  have led := step_led n action uuid
  refine ⟨?_, ?_, ?_⟩
  · intro entry now
    rcases (step_serviceMoved n action).pending now with was | row
    · obtain ⟨info, row⟩ := addressed.pending entry was
      obtain ⟨later, isRow, _⟩ := moved.keeps row
      exact ⟨later, isRow⟩
    · exact row
  · intro clientIp isStarting info isRow
    have unstarted : Unstarted (Relay.step n action).1.processes[uuid]? :=
      Or.inr ⟨clientIp, isStarting⟩
    generalize ranAt uuid n action = ran at led
    generalize shownBy uuid (Relay.step n action).2 = shown at led
    cases led with
    | same session unmoved =>
        rw [unmoved unstarted] at isStarting
        rcases moved.back isRow with ⟨earlier, wasRow, sameIp⟩ | ⟨new, _⟩
        · rw [← sameIp]
          exact addressed.starting clientIp isStarting earlier wasRow
        · rw [isNew_process new] at isStarting
          cases isStarting
    | launched fd newIp isConnect new absent now =>
        rw [now] at isStarting
        cases isStarting
        rcases moved.back isRow with ⟨earlier, wasRow, _⟩ |
          ⟨_, otherFd, launched, alsoConnect⟩
        · rw [isNew_row new] at wasRow
          cases wasRow
        · rw [isConnect] at alsoConnect
          cases alsoConnect
          rfl
    | began newIp newClock was claims now started =>
        exact absurd unstarted started
    | died now =>
        rw [now] at isStarting
        cases isStarting
    | ran s event was now started => exact absurd unstarted started
  · intro s isSession
    generalize ranAt uuid n action = ran at led
    generalize shownBy uuid (Relay.step n action).2 = shown at led
    have kept : ∀ earlier : Session Number,
        sessionOf n.processes[uuid]? = some earlier →
          s.clientIp = earlier.clientIp →
            ∃ info, (Relay.step n action).1.service.sessions[uuid]? =
              some info ∧ info.clientIp = s.clientIp := by
      intro earlier was sameIp
      obtain ⟨info, row, isIp⟩ := addressed.running earlier was
      obtain ⟨later, isRow, keepsIp⟩ := moved.keeps row
      exact ⟨later, isRow, keepsIp.trans (isIp.trans sameIp.symm)⟩
    cases led with
    | same session unmoved => exact kept s (session.symm.trans isSession) rfl
    | launched fd newIp isConnect new absent now =>
        rw [now] at isSession
        cases isSession
    | began newIp newClock was claims now started =>
        -- the socket was pending, so the row is there, with the address
        obtain ⟨call, member, isSender, asked, entry, isSocket, found⟩ :=
          claims
        rw [owned.sockets call member asked isSocket, isSender] at found
        obtain ⟨info, row⟩ := addressed.pending entry found
        have sameIp := addressed.starting newIp was info row
        obtain ⟨later, isRow, keepsIp⟩ := moved.keeps row
        rw [now] at isSession
        cases isSession
        exact ⟨later, isRow, keepsIp.trans sameIp⟩
    | died now =>
        rw [now] at isSession
        cases isSession
    | ran earlier event was now started =>
        rw [now] at isSession
        cases isSession
        exact kept earlier was (session_clientIp earlier event)

theorem addressed_of_run [Transport] (Number : Type) [TokenArith Number]
    (maxPerIp : UInt32) (actions : List Action) (uuid : Octets) :
    Addressed (machine.final (create maxPerIp : State Number) actions)
      uuid := by
  have both := machine.invariant_rule
    (fun n : State Number => Owned n ∧ Addressed n uuid) (create maxPerIp)
    (by
      refine ⟨owned_of_run Number maxPerIp [], ?_, ?_, ?_⟩
      · intro entry found
        simp [create, SmppServerService.create,
          ConnectionRegistry.create] at found
      · intro clientIp found
        simp [create] at found
      · intro s found
        simp [create, sessionOf] at found)
    (fun n action both =>
      ⟨both.1.step action, both.2.step both.1 action⟩)
    actions
  exact both.2

/-! ### Logins -/

/-- The step runs an accepted bind: the process runs and does not wait, its
session is open, the authenticator accepts the login, and the session is bound
under the system id. -/
inductive Binds (uuid : Octets) (login : Login)
    (entry : RelayEntry Number) : Prop
  | intro (handler : SmppSession.IoCall) (peer later : Peer Number)
      (isHandle : entry.event = .handle uuid handler)
      (was : entry.before.processes[uuid]? = some (.running peer))
      (free : peer.waiting = none)
      (wasOpen : peer.session.state = .opened)
      (makes : SmppSession.Makes peer.session.uuid peer.session.clientIp
        login handler.val)
      (now : entry.after.processes[uuid]? = some (.running later))
      (bound : later.session.state = login.kind.state)
      (identity : later.session.systemId = login.systemId)

theorem running_of_sessionOf {process : Option (Process Number)}
    {s : Session Number} (isSession : sessionOf process = some s) :
    ∃ peer, process = some (.running peer) ∧ peer.session = s := by
  unfold sessionOf at isSession
  split at isSession
  · rename_i peer
    exact ⟨peer, rfl, Option.some.inj isSession⟩
  · cases isSession

theorem ranAt_dispatched {uuid : Octets} {n : State Number}
    {action : Action} {event : SmppSession.Event}
    (ran : ranAt uuid n action = [event])
    {pdu : SmppSession.Env × Smpp.Header × Octets}
    (isPdu : SmppSession.dispatched event = some pdu) :
    ∃ (handler : SmppSession.IoCall) (peer : Peer Number),
      action = .handle uuid handler ∧ handler.val = event ∧
        n.processes[uuid]? = some (.running peer) ∧ peer.waiting = none := by
  cases action with
  | handle other handler =>
      simp only [ranAt] at ran
      split at ran
      · rename_i own
        subst own
        split at ran
        · rename_i peer was
          split at ran
          · cases ran
          · rename_i free
            rw [Bool.not_eq_true, Option.isSome_eq_false_iff,
              Option.isNone_iff_eq_none] at free
            exact ⟨handler, peer, rfl, (List.cons.inj ran).1, was, free⟩
        · cases ran
      · cases ran
  | execute target =>
      simp only [ranAt] at ran
      split at ran
      · split at ran
        · rw [← (List.cons.inj ran).1] at isPdu
          cases isPdu
        · cases ran
      · cases ran
  | connect other fd clientIp launched => cases ran
  | serve steadyClock sender => cases ran
  | giveUp other => cases ran
  | giveUpDelivery => cases ran
  | terminate other => cases ran
  | setMaxConnectionsPerIp ip max => cases ran

section Logins

variable [Transport] [TokenArith Number]

theorem stepped_of_ranAt {n : State Number} {action : Action}
    {uuid : Octets} {s : Session Number} {event : SmppSession.Event}
    (ran : ranAt uuid n action = [event])
    (was : sessionOf n.processes[uuid]? = some s) :
    sessionOf (Relay.step n action).1.processes[uuid]? =
      some (SmppSession.step s event).1 := by
  have led := step_led n action uuid
  generalize shownBy uuid (Relay.step n action).2 = shown at led
  rw [ran] at led
  cases led with
  | ran other _ wasOther now started =>
      rw [was] at wasOther
      cases wasOther
      exact now

theorem Binds.of_ran {n : State Number} {action : Action} {uuid : Octets}
    {s : Session Number} {event : SmppSession.Event} {login : Login}
    (ran : ranAt uuid n action = [event])
    (was : sessionOf n.processes[uuid]? = some s)
    (wasOpen : s.state = .opened)
    (makes : SmppSession.Makes s.uuid s.clientIp login event)
    (bound : (SmppSession.step s event).1.state = login.kind.state)
    (identity : (SmppSession.step s event).1.systemId = login.systemId) :
    Binds uuid login (machine.entry n action) := by
  obtain ⟨_, _, _, isPdu, _⟩ := id makes
  obtain ⟨handler, peer, isHandle, isEvent, isRunning, free⟩ :=
    ranAt_dispatched ran isPdu
  obtain ⟨later, stillRunning, isLater⟩ :=
    running_of_sessionOf (stepped_of_ranAt ran was)
  rw [isRunning] at was
  cases was
  cases isEvent
  refine .intro handler peer later isHandle isRunning free wasOpen makes
    stillRunning ?_ ?_
  · rw [isLater]
    exact bound
  · rw [isLater]
    exact identity

def BoundBy (n : State Number) (past : List (RelayEntry Number)) : Prop :=
  ∀ uuid s, sessionOf n.processes[uuid]? = some s →
    ∀ kind : SmppSession.BindKind, s.state = kind.state →
      ∃ login : Login, login.kind = kind ∧
        ∃ entry ∈ past, Binds uuid login entry

theorem BoundBy.step {n : State Number} {past : List (RelayEntry Number)}
    (boundBy : BoundBy n past) (action : Action) :
    BoundBy (Relay.step n action).1 (past ++ [machine.entry n action]) := by
  intro uuid now isNow kind isKind
  have earlier : ∀ s, sessionOf n.processes[uuid]? = some s →
      s.state = kind.state → ∃ login : Login, login.kind = kind ∧
        ∃ entry ∈ past ++ [machine.entry n action],
          Binds uuid login entry := by
    intro s was wasKind
    obtain ⟨login, isLogin, entry, member, binds⟩ :=
      boundBy uuid s was kind wasKind
    exact ⟨login, isLogin, entry, List.mem_append_left _ member, binds⟩
  have led := step_led n action uuid
  generalize isRan : ranAt uuid n action = ran at led
  generalize shownBy uuid (Relay.step n action).2 = shown at led
  cases led with
  | same session unstarted =>
      exact earlier now (session.symm.trans isNow) isKind
  | launched fd clientIp isConnect new absent starts =>
      rw [starts] at isNow
      cases isNow
  | began clientIp steadyClock was claims begins started =>
      rw [begins] at isNow
      cases isNow
      exact absurd isKind.symm kind.state_ne_opened
  | died ends =>
      rw [ends] at isNow
      cases isNow
  | ran s event was steps started =>
      have isStep := Option.some.inj (steps.symm.trans isNow)
      rw [← isStep] at isKind
      cases SmppSession.step_advance s event with
      | nothing same silent =>
          exact earlier s was (same.1.symm.trans isKind)
      | binds login wasOpen made after told =>
          refine ⟨login, ?_, machine.entry n action,
            List.mem_append_right _ List.mem_cons_self,
            .of_ran isRan was wasOpen made after.1 after.2.1⟩
          exact login.kind.state_injective kind (after.1.symm.trans isKind)
      | rejects systemId password answer wasOpen refused after told =>
          exact absurd (isKind.symm.trans after.1) kind.state_ne_unbound
      | ends reason wasLive after told =>
          exact absurd (isKind.symm.trans after.1) kind.state_ne_unbound

variable (Number) in
theorem boundBy_of_run (maxPerIp : UInt32) (actions : List Action) :
    BoundBy (machine.final (create maxPerIp : State Number) actions)
      (machine.history (create maxPerIp) actions) := by
  refine machine.history_rule BoundBy (create maxPerIp) ?_ ?_ actions
  · intro uuid s running
    simp [create, sessionOf] at running
  · intro n past action boundBy
    exact boundBy.step action

theorem mayTransmit_of_hands (n : State Number) (action : Action)
    {uuid srcAddr dstAddr shortMessage messageId : Octets}
    (hands : Shown.hands srcAddr dstAddr shortMessage messageId ∈
      shownBy uuid (step n action).2) :
    ∃ s, sessionOf n.processes[uuid]? = some s ∧
      SmppSession.MayTransmit s := by
  have led := step_led n action uuid
  generalize ranAt uuid n action = ran at led
  generalize shownBy uuid (step n action).2 = shown at led hands
  cases led with
  | same _ _ => cases hands
  | launched _ _ _ _ _ _ => cases hands
  | began _ _ _ _ _ _ => cases hands
  | died _ => cases hands
  | ran s event was now started =>
      exact ⟨s, was, SmppSession.mayTransmit_of_acceptsSubmit s event
        (.inr ⟨_, _, _, _, shownAt_hands hands⟩)⟩

theorem mayReceive_of_serves (n : State Number) (action : Action)
    {uuid srcAddr dstAddr shortMessage pdu : Octets}
    {effects : List SmppSession.Effect}
    (serves : Shown.serves srcAddr dstAddr shortMessage effects ∈
      shownBy uuid (step n action).2)
    (sends : SmppSession.Effect.sendPdu pdu ∈ effects) :
    ∃ s, sessionOf n.processes[uuid]? = some s ∧
      SmppSession.MayReceive s := by
  have led := step_led n action uuid
  generalize ranAt uuid n action = ran at led
  generalize shownBy uuid (step n action).2 = shown at led serves
  cases led with
  | same _ _ => cases serves
  | launched _ _ _ _ _ _ => cases serves
  | began _ _ _ _ _ _ => cases serves
  | died _ => cases serves
  | ran s event was now started =>
      obtain ⟨isDelivery, isOutputs⟩ := shownAt_serves serves
      rw [isOutputs, isDelivery] at sends
      refine ⟨s, was, ?_⟩
      by_contra refused
      rw [SmppSession.MayReceive, not_or] at refused
      simp [SmppSession.step, SmppSession.deliverSm, refused.1,
        refused.2] at sends

variable (Number) in
theorem binds_before_serves (maxPerIp : UInt32) (actions : List Action)
    (action : Action) {uuid srcAddr dstAddr shortMessage pdu : Octets}
    {effects : List SmppSession.Effect}
    (serves : Shown.serves srcAddr dstAddr shortMessage effects ∈
      shownBy uuid
        (step (machine.final (create maxPerIp : State Number) actions)
          action).2)
    (sends : SmppSession.Effect.sendPdu pdu ∈ effects) :
    ∃ login : Login,
      (login.kind = .receiver ∨ login.kind = .transceiver) ∧
        ∃ entry ∈ machine.history (create maxPerIp : State Number) actions,
          Binds uuid login entry := by
  obtain ⟨s, running, rx | trx⟩ :=
    mayReceive_of_serves _ action serves sends
  · obtain ⟨login, isKind, bind⟩ := boundBy_of_run Number maxPerIp actions
      uuid s running .receiver rx
    exact ⟨login, .inl isKind, bind⟩
  · obtain ⟨login, isKind, bind⟩ := boundBy_of_run Number maxPerIp actions
      uuid s running .transceiver trx
    exact ⟨login, .inr isKind, bind⟩

variable (Number) in
theorem binds_before_hands (maxPerIp : UInt32) (actions : List Action)
    (action : Action) {uuid srcAddr dstAddr shortMessage messageId : Octets}
    (hands : Shown.hands srcAddr dstAddr shortMessage messageId ∈
      shownBy uuid (machine.emitted (create maxPerIp : State Number)
        (actions ++ [action]))) :
    ∃ login : Login,
      (login.kind = .transmitter ∨ login.kind = .transceiver) ∧
        ∃ entry ∈ machine.history (create maxPerIp : State Number) actions,
          Binds uuid login entry := by
  have atOnce : ∀ (actions : List Action) (action : Action),
      Shown.hands srcAddr dstAddr shortMessage messageId ∈ shownBy uuid
          (step (machine.final (create maxPerIp : State Number) actions)
            action).2 →
        ∃ login : Login,
          (login.kind = .transmitter ∨ login.kind = .transceiver) ∧
            ∃ entry ∈
                machine.history (create maxPerIp : State Number) actions,
              Binds uuid login entry := by
    intro actions action hands
    obtain ⟨s, running, tx | trx⟩ := mayTransmit_of_hands _ action hands
    · obtain ⟨login, isKind, bind⟩ := boundBy_of_run Number maxPerIp actions
        uuid s running .transmitter tx
      exact ⟨login, .inl isKind, bind⟩
    · obtain ⟨login, isKind, bind⟩ := boundBy_of_run Number maxPerIp actions
        uuid s running .transceiver trx
      exact ⟨login, .inr isKind, bind⟩
  induction actions using List.reverseRecOn generalizing action with
  | nil =>
      rw [Machine.emitted_concat] at hands
      exact atOnce [] action hands
  | append_singleton earlier last ih =>
      rw [Machine.emitted_concat, shownBy, List.filterMap_append,
        List.mem_append] at hands
      rcases hands with before | now
      · obtain ⟨login, isKind, entry, member, binds⟩ := ih last before
        refine ⟨login, isKind, entry, ?_, binds⟩
        rw [Machine.history_concat]
        exact List.mem_append_left _ member
      · exact atOnce _ action now

theorem binds_of_update {n : State Number} {action : Action}
    {uuid systemId state : Octets} {s : Session Number}
    {event : SmppSession.Event} (ran : ranAt uuid n action = [event])
    (was : sessionOf n.processes[uuid]? = some s)
    (reports : SmppSession.Effect.callUpdateSessionDetails uuid systemId
      state ∈ (SmppSession.step s event).2) :
    ∃ login : Login, login.systemId = systemId ∧
      SmppSession.stateName login.kind.state = state ∧
      Binds uuid login (machine.entry n action) := by
  have milestone : SmppSession.Effect.callUpdateSessionDetails uuid systemId
      state ∈ SmppSession.milestones (SmppSession.step s event).2 :=
    List.mem_filter.mpr ⟨reports, rfl⟩
  cases SmppSession.step_advance s event with
  | nothing same silent =>
      rw [silent] at milestone
      cases milestone
  | binds login wasOpen made after told =>
      rw [told] at milestone
      simp only [SmppSession.Stage.milestones, List.mem_cons,
        List.not_mem_nil, or_false, reduceCtorEq, false_or,
        SmppSession.Effect.callUpdateSessionDetails.injEq] at milestone
      exact ⟨login, milestone.2.1.symm, milestone.2.2.symm,
        .of_ran ran was wasOpen made after.1 after.2.1⟩
  | rejects _ _ answer wasOpen refused after told =>
      rw [told] at milestone
      simp [SmppSession.Stage.milestones] at milestone
  | ends reason wasLive after told =>
      rw [told] at milestone
      simp at milestone

end Logins

/-! ### Reports -/

/-- The session of the process has run an accepted bind with this bound state,
and with a system id that arrives as this one. -/
def Vouched [Transport] (uuid systemId state : Octets)
    (past : List (RelayEntry Number)) : Prop :=
  ∃ login : Login, Transport.carries login.systemId = some systemId ∧
    SmppSession.stateName login.kind.state = state ∧
    ∃ entry ∈ past, Binds uuid login entry

theorem Vouched.later [Transport] {uuid systemId state : Octets}
    {past : List (RelayEntry Number)}
    (vouched : Vouched uuid systemId state past)
    (entry : RelayEntry Number) :
    Vouched uuid systemId state (past ++ [entry]) := by
  obtain ⟨login, isId, isState, bind, member, binds⟩ := vouched
  exact ⟨login, isId, isState, bind, List.mem_append_left _ member, binds⟩

structure Reported [Transport] (n : State Number)
    (past : List (RelayEntry Number)) : Prop where
  calls : ∀ call ∈ n.requests, ∀ uuid systemId state,
    call.request = .updateSessionDetails uuid systemId state →
      Vouched uuid systemId state past
  rows : ∀ uuid info, n.service.sessions[uuid]? = some info →
    (info.systemId = [] ∧ info.state = text "OPEN") ∨
      Vouched uuid info.systemId info.state past

theorem Reported.step [Transport] [TokenArith Number] {n : State Number}
    {past : List (RelayEntry Number)} (reported : Reported n past)
    (owned : Owned n) (action : Action) :
    Reported (Relay.step n action).1 (past ++ [machine.entry n action]) := by
  refine ⟨?_, ?_⟩
  · intro call member uuid systemId state isUpdate
    cases step_asked n action call member with
    | before old =>
        exact (reported.calls call old uuid systemId state isUpdate).later _
    | launch fd clientIp launched isConnect asks =>
        rw [asks] at isUpdate
        cases isUpdate
    | session peer handler running isHandle ran sent found arrives =>
        rw [isUpdate] at arrives
        cases Request.arrived_of_arrives arrives with
        | updateSessionDetails _ given _ _ carries =>
            have isUuid := request_own found uuid given state rfl
            have isSender := owned.sessions call.sender peer running
            rw [← isSender, ← isUuid] at running ran
            obtain ⟨effect, isEffect, isRequest⟩ :=
              List.exists_of_findSome?_eq_some found
            have reports : SmppSession.Effect.callUpdateSessionDetails uuid
                given state ∈
                  (SmppSession.step peer.session handler.val).2 := by
              cases effect <;> cases isRequest
              exact isEffect
            obtain ⟨login, isId, isState, binds⟩ :=
              binds_of_update ran (by rw [running]; rfl) reports
            rw [← isId] at carries
            exact ⟨login, carries, isState, _,
              List.mem_append_right _ List.mem_cons_self, binds⟩
  · intro uuid info now
    have later : ∀ earlier, n.service.sessions[uuid]? = some earlier →
        earlier.systemId = info.systemId → earlier.state = info.state →
          (info.systemId = [] ∧ info.state = text "OPEN") ∨
            Vouched uuid info.systemId info.state
              (past ++ [machine.entry n action]) := by
      intro earlier was sameId sameState
      rcases reported.rows uuid earlier was with blank | vouched
      · rw [sameId, sameState] at blank
        exact Or.inl blank
      · rw [sameId, sameState] at vouched
        exact Or.inr (vouched.later _)
    cases step_rowMoved n action uuid with
    | same unmoved => exact later info (unmoved.symm.trans now) rfl rfl
    | opened fd clientIp launched isConnect new isRow =>
        rw [isRow] at now
        cases now
        exact Or.inl ⟨rfl, rfl⟩
    | updated call member systemId state isUpdate isRow =>
        rw [isRow, Option.map_eq_some_iff] at now
        obtain ⟨earlier, was, isInfo⟩ := now
        cases isInfo
        exact Or.inr ((reported.calls call member uuid systemId state
          isUpdate).later _)

theorem reported_of_run [Transport] (Number : Type) [TokenArith Number]
    (maxPerIp : UInt32) (actions : List Action) :
    Reported (machine.final (create maxPerIp : State Number) actions)
      (machine.history (create maxPerIp) actions) := by
  have both := machine.history_rule
    (fun (n : State Number) past => Owned n ∧ Reported n past)
    (create maxPerIp)
    (by
      refine ⟨owned_of_run Number maxPerIp [], ?_, ?_⟩
      · intro call member
        cases member
      · intro uuid info found
        simp [create, SmppServerService.create] at found)
    (fun n past action both =>
      ⟨both.1.step action, both.2.step both.1 action⟩)
    actions
  exact both.2

end OpenSmsc.Relay
