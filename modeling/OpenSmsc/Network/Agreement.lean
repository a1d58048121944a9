/-
The session table against the sessions.

Per uuid the network goes through a small protocol: launch, claim, open
session, bind, update.  As long as sessions only come and bind, the table
shows exactly the live sessions whenever no message is under way.  The server
has no reaction to the end of a session, so the first session that ends stays
in the table.
-/

import OpenSmsc.Client.Ending
import OpenSmsc.Network.Processes

namespace OpenSmsc.Network

open Foundation
open SmppSession (Session TokenArith stateName)

variable {Number : Type}

/-- With nothing under way, the rows are the live sessions. -/
def Agrees (n : State Number) : Prop :=
  n.inFlight = [] →
    ∀ uuid clientIp systemId state,
      (uuid, clientIp, systemId, state) ∈
          SmppServerService.getAllSessions n.server ↔
        ∃ s, n.handlers[uuid]? = some (.running s) ∧ s.state ≠ .unbound ∧
          clientIp = s.clientIp ∧ systemId = s.systemId ∧
          state = stateName s.state

/-! ### The protocol of one session -/

def infoOf (s : Session Number) : SmppServerService.SessionInfo :=
  { clientIp := s.clientIp
    systemId := s.systemId
    state := stateName s.state }

def openInfo (clientIp : Octets) : SmppServerService.SessionInfo :=
  { clientIp := clientIp
    systemId := []
    state := text "OPEN" }

/-- The stages of a uuid as long as no session ends: never seen; refused but
launched, up to the end of the process; admitted, claimed, listed as it is,
and bound with the update under way. -/
inductive Link (uuid : Octets) : View Number → Prop
  | unused :
      Link uuid
        { row := none
          pending := none
          handler := none
          messages := [] }
  | refused (clientIp : Octets) :
      Link uuid
        { row := none
          pending := none
          handler := some (.starting clientIp)
          messages := [.getSocket uuid] }
  | turnedAway (clientIp : Octets) :
      Link uuid
        { row := none
          pending := none
          handler := some (.starting clientIp)
          messages := [.socketReply uuid none] }
  | gone :
      Link uuid
        { row := none
          pending := none
          handler := some .exited
          messages := [] }
  | admitted (clientIp : Octets) (entry : ConnectionRegistry.SessionEntry) :
      Link uuid
        { row := some (openInfo clientIp)
          pending := some entry
          handler := some (.starting clientIp)
          messages := [.getSocket uuid] }
  | claimed (clientIp : Octets) (fd : Int) :
      Link uuid
        { row := some (openInfo clientIp)
          pending := none
          handler := some (.starting clientIp)
          messages := [.socketReply uuid (some fd)] }
  | listed (s : Session Number) (own : s.uuid = uuid)
      (live : s.state ≠ .unbound) :
      Link uuid
        { row := some (infoOf s)
          pending := none
          handler := some (.running s)
          messages := [] }
  | updating (s : Session Number) (info : SmppServerService.SessionInfo)
      (own : s.uuid = uuid) (live : s.state ≠ .unbound)
      (bound : s.state ≠ .opened) (sameIp : info.clientIp = s.clientIp) :
      Link uuid
        { row := some info
          pending := none
          handler := some (.running s)
          messages := [.updateSessionDetails uuid s.systemId
            (stateName s.state)] }

def Linked (n : State Number) : Prop :=
  ∀ uuid, Link uuid (view uuid n)

theorem Linked.step_at {n after : State Number} (linked : Linked n)
    (uuid : Octets) (frame : AffectsOnly uuid n after)
    (link : Link uuid (view uuid after)) : Linked after := by
  intro other
  by_cases same : uuid = other
  · subst same
    exact link
  · rw [frame other same]
    exact linked other

theorem create_linked (maxPerIp : UInt32) :
    Linked (create maxPerIp : State Number) := by
  intro uuid
  exact .unused

theorem Linked.unused_of_isNew {n : State Number} (linked : Linked n)
    {uuid : Octets} (new : isNew uuid n = true) :
    view uuid n =
      { row := none
        pending := none
        handler := none
        messages := [] } := by
  have noHandler : (view uuid n).handler = none := by
    unfold isNew isUnused at new
    rw [Bool.and_eq_true, Bool.and_eq_true] at new
    exact Option.isNone_iff_eq_none.mp new.1.1
  have link := linked uuid
  generalize view uuid n = seen at link noHandler
  cases link with
  | unused => rfl
  | refused ip => contradiction
  | turnedAway ip => contradiction
  | gone => contradiction
  | admitted ip entry => contradiction
  | claimed ip fd => contradiction
  | listed s own live => contradiction
  | updating s info own live bound sameIp => contradiction

theorem Linked.agrees {n : State Number} (linked : Linked n) : Agrees n := by
  intro quiet uuid clientIp systemId state
  rw [SmppServerService.mem_getAllSessions]
  have silent : (view uuid n).messages = [] := by
    simp only [view, quiet, List.filter_nil]
  have link := linked uuid
  have rowEq : (view uuid n).row = n.server.sessions[uuid]? := rfl
  have handlerEq : (view uuid n).handler = n.handlers[uuid]? := rfl
  rw [← rowEq, ← handlerEq]
  generalize view uuid n = seen at link silent
  cases link with
  | unused => simp
  | refused ip => contradiction
  | turnedAway ip => contradiction
  | gone => simp
  | admitted ip entry => contradiction
  | claimed ip fd => contradiction
  | updating s info own live bound sameIp => contradiction
  | listed s own live =>
      constructor
      · intro row
        cases row
        exact ⟨s, rfl, live, rfl, rfl, rfl⟩
      · rintro ⟨other, running, _, rfl, rfl, rfl⟩
        cases running
        rfl

/-! ### Steps that end no session -/

section Steps

variable [TokenArith Number]

/-- The step ends no live session and loses none of the messages that set up
the table: a launch fails only for a refused connection, no process of a live
or starting session is killed, and only the signal of an ended session gets
lost. -/
def undisturbed (n : State Number) : Action → Bool
  | .connect _ _ clientIp launched =>
      launched || decide (n.server.registry.maxPerIp ≤
        ConnectionRegistry.count clientIp n.server.registry)
  | .deliver _ _ => true
  | .fail index =>
      match n.inFlight[index]? with
      | none => true
      | some (.sessionExited _ _) => true
      | some _ => false
  | .session uuid event =>
      match n.handlers[uuid]? with
      | some (.running s) =>
          decide (s.state = .unbound) || !SmppSession.eventEnds s event
      | _ => true
  | .terminate uuid =>
      match n.handlers[uuid]? with
      | some (.starting _) => false
      | some (.running s) => decide (s.state = .unbound)
      | _ => true
  | .setMaxConnectionsPerIp _ _ => true

omit [TokenArith Number] in
theorem Linked.connect {n : State Number} (linked : Linked n)
    (uuid : Octets) (fd : Int) (clientIp : Octets) (launched : Bool)
    (kept : launched = true ∨ n.server.registry.maxPerIp ≤
      ConnectionRegistry.count clientIp n.server.registry) :
    Linked (connect uuid fd clientIp launched n) := by
  cases new : isNew uuid n with
  | false =>
      unfold Network.connect handleConnection
      rw [new]
      exact linked
  | true =>
      refine linked.step_at uuid
        (connect_affectsOnly uuid fd clientIp launched n new) ?_
      have unusedBefore := linked.unused_of_isNew new
      have noRow : n.server.sessions[uuid]? = none :=
        congrArg View.row unusedBefore
      have noPending : n.server.registry.sessions[uuid]? = none :=
        congrArg View.pending unusedBefore
      by_cases full : n.server.registry.maxPerIp ≤
          ConnectionRegistry.count clientIp n.server.registry
      · obtain ⟨rows, pending⟩ := SmppServerService.registerSession_refused
          uuid fd clientIp n.server full
        cases launched with
        | false =>
            rw [connect_not_launched uuid fd clientIp n new]
            have same : view uuid
                { n with
                  server := (SmppServerService.registerSession uuid fd
                    clientIp n.server).1 } = view uuid n := by
              simp only [view, rows, pending]
            rw [same, unusedBefore]
            exact .unused
        | true =>
            rw [view_connect_launched uuid fd clientIp n new, rows, pending,
              noRow, noPending, unusedBefore]
            exact .refused clientIp
      · obtain ⟨rows, pending⟩ := SmppServerService.registerSession_admitted
          uuid fd clientIp n.server (UInt32.not_le.mp full)
        have isLaunched : launched = true := kept.resolve_right full
        rw [isLaunched, view_connect_launched uuid fd clientIp n new, rows,
          pending, Table.lookup_insert_self, Table.lookup_insert_self,
          unusedBefore]
        exact .admitted clientIp _

theorem Linked.deliver {n : State Number} (linked : Linked n) (index : Nat)
    (message : Message) (found : n.inFlight[index]? = some message)
    (steadyClock : Int) :
    Linked (receive steadyClock message
      { n with inFlight := n.inFlight.eraseIdx index }) := by
  obtain ⟨uuid, about⟩ : ∃ uuid, message.uuid = uuid := ⟨_, rfl⟩
  obtain ⟨taken, member, single⟩ :=
    view_eraseIdx n index message uuid found about
  have received := receive_affectsOnly steadyClock message
    { n with inFlight := n.inFlight.eraseIdx index }
  rw [about] at received
  refine linked.step_at uuid (taken.trans received) ?_
  -- The stage of the session tells which message was taken out.
  have link := linked uuid
  generalize view uuid n = before at link member single
  cases link with
  | unused => contradiction
  | gone => contradiction
  | listed s own live => contradiction
  | refused ip =>
      obtain ⟨rfl, rest⟩ := single _ rfl
      rw [(view_receive_getSocket steadyClock uuid _).2, rest]
      exact .turnedAway ip
  | admitted ip entry =>
      obtain ⟨rfl, rest⟩ := single _ rfl
      rw [(view_receive_getSocket steadyClock uuid _).2, rest]
      exact .claimed ip entry.fd
  | turnedAway ip =>
      obtain ⟨rfl, rest⟩ := single _ rfl
      rw [(view_receive_socketReply steadyClock uuid ip none _
        (by rw [rest])).2, rest]
      exact .gone
  | claimed ip fd =>
      obtain ⟨rfl, rest⟩ := single _ rfl
      rw [(view_receive_socketReply steadyClock uuid ip (some fd) _
        (by rw [rest])).2, rest]
      have opened : SmppSession.SessionState.opened ≠ .unbound := by decide
      exact .listed (SmppSession.create
        { uuid := uuid
          clientIp := ip
          constructedAt := steadyClock }) rfl opened
  | updating s info own live bound sameIp =>
      obtain ⟨rfl, rest⟩ := single _ rfl
      rw [(view_receive_updateSessionDetails steadyClock uuid s.systemId
        (stateName s.state) _).2, rest]
      rcases info with ⟨clientIp, oldSystemId, oldState⟩
      change clientIp = s.clientIp at sameIp
      subst sameIp
      exact .listed s own live

omit [TokenArith Number] in
theorem filterMap_messageOf (outputs : List SmppSession.Effect) :
    outputs.filterMap messageOf =
      (SmppSession.notices outputs).filterMap messageOf := by
  unfold SmppSession.notices
  rw [List.filterMap_filter]
  refine List.filterMap_congr ?_
  intro effect _
  cases effect <;> rfl

omit [TokenArith Number] in
theorem Linked.of_running {n : State Number} (linked : Linked n)
    {uuid : Octets} {s : Session Number}
    (running : n.handlers[uuid]? = some (.running s)) :
    s.uuid = uuid ∧ s.state ≠ .unbound ∧
      (view uuid n =
          { row := some (infoOf s)
            pending := none
            handler := some (.running s)
            messages := [] } ∨
        ∃ info : SmppServerService.SessionInfo,
          info.clientIp = s.clientIp ∧ s.state ≠ .opened ∧
            view uuid n =
              { row := some info
                pending := none
                handler := some (.running s)
                messages := [.updateSessionDetails uuid s.systemId
                  (stateName s.state)] }) := by
  have process : (view uuid n).handler = some (.running s) := running
  have link := linked uuid
  generalize view uuid n = seen at link process
  cases link with
  | unused => cases process
  | refused ip => cases process
  | turnedAway ip => cases process
  | gone => cases process
  | admitted ip entry => cases process
  | claimed ip fd => cases process
  | listed t own live =>
      cases process
      exact ⟨own, live, Or.inl rfl⟩
  | updating t info own live bound sameIp =>
      cases process
      exact ⟨own, live, Or.inr ⟨info, sameIp, bound, rfl⟩⟩

omit [TokenArith Number] in
theorem Linked.session {n : State Number} (linked : Linked n)
    {uuid : Octets} {s next : Session Number}
    (running : n.handlers[uuid]? = some (.running s))
    {event : SmppSession.Event} {outputs : List SmppSession.Effect}
    (change : SmppSession.Change s event next outputs)
    (fixed : next.fixed = s.fixed)
    (lives : s.state = .unbound ∨ next.state ≠ .unbound) :
    Linked
      { n with
        handlers := n.handlers.insert uuid (.running next)
        inFlight := n.inFlight ++ outputs.filterMap messageOf } := by
  obtain ⟨own, live, stage⟩ := linked.of_running running
  have sameUuid : next.uuid = uuid := (congrArg (·.1) fixed).trans own
  have sameIp : next.clientIp = s.clientIp := congrArg (·.2.1) fixed
  have nextLive : next.state ≠ .unbound := lives.resolve_left live
  rw [filterMap_messageOf]
  cases change with
  | kept state systemId bindTime silent =>
      rw [silent]
      obtain ⟨frame, after⟩ := view_session uuid next [] n (by simp)
      refine linked.step_at uuid frame ?_
      rw [List.filterMap_nil, after]
      rcases stage with seen | ⟨info, infoIp, bound, seen⟩
      · have sameInfo : infoOf s = infoOf next := by
          simp only [infoOf, state, systemId, sameIp]
        rw [seen, sameInfo]
        exact .listed next sameUuid nextLive
      · rw [seen, ← systemId, ← state]
        exact .updating next info sameUuid nextLive (state ▸ bound)
          (infoIp.trans sameIp.symm)
  | bound env hdr body pass code pdu isBind wasOpen state accepted notice =>
      rcases stage with seen | ⟨info, infoIp, bound, seen⟩
      · have sent : [SmppSession.Effect.callUpdateSessionDetails s.uuid
              next.systemId (stateName next.state)].filterMap messageOf =
            [.updateSessionDetails s.uuid next.systemId
              (stateName next.state)] := rfl
        rw [notice, sent]
        obtain ⟨frame, after⟩ := view_session uuid next
          [.updateSessionDetails s.uuid next.systemId
            (stateName next.state)] n
          (by
            intro message member
            rw [List.mem_singleton.mp member]
            exact own)
        refine linked.step_at uuid frame ?_
        obtain ⟨kind, isKind⟩ := SmppSession.exists_kind_of_isBind
          hdr.commandId isBind
        have isBound : next.state ≠ .opened := by
          rw [state, isKind, kind.boundState_eq]
          exact kind.state_ne_opened
        rw [after, seen, own]
        exact .updating next (infoOf s) sameUuid nextLive isBound
          sameIp.symm
      · exact absurd wasOpen bound
  | ended reason wasLive state systemId bindTime notice =>
      exact absurd state nextLive

omit [TokenArith Number] in
theorem Linked.no_sessionExited {n : State Number} (linked : Linked n)
    (index : Nat) (uuid reason : Octets) :
    n.inFlight[index]? ≠ some (.sessionExited uuid reason) := by
  intro found
  have member := (view_eraseIdx n index _ uuid found rfl).2.1
  have link := linked uuid
  generalize view uuid n = seen at link member
  cases link <;> simp at member

theorem Linked.step {n : State Number} (linked : Linked n) (action : Action)
    (kept : undisturbed n action = true) :
    Linked (machine.step n action).1 := by
  cases action with
  | connect uuid fd clientIp launched =>
      refine linked.connect uuid fd clientIp launched ?_
      simpa [undisturbed] using kept
  | deliver index steadyClock =>
      cases found : n.inFlight[index]? with
      | none => simpa only [machine, Network.step, found] using linked
      | some message =>
          simp only [machine, Network.step, found]
          exact linked.deliver index message found steadyClock
  | fail index =>
      cases found : n.inFlight[index]? with
      | none => simpa only [machine, Network.step, found] using linked
      | some message =>
          simp only [undisturbed, found] at kept
          cases message with
          | getSocket uuid => contradiction
          | socketReply uuid fd => contradiction
          | updateSessionDetails uuid systemId state => contradiction
          | sessionExited uuid reason =>
              exact absurd found (linked.no_sessionExited index uuid reason)
  | session uuid event =>
      cases process : n.handlers[uuid]? with
      | none => simpa only [machine, Network.step, process] using linked
      | some handler =>
          cases handler with
          | starting clientIp =>
              simpa only [machine, Network.step, process] using linked
          | exited =>
              simpa only [machine, Network.step, process] using linked
          | running s =>
              simp only [machine, Network.step, process]
              refine linked.session process
                (SmppSession.step_change s event)
                (SmppSession.step_fixed s event) ?_
              rw [or_iff_not_imp_left]
              intro live
              rw [ne_eq, SmppSession.step_ends_iff s event live]
              simpa [undisturbed, process, live] using kept
  | terminate uuid =>
      cases process : n.handlers[uuid]? with
      | none => simpa only [machine, Network.step, process] using linked
      | some handler =>
          simp only [undisturbed, process] at kept
          cases handler with
          | starting clientIp => contradiction
          | running s =>
              exact absurd (of_decide_eq_true kept)
                (linked.of_running process).2.1
          | exited =>
              simp only [machine, Network.step, process]
              obtain ⟨frame, after⟩ := view_exit uuid n
              have unchanged : (view uuid n).handler = some .exited :=
                process
              refine linked.step_at uuid frame ?_
              rw [after, ← unchanged]
              exact linked uuid
  | setMaxConnectionsPerIp ip max => exact linked

theorem linked_of_undisturbed (maxPerIp : UInt32) (actions : List Action)
    (kept : ∀ entry ∈ machine.history (create maxPerIp : State Number)
      actions, undisturbed entry.before entry.event = true) :
    Linked (machine.final (create maxPerIp : State Number) actions) := by
  exact machine.allowed_history_rule
    (fun entry => undisturbed entry.before entry.event = true)
    (fun n _ => Linked n) (create maxPerIp : State Number)
    (create_linked maxPerIp)
    (fun _ _ action linked stepKept => linked.step action stepKept)
    actions kept

/-- In every run whose steps disturb nothing, the table shows exactly the live
sessions whenever no message is under way. -/
theorem sessions_listed_of_undisturbed (maxPerIp : UInt32)
    (actions : List Action)
    (kept : ∀ entry ∈ machine.history (create maxPerIp : State Number)
      actions, undisturbed entry.before entry.event = true) :
    Agrees (machine.final (create maxPerIp : State Number) actions) :=
  (linked_of_undisturbed maxPerIp actions kept).agrees

end Steps

/-! ### A session that ends -/

def sessionState (uuid : Octets) (n : State Number) :
    Option SmppSession.SessionState :=
  match n.handlers[uuid]? with
  | some (.running s) => some s.state
  | _ => none

/-- One connection from its accept to the bind as transmitter, with every
message delivered. -/
def connectAndBind : List Action :=
  let env : SmppSession.Env :=
    { authenticate := fun _ _ _ _ => some (true, Smpp.esmeRok)
      systemClock := 100
      steadyClock := 0 }
  let bind : Smpp.Header :=
    { commandLength := 31
      commandId := Smpp.bindTransmitter
      commandStatus := 0
      sequenceNumber := 1 }
  [.connect (text "a1") 7 (text "10.0.0.1") true,
    .deliver 0 0,
    .deliver 0 0,
    .session (text "a1") (.onHeader env (.ok (Smpp.writeHeader bind))),
    .session (text "a1") (.onBody env bind
      (.ok (text "user" ++ [0] ++ text "secret" ++ [0, 0, 0x34, 0]))),
    .deliver 0 0]

theorem sessions_listed_connectAndBind :
    let n : State Float := machine.final (create 5) connectAndBind
    Agrees n ∧ n.inFlight = [] ∧
      sessionState (text "a1") n = some .boundTx ∧
      SmppServerService.getAllSessions n.server =
        [(text "a1", text "10.0.0.1", text "user", text "BOUND_TX")] := by
  intro n
  refine ⟨sessions_listed_of_undisturbed 5 connectAndBind ?_, ?_, ?_, ?_⟩
  · decide
  · decide
  · decide
  · decide

/-- The same session then unbinds.  Its signal is delivered, nothing is under
way, and the table still lists it as bound. -/
theorem ended_session_stays_listed :
    let env : SmppSession.Env :=
      { authenticate := fun _ _ _ _ => none
        systemClock := 100
        steadyClock := 0 }
    let unbindPdu := Smpp.writeHeader
      { commandLength := 16
        commandId := Smpp.unbind
        commandStatus := 0
        sequenceNumber := 2 }
    let n : State Float := machine.final (create 5)
      (connectAndBind ++
        [.session (text "a1") (.onHeader env (.ok unbindPdu)),
          .deliver 0 0])
    n.inFlight = [] ∧
      sessionState (text "a1") n = some .unbound ∧
      SmppServerService.getAllSessions n.server =
        [(text "a1", text "10.0.0.1", text "user", text "BOUND_TX")] ∧
      ¬Agrees n := by
  intro env unbindPdu n
  have quiet : n.inFlight = [] := by decide
  have ended : sessionState (text "a1") n = some .unbound := by decide
  have rows : SmppServerService.getAllSessions n.server =
      [(text "a1", text "10.0.0.1", text "user", text "BOUND_TX")] := by
    decide
  refine ⟨quiet, ended, rows, ?_⟩
  intro agrees
  obtain ⟨s, running, live, _⟩ := (agrees quiet (text "a1")
    (text "10.0.0.1") (text "user") (text "BOUND_TX")).mp
      (by rw [rows]; exact List.mem_singleton_self _)
  have isState : sessionState (text "a1") n = some s.state := by
    simp only [sessionState, running]
  rw [ended] at isState
  exact live (Option.some.inj isState).symm

end OpenSmsc.Network
