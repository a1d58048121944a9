/-
The network together with the authenticator.

Every `Authenticate` call of a session is answered by the credentials the
authenticator holds at that moment, or fails; the credentials change with every
reload of a file that parses.  Whatever is reloaded in between, a message
reaches nobody unless its sender and its receiver have logged in, each with a
password that the file in force at the time gave to its system id.  System ids
and passwords are what the bus makes of those the peers sent.
-/

import OpenSmsc.Authenticator.Reload
import OpenSmsc.Client.Life
import OpenSmsc.Network.RelayLoss
import OpenSmsc.Network.RelayWire

namespace OpenSmsc.Gateway

open Foundation
open Relay (Transport)
open SmppSession (TokenArith BindKind Login)
open CredentialsStore (Credentials Document LastEntry)

/-! ### The machine -/

structure State (Number : Type) where
  relay : Relay.State Number
  store : Credentials

def create {Number : Type} (maxPerIp : UInt32) (initial : Document) :
    State Number :=
  { relay := Relay.create maxPerIp
    store := initial.table }

inductive Action where
  | relay (action : Relay.Action)
  | reloadCredentials (file : Option Document)

section Machine

variable {Number : Type} [Transport]

/-- The answers of the authenticator for the time of one handler.  A call
that fails still fails, and so does one that cannot be sent. -/
def answeredBy (store : Credentials) (env : SmppSession.Env) :
    SmppSession.Env :=
  { env with
    authenticate := fun uuid systemId password sourceIp =>
      match Transport.carries systemId, Transport.carries password with
      | some arrivedId, some arrivedPassword =>
          (env.authenticate uuid systemId password sourceIp).map fun _ =>
            AuthService.authenticate store uuid arrivedId arrivedPassword
              sourceIp
      | _, _ => none }

def eventWith (store : Credentials) : SmppSession.Event → SmppSession.Event
  | .onHeader env completion => .onHeader (answeredBy store env) completion
  | .onBody env hdr completion =>
      .onBody (answeredBy store env) hdr completion
  | event => event

theorem onIoThread_eventWith (store : Credentials)
    (event : SmppSession.Event) :
    SmppSession.onIoThread (eventWith store event) =
      SmppSession.onIoThread event := by
  cases event <;> rfl

def handlerWith (store : Credentials) (handler : SmppSession.IoCall) :
    SmppSession.IoCall :=
  ⟨eventWith store handler.val,
    (onIoThread_eventWith store handler.val).trans handler.property⟩

def actionWith (store : Credentials) : Relay.Action → Relay.Action
  | .handle uuid handler => .handle uuid (handlerWith store handler)
  | action => action

variable [TokenArith Number]

def step (n : State Number) :
    Action → State Number × List Relay.Observed
  | .relay action =>
      let (relay, observed) := Relay.step n.relay (actionWith n.store action)
      ({ n with relay := relay }, observed)
  | .reloadCredentials file =>
      ({ n with store := (AuthService.reloadCredentials file n.store).2 }, [])

def machine : Machine (State Number) Action Relay.Observed :=
  { step := step }

/-! ### Its two parts -/

abbrev GatewayEntry (Number : Type) :=
  Machine.Entry (State Number) Action Relay.Observed

def relayActs (n : State Number) : Action → List Relay.Action
  | .relay action => [actionWith n.store action]
  | .reloadCredentials _ => []

def authActs (_n : State Number) : Action → List AuthService.Event
  | .relay _ => []
  | .reloadCredentials file => [.reloadCredentials file]

def reloads (past : List (GatewayEntry Number)) : List AuthService.Event :=
  Machine.actsOf authActs past

theorem relay_step (n : State Number)
    (action : Action) :
    (machine.step n action).1.relay =
      Relay.machine.final n.relay (relayActs n action) := by
  cases action with
  | relay action => rfl
  | reloadCredentials file => rfl

theorem relay_final (start : State Number)
    (actions : List Action) :
    (machine.final start actions).relay =
      Relay.machine.final start.relay
        (Machine.actsOf relayActs (machine.history start actions)) :=
  machine.component_final_rule relayActs Relay.machine State.relay relay_step
    start actions

theorem store_final (maxPerIp : UInt32)
    (initial : Document) (actions : List Action) :
    (machine.final (create maxPerIp initial : State Number) actions).store =
      (AuthService.lastGoodFile initial (reloads
        (machine.history (create maxPerIp initial : State Number)
          actions))).table := by
  have follows := machine.component_final_rule authActs AuthService.machine
    State.store
    (by
      intro n action
      cases action with
      | relay action => rfl
      | reloadCredentials file => rfl)
    (create maxPerIp initial : State Number) actions
  exact follows.trans (AuthService.store_follows_lastGoodFile initial _)

/-! ### Logins -/

/-- At some step the process ran a bind of this kind that was accepted, and
the last credentials file that had parsed by then gave the bind's password to
its system id, as both arrive at the authenticator. -/
def LoggedIn (initial : Document) (past : List (GatewayEntry Number))
    (uuid : Octets) (kind : BindKind) (systemId : Octets) : Prop :=
  ∃ before entry after, past = before ++ entry :: after ∧
    ∃ (action : Relay.Action) (login : Login) (password : Octets),
      entry.event = .relay action ∧
        Relay.Binds uuid login (Relay.machine.entry entry.before.relay
          (actionWith entry.before.store action)) ∧
        login.kind = kind ∧
        Transport.carries login.systemId = some systemId ∧
        Transport.carries login.password = some password ∧
        LastEntry systemId password
          (AuthService.lastGoodFile initial (reloads before))

omit [TokenArith Number] in
theorem dispatched_eventWith (store : Credentials)
    (event : SmppSession.Event) :
    SmppSession.dispatched (eventWith store event) =
      (SmppSession.dispatched event).map fun pdu =>
        (answeredBy store pdu.1, pdu.2) := by
  cases event with
  | onHeader env completion =>
      cases completion with
      | error message => rfl
      | ok headerBuf =>
          simp only [eventWith, SmppSession.dispatched]
          split
          · rfl
          · rfl
  | onBody env hdr completion =>
      cases completion with
      | error message => rfl
      | ok body => rfl
  | onEnquireLinkTimer failed => rfl
  | onEnquireLinkTimeout failed => rfl
  | disconnect reason => rfl
  | deliverSm srcAddr dstAddr shortMessage => rfl
  | getSessionInfo => rfl

omit [TokenArith Number] in
theorem stored_of_makes {uuid clientIp : Octets} {login : Login}
    {store : Credentials} {event : SmppSession.Event}
    (makes : SmppSession.Makes uuid clientIp login (eventWith store event)) :
    ∃ systemId password,
      Transport.carries login.systemId = some systemId ∧
        Transport.carries login.password = some password ∧
        store[systemId]? = some password := by
  obtain ⟨env, hdr, body, pdu, _, _, accepted, _⟩ := makes
  rw [dispatched_eventWith, Option.map_eq_some_iff] at pdu
  obtain ⟨⟨given, sameHdr, sameBody⟩, _, isPdu⟩ := pdu
  cases isPdu
  simp only [answeredBy] at accepted
  split at accepted
  · rename_i systemId password idArrives passwordArrives
    obtain ⟨_, _, answer⟩ := Option.map_eq_some_iff.mp accepted
    exact ⟨systemId, password, idArrives, passwordArrives,
      (CredentialsStore.authenticate_ok_iff store systemId password).mp
        (congrArg Prod.fst answer)⟩
  · cases accepted

/-! ### Runs -/

section Runs

variable (maxPerIp : UInt32) (initial : Document) (actions : List Action)

variable (Number) in
theorem loggedIn_of_binds {uuid : Octets} {login : Login}
    {relayed : Relay.RelayEntry Number}
    (member : relayed ∈ Relay.machine.history (Relay.create maxPerIp)
      (Machine.actsOf relayActs
        (machine.history (create maxPerIp initial : State Number) actions)))
    (binds : Relay.Binds uuid login relayed) :
    ∃ systemId, Transport.carries login.systemId = some systemId ∧
      LoggedIn initial
        (machine.history (create maxPerIp initial : State Number) actions)
        uuid login.kind systemId := by
  have isRelay := machine.component_history_rule relayActs Relay.machine
    State.relay relay_step (create maxPerIp initial : State Number) actions
  change Relay.machine.history (Relay.create maxPerIp) _ = _ at isRelay
  rw [isRelay] at member
  obtain ⟨entry, inPast, inEntry⟩ := List.mem_flatMap.mp member
  obtain ⟨before, after, split⟩ := List.append_of_mem inPast
  obtain ⟨earlier, taken, later, _, isBefore, isEntry⟩ :=
    machine.history_split _ actions split
  have store : entry.before.store =
      (AuthService.lastGoodFile initial (reloads before)).table := by
    rw [← isEntry, ← isBefore]
    exact store_final maxPerIp initial earlier
  generalize isAction : entry.event = action at inEntry
  cases action with
  | reloadCredentials file => cases inEntry
  | relay action =>
      rw [List.mem_singleton.mp inEntry] at binds
      have atStep := binds
      obtain ⟨handler, peer, bound, isHandle, _, _, _, makes, _⟩ := atStep
      cases action with
      | handle other asked =>
          have sameHandler := (Relay.Action.handle.inj isHandle).2
          rw [← sameHandler] at makes
          obtain ⟨systemId, password, idArrives, passwordArrives, stored⟩ :=
            stored_of_makes makes
          refine ⟨systemId, idArrives, before, entry, after, split, _, login,
            password, isAction, binds, rfl, idArrives, passwordArrives, ?_⟩
          rw [store] at stored
          exact (CredentialsStore.lookup_table_iff _ _ _).mp stored
      | connect other fd clientIp launched => cases isHandle
      | serve steadyClock sender => cases isHandle
      | execute target => cases isHandle
      | giveUp other => cases isHandle
      | giveUpDelivery => cases isHandle
      | terminate other => cases isHandle
      | setMaxConnectionsPerIp ip max => cases isHandle

/-- Every row that `GetAllSessions` returns says of its session that it is
open and anonymous, or gives the system id and the kind of a bind that this
session has run and that was accepted. -/
theorem rows_authorised :
    let n : State Number := machine.final (create maxPerIp initial) actions
    ∀ row ∈ SmppServerService.getAllSessions n.relay.service,
      (row.2.2.1 = [] ∧ row.2.2.2 = text "OPEN") ∨
        ∃ kind : BindKind,
          row.2.2.2 = SmppSession.stateName kind.state ∧
            LoggedIn initial
              (machine.history (create maxPerIp initial : State Number)
                actions)
              row.1 kind row.2.2.1 := by
  intro n row member
  obtain ⟨⟨uuid, info⟩, inTable, isRow⟩ := List.mem_map.mp member
  have isRelay : n.relay = Relay.machine.final (Relay.create maxPerIp)
      (Machine.actsOf relayActs
        (machine.history (create maxPerIp initial : State Number)
          actions)) :=
    relay_final (create maxPerIp initial) actions
  have reported := Relay.reported_of_run Number maxPerIp
    (Machine.actsOf relayActs
      (machine.history (create maxPerIp initial : State Number) actions))
  rw [← isRelay] at reported
  rw [← isRow]
  rcases reported.rows uuid info
      (Std.TreeMap.mem_toList_iff_getElem?_eq_some.mp inTable) with
    blank | ⟨login, isId, isState, bind, inPast, binds⟩
  · exact Or.inl blank
  · obtain ⟨systemId, idArrives, loggedIn⟩ :=
      loggedIn_of_binds Number maxPerIp initial actions inPast binds
    cases isId.symm.trans idArrives
    exact Or.inr ⟨login.kind, isState.symm, loggedIn⟩

theorem loggedIn_of_bound {uuid : Octets} {kinds : BindKind → Prop}
    (bound : ∃ login : Login, kinds login.kind ∧
      ∃ entry ∈ Relay.machine.history
          (Relay.create maxPerIp : Relay.State Number)
          (Machine.actsOf relayActs (machine.history
            (create maxPerIp initial : State Number) actions)),
        Relay.Binds uuid login entry) :
    ∃ kind systemId, kinds kind ∧
      LoggedIn initial
        (machine.history (create maxPerIp initial : State Number) actions)
        uuid kind systemId := by
  obtain ⟨login, isKind, entry, member, binds⟩ := bound
  obtain ⟨systemId, _, loggedIn⟩ :=
    loggedIn_of_binds Number maxPerIp initial actions member binds
  exact ⟨login.kind, systemId, isKind, loggedIn⟩

variable (Number) in
theorem binds_before_delivers (taken : List Relay.Action)
    (action : Relay.Action) {delivery : Relay.Delivery}
    {outputs : List SmppSession.Effect}
    (delivers : Relay.Observed.delivers delivery outputs ∈
      (Relay.step (Relay.machine.final
        (Relay.create maxPerIp : Relay.State Number) taken) action).2) :
    (∃ login : Login,
      (login.kind = .transmitter ∨ login.kind = .transceiver) ∧
        ∃ entry ∈ Relay.machine.history
            (Relay.create maxPerIp : Relay.State Number) taken,
          Relay.Binds delivery.sender login entry) ∧
      ∀ pdu, SmppSession.Effect.sendPdu pdu ∈ outputs →
        ∃ login : Login,
          (login.kind = .receiver ∨ login.kind = .transceiver) ∧
            ∃ entry ∈ Relay.machine.history
                (Relay.create maxPerIp : Relay.State Number) taken,
              Relay.Binds delivery.target login entry := by
  refine ⟨?_, ?_⟩
  · have emitted : Relay.Observed.delivers delivery outputs ∈
        Relay.machine.emitted (Relay.create maxPerIp : Relay.State Number)
          (taken ++ [action]) := by
      rw [Machine.emitted_concat]
      exact List.mem_append_right _ delivers
    obtain ⟨_, _, _, _, hands, _⟩ :=
      Relay.hands_of_delivers Number maxPerIp _ emitted
    exact Relay.binds_before_hands Number maxPerIp taken action hands
  · intro pdu sends
    have serves : Relay.Shown.serves delivery.srcAddr delivery.dstAddr
        delivery.shortMessage outputs ∈ Relay.shownBy delivery.target
          (Relay.step (Relay.machine.final
            (Relay.create maxPerIp : Relay.State Number) taken) action).2 :=
      List.mem_filterMap.mpr ⟨_, delivers,
        by simp [Relay.Observed.shownOf]⟩
    exact Relay.binds_before_serves Number maxPerIp taken action serves sends

/-- Every message anybody is handed comes from a session that had logged in
as a transmitter or a transceiver by then, and is sent on only by one that had
logged in as a receiver or a transceiver.  Each of them presented the password
that the credentials file in force at the time of its bind had for its system
id, whatever was reloaded before and after. -/
theorem messages_authorised (before after : List (GatewayEntry Number))
    (entry : GatewayEntry Number)
    (split : machine.history (create maxPerIp initial : State Number)
      actions = before ++ entry :: after)
    (delivery : Relay.Delivery) (outputs : List SmppSession.Effect)
    (delivers : Relay.Observed.delivers delivery outputs ∈ entry.outputs) :
    (∃ kind systemId, (kind = .transmitter ∨ kind = .transceiver) ∧
        LoggedIn initial before delivery.sender kind systemId) ∧
      ∀ pdu, SmppSession.Effect.sendPdu pdu ∈ outputs →
        ∃ kind systemId, (kind = .receiver ∨ kind = .transceiver) ∧
          LoggedIn initial before delivery.target kind systemId := by
  obtain ⟨earlier, taken, later, _, isBefore, isEntry⟩ :=
    machine.history_split _ actions split
  subst isBefore isEntry
  cases taken with
  | reloadCredentials file => cases delivers
  | relay action =>
      have isRelay : (machine.final
          (create maxPerIp initial : State Number) earlier).relay =
            Relay.machine.final (Relay.create maxPerIp)
              (Machine.actsOf relayActs (machine.history
                (create maxPerIp initial : State Number) earlier)) :=
        relay_final _ earlier
      change _ ∈ (Relay.step (machine.final
        (create maxPerIp initial : State Number) earlier).relay _).2
          at delivers
      rw [isRelay] at delivers
      obtain ⟨senderBinds, targetBinds⟩ :=
        binds_before_delivers Number maxPerIp _ _ delivers
      refine ⟨loggedIn_of_bound maxPerIp initial earlier senderBinds, ?_⟩
      intro pdu sends
      exact loggedIn_of_bound maxPerIp initial earlier
        (targetBinds pdu sends)

end Runs

end Machine

def oneUser : Document :=
  { credentials := some
      [.table (some (text "user")) (some (text "secret"))] }

def ownMessage : List Action :=
  (Relay.connectAndBind (text "a1") Smpp.bindTransceiver ++
    Relay.submit (text "a1") ++
    [Relay.Action.execute (text "a1")]).map .relay

theorem rows_authorised_own :
    letI := Relay.asciiTransport
    let n : State Float := machine.final (create 5 oneUser) ownMessage
    SmppServerService.getAllSessions n.relay.service =
        [(text "a1", text "10.0.0.1", text "user", text "BOUND_TRX")] ∧
      ∃ kind : BindKind,
        text "BOUND_TRX" = SmppSession.stateName kind.state ∧
          LoggedIn oneUser
            (machine.history (create 5 oneUser : State Float) ownMessage)
            (text "a1") kind (text "user") := by
  intro n
  let := Relay.asciiTransport
  have rows : SmppServerService.getAllSessions n.relay.service =
      [(text "a1", text "10.0.0.1", text "user", text "BOUND_TRX")] := by
    decide +kernel
  refine ⟨rows, ?_⟩
  rcases rows_authorised 5 oneUser ownMessage
      (text "a1", text "10.0.0.1", text "user", text "BOUND_TRX")
      (rows ▸ List.mem_singleton_self _) with ⟨anonymous, _⟩ | loggedIn
  · cases anonymous
  · exact loggedIn

theorem messages_authorised_own :
    letI := Relay.asciiTransport
    ∃ before entry after,
      machine.history (create 5 oneUser : State Float) ownMessage =
          before ++ entry :: after ∧
        ∃ delivery outputs,
          Relay.Observed.delivers delivery outputs ∈ entry.outputs ∧
            delivery.sender = text "a1" ∧
            ∃ kind systemId, (kind = .transmitter ∨ kind = .transceiver) ∧
              LoggedIn oneUser before delivery.sender kind systemId := by
  let := Relay.asciiTransport
  have served : (Relay.executions (machine.emitted
      (create 5 oneUser : State Float) ownMessage)).map
        Relay.Delivery.sender = [text "a1"] := by
    decide +kernel
  obtain ⟨delivery, isServed, isSender⟩ :=
    List.mem_map.mp (served ▸ List.mem_singleton_self (text "a1"))
  obtain ⟨seen, member, isDelivery⟩ := List.mem_filterMap.mp isServed
  obtain ⟨entry, inPast, isOutput⟩ := List.mem_flatMap.mp member
  obtain ⟨before, after, split⟩ := List.append_of_mem inPast
  cases seen with
  | routes sender serial srcAddr dstAddr shortMessage messageId =>
      cases isDelivery
  | delivers other outputs =>
      cases isDelivery
      exact ⟨before, entry, after, split, delivery, outputs, isOutput,
        isSender, (messages_authorised 5 oneUser ownMessage before after
          entry split delivery outputs isOutput).1⟩

end OpenSmsc.Gateway
