/-
What a session's state says about its past: a bound session was authenticated
for exactly that kind of bind, and only bound sessions move messages.
-/

import OpenSmsc.Client.Outputs

namespace OpenSmsc.SmppSession

open Foundation Smpp

/-! ### Kinds of bind -/

inductive BindKind where
  | transmitter
  | receiver
  | transceiver
  deriving DecidableEq, Repr

def BindKind.commandId : BindKind → UInt32
  | .transmitter => bindTransmitter
  | .receiver => bindReceiver
  | .transceiver => bindTransceiver

def BindKind.state : BindKind → SessionState
  | .transmitter => .boundTx
  | .receiver => .boundRx
  | .transceiver => .boundTrx

theorem BindKind.isBind (kind : BindKind) : IsBind kind.commandId := by
  cases kind <;> decide

theorem BindKind.boundState_eq (kind : BindKind) (state : SessionState) :
    boundState kind.commandId state = kind.state := by
  cases kind <;> rfl

theorem BindKind.state_injective (left right : BindKind)
    (same : left.state = right.state) : left = right := by
  cases left <;> cases right <;> first | rfl | contradiction

theorem BindKind.state_ne_opened (kind : BindKind) :
    kind.state ≠ .opened := by
  cases kind <;> decide

theorem BindKind.state_ne_unbound (kind : BindKind) :
    kind.state ≠ .unbound := by
  cases kind <;> decide

theorem exists_kind_of_isBind (commandId : UInt32)
    (isBind : IsBind commandId) :
    ∃ kind : BindKind, commandId = kind.commandId := by
  rcases isBind with transmitter | receiver | transceiver
  · exact ⟨.transmitter, transmitter⟩
  · exact ⟨.receiver, receiver⟩
  · exact ⟨.transceiver, transceiver⟩

/-! ### The authorisation invariant -/

variable {Number : Type} [TokenArith Number]

abbrev SessionEntry (Number : Type) :=
  Machine.Entry (Session Number) Event Effect

def Authenticated (kind : BindKind) (systemId : Octets)
    (entry : SessionEntry Number) : Prop :=
  ∃ env hdr body pass code,
    dispatched entry.event = some (env, hdr, body) ∧
      hdr.commandId = kind.commandId ∧
      Effect.callAuthenticate entry.before.uuid systemId pass
          entry.before.clientIp (some (true, code)) ∈
        entry.outputs

/-- A bound state has its authenticated bind in the past, and an open session
has no identity yet. -/
structure Authorised (s : Session Number)
    (past : List (SessionEntry Number)) : Prop where
  bound : ∀ kind : BindKind, s.state = kind.state →
    ∃ entry ∈ past, Authenticated kind s.systemId entry
  opened : s.state = .opened → s.systemId = [] ∧ s.bindTime = 0

omit [TokenArith Number] in
private theorem Authorised.unchanged {s after : Session Number}
    {past : List (SessionEntry Number)} (authorised : Authorised s past)
    (entry : SessionEntry Number) (state : after.state = s.state)
    (systemId : after.systemId = s.systemId)
    (bindTime : after.bindTime = s.bindTime) :
    Authorised after (past ++ [entry]) := by
  refine ⟨?_, ?_⟩
  · intro kind atKind
    obtain ⟨earlier, member, accepted⟩ :=
      authorised.bound kind (state.symm.trans atKind)
    rw [systemId]
    exact ⟨earlier, List.mem_append_left _ member, accepted⟩
  · intro isOpen
    rw [systemId, bindTime]
    exact authorised.opened (state.symm.trans isOpen)

theorem Authorised.step {s : Session Number}
    {past : List (SessionEntry Number)} (authorised : Authorised s past)
    (event : Event) :
    Authorised (step s event).1 (past ++ [machine.entry s event]) := by
  cases step_change s event with
  | kept state systemId bindTime silent =>
      exact authorised.unchanged _ state systemId bindTime
  | bound env hdr body pass code pdu isBind wasOpen state accepted notice =>
      obtain ⟨kind, isKind⟩ := exists_kind_of_isBind hdr.commandId isBind
      have boundAs : (SmppSession.step s event).1.state = kind.state := by
        rw [state, isKind, kind.boundState_eq]
      refine ⟨?_, ?_⟩
      · intro other atOther
        have same : kind = other :=
          kind.state_injective other (boundAs.symm.trans atOther)
        subst same
        exact ⟨machine.entry s event, by simp, env, hdr, body, pass, code,
          pdu, isKind, accepted⟩
      · intro isOpen
        exact absurd (boundAs.symm.trans isOpen) kind.state_ne_opened
  | ended reason wasLive state systemId bindTime notice =>
      refine ⟨?_, ?_⟩
      · intro kind atKind
        exact absurd (atKind.symm.trans state) kind.state_ne_unbound
      · intro isOpen
        rw [state] at isOpen
        contradiction

theorem authorised_of_run (config : Config) (events : List Event) :
    Authorised (machine.final (create config : Session Number) events)
      (machine.history (create config) events) :=
  machine.history_rule Authorised (create config)
    ⟨by intro kind atKind; exact absurd atKind.symm kind.state_ne_opened,
      fun _ => ⟨rfl, rfl⟩⟩
    (fun _ _ event authorised => authorised.step event) events

/-! ### The capability checks -/

/-- The step answers a submit_sm with success, or routes a message. -/
def AcceptsSubmit (entry : SessionEntry Number) : Prop :=
  (∃ pdu, Effect.sendPdu pdu ∈ entry.outputs ∧
      (decodeHeader pdu).commandId = submitSmResp ∧
      (decodeHeader pdu).commandStatus = esmeRok) ∨
    ∃ srcAddr dstAddr shortMessage messageId,
      Effect.callRouteMessage srcAddr dstAddr shortMessage messageId ∈
        entry.outputs

def SendsDelivery (entry : SessionEntry Number) : Prop :=
  ∃ pdu, Effect.sendPdu pdu ∈ entry.outputs ∧
    (decodeHeader pdu).commandId = Smpp.deliverSm

theorem mayTransmit_of_acceptsSubmit (s : Session Number) (event : Event)
    (accepts : AcceptsSubmit (machine.entry s event)) : MayTransmit s := by
  rcases accepts with ⟨pdu, member, isSubmit, isOk⟩ | ⟨_, _, _, _, member⟩
  · rw [← mem_sentPdus] at member
    cases step_sent s event pdu member with
    | response commandId status sequenceNumber systemId isPdu notDelivery
        submit =>
        rw [isPdu, decodeHeader_makeResponse] at isSubmit isOk
        rcases submit with other | failed | mayTransmit
        · exact absurd isSubmit other
        · exact absurd isOk failed
        · exact mayTransmit
    | delivery sequenceNumber srcAddr dstAddr shortMessage isPdu mayReceive =>
        rw [isPdu, decodeHeader_makeDeliverSm] at isSubmit
        exact absurd isSubmit (by decide : Smpp.deliverSm ≠ submitSmResp)
  · cases step_routes s event with
    | nothing silent same =>
        have none := List.filterMap_eq_nil_iff.mp silent _ member
        contradiction
    | message _ _ _ mayTransmit issued counted => exact mayTransmit

theorem mayReceive_of_sendsDelivery (s : Session Number) (event : Event)
    (sends : SendsDelivery (machine.entry s event)) : MayReceive s := by
  obtain ⟨pdu, member, isDelivery⟩ := sends
  rw [← mem_sentPdus] at member
  cases step_sent s event pdu member with
  | response commandId status sequenceNumber systemId isPdu notDelivery
      submit =>
      rw [isPdu, decodeHeader_makeResponse] at isDelivery
      exact absurd isDelivery notDelivery
  | delivery sequenceNumber srcAddr dstAddr shortMessage isPdu mayReceive =>
      exact mayReceive

/-- The authorisation contract of a live session, for every run of its
handlers in any order: a bound state was authenticated for that kind of bind
and that system id, an open session is anonymous and says so, submits are
accepted or routed only while transmitting, and deliver_sm goes out only while
receiving. -/
theorem session_authorisation (config : Config) (events : List Event) :
    let s : Session Number := machine.final (create config) events
    let past := machine.history (create config : Session Number) events
    (∀ kind : BindKind, s.state = kind.state →
        ∃ entry ∈ past, Authenticated kind s.systemId entry) ∧
      (s.state = .opened →
        s.systemId = [] ∧ s.bindTime = 0 ∧
          getSessionInfo s =
            (config.uuid, config.clientIp, [], text "OPEN", 0)) ∧
      (∀ entry ∈ past, AcceptsSubmit entry →
        entry.before.state = .boundTx ∨ entry.before.state = .boundTrx) ∧
      (∀ entry ∈ past, SendsDelivery entry →
        entry.before.state = .boundRx ∨ entry.before.state = .boundTrx) := by
  intro s past
  have authorised : Authorised s past := authorised_of_run config events
  refine ⟨authorised.bound, ?_, ?_, ?_⟩
  · intro isOpen
    obtain ⟨anonymous, unset⟩ := authorised.opened isOpen
    have fixedFields : s.fixed = (create config : Session Number).fixed :=
      final_fixed (create config) events
    have sameUuid : s.uuid = config.uuid := congrArg (·.1) fixedFields
    have sameIp : s.clientIp = config.clientIp :=
      congrArg (·.2.1) fixedFields
    refine ⟨anonymous, unset, ?_⟩
    rw [getSessionInfo, sameUuid, sameIp, anonymous, isOpen, unset]
    rfl
  · exact machine.each_step_rule
      (fun entry => AcceptsSubmit entry → MayTransmit entry.before)
      mayTransmit_of_acceptsSubmit (create config) events
  · exact machine.each_step_rule
      (fun entry => SendsDelivery entry → MayReceive entry.before)
      mayReceive_of_sendsDelivery (create config) events

end OpenSmsc.SmppSession
