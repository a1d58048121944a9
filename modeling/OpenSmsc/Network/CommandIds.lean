/-
What a command id means on each path of a PDU: in the session of the client
handler, in the connection handler of the server, and in the table of the
client state machine.

Each path compares ids with constants of its own.  The operation an id denotes
is read off the modelled branches, and a lemma per path ties it to them.
-/

import OpenSmsc.Client.Lifecycle
import OpenSmsc.Client.StateMachineAgreement
import OpenSmsc.Server.ClientHandler

namespace OpenSmsc.CommandIds

open Foundation StateMachines
open SmppSession (Env IsBind SessionState TokenArith)
open SmppHandler (BindDecoder BindKind)

inductive Operation where
  | bind (type : BindType)
  | unbind
  | enquireLink
  | none
  deriving DecidableEq, Repr

/-! ### The session of the client handler -/

/-- The bind after which `handle_bind` leaves the session in this state. -/
def typeOfState : SessionState → Operation
  | .boundTx => .bind .transmitter
  | .boundRx => .bind .receiver
  | .boundTrx => .bind .transceiver
  | _ => .none

def sessionOperation (commandId : UInt32) : Operation :=
  if IsBind commandId then
    typeOfState (SmppSession.boundState commandId .opened)
  else if commandId = Smpp.unbind then .unbind
  else if commandId = Smpp.enquireLink then .enquireLink
  else .none

theorem dispatch_operation {Number : Type} [TokenArith Number] (env : Env)
    (hdr : Smpp.Header) (body : Octets) (s : SmppSession.Session Number) :
    match sessionOperation hdr.commandId with
    | .bind type =>
        SmppSession.dispatch env hdr body s =
            SmppSession.handleBind env hdr body s ∧
          ∀ state,
            typeOfState (SmppSession.boundState hdr.commandId state) =
              .bind type
    | .unbind =>
        SmppSession.dispatch env hdr body s = SmppSession.handleUnbind hdr s
    | .enquireLink =>
        SmppSession.dispatch env hdr body s =
          SmppSession.handleEnquireLink hdr s
    | .none =>
        ¬IsBind hdr.commandId ∧ hdr.commandId ≠ Smpp.unbind ∧
          hdr.commandId ≠ Smpp.enquireLink := by
  unfold sessionOperation
  by_cases isBind : IsBind hdr.commandId
  · have atBind : SmppSession.dispatch env hdr body s =
        SmppSession.handleBind env hdr body s := if_pos isBind
    rw [if_pos isBind, atBind]
    rcases isBind with isId | isId | isId
    · rw [isId]
      exact ⟨rfl, fun _ => rfl⟩
    · rw [isId]
      exact ⟨rfl, fun _ => rfl⟩
    · rw [isId]
      exact ⟨rfl, fun _ => rfl⟩
  rw [if_neg isBind]
  by_cases isUnbind : hdr.commandId = Smpp.unbind
  · rw [if_pos isUnbind]
    exact SmppSession.dispatch_unbind env hdr body s isUnbind
  rw [if_neg isUnbind]
  by_cases isEnquiry : hdr.commandId = Smpp.enquireLink
  · rw [if_pos isEnquiry]
    exact (if_neg isBind).trans ((if_neg isUnbind).trans (if_pos isEnquiry))
  rw [if_neg isEnquiry]
  exact ⟨isBind, isUnbind, isEnquiry⟩

/-! ### The connection handler of the server -/

def typeOfKind : BindKind → BindType
  | .receiver => .receiver
  | .transmitter => .transmitter
  | .transceiver => .transceiver

/-- The first case of the switch in `dispatch_pdu`. -/
def IsServerBind (commandId : UInt32) : Prop :=
  commandId = SmppHandler.cmdBindReceiver ∨
    commandId = SmppHandler.cmdBindTransmitter ∨
    commandId = SmppHandler.cmdBindTransceiver

instance (commandId : UInt32) : Decidable (IsServerBind commandId) :=
  inferInstanceAs (Decidable (_ ∨ _ ∨ _))

def serverOperation (commandId : UInt32) : Operation :=
  if IsServerBind commandId then
    .bind (typeOfKind (SmppHandler.bindKind commandId))
  else if commandId = SmppHandler.cmdUnbind then .unbind
  else if commandId = SmppHandler.cmdEnquireLink then .enquireLink
  else .none

theorem dispatchPdu_operation (decoder : BindDecoder) (fullPdu : Octets)
    (h : SmppClientHandler.Handler) (whole : 16 ≤ fullPdu.length) :
    let commandId := Smpp.readU32 (fullPdu.drop 4)
    let sequenceNumber := Smpp.readU32 (fullPdu.drop 12)
    SmppClientHandler.dispatchPdu decoder fullPdu h =
      andThen (h, [.dispatchPdu fullPdu]) fun h =>
        match serverOperation commandId with
        | .bind _ =>
            SmppClientHandler.handleBind decoder commandId fullPdu
              sequenceNumber h
        | .unbind => SmppClientHandler.handleUnbind sequenceNumber h
        | .enquireLink =>
            SmppClientHandler.handleEnquireLink sequenceNumber h
        | .none =>
            SmppClientHandler.handleUnknown commandId sequenceNumber h := by
  intro commandId sequenceNumber
  refine congrArg
    (andThen (h, [SmppClientHandler.Effect.dispatchPdu fullPdu]))
    (funext fun h => ?_)
  rw [if_neg (Nat.not_lt.mpr whole)]
  change (if IsServerBind commandId then _ else _) = _
  unfold serverOperation
  by_cases isBind : IsServerBind commandId
  · rw [if_pos isBind, if_pos isBind]
  rw [if_neg isBind, if_neg isBind]
  by_cases isUnbind : commandId = SmppHandler.cmdUnbind
  · rw [if_pos isUnbind, if_pos isUnbind]
  rw [if_neg isUnbind, if_neg isUnbind]
  by_cases isEnquiry : commandId = SmppHandler.cmdEnquireLink
  · rw [if_pos isEnquiry, if_pos isEnquiry]
  rw [if_neg isEnquiry, if_neg isEnquiry]

/-! ### The table of the state machine -/

def stateMachineOperation (commandId : UInt32) : Operation :=
  if commandId = SmppStateMachine.CommandIdValues.bindReceiver then
    .bind .receiver
  else if commandId = SmppStateMachine.CommandIdValues.bindTransmitter then
    .bind .transmitter
  else if commandId = SmppStateMachine.CommandIdValues.bindTransceiver then
    .bind .transceiver
  else if commandId = SmppStateMachine.CommandIdValues.unbind then .unbind
  else if commandId = SmppStateMachine.CommandIdValues.enquireLink then
    .enquireLink
  else .none

theorem requestBind_operation (commandId : UInt32) :
    match stateMachineOperation commandId with
    | .bind type =>
        commandId = type.commandId ∧
          (SmppStateMachine.requestBind commandId .connected).1 = true ∧
          SmppStateMachine.getBindStateFromResponse type.respId =
            type.boundState
    | _ =>
        (SmppStateMachine.requestBind commandId .connected).1 = false := by
  unfold stateMachineOperation
  by_cases isReceiver :
      commandId = SmppStateMachine.CommandIdValues.bindReceiver
  · rw [if_pos isReceiver, isReceiver]
    exact ⟨rfl, rfl, rfl⟩
  rw [if_neg isReceiver]
  by_cases isTransmitter :
      commandId = SmppStateMachine.CommandIdValues.bindTransmitter
  · rw [if_pos isTransmitter, isTransmitter]
    exact ⟨rfl, rfl, rfl⟩
  rw [if_neg isTransmitter]
  by_cases isTransceiver :
      commandId = SmppStateMachine.CommandIdValues.bindTransceiver
  · rw [if_pos isTransceiver, isTransceiver]
    exact ⟨rfl, rfl, rfl⟩
  rw [if_neg isTransceiver]
  have refused :
      (SmppStateMachine.requestBind commandId .connected).1 = false := by
    unfold SmppStateMachine.requestBind
    rw [if_neg (by decide),
      if_pos ⟨isTransmitter, isReceiver, isTransceiver⟩]
  by_cases isUnbind : commandId = SmppStateMachine.CommandIdValues.unbind
  · rw [if_pos isUnbind]
    exact refused
  rw [if_neg isUnbind]
  by_cases isEnquiry :
      commandId = SmppStateMachine.CommandIdValues.enquireLink
  · rw [if_pos isEnquiry]
    exact refused
  rw [if_neg isEnquiry]
  exact refused

/-! ### Agreement -/

def knownIds : List UInt32 :=
  [0x01, 0x03, 0x0F, 0x15] ++ [0x02, 0x06, 0x09]

theorem operations_of_unknown (commandId : UInt32)
    (unknown : commandId ∉ knownIds) :
    sessionOperation commandId = .none ∧
      serverOperation commandId = .none ∧
      stateMachineOperation commandId = .none := by
  have differs (id : UInt32) (known : id ∈ knownIds) : commandId ≠ id :=
    fun same => unknown (same ▸ known)
  have notBind : ¬IsBind commandId := by
    rintro (isId | isId | isId)
    · exact differs Smpp.bindTransmitter (by decide) isId
    · exact differs Smpp.bindReceiver (by decide) isId
    · exact differs Smpp.bindTransceiver (by decide) isId
  have notServerBind : ¬IsServerBind commandId := by
    rintro (isId | isId | isId)
    · exact differs SmppHandler.cmdBindReceiver (by decide) isId
    · exact differs SmppHandler.cmdBindTransmitter (by decide) isId
    · exact differs SmppHandler.cmdBindTransceiver (by decide) isId
  refine ⟨?_, ?_, ?_⟩
  · unfold sessionOperation
    rw [if_neg notBind, if_neg (differs Smpp.unbind (by decide)),
      if_neg (differs Smpp.enquireLink (by decide))]
  · unfold serverOperation
    rw [if_neg notServerBind,
      if_neg (differs SmppHandler.cmdUnbind (by decide)),
      if_neg (differs SmppHandler.cmdEnquireLink (by decide))]
  · unfold stateMachineOperation
    rw [if_neg (differs _ (by decide)), if_neg (differs _ (by decide)),
      if_neg (differs _ (by decide)), if_neg (differs _ (by decide)),
      if_neg (differs _ (by decide))]

/-- The paths agree on every id but the two that stand for bind receiver and
the two that stand for enquire link. -/
theorem operations_agree_iff (commandId : UInt32) :
    (sessionOperation commandId = serverOperation commandId ∧
        sessionOperation commandId = stateMachineOperation commandId) ↔
      commandId ∉ [0x01, 0x03, 0x0F, 0x15] := by
  by_cases known : commandId ∈ knownIds
  · simp only [knownIds, List.cons_append, List.nil_append, List.mem_cons,
      List.not_mem_nil, or_false] at known
    rcases known with rfl | rfl | rfl | rfl | rfl | rfl | rfl <;> decide
  · obtain ⟨session, server, stateMachine⟩ :=
      operations_of_unknown commandId known
    rw [session, server, stateMachine]
    have apart : commandId ∉ [0x01, 0x03, 0x0F, 0x15] :=
      fun member => known (List.mem_append_left _ member)
    exact ⟨fun _ => apart, fun _ => ⟨rfl, rfl⟩⟩

/-- The enquire link of the client handler is an unknown command to the
server, and the bind receiver of the server one to the client handler. -/
theorem operations_differ :
    (sessionOperation 0x15 = .enquireLink ∧ serverOperation 0x15 = .none) ∧
      (serverOperation 0x01 = .bind .receiver ∧
        sessionOperation 0x01 = .none) := by
  decide

end OpenSmsc.CommandIds
