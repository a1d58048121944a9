/-
The two client state machines follow the documented transition matrix, and so
agree with each other.

The matrix is stated on its own as a partial function.  Both machines are
compared with it row by row; the agreement over runs is an induction.
-/

import OpenSmsc.Client.StateMachine
import OpenSmsc.Client.StateMachineV2

namespace OpenSmsc.StateMachines

open Foundation SmppStateMachine

/-! ### The transition matrix -/

inductive BindType where
  | transmitter
  | receiver
  | transceiver
  deriving DecidableEq, Repr

/-- The events of the matrix.  A PDU comes as the event of the enum-based
machine, whose command id is the one of its constructor; an unbind is received
as such or requested by the client. -/
inductive ProtocolEvent where
  | bind (type : BindType) (systemId password : Octets)
  | bindResp (type : BindType) (pdu : SmppEvent)
  | enquireLink (pdu : SmppEvent)
  | enquireLinkResp (pdu : SmppEvent)
  | unbind (received : Option SmppEvent)
  | unbindResp (pdu : SmppEvent)
  deriving DecidableEq, Repr

def BindType.boundState : BindType → SmppState
  | .transmitter => .boundTx
  | .receiver => .boundRx
  | .transceiver => .boundTrx

/-- The rows of the matrix that a PDU triggers. -/
def matrix : SmppState → ProtocolEvent → Option SmppState
  | .connected, .bind _ _ _ => some .binding
  | .binding, .bindResp type pdu =>
      some (if pdu.statusCode = 0 then type.boundState else .disconnected)
  | .boundTx, .enquireLink _ => some .boundTx
  | .boundTx, .enquireLinkResp _ => some .boundTx
  | .boundTx, .unbind _ => some .unbinding
  | .boundRx, .enquireLink _ => some .boundRx
  | .boundRx, .enquireLinkResp _ => some .boundRx
  | .boundRx, .unbind _ => some .unbinding
  | .boundTrx, .enquireLink _ => some .boundTrx
  | .boundTrx, .enquireLinkResp _ => some .boundTrx
  | .boundTrx, .unbind _ => some .unbinding
  | .unbinding, .unbindResp pdu =>
      some (if pdu.statusCode = 0 then .disconnected else .errorState)
  | _, _ => none

/-- Every event is accepted in the state the earlier ones lead to, and `last`
is the state after all of them. -/
def Accepts (first : SmppState) (events : List ProtocolEvent)
    (last : SmppState) : Prop :=
  events.foldlM matrix first = some last

/-- The matrix as a relation, the three bound states in one row. -/
inductive Row : SmppState → ProtocolEvent → SmppState → Prop
  | bind (type : BindType) (systemId password : Octets) :
      Row .connected (.bind type systemId password) .binding
  | bound (type : BindType) (pdu : SmppEvent) (isOk : pdu.statusCode = 0) :
      Row .binding (.bindResp type pdu) type.boundState
  | refused (type : BindType) (pdu : SmppEvent)
      (isError : pdu.statusCode ≠ 0) :
      Row .binding (.bindResp type pdu) .disconnected
  | enquireLink (type : BindType) (pdu : SmppEvent) :
      Row type.boundState (.enquireLink pdu) type.boundState
  | enquireLinkResp (type : BindType) (pdu : SmppEvent) :
      Row type.boundState (.enquireLinkResp pdu) type.boundState
  | unbind (type : BindType) (received : Option SmppEvent) :
      Row type.boundState (.unbind received) .unbinding
  | unbound (pdu : SmppEvent) (isOk : pdu.statusCode = 0) :
      Row .unbinding (.unbindResp pdu) .disconnected
  | failed (pdu : SmppEvent) (isError : pdu.statusCode ≠ 0) :
      Row .unbinding (.unbindResp pdu) .errorState

theorem row_of_matrix {state new : SmppState} {event : ProtocolEvent}
    (accepted : matrix state event = some new) : Row state event new := by
  unfold matrix at accepted
  split at accepted
  case h_1 => cases accepted; exact .bind _ _ _
  case h_2 type pdu =>
    cases accepted
    by_cases isOk : pdu.statusCode = 0
    · rw [if_pos isOk]
      exact .bound type pdu isOk
    · rw [if_neg isOk]
      exact .refused type pdu isOk
  case h_3 => cases accepted; exact .enquireLink .transmitter _
  case h_4 => cases accepted; exact .enquireLinkResp .transmitter _
  case h_5 => cases accepted; exact .unbind .transmitter _
  case h_6 => cases accepted; exact .enquireLink .receiver _
  case h_7 => cases accepted; exact .enquireLinkResp .receiver _
  case h_8 => cases accepted; exact .unbind .receiver _
  case h_9 => cases accepted; exact .enquireLink .transceiver _
  case h_10 => cases accepted; exact .enquireLinkResp .transceiver _
  case h_11 => cases accepted; exact .unbind .transceiver _
  case h_12 pdu =>
    cases accepted
    by_cases isOk : pdu.statusCode = 0
    · rw [if_pos isOk]
      exact .unbound pdu isOk
    · rw [if_neg isOk]
      exact .failed pdu isOk
  case h_13 => cases accepted

/-! ### The events as calls of the two machines -/

def BindType.commandId : BindType → UInt32
  | .transmitter => CommandIdValues.bindTransmitter
  | .receiver => CommandIdValues.bindReceiver
  | .transceiver => CommandIdValues.bindTransceiver

def BindType.respId : BindType → UInt32
  | .transmitter => CommandIdValues.bindTransmitterResp
  | .receiver => CommandIdValues.bindReceiverResp
  | .transceiver => CommandIdValues.bindTransceiverResp

def applyV1 (state : SmppState) : ProtocolEvent → SmppStateMachine.Result
  | .bind type _ _ => (requestBind type.commandId state).2
  | .bindResp type pdu =>
      processEvent { pdu with commandId := type.respId } state
  | .enquireLink pdu =>
      processEvent { pdu with commandId := CommandIdValues.enquireLink } state
  | .enquireLinkResp pdu =>
      processEvent { pdu with commandId := CommandIdValues.enquireLinkResp }
        state
  | .unbind (some pdu) =>
      processEvent { pdu with commandId := CommandIdValues.unbind } state
  | .unbind none => (requestUnbind state).2
  | .unbindResp pdu =>
      processEvent { pdu with commandId := CommandIdValues.unbindResp } state

def v1 : Machine SmppState ProtocolEvent SmppStateMachine.Callback where
  step := applyV1

def callV2 : ProtocolEvent → SmppStateMachineV2.Call
  | .bind type systemId password => .bind type.commandId systemId password
  | .bindResp type pdu => .bindResp type.respId pdu.statusCode
  | .enquireLink _ => .enquireLink
  | .enquireLinkResp pdu => .enquireLinkResp pdu.statusCode
  | .unbind _ => .unbind
  | .unbindResp pdu => .unbindResp pdu.statusCode

def classOf : SmppState → SmppStateMachineV2.StateClass
  | .idle => .idleState
  | .connected => .connectedState
  | .binding => .bindingState
  | .boundTx => .boundTxState
  | .boundRx => .boundRxState
  | .boundTrx => .boundTrxState
  | .unbinding => .unbindingState
  | .disconnected => .disconnectedState
  | .errorState => .errorState

theorem stateName_classOf (state : SmppState) :
    SmppStateMachineV2.stateName (classOf state) = stateToString state := by
  cases state <;> rfl

/-! ### One event -/

theorem Row.applyV1_eq {state new : SmppState} {event : ProtocolEvent}
    (row : Row state event new) : (applyV1 state event).1 = new := by
  cases row with
  | bind type systemId password => cases type <;> rfl
  | bound type pdu isOk =>
      have bound : ({ pdu with commandId := type.respId } :
          SmppEvent).statusCode = esmeRok := isOk
      cases type <;>
        simp only [applyV1, processEvent, handleEventInBinding,
          handleBindResponse, if_pos bound] <;> rfl
  | refused type pdu isError =>
      -- the error state is entered first, and left in the same call
      have refused : ¬({ pdu with commandId := type.respId } :
          SmppEvent).statusCode = esmeRok := isError
      cases type <;>
        simp only [applyV1, processEvent, handleEventInBinding,
          handleBindResponse, if_neg refused] <;> rfl
  | enquireLink type pdu => cases type <;> rfl
  | enquireLinkResp type pdu => cases type <;> rfl
  | unbind type received => cases type <;> cases received <;> rfl
  | unbound pdu isOk =>
      have unbound : ({ pdu with commandId := CommandIdValues.unbindResp } :
          SmppEvent).statusCode = esmeRok := isOk
      simp only [applyV1, processEvent, handleEventInUnbinding,
        handleUnbindResponse, if_pos unbound]
      rfl
  | failed pdu isError =>
      have failed : ¬({ pdu with commandId := CommandIdValues.unbindResp } :
          SmppEvent).statusCode = esmeRok := isError
      simp only [applyV1, processEvent, handleEventInUnbinding,
        handleUnbindResponse, if_neg failed]
      rfl

theorem Row.handle_eq {state new : SmppState} {event : ProtocolEvent}
    (row : Row state event new) {m : SmppStateMachineV2.StateMachine}
    (isCurrent : m.current = classOf state) :
    (SmppStateMachineV2.handle m (callV2 event)).1.current = classOf new := by
  obtain ⟨current, deleted⟩ := m
  subst isCurrent
  cases row with
  | bind type systemId password => rfl
  | bound type pdu isOk =>
      simp only [callV2, isOk]
      cases type <;> rfl
  | refused type pdu isError =>
      simp only [callV2, SmppStateMachineV2.handle,
        SmppStateMachineV2.handleBindResp, SmppStateMachineV2.onBindResp,
        classOf, if_neg isError]
      rfl
  | enquireLink type pdu => cases type <;> rfl
  | enquireLinkResp type pdu => cases type <;> rfl
  | unbind type received => cases type <;> rfl
  | unbound pdu isOk =>
      simp only [callV2, isOk]
      rfl
  | failed pdu isError =>
      simp only [callV2, SmppStateMachineV2.handle,
        SmppStateMachineV2.handleUnbindResp, SmppStateMachineV2.onUnbindResp,
        classOf, if_neg isError]
      rfl

/-! ### Runs -/

structure InState (state : SmppState) (first : SmppState)
    (second : SmppStateMachineV2.StateMachine) : Prop where
  v1_eq : first = state
  v2_eq : second.current = classOf state

theorem InState.step {state new first : SmppState}
    {second : SmppStateMachineV2.StateMachine} {event : ProtocolEvent}
    (inState : InState state first second)
    (accepted : matrix state event = some new) :
    InState new (applyV1 first event).1
      (SmppStateMachineV2.handle second (callV2 event)).1 where
  v1_eq := by
    rw [inState.v1_eq]
    exact (row_of_matrix accepted).applyV1_eq
  v2_eq := (row_of_matrix accepted).handle_eq inState.v2_eq

theorem InState.run {events : List ProtocolEvent} {state last first : SmppState}
    {second : SmppStateMachineV2.StateMachine}
    (inState : InState state first second)
    (accepted : Accepts state events last) :
    InState last (v1.final first events)
      (SmppStateMachineV2.machine.final second (events.map callV2)) := by
  induction events generalizing state first second with
  | nil =>
      cases accepted
      exact inState
  | cons event events ih =>
      unfold Accepts at accepted
      rw [List.foldlM_cons] at accepted
      obtain ⟨new, atEvent, later⟩ := Option.bind_eq_some_iff.mp accepted
      exact ih (inState.step atEvent) later

theorem InState.names {state first : SmppState}
    {second : SmppStateMachineV2.StateMachine}
    (inState : InState state first second) :
    stateToString first = stateToString state ∧
      SmppStateMachineV2.getCurrentState second = stateToString state := by
  constructor
  · rw [inState.v1_eq]
  · unfold SmppStateMachineV2.getCurrentState
    rw [inState.v2_eq, stateName_classOf]

theorem InState.capabilities {state first : SmppState}
    {second : SmppStateMachineV2.StateMachine}
    (inState : InState state first second) :
    SmppStateMachineV2.isBound second = isBound first ∧
      SmppStateMachineV2.canSend second = canSend first ∧
      SmppStateMachineV2.canReceive second = canReceive first := by
  unfold SmppStateMachineV2.isBound SmppStateMachineV2.canSend
    SmppStateMachineV2.canReceive
  rw [inState.v2_eq, inState.v1_eq]
  cases state <;> decide

theorem inState_connected :
    InState .connected .connected
      (SmppStateMachineV2.transitionToConnected
        SmppStateMachineV2.create).1 where
  v1_eq := rfl
  v2_eq := rfl

/-- After every event of a sequence that the matrix accepts from `CONNECTED`,
both machines are in the state of the matrix and answer alike. -/
theorem machines_agree (before after : List ProtocolEvent) (last : SmppState)
    (accepted : Accepts .connected (before ++ after) last) :
    ∃ state, Accepts .connected before state ∧
      let first := v1.final .connected before
      let second := SmppStateMachineV2.machine.final
        (SmppStateMachineV2.transitionToConnected
          SmppStateMachineV2.create).1
        (before.map callV2)
      stateToString first = stateToString state ∧
        SmppStateMachineV2.getCurrentState second = stateToString state ∧
        SmppStateMachineV2.isBound second = isBound first ∧
        SmppStateMachineV2.canSend second = canSend first ∧
        SmppStateMachineV2.canReceive second = canReceive first := by
  unfold Accepts at accepted
  rw [List.foldlM_append] at accepted
  obtain ⟨state, here, _⟩ := Option.bind_eq_some_iff.mp accepted
  have inState := inState_connected.run here
  exact ⟨state, here, inState.names.1, inState.names.2, inState.capabilities⟩

def receiverEvents : List ProtocolEvent :=
  [.bind .receiver (text "client") (text "secret"), .bindResp .receiver {},
    .enquireLink {}]

theorem machines_agree_receiver :
    ∃ state, Accepts .connected receiverEvents state ∧
      let first := v1.final .connected receiverEvents
      let second := SmppStateMachineV2.machine.final
        (SmppStateMachineV2.transitionToConnected
          SmppStateMachineV2.create).1
        (receiverEvents.map callV2)
      stateToString first = stateToString state ∧
        SmppStateMachineV2.getCurrentState second = stateToString state ∧
        SmppStateMachineV2.isBound second = isBound first ∧
        SmppStateMachineV2.canSend second = canSend first ∧
        SmppStateMachineV2.canReceive second = canReceive first :=
  machines_agree receiverEvents
    [.unbind none, .unbindResp { statusCode := 8 }] .errorState rfl

end OpenSmsc.StateMachines
