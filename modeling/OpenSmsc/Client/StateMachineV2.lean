/-
The state-pattern client state machine (`smpp_state_machine_v2.hpp`,
`smpp_states.hpp`, `smpp_state_base.hpp`).

A state class answers a PDU or inherits the method of the base class, which
throws.  `transition_to` deletes the object it leaves although the machine
still owns it under its own pointer; the deleted objects are part of the model,
so that a call on one of them can be excluded.
-/

import OpenSmsc.Foundation.Machine
import OpenSmsc.Octets

namespace OpenSmsc.SmppStateMachineV2

open Foundation

inductive StateClass where
  | idleState
  | connectedState
  | bindingState
  | boundTxState
  | boundRxState
  | boundTrxState
  | unbindingState
  | disconnectedState
  | errorState
  deriving DecidableEq, Repr

def stateName : StateClass → Octets
  | .idleState => text "IDLE"
  | .connectedState => text "CONNECTED"
  | .bindingState => text "BINDING"
  | .boundTxState => text "BOUND_TX"
  | .boundRxState => text "BOUND_RX"
  | .boundTrxState => text "BOUND_TRX"
  | .unbindingState => text "UNBINDING"
  | .disconnectedState => text "DISCONNECTED"
  | .errorState => text "ERROR_STATE"

inductive Callback where
  | stateTransition (old new : Octets)
  | bindSuccess (bindType : UInt32)
  | unbindSuccess
  | error (errorMsg : Octets)
  deriving DecidableEq, Repr

/-- `current` is the object `current_state_` points to, `deleted` the objects a
`reset` has deleted. -/
structure StateMachine where
  current : StateClass
  deleted : List StateClass := []
  deriving DecidableEq, Repr

/-- The machine starts on an idle object that nothing else owns. -/
def create : StateMachine := { current := .idleState }

abbrev Result := StateMachine × List Callback

def getCurrentState (m : StateMachine) : Octets := stateName m.current

def isBound (m : StateMachine) : Bool :=
  stateName m.current == text "BOUND_TX" ||
    stateName m.current == text "BOUND_RX" ||
    stateName m.current == text "BOUND_TRX"

def canSend (m : StateMachine) : Bool :=
  stateName m.current == text "BOUND_TX" ||
    stateName m.current == text "BOUND_TRX"

def canReceive (m : StateMachine) : Bool :=
  stateName m.current == text "BOUND_RX" ||
    stateName m.current == text "BOUND_TRX"

/-! ### Transitions -/

def transitionTo (newState : StateClass) (m : StateMachine) : Result :=
  if stateName m.current = stateName newState then (m, [])
  else
    ({ current := newState
       deleted := m.current :: m.deleted },
      [.stateTransition (stateName m.current) (stateName newState)])

def transitionToConnected (m : StateMachine) : Result :=
  transitionTo .connectedState m

def transitionToBinding (m : StateMachine) : Result :=
  transitionTo .bindingState m

def transitionToBoundTx (m : StateMachine) : Result :=
  transitionTo .boundTxState m

def transitionToBoundRx (m : StateMachine) : Result :=
  transitionTo .boundRxState m

def transitionToBoundTrx (m : StateMachine) : Result :=
  transitionTo .boundTrxState m

def transitionToUnbinding (m : StateMachine) : Result :=
  transitionTo .unbindingState m

def transitionToDisconnected (m : StateMachine) : Result :=
  transitionTo .disconnectedState m

def transitionToError (errorMsg : Octets) (m : StateMachine) : Result :=
  ((transitionTo .errorState m).1,
    (transitionTo .errorState m).2 ++ [.error errorMsg])

/-! ### Methods of the state classes -/

/-- The method of the base class: `SmppStateException`, with its text. -/
def notAccepted (pdu : Octets) (m : StateMachine) : Except Octets Result :=
  .error (pdu ++ text " PDU not accepted in state: " ++ stateName m.current)

def onBind (_bindType : UInt32) (_systemId _password : Octets)
    (m : StateMachine) : Except Octets Result :=
  match m.current with
  | .connectedState => .ok (transitionToBinding m)
  | _ => notAccepted (text "BIND") m

def onBindResp (bindType statusCode : UInt32) (m : StateMachine) :
    Except Octets Result :=
  match m.current with
  | .bindingState =>
      .ok (if statusCode = 0 then
        if bindType = 0x80000002 then transitionToBoundTx m
        else if bindType = 0x80000001 then transitionToBoundRx m
        else if bindType = 0x80000009 then transitionToBoundTrx m
        else (m, [])
      else transitionToDisconnected m)
  | _ => notAccepted (text "BIND_RESP") m

def onUnbind (m : StateMachine) : Except Octets Result :=
  match m.current with
  | .boundTxState => .ok (transitionToUnbinding m)
  | .boundRxState => .ok (transitionToUnbinding m)
  | .boundTrxState => .ok (transitionToUnbinding m)
  | _ => notAccepted (text "UNBIND") m

def onUnbindResp (statusCode : UInt32) (m : StateMachine) :
    Except Octets Result :=
  match m.current with
  | .unbindingState =>
      .ok (if statusCode = 0 then transitionToDisconnected m
      else transitionToError (text "UNBIND failed") m)
  | _ => notAccepted (text "UNBIND_RESP") m

/-- The body of the keepalive methods, which only log. -/
def stayIfBound (pdu : Octets) (m : StateMachine) : Except Octets Result :=
  match m.current with
  | .boundTxState => .ok (m, [])
  | .boundRxState => .ok (m, [])
  | .boundTrxState => .ok (m, [])
  | _ => notAccepted pdu m

def onEnquireLink (m : StateMachine) : Except Octets Result :=
  stayIfBound (text "ENQUIRE_LINK") m

def onEnquireLinkResp (_statusCode : UInt32) (m : StateMachine) :
    Except Octets Result :=
  stayIfBound (text "ENQUIRE_LINK_RESP") m

/-! ### PDU handler methods -/

/-- The `catch` all handlers share. -/
def orError (result : Except Octets Result) (m : StateMachine) : Result :=
  match result with
  | .ok result => result
  | .error what => transitionToError what m

def handleBind (bindType : UInt32) (systemId password : Octets)
    (m : StateMachine) : Result :=
  orError (onBind bindType systemId password m) m

def handleBindResp (bindType statusCode : UInt32) (m : StateMachine) :
    Result :=
  orError
    ((onBindResp bindType statusCode m).map fun result =>
      if statusCode = 0 then
        (result.1, result.2 ++ [.bindSuccess bindType])
      else result)
    m

def handleUnbind (m : StateMachine) : Result :=
  orError (onUnbind m) m

def handleUnbindResp (statusCode : UInt32) (m : StateMachine) : Result :=
  orError
    ((onUnbindResp statusCode m).map fun result =>
      if statusCode = 0 then (result.1, result.2 ++ [.unbindSuccess])
      else result)
    m

def handleEnquireLink (m : StateMachine) : Result :=
  orError (onEnquireLink m) m

def handleEnquireLinkResp (statusCode : UInt32) (m : StateMachine) :
    Result :=
  orError (onEnquireLinkResp statusCode m) m

/-- No state class overrides the four methods of the SMS operations. -/
def handleSms (pdu : Octets) (m : StateMachine) : Result :=
  orError (notAccepted pdu m) m

def handleSubmitSm (_sourceAddr _destAddr _message : Octets)
    (m : StateMachine) : Result :=
  handleSms (text "SUBMIT_SM") m

def handleSubmitSmResp (_statusCode : UInt32) (_messageId : Octets)
    (m : StateMachine) : Result :=
  handleSms (text "SUBMIT_SM_RESP") m

def handleDeliverSm (_sourceAddr _destAddr _message : Octets)
    (m : StateMachine) : Result :=
  handleSms (text "DELIVER_SM") m

def handleDeliverSmResp (_statusCode : UInt32) (m : StateMachine) : Result :=
  handleSms (text "DELIVER_SM_RESP") m

inductive Call where
  | bind (bindType : UInt32) (systemId password : Octets)
  | bindResp (bindType statusCode : UInt32)
  | unbind
  | unbindResp (statusCode : UInt32)
  | enquireLink
  | enquireLinkResp (statusCode : UInt32)
  | submitSm (sourceAddr destAddr message : Octets)
  | submitSmResp (statusCode : UInt32) (messageId : Octets)
  | deliverSm (sourceAddr destAddr message : Octets)
  | deliverSmResp (statusCode : UInt32)

def handle (m : StateMachine) : Call → Result
  | .bind bindType systemId password =>
      handleBind bindType systemId password m
  | .bindResp bindType statusCode => handleBindResp bindType statusCode m
  | .unbind => handleUnbind m
  | .unbindResp statusCode => handleUnbindResp statusCode m
  | .enquireLink => handleEnquireLink m
  | .enquireLinkResp statusCode => handleEnquireLinkResp statusCode m
  | .submitSm sourceAddr destAddr message =>
      handleSubmitSm sourceAddr destAddr message m
  | .submitSmResp statusCode messageId =>
      handleSubmitSmResp statusCode messageId m
  | .deliverSm sourceAddr destAddr message =>
      handleDeliverSm sourceAddr destAddr message m
  | .deliverSmResp statusCode => handleDeliverSmResp statusCode m

def machine : Machine StateMachine Call Callback where
  step := handle

/-! ### Deleted objects -/

/-- The order in which a machine can enter its states. -/
def rank : StateClass → Nat
  | .idleState => 0
  | .connectedState => 1
  | .bindingState => 2
  | .boundTxState => 3
  | .boundRxState => 3
  | .boundTrxState => 3
  | .unbindingState => 4
  | .disconnectedState => 5
  | .errorState => 6

def Ascends (m : StateMachine) : Prop :=
  ∀ state ∈ m.deleted, rank state < rank m.current

theorem Ascends.current_not_mem {m : StateMachine} (ascends : Ascends m) :
    m.current ∉ m.deleted :=
  fun member => Nat.lt_irrefl _ (ascends m.current member)

theorem Ascends.transitionTo {m : StateMachine} (ascends : Ascends m)
    {newState : StateClass} (up : rank m.current < rank newState) :
    Ascends (transitionTo newState m).1 := by
  unfold SmppStateMachineV2.transitionTo
  split
  · exact ascends
  · intro state member
    rcases List.mem_cons.mp member with rfl | earlier
    · exact up
    · exact Nat.lt_trans (ascends state earlier) up

theorem Ascends.transitionToError {m : StateMachine} (ascends : Ascends m)
    (errorMsg : Octets) : Ascends (transitionToError errorMsg m).1 := by
  by_cases there : m.current = .errorState
  · unfold SmppStateMachineV2.transitionToError
      SmppStateMachineV2.transitionTo
    rw [there, if_pos rfl]
    exact ascends
  · refine @Ascends.transitionTo m ascends .errorState ?_
    cases isCurrent : m.current <;> first | decide | contradiction

/-- What a call does to the state: nothing, a step up, or the error state. -/
inductive Moves (m after : StateMachine) : Prop
  | stays (same : after = m)
  | ascends (newState : StateClass) (up : rank m.current < rank newState)
      (isAfter : after = (transitionTo newState m).1)
  | fails (errorMsg : Octets)
      (isAfter : after = (transitionToError errorMsg m).1)

theorem Moves.keeps {m after : StateMachine} (moves : Moves m after)
    (ascends : Ascends m) : Ascends after := by
  cases moves with
  | stays same => rw [same]; exact ascends
  | ascends newState up isAfter =>
      rw [isAfter]
      exact ascends.transitionTo up
  | fails errorMsg isAfter =>
      rw [isAfter]
      exact ascends.transitionToError errorMsg

theorem orError_notAccepted_moves (pdu : Octets) (m : StateMachine) :
    Moves m (orError (notAccepted pdu m) m).1 :=
  .fails _ rfl

theorem handleBind_moves (bindType : UInt32) (systemId password : Octets)
    (m : StateMachine) :
    Moves m (handleBind bindType systemId password m).1 := by
  unfold handleBind onBind
  split
  · rename_i isCurrent
    exact .ascends .bindingState (by rw [isCurrent]; decide) rfl
  · exact orError_notAccepted_moves _ m

theorem onBindResp_of_ne {m : StateMachine}
    (isCurrent : m.current ≠ .bindingState) (bindType statusCode : UInt32) :
    onBindResp bindType statusCode m = notAccepted (text "BIND_RESP") m := by
  unfold onBindResp
  split
  · contradiction
  · rfl

theorem handleBindResp_moves (bindType statusCode : UInt32)
    (m : StateMachine) :
    Moves m (handleBindResp bindType statusCode m).1 := by
  unfold handleBindResp
  by_cases isCurrent : m.current = .bindingState
  · have up (newState : StateClass) (above : 2 < rank newState) :
        rank m.current < rank newState := by
      rw [isCurrent]
      exact above
    unfold onBindResp
    rw [isCurrent]
    by_cases isOk : statusCode = 0
    · simp only [if_pos isOk, Except.map, orError]
      split
      · exact .ascends .boundTxState (up _ (by decide)) rfl
      · split
        · exact .ascends .boundRxState (up _ (by decide)) rfl
        · split
          · exact .ascends .boundTrxState (up _ (by decide)) rfl
          · exact .stays rfl
    · simp only [if_neg isOk, Except.map, orError]
      exact .ascends .disconnectedState (up _ (by decide)) rfl
  · rw [onBindResp_of_ne isCurrent]
    exact .fails _ rfl

theorem handleUnbind_moves (m : StateMachine) :
    Moves m (handleUnbind m).1 := by
  unfold handleUnbind onUnbind
  split
  · rename_i isCurrent
    exact .ascends .unbindingState (by rw [isCurrent]; decide) rfl
  · rename_i isCurrent
    exact .ascends .unbindingState (by rw [isCurrent]; decide) rfl
  · rename_i isCurrent
    exact .ascends .unbindingState (by rw [isCurrent]; decide) rfl
  · exact orError_notAccepted_moves _ m

theorem onUnbindResp_of_ne {m : StateMachine}
    (isCurrent : m.current ≠ .unbindingState) (statusCode : UInt32) :
    onUnbindResp statusCode m = notAccepted (text "UNBIND_RESP") m := by
  unfold onUnbindResp
  split
  · contradiction
  · rfl

theorem handleUnbindResp_moves (statusCode : UInt32) (m : StateMachine) :
    Moves m (handleUnbindResp statusCode m).1 := by
  unfold handleUnbindResp
  by_cases isCurrent : m.current = .unbindingState
  · unfold onUnbindResp
    rw [isCurrent]
    by_cases isOk : statusCode = 0
    · simp only [if_pos isOk, Except.map, orError]
      exact .ascends .disconnectedState (by rw [isCurrent]; decide) rfl
    · simp only [if_neg isOk, Except.map, orError]
      exact .fails _ rfl
  · rw [onUnbindResp_of_ne isCurrent]
    exact .fails _ rfl

theorem stayIfBound_moves (pdu : Octets) (m : StateMachine) :
    Moves m (orError (stayIfBound pdu m) m).1 := by
  unfold stayIfBound
  split
  · exact .stays rfl
  · exact .stays rfl
  · exact .stays rfl
  · exact orError_notAccepted_moves pdu m

theorem handle_moves (m : StateMachine) (call : Call) :
    Moves m (handle m call).1 := by
  cases call with
  | bind bindType systemId password =>
      exact handleBind_moves bindType systemId password m
  | bindResp bindType statusCode =>
      exact handleBindResp_moves bindType statusCode m
  | unbind => exact handleUnbind_moves m
  | unbindResp statusCode => exact handleUnbindResp_moves statusCode m
  | enquireLink => exact stayIfBound_moves _ m
  | enquireLinkResp statusCode => exact stayIfBound_moves _ m
  | submitSm sourceAddr destAddr message =>
      exact orError_notAccepted_moves _ m
  | submitSmResp statusCode messageId => exact orError_notAccepted_moves _ m
  | deliverSm sourceAddr destAddr message =>
      exact orError_notAccepted_moves _ m
  | deliverSmResp statusCode => exact orError_notAccepted_moves _ m

/-- No call of a run reaches a deleted object: a machine that was connected
once never enters a state a second time. -/
theorem current_not_deleted (calls : List Call) :
    let m := machine.final (transitionToConnected create).1 calls
    m.current ∉ m.deleted := by
  have connected : Ascends (transitionToConnected create).1 :=
    @Ascends.transitionTo create (fun _ member => nomatch member)
      .connectedState (by decide)
  have atEnd := machine.invariant_rule Ascends _ connected
    (fun m call ascends => (handle_moves m call).keeps ascends) calls
  exact atEnd.current_not_mem

end OpenSmsc.SmppStateMachineV2
