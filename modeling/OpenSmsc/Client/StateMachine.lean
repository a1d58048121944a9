/-
The enum-based client state machine (`smpp_state_machine.hpp`).

Each method is a function from the state to the state afterwards and the
callbacks it invoked, in order.  Log output is left out.
-/

import OpenSmsc.Foundation.Machine
import OpenSmsc.Octets

namespace OpenSmsc.SmppStateMachine

open Foundation

inductive SmppState where
  | idle
  | connected
  | binding
  | boundTx
  | boundRx
  | boundTrx
  | unbinding
  | disconnected
  | errorState
  deriving DecidableEq, Repr

def stateToString : SmppState → Octets
  | .idle => text "IDLE"
  | .connected => text "CONNECTED"
  | .binding => text "BINDING"
  | .boundTx => text "BOUND_TX"
  | .boundRx => text "BOUND_RX"
  | .boundTrx => text "BOUND_TRX"
  | .unbinding => text "UNBINDING"
  | .disconnected => text "DISCONNECTED"
  | .errorState => text "ERROR_STATE"

structure SmppEvent where
  commandId : UInt32 := 0
  statusCode : UInt32 := 0
  errorMsg : Octets := []
  sequenceNum : UInt32 := 0
  deriving DecidableEq, Repr

namespace CommandIdValues

def bindReceiver : UInt32 := 0x00000001
def bindTransmitter : UInt32 := 0x00000002
def bindTransceiver : UInt32 := 0x00000009
def unbind : UInt32 := 0x00000006
def enquireLink : UInt32 := 0x00000015
def bindReceiverResp : UInt32 := 0x80000001
def bindTransmitterResp : UInt32 := 0x80000002
def bindTransceiverResp : UInt32 := 0x80000009
def unbindResp : UInt32 := 0x80000006
def enquireLinkResp : UInt32 := 0x80000015

end CommandIdValues

def esmeRok : UInt32 := 0

inductive Callback where
  | stateTransition (old new : SmppState)
  | bindSuccess (event : SmppEvent)
  | unbindSuccess (event : SmppEvent)
  | error (message : Octets)
  deriving DecidableEq, Repr

abbrev Result := SmppState × List Callback

/-- `std::to_string`, in decimal even where the text before it says `0x`. -/
def toDecimal (number : UInt32) : Octets :=
  (Numeral.printed 10 number.toNat).map hexChar

def isBindResponse (cmdId : UInt32) : Bool :=
  cmdId == CommandIdValues.bindTransmitterResp ||
    cmdId == CommandIdValues.bindReceiverResp ||
    cmdId == CommandIdValues.bindTransceiverResp

def getBindStateFromResponse (cmdId : UInt32) : SmppState :=
  if cmdId = CommandIdValues.bindTransmitterResp then .boundTx
  else if cmdId = CommandIdValues.bindReceiverResp then .boundRx
  else if cmdId = CommandIdValues.bindTransceiverResp then .boundTrx
  else .errorState

def isBound (state : SmppState) : Bool :=
  state == .boundTx || state == .boundRx || state == .boundTrx

def canSend (state : SmppState) : Bool :=
  state == .boundTx || state == .boundTrx

def canReceive (state : SmppState) : Bool :=
  state == .boundRx || state == .boundTrx

def transitionTo (new current : SmppState) : Result :=
  if current = new then (current, [])
  else (new, [.stateTransition current new])

def handleError (errorMsg : Octets) (state : SmppState) : Result :=
  andThen (transitionTo .errorState state)
    fun state => (state, [.error errorMsg])

def requestBind (bindCommandId : UInt32) (state : SmppState) :
    Bool × Result :=
  if state ≠ .connected then (false, (state, []))
  else if bindCommandId ≠ CommandIdValues.bindTransmitter ∧
      bindCommandId ≠ CommandIdValues.bindReceiver ∧
      bindCommandId ≠ CommandIdValues.bindTransceiver then
    (false, (state, []))
  else (true, transitionTo .binding state)

def requestUnbind (state : SmppState) : Bool × Result :=
  if isBound state = false then (false, (state, []))
  else (true, transitionTo .unbinding state)

def requestEnquireLink (state : SmppState) : Bool × Result :=
  (isBound state, (state, []))

def handleBindResponse (event : SmppEvent) (state : SmppState) : Result :=
  if event.statusCode = esmeRok then
    andThen
      (transitionTo (getBindStateFromResponse event.commandId) state)
      fun state => (state, [.bindSuccess event])
  else
    andThen
      (handleError
        (text "BIND failed with status code: 0x" ++
          toDecimal event.statusCode) state)
      (transitionTo .disconnected)

def handleUnbindResponse (event : SmppEvent) (state : SmppState) : Result :=
  if event.statusCode = esmeRok then
    andThen (transitionTo .disconnected state)
      fun state => (state, [.unbindSuccess event])
  else
    andThen
      (handleError
        (text "UNBIND failed with status code: 0x" ++
          toDecimal event.statusCode) state)
      (transitionTo .errorState)

def handleEventInConnected (_event : SmppEvent) (state : SmppState) :
    Result :=
  (state, [])

def handleEventInBinding (event : SmppEvent) (state : SmppState) : Result :=
  if isBindResponse event.commandId then handleBindResponse event state
  else
    handleError
      (text "Unexpected PDU in BINDING state: 0x" ++
        toDecimal event.commandId) state

/-- The handlers of the three bound states differ in their log texts only. -/
def handleEventInBound (event : SmppEvent) (state : SmppState) : Result :=
  if event.commandId = CommandIdValues.enquireLink then (state, [])
  else if event.commandId = CommandIdValues.unbind then
    transitionTo .unbinding state
  else (state, [])

def handleEventInBoundTx (event : SmppEvent) (state : SmppState) : Result :=
  handleEventInBound event state

def handleEventInBoundRx (event : SmppEvent) (state : SmppState) : Result :=
  handleEventInBound event state

def handleEventInBoundTrx (event : SmppEvent) (state : SmppState) : Result :=
  handleEventInBound event state

def handleEventInUnbinding (event : SmppEvent) (state : SmppState) :
    Result :=
  if event.commandId = CommandIdValues.unbindResp then
    handleUnbindResponse event state
  else
    handleError
      (text "Unexpected PDU in UNBINDING state: 0x" ++
        toDecimal event.commandId) state

def processEvent (event : SmppEvent) (state : SmppState) : Result :=
  match state with
  | .idle => (state, [])
  | .connected => handleEventInConnected event state
  | .binding => handleEventInBinding event state
  | .boundTx => handleEventInBoundTx event state
  | .boundRx => handleEventInBoundRx event state
  | .boundTrx => handleEventInBoundTrx event state
  | .unbinding => handleEventInUnbinding event state
  | .disconnected => (state, [])
  | .errorState => (state, [])

end OpenSmsc.SmppStateMachine
