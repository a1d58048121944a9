/-
Runs of the state-pattern client state machine.

A PDU that a state class does not override ends in the exception of the base
class, and every handler turns that exception into the error state.  So a
disconnected machine is left by the next PDU, whatever it is.  The binding
state keeps no record of the bind that was requested, and the handler of a
bind response notifies by the status alone.
-/

import OpenSmsc.Client.StateMachineAgreement

namespace OpenSmsc.SmppStateMachineV2

open Foundation StateMachines

/-! ### States entered -/

def classNamed (name : Octets) : Option StateClass :=
  [.idleState, .connectedState, .bindingState, .boundTxState, .boundRxState,
    .boundTrxState, .unbindingState, .disconnectedState, .errorState].find?
    fun state => stateName state == name

theorem classNamed_stateName (state : StateClass) :
    classNamed (stateName state) = some state := by
  cases state <;> decide +kernel

theorem stateName_injective {first second : StateClass}
    (same : stateName first = stateName second) : first = second := by
  have found := classNamed_stateName first
  rw [same, classNamed_stateName] at found
  exact (Option.some.inj found).symm

theorem getCurrentState_eq_iff (m : StateMachine) (state : StateClass) :
    getCurrentState m = stateName state ↔ m.current = state := by
  constructor
  · exact stateName_injective
  · intro isCurrent
    exact congrArg stateName isCurrent

theorem transitionTo_current (newState : StateClass) (m : StateMachine) :
    (transitionTo newState m).1.current = newState := by
  unfold transitionTo
  split
  · rename_i same
    exact stateName_injective same
  · rfl

theorem transitionToError_current (errorMsg : Octets) (m : StateMachine) :
    (transitionToError errorMsg m).1.current = .errorState :=
  transitionTo_current .errorState m

theorem transitionToDisconnected_current (m : StateMachine) :
    (transitionToDisconnected m).1.current = .disconnectedState :=
  transitionTo_current .disconnectedState m

theorem transitionTo_callback {newState : StateClass} {m : StateMachine}
    {callback : Callback} (member : callback ∈ (transitionTo newState m).2) :
    ∃ old new, callback = .stateTransition old new := by
  unfold transitionTo at member
  split at member
  · cases member
  · exact ⟨_, _, List.mem_singleton.mp member⟩

theorem transitionToError_callback {errorMsg : Octets} {m : StateMachine}
    {callback : Callback}
    (member : callback ∈ (transitionToError errorMsg m).2) :
    (∃ old new, callback = .stateTransition old new) ∨
      callback = .error errorMsg := by
  rcases List.mem_append.mp member with moved | reported
  · exact Or.inl (transitionTo_callback moved)
  · exact Or.inr (List.mem_singleton.mp reported)

/-! ### Terminal states -/

/-- The two states the documents call terminal. -/
def IsTerminal (m : StateMachine) : Prop :=
  getCurrentState m = text "DISCONNECTED" ∨
    getCurrentState m = text "ERROR_STATE"

/-- The calls change nothing and no callback but the one for errors is
invoked. -/
structure Settled (m : StateMachine) (calls : List Call) : Prop where
  sameState : ∀ front, front <+: calls →
    getCurrentState (machine.final m front) = getCurrentState m
  onlyErrors : ∀ callback ∈ machine.emitted m calls,
    ∃ errorMsg, callback = .error errorMsg

/-- Neither class overrides a method, so every call ends in the `catch`. -/
theorem handle_terminal {m : StateMachine}
    (terminal : m.current = .disconnectedState ∨ m.current = .errorState)
    (call : Call) :
    ∃ errorMsg, handle m call = transitionToError errorMsg m := by
  obtain ⟨current, deleted⟩ := m
  rcases terminal with isCurrent | isCurrent
  · cases isCurrent
    cases call <;> exact ⟨_, rfl⟩
  · cases isCurrent
    cases call <;> exact ⟨_, rfl⟩

theorem handle_error {m : StateMachine} (isCurrent : m.current = .errorState)
    (call : Call) :
    ∃ errorMsg, handle m call = (m, [.error errorMsg]) := by
  obtain ⟨errorMsg, handled⟩ := handle_terminal (Or.inr isCurrent) call
  refine ⟨errorMsg, ?_⟩
  rw [handled]
  unfold transitionToError transitionTo
  rw [if_pos (congrArg stateName isCurrent)]
  rfl

theorem error_final {m : StateMachine} (isCurrent : m.current = .errorState)
    (calls : List Call) : machine.final m calls = m := by
  induction calls with
  | nil => rfl
  | cons call rest ih =>
      obtain ⟨errorMsg, handled⟩ := handle_error isCurrent call
      have unchanged : (machine.step m call).1 = m :=
        congrArg Prod.fst handled
      simp only [Machine.final]
      rw [unchanged]
      exact ih

theorem error_emitted {m : StateMachine}
    (isCurrent : m.current = .errorState) (calls : List Call) :
    ∀ callback ∈ machine.emitted m calls,
      ∃ errorMsg, callback = .error errorMsg := by
  induction calls with
  | nil =>
      intro callback member
      cases member
  | cons call rest ih =>
      obtain ⟨errorMsg, handled⟩ := handle_error isCurrent call
      have stepped : machine.step m call = (m, [.error errorMsg]) := handled
      intro callback member
      rw [Machine.emitted_cons, stepped] at member
      rcases List.mem_append.mp member with here | later
      · exact ⟨errorMsg, List.mem_singleton.mp here⟩
      · exact ih callback later

theorem error_settled {m : StateMachine}
    (isCurrent : m.current = .errorState) (calls : List Call) :
    Settled m calls := by
  constructor
  · intro front _
    rw [error_final isCurrent front]
  · exact error_emitted isCurrent calls

theorem disconnected_not_settled {m : StateMachine}
    (isCurrent : m.current = .disconnectedState) (call : Call)
    (rest : List Call) : ¬Settled m (call :: rest) := by
  intro settled
  obtain ⟨errorMsg, handled⟩ := handle_terminal (Or.inl isCurrent) call
  have entered : (machine.final m [call]).current = .errorState := by
    change (handle m call).1.current = .errorState
    rw [handled]
    exact transitionToError_current errorMsg m
  have same := stateName_injective (settled.sameState [call] ⟨rest, rfl⟩)
  rw [entered, isCurrent] at same
  cases same

/-- Behind any run, a machine in one of the two states is settled for all
later calls in the error state, and in the disconnected state only for want
of a call. -/
theorem terminal_settled_iff (start : StateMachine)
    (calls later : List Call)
    (terminal : IsTerminal (machine.final start calls)) :
    Settled (machine.final start calls) later ↔
      getCurrentState (machine.final start calls) = text "ERROR_STATE" ∨
        later = [] := by
  rcases terminal with disconnected | failed
  · have isCurrent := (getCurrentState_eq_iff _ .disconnectedState).mp
      disconnected
    constructor
    · intro settled
      cases later with
      | nil => exact Or.inr rfl
      | cons call rest =>
          exact absurd settled (disconnected_not_settled isCurrent call rest)
    · rintro (failed | rfl)
      · rw [disconnected] at failed
        exact absurd failed (by decide)
      · constructor
        · intro front before
          rw [List.prefix_nil.mp before]
          rfl
        · intro callback member
          cases member
  · have isCurrent := (getCurrentState_eq_iff _ .errorState).mp failed
    constructor
    · intro _
      exact Or.inl failed
    · intro _
      exact error_settled isCurrent later

theorem terminal_settled_rejected :
    Settled (machine.final create [.enquireLink])
      [.bindResp 0x80000002 0, .unbind] := by
  have failed : getCurrentState (machine.final create [.enquireLink]) =
      text "ERROR_STATE" := by
    decide
  exact (terminal_settled_iff create [.enquireLink]
    [.bindResp 0x80000002 0, .unbind] (Or.inr failed)).mpr (Or.inl failed)

/-- A session that was bound and unbound, and a keepalive answer that comes
late. -/
theorem disconnected_left_by_late_answer :
    let m := machine.final (transitionToConnected create).1
      [.bind 0x00000002 [] [], .bindResp 0x80000002 0, .unbind,
        .unbindResp 0]
    getCurrentState m = text "DISCONNECTED" ∧
      getCurrentState (handleEnquireLinkResp 0 m).1 = text "ERROR_STATE" ∧
      (handleEnquireLinkResp 0 m).2 =
        [.stateTransition (text "DISCONNECTED") (text "ERROR_STATE"),
          .error (text
            "ENQUIRE_LINK_RESP PDU not accepted in state: DISCONNECTED")] := by
  decide +kernel

/-! ### Responses -/

def boundClass (kind : BindType) : StateClass := classOf kind.boundState

theorem boundClass_injective {first second : BindType}
    (same : boundClass first = boundClass second) : first = second := by
  cases first <;> cases second <;>
    first
    | rfl
    | cases same

/-- What a bind response does.  The status decides on the callback, the status
and the type on the transition. -/
inductive BindAnswered (m : StateMachine) (bindType statusCode : UInt32)
    (result : Result) : Prop
  | bound (kind : BindType) (isCurrent : m.current = .bindingState)
      (isOk : statusCode = 0) (isKind : bindType = kind.respId)
      (isResult : result =
        ((transitionTo (boundClass kind) m).1,
          (transitionTo (boundClass kind) m).2 ++ [.bindSuccess bindType]))
  | unknown (isCurrent : m.current = .bindingState) (isOk : statusCode = 0)
      (noKind : ∀ kind : BindType, bindType ≠ kind.respId)
      (isResult : result = (m, [.bindSuccess bindType]))
  | refused (isCurrent : m.current = .bindingState)
      (isError : statusCode ≠ 0)
      (isResult : result = transitionToDisconnected m)
  | rejected (notBinding : m.current ≠ .bindingState) (errorMsg : Octets)
      (isResult : result = transitionToError errorMsg m)

theorem handleBindResp_answered (m : StateMachine)
    (bindType statusCode : UInt32) :
    BindAnswered m bindType statusCode
      (handleBindResp bindType statusCode m) := by
  unfold handleBindResp
  by_cases isCurrent : m.current = .bindingState
  · unfold onBindResp
    rw [isCurrent]
    by_cases isOk : statusCode = 0
    · simp only [if_pos isOk, Except.map, orError]
      by_cases transmitter : bindType = 0x80000002
      · rw [if_pos transmitter]
        exact .bound .transmitter isCurrent isOk transmitter rfl
      · rw [if_neg transmitter]
        by_cases receiver : bindType = 0x80000001
        · rw [if_pos receiver]
          exact .bound .receiver isCurrent isOk receiver rfl
        · rw [if_neg receiver]
          by_cases transceiver : bindType = 0x80000009
          · rw [if_pos transceiver]
            exact .bound .transceiver isCurrent isOk transceiver rfl
          · rw [if_neg transceiver]
            apply BindAnswered.unknown isCurrent isOk
            · intro kind
              cases kind with
              | transmitter => exact transmitter
              | receiver => exact receiver
              | transceiver => exact transceiver
            · rfl
    · simp only [if_neg isOk, Except.map, orError]
      exact .refused isCurrent isOk rfl
  · rw [onBindResp_of_ne isCurrent]
    exact .rejected isCurrent _ rfl

inductive UnbindAnswered (m : StateMachine) (statusCode : UInt32)
    (result : Result) : Prop
  | unbound (isCurrent : m.current = .unbindingState)
      (isOk : statusCode = 0)
      (isResult : result =
        ((transitionToDisconnected m).1,
          (transitionToDisconnected m).2 ++ [.unbindSuccess]))
  | failed (errorMsg : Octets)
      (isResult : result = transitionToError errorMsg m)

theorem handleUnbindResp_answered (m : StateMachine) (statusCode : UInt32) :
    UnbindAnswered m statusCode (handleUnbindResp statusCode m) := by
  unfold handleUnbindResp
  by_cases isCurrent : m.current = .unbindingState
  · unfold onUnbindResp
    rw [isCurrent]
    by_cases isOk : statusCode = 0
    · simp only [if_pos isOk, Except.map, orError]
      exact .unbound isCurrent isOk rfl
    · simp only [if_neg isOk, Except.map, orError]
      exact .failed _ rfl
  · rw [onUnbindResp_of_ne isCurrent]
    exact .failed _ rfl

/-! ### Notifications -/

def MovedInto (name : Octets) (m after : StateMachine) : Prop :=
  getCurrentState m ≠ name ∧ getCurrentState after = name

def MovedIntoBound (m after : StateMachine) : Prop :=
  MovedInto (text "BOUND_TX") m after ∨ MovedInto (text "BOUND_RX") m after ∨
    MovedInto (text "BOUND_TRX") m after

def NotifiesBind (callbacks : List Callback) : Prop :=
  ∃ bindType, Callback.bindSuccess bindType ∈ callbacks

theorem movedInto_iff (state : StateClass) (m after : StateMachine) :
    MovedInto (stateName state) m after ↔
      m.current ≠ state ∧ after.current = state := by
  unfold MovedInto
  rw [Ne, getCurrentState_eq_iff, getCurrentState_eq_iff]

theorem movedIntoBound_iff (m after : StateMachine) :
    MovedIntoBound m after ↔
      ∃ kind, m.current ≠ boundClass kind ∧
        after.current = boundClass kind := by
  have named (kind : BindType) :=
    movedInto_iff (boundClass kind) m after
  constructor
  · rintro (moved | moved | moved)
    · exact ⟨.transmitter, (named .transmitter).mp moved⟩
    · exact ⟨.receiver, (named .receiver).mp moved⟩
    · exact ⟨.transceiver, (named .transceiver).mp moved⟩
  · rintro ⟨kind, moved⟩
    have here := (named kind).mpr moved
    cases kind with
    | transmitter => exact Or.inl here
    | receiver => exact Or.inr (Or.inl here)
    | transceiver => exact Or.inr (Or.inr here)

theorem boundClass_ne (kind : BindType) {state : StateClass}
    (otherRank : rank state ≠ 3) : state ≠ boundClass kind := by
  intro same
  rw [same] at otherRank
  cases kind <;> exact otherRank rfl

theorem transition_not_bindSuccess {newState : StateClass}
    {m : StateMachine} : ¬NotifiesBind (transitionTo newState m).2 := by
  rintro ⟨bindType, member⟩
  obtain ⟨old, new, isCallback⟩ := transitionTo_callback member
  cases isCallback

theorem error_not_bindSuccess {errorMsg : Octets} {m : StateMachine} :
    ¬NotifiesBind (transitionToError errorMsg m).2 := by
  rintro ⟨bindType, member⟩
  rcases transitionToError_callback member with
    ⟨old, new, isCallback⟩ | isCallback
  · cases isCallback
  · cases isCallback

theorem not_movedIntoBound {m after : StateMachine}
    (elsewhere : ∀ kind, after.current ≠ boundClass kind) :
    ¬MovedIntoBound m after := by
  intro moved
  obtain ⟨kind, _, isBound⟩ := (movedIntoBound_iff m after).mp moved
  exact elsewhere kind isBound

theorem bindNotified_iff (m : StateMachine) (bindType statusCode : UInt32) :
    (NotifiesBind (handleBindResp bindType statusCode m).2 ↔
        MovedIntoBound m (handleBindResp bindType statusCode m).1) ↔
      ¬(getCurrentState m = text "BINDING" ∧ statusCode = 0 ∧
        ∀ kind : BindType, bindType ≠ kind.respId) := by
  cases handleBindResp_answered m bindType statusCode with
  | bound kind isCurrent isOk isKind isResult =>
      have notified :
          NotifiesBind (handleBindResp bindType statusCode m).2 := by
        rw [isResult]
        exact ⟨bindType,
          List.mem_append_right _ (List.mem_singleton_self _)⟩
      have moved :
          MovedIntoBound m (handleBindResp bindType statusCode m).1 := by
        rw [isResult, movedIntoBound_iff]
        refine ⟨kind, ?_, transitionTo_current _ m⟩
        rw [isCurrent]
        exact boundClass_ne kind (by decide)
      constructor
      · intro _ stray
        exact stray.2.2 kind isKind
      · intro _
        exact iff_of_true notified moved
  | unknown isCurrent isOk noKind isResult =>
      have notified :
          NotifiesBind (handleBindResp bindType statusCode m).2 := by
        rw [isResult]
        exact ⟨bindType, List.mem_singleton_self _⟩
      have still :
          ¬MovedIntoBound m (handleBindResp bindType statusCode m).1 := by
        apply not_movedIntoBound
        intro kind
        rw [isResult, isCurrent]
        exact boundClass_ne kind (by decide)
      constructor
      · intro same
        exact absurd (same.mp notified) still
      · intro noStray
        exact absurd
          ⟨(getCurrentState_eq_iff m .bindingState).mpr isCurrent, isOk,
            noKind⟩ noStray
  | refused isCurrent isError isResult =>
      have silent :
          ¬NotifiesBind (handleBindResp bindType statusCode m).2 := by
        rw [isResult]
        exact transition_not_bindSuccess
      have elsewhere :
          ¬MovedIntoBound m (handleBindResp bindType statusCode m).1 := by
        apply not_movedIntoBound
        intro kind
        rw [isResult, transitionToDisconnected_current]
        exact boundClass_ne kind (by decide)
      constructor
      · intro _ stray
        exact isError stray.2.1
      · intro _
        exact iff_of_false silent elsewhere
  | rejected notBinding errorMsg isResult =>
      have silent :
          ¬NotifiesBind (handleBindResp bindType statusCode m).2 := by
        rw [isResult]
        exact error_not_bindSuccess
      have elsewhere :
          ¬MovedIntoBound m (handleBindResp bindType statusCode m).1 := by
        apply not_movedIntoBound
        intro kind
        rw [isResult, transitionToError_current]
        exact boundClass_ne kind (by decide)
      constructor
      · intro _ stray
        exact notBinding
          ((getCurrentState_eq_iff m .bindingState).mp stray.1)
      · intro _
        exact iff_of_false silent elsewhere

theorem unbindNotified_iff (m : StateMachine) (statusCode : UInt32) :
    Callback.unbindSuccess ∈ (handleUnbindResp statusCode m).2 ↔
      MovedInto (text "DISCONNECTED") m
        (handleUnbindResp statusCode m).1 := by
  have named := movedInto_iff .disconnectedState m
    (handleUnbindResp statusCode m).1
  refine Iff.trans ?_ named.symm
  cases handleUnbindResp_answered m statusCode with
  | unbound isCurrent isOk isResult =>
      rw [isResult]
      apply iff_of_true
      · exact List.mem_append_right _ (List.mem_singleton_self _)
      · constructor
        · rw [isCurrent]
          decide
        · exact transitionToDisconnected_current m
  | failed errorMsg isResult =>
      rw [isResult]
      apply iff_of_false
      · intro member
        rcases transitionToError_callback member with
          ⟨old, new, isCallback⟩ | isCallback
        · cases isCallback
        · cases isCallback
      · intro moved
        have isError := transitionToError_current errorMsg m
        rw [moved.2] at isError
        cases isError

/-- The callback of a bind response tells of a bound state exactly unless a
machine in the binding state gets status 0 with a type that is no bind
response.  The callback of an unbind response tells the truth always. -/
theorem success_callbacks_truthful (m : StateMachine)
    (bindType statusCode : UInt32) :
    ((NotifiesBind (handleBindResp bindType statusCode m).2 ↔
        MovedIntoBound m (handleBindResp bindType statusCode m).1) ↔
      ¬(getCurrentState m = text "BINDING" ∧ statusCode = 0 ∧
        ∀ kind : BindType, bindType ≠ kind.respId)) ∧
    (Callback.unbindSuccess ∈ (handleUnbindResp statusCode m).2 ↔
      MovedInto (text "DISCONNECTED") m
        (handleUnbindResp statusCode m).1) :=
  ⟨bindNotified_iff m bindType statusCode, unbindNotified_iff m statusCode⟩

/-- The request's own command id in the place of the response's: success is
reported, and the machine still waits. -/
theorem bindSuccess_while_binding :
    let m := machine.final (transitionToConnected create).1
      [.bind 0x00000002 [] []]
    (handleBindResp 0x00000002 0 m).2 = [.bindSuccess 0x00000002] ∧
      getCurrentState m = text "BINDING" ∧
      getCurrentState (handleBindResp 0x00000002 0 m).1 =
        text "BINDING" := by
  decide

/-! ### Bound as requested -/

abbrev Past := List (Machine.Entry StateMachine Call Callback)

/-- The type of a bind that the connected state accepts. -/
def acceptedBind (entry : Machine.Entry StateMachine Call Callback) :
    Option UInt32 :=
  match entry.event with
  | .bind bindType _ _ =>
      if getCurrentState entry.before = text "CONNECTED" then some bindType
      else none
  | _ => none

def lastAcceptedBind (past : Past) : Option UInt32 :=
  (past.filterMap acceptedBind).getLast?

/-- A bound machine has what the last accepted bind asked for, and a bind of
no known type binds nothing. -/
structure BoundAsAsked (past : Past) (m : StateMachine) : Prop where
  sameKind : ∀ kind : BindType,
    getCurrentState m = SmppStateMachine.stateToString kind.boundState →
      lastAcceptedBind past = some kind.commandId
  knownKind : ∀ bindType, lastAcceptedBind past = some bindType →
    (∀ kind : BindType, bindType ≠ kind.commandId) → isBound m = false

def Binds (kind : BindType)
    (entry : Machine.Entry StateMachine Call Callback) : Prop :=
  entry.event = .bindResp kind.respId 0 ∧
    getCurrentState entry.before = text "BINDING"

theorem lastAcceptedBind_concat (past : Past)
    (entry : Machine.Entry StateMachine Call Callback)
    (noBind : acceptedBind entry = none) :
    lastAcceptedBind (past ++ [entry]) = lastAcceptedBind past := by
  unfold lastAcceptedBind
  rw [List.filterMap_append, List.filterMap_cons, noBind]
  exact congrArg List.getLast? (List.append_nil _)

theorem acceptedBind_not_connected
    {entry : Machine.Entry StateMachine Call Callback}
    (elsewhere : entry.before.current ≠ .connectedState) :
    acceptedBind entry = none := by
  have notConnected : getCurrentState entry.before ≠ text "CONNECTED" :=
    fun connected => elsewhere
      ((getCurrentState_eq_iff _ .connectedState).mp connected)
  unfold acceptedBind
  split
  · exact if_neg notConnected
  · rfl

theorem Binds.isBinding {kind : BindType}
    {entry : Machine.Entry StateMachine Call Callback}
    (binds : Binds kind entry) : entry.before.current = .bindingState :=
  (getCurrentState_eq_iff _ .bindingState).mp binds.2

theorem Binds.acceptedBind_eq {kind : BindType}
    {entry : Machine.Entry StateMachine Call Callback}
    (binds : Binds kind entry) : acceptedBind entry = none := by
  apply acceptedBind_not_connected
  rw [binds.isBinding]
  decide

theorem handleBind_current (bindType : UInt32) (systemId password : Octets)
    (m : StateMachine) :
    (handleBind bindType systemId password m).1.current = .bindingState ∨
      (handleBind bindType systemId password m).1.current =
        .errorState := by
  unfold handleBind onBind
  split
  · exact Or.inl (transitionTo_current _ m)
  · exact Or.inr (transitionToError_current _ m)

theorem handleUnbind_current (m : StateMachine) :
    (handleUnbind m).1.current = .unbindingState ∨
      (handleUnbind m).1.current = .errorState := by
  unfold handleUnbind onUnbind
  split
  · exact Or.inl (transitionTo_current _ m)
  · exact Or.inl (transitionTo_current _ m)
  · exact Or.inl (transitionTo_current _ m)
  · exact Or.inr (transitionToError_current _ m)

theorem stayIfBound_current (pdu : Octets) (m : StateMachine) :
    (orError (stayIfBound pdu m) m).1 = m ∨
      (orError (stayIfBound pdu m) m).1.current = .errorState := by
  unfold stayIfBound
  split
  · exact Or.inl rfl
  · exact Or.inl rfl
  · exact Or.inl rfl
  · exact Or.inr (transitionToError_current _ m)

theorem handle_bound {m : StateMachine} {call : Call} {kind : BindType}
    (isBound : (handle m call).1.current = boundClass kind) :
    Binds kind (machine.entry m call) ∨ m.current = boundClass kind := by
  have notError (errorMsg : Octets) (result : Result)
      (isResult : result = transitionToError errorMsg m) :
      result.1.current ≠ boundClass kind := by
    rw [isResult, transitionToError_current]
    exact boundClass_ne kind (by decide)
  have stays (pdu : Octets)
      (bound : (orError (stayIfBound pdu m) m).1.current =
        boundClass kind) : m.current = boundClass kind := by
    rcases stayIfBound_current pdu m with same | failed
    · rwa [same] at bound
    · rw [failed] at bound
      exact absurd bound (boundClass_ne kind (by decide))
  cases call with
  | bind bindType systemId password =>
      have entered := handleBind_current bindType systemId password m
      change (handleBind bindType systemId password m).1.current = _
        at isBound
      rw [isBound] at entered
      rcases entered with binding | failed
      · exact absurd binding.symm (boundClass_ne kind (by decide))
      · exact absurd failed.symm (boundClass_ne kind (by decide))
  | bindResp bindType statusCode =>
      change (handleBindResp bindType statusCode m).1.current = _ at isBound
      cases handleBindResp_answered m bindType statusCode with
      | bound other isCurrent isOk isKind isResult =>
          rw [isResult, transitionTo_current] at isBound
          have sameKind : other = kind := boundClass_injective isBound
          rw [isOk, isKind, sameKind]
          exact Or.inl ⟨rfl,
            (getCurrentState_eq_iff m .bindingState).mpr isCurrent⟩
      | unknown isCurrent isOk noKind isResult =>
          rw [isResult] at isBound
          exact Or.inr isBound
      | refused isCurrent isError isResult =>
          rw [isResult, transitionToDisconnected_current] at isBound
          exact absurd isBound (boundClass_ne kind (by decide))
      | rejected notBinding errorMsg isResult =>
          exact absurd isBound (notError errorMsg _ isResult)
  | unbind =>
      have entered := handleUnbind_current m
      change (handleUnbind m).1.current = _ at isBound
      rw [isBound] at entered
      rcases entered with unbinding | failed
      · exact absurd unbinding.symm (boundClass_ne kind (by decide))
      · exact absurd failed.symm (boundClass_ne kind (by decide))
  | unbindResp statusCode =>
      change (handleUnbindResp statusCode m).1.current = _ at isBound
      cases handleUnbindResp_answered m statusCode with
      | unbound isCurrent isOk isResult =>
          rw [isResult, transitionToDisconnected_current] at isBound
          exact absurd isBound (boundClass_ne kind (by decide))
      | failed errorMsg isResult =>
          exact absurd isBound (notError errorMsg _ isResult)
  | enquireLink => exact Or.inr (stays _ isBound)
  | enquireLinkResp statusCode => exact Or.inr (stays _ isBound)
  | submitSm sourceAddr destAddr message =>
      exact absurd isBound (notError _ _ rfl)
  | submitSmResp statusCode messageId =>
      exact absurd isBound (notError _ _ rfl)
  | deliverSm sourceAddr destAddr message =>
      exact absurd isBound (notError _ _ rfl)
  | deliverSmResp statusCode => exact absurd isBound (notError _ _ rfl)

theorem handle_binds {m : StateMachine} {call : Call} {kind : BindType}
    (binds : Binds kind (machine.entry m call)) :
    (handle m call).1.current = boundClass kind := by
  have isCurrent : m.current = .bindingState := binds.isBinding
  have isCall : call = .bindResp kind.respId 0 := binds.1
  rw [isCall]
  change (handleBindResp kind.respId 0 m).1.current = _
  cases handleBindResp_answered m kind.respId 0 with
  | bound other _ isOk isKind isResult =>
      have sameKind : kind = other := by
        cases kind <;> cases other <;>
          first
          | rfl
          | exact absurd isKind (by decide)
      rw [isResult, sameKind]
      exact transitionTo_current _ m
  | unknown _ isOk noKind isResult => exact absurd rfl (noKind kind)
  | refused _ isError isResult => exact absurd rfl isError
  | rejected notBinding errorMsg isResult => exact absurd isCurrent notBinding

theorem bound_history (start : StateMachine)
    (notBound : ∀ kind, start.current ≠ boundClass kind)
    (calls : List Call) (kind : BindType)
    (isBound : (machine.final start calls).current = boundClass kind) :
    ∃ before entry after,
      machine.history start calls = before ++ entry :: after ∧
        Binds kind entry ∧
        lastAcceptedBind (machine.history start calls) =
          lastAcceptedBind before := by
  refine machine.history_rule
    (fun m past => m.current = boundClass kind →
      ∃ before entry after, past = before ++ entry :: after ∧
        Binds kind entry ∧ lastAcceptedBind past = lastAcceptedBind before)
    start ?_ ?_ calls isBound
  · intro atStart
    exact absurd atStart (notBound kind)
  · intro m past call earlier bound
    rcases handle_bound bound with binds | stayed
    · refine ⟨past, machine.entry m call, [], rfl, binds, ?_⟩
      exact lastAcceptedBind_concat past _ binds.acceptedBind_eq
    · obtain ⟨before, entry, after, isPast, binds, same⟩ := earlier stayed
      refine ⟨before, entry, after ++ [machine.entry m call], ?_, binds, ?_⟩
      · rw [isPast, List.append_assoc]
        rfl
      · -- a bound machine is not connected, so the call is no accepted bind
        have noBind : acceptedBind (machine.entry m call) = none := by
          apply acceptedBind_not_connected
          change m.current ≠ .connectedState
          rw [stayed]
          exact (boundClass_ne kind (by decide)).symm
        rw [lastAcceptedBind_concat past _ noBind, same]

theorem isBound_kind {m : StateMachine} (bound : isBound m = true) :
    ∃ kind, getCurrentState m = stateName (boundClass kind) := by
  unfold isBound at bound
  rw [Bool.or_eq_true, Bool.or_eq_true] at bound
  rcases bound with (transmitter | receiver) | transceiver
  · exact ⟨.transmitter, beq_iff_eq.mp transmitter⟩
  · exact ⟨.receiver, beq_iff_eq.mp receiver⟩
  · exact ⟨.transceiver, beq_iff_eq.mp transceiver⟩

/-- With the first condition the second is no condition: a bound machine has
one of the three kinds. -/
theorem BoundAsAsked.of_sameKind {past : Past} {m : StateMachine}
    (sameKind : ∀ kind, m.current = boundClass kind →
      lastAcceptedBind past = some kind.commandId) :
    BoundAsAsked past m := by
  have byName (kind : BindType)
      (named : getCurrentState m = stateName (boundClass kind)) :
      lastAcceptedBind past = some kind.commandId :=
    sameKind kind ((getCurrentState_eq_iff m _).mp named)
  constructor
  · intro kind named
    exact byName kind (named.trans (stateName_classOf _).symm)
  · intro bindType accepted noKind
    rw [Bool.eq_false_iff]
    intro bound
    obtain ⟨kind, named⟩ := isBound_kind bound
    have asked := byName kind named
    rw [accepted] at asked
    exact noKind kind (Option.some.inj asked)

/-- A connected machine is at all times bound as its client asked exactly when
each response that binds it answers the bind that was accepted last.  Neither
state checks this. -/
theorem bound_as_asked_iff (calls : List Call) :
    let connected := (transitionToConnected create).1
    (∀ front, front <+: calls →
      BoundAsAsked (machine.history connected front)
        (machine.final connected front)) ↔
      ∀ before entry after,
        machine.history connected calls = before ++ entry :: after →
          ∀ kind, Binds kind entry →
            lastAcceptedBind before = some kind.commandId := by
  intro connected
  constructor
  · intro always before entry after split kind binds
    obtain ⟨earlier, call, later, isCalls, isBefore, isEntry⟩ :=
      machine.history_split connected calls split
    have front : earlier ++ [call] <+: calls := by
      refine ⟨later, ?_⟩
      rw [isCalls, List.append_assoc]
      rfl
    have asked := (always _ front).sameKind kind
    rw [machine.final_concat, machine.history_concat, isBefore, isEntry,
      lastAcceptedBind_concat before entry binds.acceptedBind_eq] at asked
    apply asked
    rw [← isEntry] at binds
    rw [← stateName_classOf]
    exact congrArg stateName (handle_binds binds)
  · rintro answered front ⟨rest, isCalls⟩
    apply BoundAsAsked.of_sameKind
    intro kind isBound
    have notBound (kind : BindType) : connected.current ≠ boundClass kind :=
      boundClass_ne kind (by decide)
    obtain ⟨before, entry, after, isPast, binds, same⟩ :=
      bound_history connected notBound front kind isBound
    rw [same]
    apply answered before entry
      (after ++ machine.history (machine.final connected front) rest) _ kind
      binds
    rw [← isCalls, machine.history_append, isPast, List.append_assoc]
    rfl

/-- A transmitter is bound as a receiver by a response of the other kind, and
a bind of type 0 as a transmitter. -/
theorem bound_not_as_asked :
    let connected := (transitionToConnected create).1
    let mismatch : List Call :=
      [.bind 0x00000002 [] [], .bindResp 0x80000001 0]
    let noKind : List Call := [.bind 0 [] [], .bindResp 0x80000002 0]
    getCurrentState (machine.final connected mismatch) = text "BOUND_RX" ∧
      lastAcceptedBind (machine.history connected mismatch) =
        some BindType.transmitter.commandId ∧
      getCurrentState (machine.final connected noKind) = text "BOUND_TX" ∧
      lastAcceptedBind (machine.history connected noKind) = some 0 := by
  decide

end OpenSmsc.SmppStateMachineV2
