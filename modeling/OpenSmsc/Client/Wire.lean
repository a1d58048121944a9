/-
A session and the octets it puts on the wire.

`send_pdu` starts an `async_write` for each PDU without waiting for the one
before, and `do_disconnect` closes the socket without waiting for any.
-/

import OpenSmsc.Foundation.WriteQueue
import OpenSmsc.Client.Answers
import OpenSmsc.Client.SocketUse

namespace OpenSmsc.SmppSession

open Foundation Smpp

structure Connection (Number : Type) where
  session : Session Number
  socket : WriteQueue UInt8 := {}

/-- What an output of a handler does to the socket.  `attempt` is what the
socket takes at once when no other write is pending. -/
def perform (attempt : Nat) (socket : WriteQueue UInt8) :
    Effect → WriteQueue UInt8
  | .sendPdu pdu => socket.enqueue pdu attempt
  | .closeSocket => socket.close
  | _ => socket

/-- A handler runs, or the socket takes some octets of the write in front. -/
inductive WireEvent where
  | session (event : Event) (attempt : Nat)
  | written (count : Nat)

section Connections

variable {Number : Type} [TokenArith Number]

def Connection.handle (c : Connection Number) (event : Event)
    (attempt : Nat) : Connection Number :=
  { session := (step c.session event).1
    socket := (step c.session event).2.foldl (perform attempt) c.socket }

/-- The outputs of a run are the PDUs passed to `send_pdu`. -/
def connection : Machine (Connection Number) WireEvent Octets :=
  { step := fun c event =>
      match event with
      | .session event attempt =>
          (c.handle event attempt, sentPdus (step c.session event).2)
      | .written count =>
          ({ c with socket := c.socket.advance count }, []) }

def connect (config : Config) : Connection Number :=
  { session := create config }

def handledIn (schedule : List WireEvent) : List Event :=
  schedule.filterMap fun
    | .session event _ => some event
    | .written _ => none

theorem connection_runs (config : Config) (schedule : List WireEvent) :
    (connection.final (connect config : Connection Number)
        schedule).session =
        machine.final (create config) (handledIn schedule) ∧
      connection.emitted (connect config : Connection Number) schedule =
        sentPdus (machine.emitted (create config : Session Number)
          (handledIn schedule)) := by
  induction schedule using List.reverseRecOn with
  | nil => exact ⟨rfl, rfl⟩
  | append_singleton earlier event ih =>
      obtain ⟨sameSession, sameSent⟩ := ih
      rw [Machine.final_concat, Machine.emitted_concat, sameSent]
      cases event with
      | written count =>
          have skipped : handledIn (earlier ++ [.written count]) =
              handledIn earlier := by
            simp [handledIn]
          rw [skipped]
          exact ⟨sameSession, List.append_nil _⟩
      | session event attempt =>
          have handled : handledIn (earlier ++ [.session event attempt]) =
              handledIn earlier ++ [event] := by
            simp [handledIn]
          rw [handled, Machine.final_concat, Machine.emitted_concat,
            sentPdus_append, ← sameSession]
          exact ⟨rfl, rfl⟩

/-! ### Order -/

theorem perform_inOrder (sent : Octets) (socket : WriteQueue UInt8)
    (outputs : List Effect) (attempt : Nat)
    (inOrder : WriteQueue.InOrder sent socket) :
    WriteQueue.InOrder (sent ++ (sentPdus outputs).flatten)
      (outputs.foldl (perform attempt) socket) := by
  induction outputs generalizing sent socket with
  | nil =>
      rw [show sentPdus [] = [] from rfl, List.flatten_nil, List.append_nil]
      exact inOrder
  | cons effect rest ih =>
      rw [List.foldl_cons]
      cases effect with
      | sendPdu pdu =>
          have later := ih _ _ (inOrder.enqueue pdu attempt)
          rw [List.append_assoc] at later
          exact later
      | closeSocket => exact ih _ _ inOrder.close
      | _ => exact ih _ _ inOrder

/-- A step that takes a part of a PDU while another one waits: the rest of it
goes behind the other. -/
def tearsPdu
    (entry : Machine.Entry (Connection Number) WireEvent Octets) : Bool :=
  match entry.event with
  | .written count => entry.before.socket.tears count
  | .session _ _ => false

theorem connection_step_inOrder (sent : Octets) (c : Connection Number)
    (event : WireEvent) (inOrder : WriteQueue.InOrder sent c.socket)
    (whole : tearsPdu (connection.entry c event) = false) :
    WriteQueue.InOrder
      (sent ++ (connection.step c event).2.flatten)
      (connection.step c event).1.socket := by
  cases event with
  | session event attempt =>
      exact perform_inOrder sent c.socket _ attempt inOrder
  | written count =>
      change WriteQueue.InOrder (sent ++ []) (c.socket.advance count)
      rw [List.append_nil]
      exact inOrder.advance count whole

theorem connection_inOrder (config : Config) (events : List WireEvent)
    (whole : ∀ entry ∈
      connection.history (connect config : Connection Number) events,
      tearsPdu entry = false) :
    WriteQueue.InOrder
      (connection.emitted (connect config : Connection Number)
        events).flatten
      (connection.final (connect config : Connection Number)
        events).socket := by
  have inOrder := connection.allowed_history_rule
    (fun entry => tearsPdu entry = false)
    (fun c past =>
      WriteQueue.InOrder (past.flatMap (·.outputs)).flatten c.socket)
    (connect config : Connection Number) WriteQueue.inOrder_empty
    (by
      intro c past event before here
      rw [List.flatMap_append, List.flatten_append, List.flatMap_singleton]
      exact connection_step_inOrder _ c event before here)
    events whole
  exact inOrder

/-- As long as no step takes a part of a PDU in front of another one, the
octets on the wire are the front of all PDUs sent, in the order of the calls
of `send_pdu`. -/
theorem wire_in_order (config : Config) (events : List WireEvent)
    (whole : ∀ entry ∈
      connection.history (connect config : Connection Number) events,
      tearsPdu entry = false) :
    (connection.final (connect config : Connection Number)
        events).socket.wire <+:
      (connection.emitted (connect config : Connection Number)
        events).flatten :=
  (connection_inOrder config events whole).wire_prefix_sent

def quietConfig : Config :=
  { uuid := text "a1"
    clientIp := text "10.0.0.1" }

def quietEnv : Env :=
  { authenticate := fun _ _ _ _ => none
    systemClock := 0
    steadyClock := 0 }

def request (commandId sequenceNumber : UInt32) (attempt : Nat) :
    WireEvent :=
  .session
    (.onHeader quietEnv (.ok (makeResponse commandId 0 sequenceNumber)))
    attempt

theorem wire_in_order_in_parts :
    let events := [request Smpp.enquireLink 1 10, .written 6,
      request Smpp.enquireLink 2 3]
    (connection.final (connect quietConfig : Connection Float)
        events).socket.wire =
      makeResponse Smpp.enquireLinkResp 0 1 ++ [0, 0, 0] ∧
      (connection.final (connect quietConfig : Connection Float)
          events).socket.wire <+:
        (connection.emitted (connect quietConfig : Connection Float)
          events).flatten := by
  intro events
  exact ⟨by decide, wire_in_order quietConfig events (by decide)⟩

/-- Ten octets of the first answer are taken at once and three more later,
with the second answer waiting: its last three octets follow the second
answer. -/
theorem wire_torn :
    let first := makeResponse Smpp.enquireLinkResp 0 0x01020304
    let second := makeResponse Smpp.enquireLinkResp 0 0x01020305
    let events := [request Smpp.enquireLink 0x01020304 10,
      request Smpp.enquireLink 0x01020305 0, .written 3, .written 16,
      .written 3]
    let c : Connection Float := connection.final (connect quietConfig) events
    connection.emitted (connect quietConfig : Connection Float) events =
        [first, second] ∧
      c.session.state = .opened ∧
      c.socket.wire = first.take 13 ++ second ++ first.drop 13 ∧
      ¬c.socket.wire <+: [first, second].flatten := by
  decide

/-! ### The last answer -/

theorem perform_socketEffects (attempt : Nat) (outputs : List Effect)
    (socket : WriteQueue UInt8) :
    outputs.foldl (perform attempt) socket =
      (socketEffects outputs).foldl (perform attempt) socket := by
  induction outputs generalizing socket with
  | nil => rfl
  | cons effect rest ih => cases effect <;> exact ih _

def Attached (c : Connection Number) : Prop :=
  c.session.state ≠ .unbound →
    c.socket.isOpen = true ∧ c.socket.cancelled = []

theorem handle_attached (c : Connection Number) (event : Event)
    (attempt : Nat) (attached : Attached c) :
    Attached (c.handle event attempt) := by
  intro live
  unfold Connection.handle at live ⊢
  rw [perform_socketEffects]
  cases step_socketUse c.session event with
  | nothing same isUsed =>
      rw [isUsed]
      exact attached fun ended => live (same.mpr ended)
  | sends pdu same isUsed =>
      obtain ⟨isOpen, uncut⟩ :=
        attached fun ended => live (same.mpr ended)
      rw [isUsed]
      refine ⟨?_, ?_⟩
      · exact (WriteQueue.enqueue_isOpen pdu attempt c.socket).trans isOpen
      · exact (WriteQueue.enqueue_cancelled pdu attempt c.socket).trans uncut
  | closes wasLive ended isUsed => exact absurd ended live
  | answersAndCloses pdu wasLive ended isUsed => exact absurd ended live

theorem connection_attached (config : Config) (events : List WireEvent) :
    Attached
      (connection.final (connect config : Connection Number) events) := by
  refine connection.invariant_rule Attached (connect config)
    (fun _ => ⟨rfl, rfl⟩) ?_ events
  intro c event attached
  cases event with
  | session event attempt => exact handle_attached c event attempt attached
  | written count =>
      intro live
      obtain ⟨isOpen, uncut⟩ := attached live
      exact ⟨(WriteQueue.advance_isOpen count c.socket).trans isOpen,
        (WriteQueue.advance_cancelled count c.socket).trans uncut⟩

theorem connection_msgIdPrefix (config : Config)
    (events : List WireEvent) :
    (connection.final (connect config : Connection Number)
      events).session.msgIdPrefix.length ≤ 8 := by
  refine connection.invariant_rule
    (fun c => c.session.msgIdPrefix.length ≤ 8) (connect config)
    (create_msgIdPrefix_length config) ?_ events
  intro c event short
  cases event with
  | session event attempt =>
      change (step c.session event).1.msgIdPrefix.length ≤ 8
      rw [step_msgIdPrefix]
      exact short
  | written count => exact short

/-- What an unbind or a refused bind leaves unwritten when it closes the
socket.  Its answer is the one PDU of that step, and it and all PDUs before it
are on the wire exactly when no write was pending and the socket takes the
answer at once. -/
theorem last_answer_written_iff (config : Config) (events : List WireEvent)
    (event : Event) (attempt : Nat) (env : Env) (hdr : Header)
    (body : Octets) (isPdu : dispatched event = some (env, hdr, body))
    (isLast : hdr.commandId = Smpp.unbind ∨ IsBind hdr.commandId) :
    let before : Connection Number :=
      connection.final (connect config) events
    let after := (connection.step before (.session event attempt)).1
    before.session.state ≠ .unbound → after.session.state = .unbound →
      ∃ answer,
        (connection.step before (.session event attempt)).2 = [answer] ∧
          Answers hdr answer ∧
          (after.socket.cancelled = [] ↔
            before.socket.pending = [] ∧ answer.length ≤ attempt) := by
  intro before after live ended
  have unknown : ¬IsKnownResponse hdr.commandId := by
    intro known
    have isResponse := isResponseId_of_known hdr.commandId known
    have served : IsServed hdr.commandId := by
      rcases isLast with isUnbind | isBind
      · exact Or.inr (Or.inl isUnbind)
      · exact Or.inl isBind
    rw [isResponseId_of_served hdr.commandId served] at isResponse
    contradiction
  obtain ⟨answer, sent, answers⟩ :=
    (dispatch_replied env hdr body before.session unknown).answers
      (connection_msgIdPrefix config events)
  have stepSent : sentPdus (step before.session event).2 = [answer] := by
    rw [step_of_dispatched before.session event env hdr body isPdu,
      dispatchAndRead_sentPdus]
    exact sent
  refine ⟨answer, stepSent, answers, ?_⟩
  obtain ⟨isOpen, uncut⟩ := connection_attached config events live
  have isSocket : after.socket =
      (socketEffects (step before.session event).2).foldl (perform attempt)
        before.socket :=
    perform_socketEffects attempt _ before.socket
  rw [← sentPdus_socketEffects] at stepSent
  cases step_socketUse before.session event with
  | nothing same isUsed => exact absurd (same.mp ended) live
  | sends pdu same isUsed => exact absurd (same.mp ended) live
  | closes wasLive ended isUsed =>
      rw [isUsed] at stepSent
      contradiction
  | answersAndCloses pdu wasLive ended isUsed =>
      rw [isUsed] at stepSent isSocket
      cases stepSent
      have left : after.socket.cancelled =
          before.socket.cancelled ++
            (before.socket.enqueue answer attempt).pending := by
        rw [isSocket]
        exact congrArg (· ++ _)
          (WriteQueue.enqueue_cancelled answer attempt before.socket)
      rw [left, uncut, List.nil_append]
      exact WriteQueue.enqueue_pending_eq_nil answer attempt _ isOpen

theorem last_answer_written_at_once :
    let before : Connection Float := connection.final (connect quietConfig)
      [request Smpp.enquireLink 1 16]
    let after :=
      (connection.step before (request Smpp.unbind 2 16)).1
    before.session.state ≠ .unbound ∧ after.session.state = .unbound ∧
      ∃ answer,
        (connection.step before (request Smpp.unbind 2 16)).2 = [answer] ∧
          (after.socket.cancelled = [] ↔
            before.socket.pending = [] ∧ answer.length ≤ 16) := by
  intro before after
  refine ⟨by decide, by decide, ?_⟩
  obtain ⟨answer, sent, _, written⟩ :=
    @last_answer_written_iff Float _ quietConfig
      [request Smpp.enquireLink 1 16]
      (.onHeader quietEnv (.ok (makeResponse Smpp.unbind 0 2))) 16 quietEnv
      (decodeHeader (makeResponse Smpp.unbind 0 2)) [] rfl
      (Or.inl (by decide)) (by decide) (by decide)
  exact ⟨answer, sent, written⟩

/-- An unbind while six octets of an earlier answer are pending: they and the
whole unbind_resp are lost. -/
theorem unbindResp_lost :
    let first := makeResponse Smpp.enquireLinkResp 0 1
    let last := makeResponse Smpp.unbindResp 0 2
    let events := [request Smpp.enquireLink 1 10,
      request Smpp.unbind 2 16, .written 16]
    let c : Connection Float := connection.final (connect quietConfig) events
    connection.emitted (connect quietConfig : Connection Float) events =
        [first, last] ∧
      c.session.state = .unbound ∧
      c.socket.isOpen = false ∧
      c.socket.wire = first.take 10 ∧
      c.socket.cancelled = [first.drop 10, last] := by
  decide

end Connections

end OpenSmsc.SmppSession
