/-
The process of a client handler: one session on an `io_context`
(`SmppClientHandler/src/main.cpp`).

The context is the list of its outstanding operations.  An operation leaves the
list when its handler runs, whatever the outcome; closing the socket or
cancelling a timer only decides that outcome.  `run` returns when the list is
empty or the context was stopped.
-/

import Mathlib.Data.List.Count
import OpenSmsc.Client.Wire

namespace OpenSmsc.ClientProcess

open Foundation Smpp
open SmppSession (Config Effect Env Session Timer TokenArith)

inductive Operation where
  | readHeader
  | readBody (hdr : Header)
  | write (pdu : Octets)
  | wait (timer : Timer)
  /-- The posted half of `Disconnect`. -/
  | post (reason : Octets)
  | signalWait
  deriving DecidableEq, Repr

def startedBy : Effect → Option Operation
  | .asyncReadHeader => some .readHeader
  | .asyncReadBody hdr => some (.readBody hdr)
  | .sendPdu pdu => some (.write pdu)
  | .asyncWait timer _ => some (.wait timer)
  | _ => none

def started (effects : List Effect) : List Operation :=
  effects.filterMap startedBy

/-- The operation whose handler the event is; the two other D-Bus methods run
on the thread of the bus. -/
def completedBy : SmppSession.Event → Option Operation
  | .onHeader _ _ => some .readHeader
  | .onBody _ hdr _ => some (.readBody hdr)
  | .onEnquireLinkTimer _ => some (.wait .enquireLink)
  | .onEnquireLinkTimeout _ => some (.wait .enquireLinkTimeout)
  | .disconnect reason => some (.post reason)
  | .deliverSm _ _ _ => none
  | .getSessionInfo => none

structure Process (Number : Type) where
  session : Session Number
  outstanding : List Operation
  stopped : Bool := false

inductive Event where
  | session (event : SmppSession.Event)
  /-- A write has completed; its handler only logs. -/
  | written (pdu : Octets)
  /-- The D-Bus method, which posts. -/
  | callDisconnect (reason : Octets)
  /-- `SIGINT` or `SIGTERM`. -/
  | signal

variable {Number : Type}

/-- `io_ctx.run()` returns, and the process ends. -/
def Returns (p : Process Number) : Prop :=
  p.stopped = true ∨ p.outstanding = []

instance (p : Process Number) : Decidable (Returns p) :=
  inferInstanceAs (Decidable (_ ∨ _))

def complete (operation : Operation) (p : Process Number) : Process Number :=
  { p with outstanding := p.outstanding.erase operation }

section Run

variable [TokenArith Number]

def runSession (event : SmppSession.Event) (p : Process Number) :
    Process Number × List Effect :=
  let result := SmppSession.step p.session event
  ({ p with
      session := result.1
      outstanding := p.outstanding ++ started result.2 },
    result.2)

/-- A handler runs only while its operation is outstanding, and nothing runs
once `run` has returned. -/
def step (p : Process Number) (event : Event) :
    Process Number × List Effect :=
  if Returns p then (p, [])
  else
    match event with
    | .session event =>
        match completedBy event with
        | none => runSession event p
        | some operation =>
            if operation ∈ p.outstanding then
              runSession event (complete operation p)
            else (p, [])
    | .written pdu =>
        if .write pdu ∈ p.outstanding then (complete (.write pdu) p, [])
        else (p, [])
    | .callDisconnect reason =>
        ({ p with outstanding := p.outstanding ++ [.post reason] }, [])
    | .signal =>
        if .signalWait ∈ p.outstanding then
          ({ complete .signalWait p with stopped := true }, [])
        else (p, [])

def machine : Machine (Process Number) Event Effect where
  step := step

/-- `main` up to `io_ctx.run()`. -/
def launch (config : Config) : Process Number :=
  let session := SmppSession.create config
  { session := session
    outstanding := .signalWait :: started (SmppSession.start session) }

/-! ### The signal wait -/

theorem signalWait_not_started (effects : List Effect) :
    .signalWait ∉ started effects := by
  intro member
  obtain ⟨effect, _, isStarted⟩ := List.mem_filterMap.mp member
  cases effect <;> cases isStarted

theorem completedBy_ne_signalWait {event : SmppSession.Event}
    {operation : Operation} (completed : completedBy event = some operation) :
    operation ≠ .signalWait := by
  rintro rfl
  cases event <;> cases completed

/-- No signal has arrived: the context runs, with one wait for a signal. -/
structure Waiting (p : Process Number) : Prop where
  running : p.stopped = false
  once : p.outstanding.count .signalWait = 1

omit [TokenArith Number] in
theorem Waiting.mem {p : Process Number} (waiting : Waiting p) :
    .signalWait ∈ p.outstanding :=
  List.count_pos_iff.mp (by rw [waiting.once]; decide)

omit [TokenArith Number] in
theorem Waiting.not_returns {p : Process Number} (waiting : Waiting p) :
    ¬Returns p := by
  rintro (stopped | none)
  · rw [waiting.running] at stopped
    cases stopped
  · have member := waiting.mem
    rw [none] at member
    cases member

omit [TokenArith Number] in
theorem Waiting.complete {p : Process Number} (waiting : Waiting p)
    {operation : Operation} (other : operation ≠ .signalWait) :
    Waiting (complete operation p) where
  running := waiting.running
  once := by
    unfold ClientProcess.complete
    rw [List.count_erase_of_ne other.symm]
    exact waiting.once

theorem Waiting.runSession {p : Process Number} (waiting : Waiting p)
    (event : SmppSession.Event) : Waiting (runSession event p).1 where
  running := waiting.running
  once := by
    unfold ClientProcess.runSession
    rw [List.count_append, waiting.once,
      List.count_eq_zero_of_not_mem (signalWait_not_started _)]

theorem waiting_launch (config : Config) :
    Waiting (launch config : Process Number) where
  running := rfl
  once := by
    unfold launch
    rw [List.count_cons_self,
      List.count_eq_zero_of_not_mem (signalWait_not_started _)]

theorem Waiting.step {p : Process Number} (waiting : Waiting p)
    {event : Event} (noSignal : event ≠ .signal) : Waiting (step p event).1 := by
  unfold ClientProcess.step
  rw [if_neg waiting.not_returns]
  cases event with
  | session event =>
      dsimp only
      split
      · exact waiting.runSession event
      · rename_i operation completed
        split
        · exact (waiting.complete
            (completedBy_ne_signalWait completed)).runSession event
        · exact waiting
  | written pdu =>
      dsimp only
      split
      · exact waiting.complete nofun
      · exact waiting
  | callDisconnect reason =>
      refine ⟨waiting.running, ?_⟩
      dsimp only
      rw [List.count_append, waiting.once]
      rfl
  | signal => exact absurd rfl noSignal

structure Stopped (p : Process Number) : Prop where
  stopped : p.stopped = true
  ended : p.outstanding.count .signalWait = 0

theorem Waiting.step_signal {p : Process Number} (waiting : Waiting p) :
    Stopped (ClientProcess.step p .signal).1 := by
  unfold ClientProcess.step
  rw [if_neg waiting.not_returns]
  dsimp only
  rw [if_pos waiting.mem]
  refine ⟨rfl, ?_⟩
  unfold ClientProcess.complete
  rw [List.count_erase_self, waiting.once]

theorem Stopped.final {p : Process Number} (stopped : Stopped p)
    (events : List Event) : Stopped (machine.final p events) :=
  machine.invariant_rule Stopped p stopped
    (fun p event stopped => by
      have same : (machine.step p event).1 = p :=
        congrArg Prod.fst (if_pos (Or.inl stopped.stopped))
      rw [same]
      exact stopped)
    events

theorem Waiting.final {p : Process Number} (waiting : Waiting p)
    {events : List Event} (noSignal : .signal ∉ events) :
    Waiting (machine.final p events) := by
  induction events generalizing p with
  | nil => exact waiting
  | cons event events ih =>
      rw [List.mem_cons, not_or] at noSignal
      exact ih (waiting.step (Ne.symm noSignal.1)) noSignal.2

theorem Waiting.final_signal {p : Process Number} (waiting : Waiting p)
    {events : List Event} (signal : .signal ∈ events) :
    Stopped (machine.final p events) := by
  induction events generalizing p with
  | nil => cases signal
  | cons event events ih =>
      by_cases isSignal : event = .signal
      · rw [isSignal]
        exact waiting.step_signal.final events
      · have later := (List.mem_cons.mp signal).resolve_left
          (Ne.symm isSignal)
        exact ih (waiting.step isSignal) later

/-! ### The end of a process -/

/-- Once every read, write, timer wait and posted handler has completed, the
list is empty, and `run` returns, if and only if a signal has arrived.  This
does not depend on the state of the session. -/
theorem run_returns_iff_signal (config : Config) (events : List Event)
    (completed : ∀ operation ∈
        (machine.final (launch config : Process Number) events).outstanding,
      operation = .signalWait) :
    let p : Process Number := machine.final (launch config) events
    (p.outstanding = [] ↔ .signal ∈ events) ∧
      (Returns p ↔ .signal ∈ events) := by
  intro p
  have start : Waiting (launch config : Process Number) :=
    waiting_launch config
  by_cases signal : .signal ∈ events
  · have stopped : Stopped p := start.final_signal signal
    have none : p.outstanding = [] := by
      refine List.eq_nil_iff_forall_not_mem.mpr fun operation member => ?_
      rw [completed operation member] at member
      exact List.count_eq_zero.mp stopped.ended member
    exact ⟨⟨fun _ => signal, fun _ => none⟩,
      ⟨fun _ => signal, fun _ => .inl stopped.stopped⟩⟩
  · have waiting : Waiting p := start.final signal
    refine ⟨⟨fun none => ?_, fun arrived => absurd arrived signal⟩,
      ⟨fun returns => ?_, fun arrived => absurd arrived signal⟩⟩
    · exact absurd (Or.inr none) waiting.not_returns
    · exact absurd returns waiting.not_returns

/-! ### Completion after the end of a session -/

omit [TokenArith Number] in
theorem Waiting.outstanding_eq {p : Process Number} (waiting : Waiting p)
    (completed : ∀ operation ∈ p.outstanding, operation = .signalWait) :
    p.outstanding = [.signalWait] := by
  have all := List.eq_replicate_of_mem completed
  have once := waiting.once
  rw [all, List.count_replicate_self] at once
  rw [all, once]
  rfl

/-- The completion of an operation with an error, as after the socket was
closed or the timer cancelled. -/
def abort (env : Env) : Operation → Event
  | .readHeader => .session (.onHeader env (.error []))
  | .readBody hdr => .session (.onBody env hdr (.error []))
  | .write pdu => .written pdu
  | .wait .enquireLink => .session (.onEnquireLinkTimer true)
  | .wait .enquireLinkTimeout => .session (.onEnquireLinkTimeout true)
  | .post reason => .session (.disconnect reason)
  | .signalWait => .signal

theorem runSession_silent {p : Process Number} {event : SmppSession.Event}
    (silent : SmppSession.step p.session event = (p.session, [])) :
    runSession event p = (p, []) := by
  unfold runSession
  rw [silent]
  change ({ p with outstanding := p.outstanding ++ [] }, []) = (p, [])
  rw [List.append_nil]

omit [TokenArith Number] in
theorem doDisconnect_unbound {session : Session Number}
    (unbound : session.state = .unbound) (reason : Octets) :
    SmppSession.doDisconnect reason session = (session, []) :=
  if_pos unbound

theorem Waiting.step_abort {p : Process Number} (waiting : Waiting p)
    (unbound : p.session.state = .unbound) (env : Env) {operation : Operation}
    (member : operation ∈ p.outstanding) (other : operation ≠ .signalWait) :
    (ClientProcess.step p (abort env operation)).1 =
      ClientProcess.complete operation p := by
  have runs (event : SmppSession.Event)
      (completes : completedBy event = some operation)
      (silent : SmppSession.step p.session event = (p.session, [])) :
      (ClientProcess.step p (.session event)).1 =
        ClientProcess.complete operation p := by
    unfold ClientProcess.step
    rw [if_neg waiting.not_returns]
    dsimp only
    rw [completes]
    dsimp only
    rw [if_pos member]
    have same : SmppSession.step
        (ClientProcess.complete operation p).session event =
        ((ClientProcess.complete operation p).session, []) := silent
    rw [runSession_silent same]
  cases operation with
  | readHeader => exact runs _ rfl (doDisconnect_unbound unbound _)
  | readBody hdr => exact runs _ rfl (doDisconnect_unbound unbound _)
  | write pdu =>
      change (ClientProcess.step p (.written pdu)).1 = _
      unfold ClientProcess.step
      rw [if_neg waiting.not_returns]
      dsimp only
      rw [if_pos member]
  | wait timer =>
      cases timer with
      | enquireLink => exact runs _ rfl rfl
      | enquireLinkTimeout => exact runs _ rfl rfl
  | post reason => exact runs _ rfl (doDisconnect_unbound unbound reason)
  | signalWait => exact absurd rfl other

theorem Waiting.drains {p : Process Number} (waiting : Waiting p)
    (unbound : p.session.state = .unbound) :
    ∃ completions, .signal ∉ completions ∧
      (machine.final p completions).session = p.session ∧
      (machine.final p completions).outstanding = [.signalWait] := by
  generalize count : p.outstanding.length = remaining
  induction remaining generalizing p with
  | zero =>
      have member := waiting.mem
      rw [List.eq_nil_of_length_eq_zero count] at member
      cases member
  | succ remaining ih =>
      by_cases completed : ∀ operation ∈ p.outstanding,
          operation = .signalWait
      · exact ⟨[], nofun, rfl, waiting.outstanding_eq completed⟩
      · push Not at completed
        obtain ⟨operation, member, other⟩ := completed
        have stepped := waiting.step_abort unbound SmppSession.quietEnv
          member other
        have shorter :
            (ClientProcess.complete operation p).outstanding.length =
              remaining := by
          unfold ClientProcess.complete
          rw [List.length_erase_of_mem member, count]
          rfl
        obtain ⟨completions, noSignal, session, outstanding⟩ :=
          ih (waiting.complete other) unbound shorter
        refine ⟨abort SmppSession.quietEnv operation :: completions, ?_, ?_,
          ?_⟩
        · rw [List.mem_cons, not_or]
          refine ⟨?_, noSignal⟩
          intro isSignal
          cases operation with
          | wait timer => cases timer <;> cases isSignal
          | signalWait => exact other rfl
          | _ => cases isSignal
        · change (machine.final (ClientProcess.step p _).1 _).session = _
          rw [stepped]
          exact session
        · change (machine.final (ClientProcess.step p _).1 _).outstanding = _
          rw [stepped]
          exact outstanding

/-- However a session ended, its operations can all complete, and then the
process waits for a signal only. -/
theorem ended_session_waits_for_signal (config : Config)
    (events : List Event) (noSignal : .signal ∉ events)
    (ended : (machine.final (launch config : Process Number)
      events).session.state = .unbound) :
    ∃ completions, .signal ∉ completions ∧
      let p : Process Number :=
        machine.final (launch config) (events ++ completions)
      p.session.state = .unbound ∧ p.outstanding = [.signalWait] ∧
        ¬Returns p := by
  have waiting : Waiting
      (machine.final (launch config : Process Number) events) :=
    (waiting_launch config).final noSignal
  obtain ⟨completions, noSignalLater, session, outstanding⟩ :=
    waiting.drains ended
  refine ⟨completions, noSignalLater, ?_⟩
  dsimp only
  rw [Machine.final_append]
  refine ⟨?_, outstanding, (waiting.final noSignalLater).not_returns⟩
  rw [session]
  exact ended

end Run

/-- The session of an unbind: the answer is written, the read on the closed
socket fails and the keepalive timer expires. -/
def unbindEvents : List Event :=
  [.session (.onHeader SmppSession.quietEnv
      (.ok (makeResponse Smpp.unbind 0 1))),
    .written (makeResponse Smpp.unbindResp 0 1),
    .session (.onHeader SmppSession.quietEnv
      (.error (text "Bad file descriptor"))),
    .session (.onEnquireLinkTimer false)]

theorem run_returns_after_signal :
    Returns (machine.final (launch SmppSession.quietConfig : Process Float)
      (unbindEvents ++ [Event.signal])) := by
  have completed : ∀ operation ∈
      (machine.final (launch SmppSession.quietConfig : Process Float)
        (unbindEvents ++ [Event.signal])).outstanding,
      operation = .signalWait := by
    decide +kernel
  exact (run_returns_iff_signal SmppSession.quietConfig
    (unbindEvents ++ [Event.signal]) completed).2.mpr
    (List.mem_append_right unbindEvents List.mem_cons_self)

theorem run_waits_after_unbind :
    let p : Process Float :=
      machine.final (launch SmppSession.quietConfig) unbindEvents
    p.session.state = .unbound ∧ p.outstanding = [.signalWait] ∧
      ¬Returns p := by
  decide +kernel

end OpenSmsc.ClientProcess
