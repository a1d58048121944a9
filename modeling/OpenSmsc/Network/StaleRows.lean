/-
Rows that describe nothing any more.

Once the session behind a row has ended, no step of the system removes the
row, corrects it or revives the session: from then on the table is wrong
whenever no message is under way.
-/

import OpenSmsc.Network.Agreement

namespace OpenSmsc.Network

open Foundation
open SmppSession (Session TokenArith)

variable {Number : Type}

/-- A row without a live session and without a process that could still start
one. -/
structure Stale (seen : View Number) : Prop where
  listed : seen.row.isSome = true
  notStarting : ∀ clientIp, seen.handler ≠ some (.starting clientIp)
  ended : ∀ s, seen.handler = some (.running s) → s.state = .unbound

theorem Stale.of_ended {seen : View Number} (s : Session Number)
    (listed : seen.row.isSome = true)
    (running : seen.handler = some (.running s))
    (ended : s.state = .unbound) : Stale seen := by
  refine ⟨listed, ?_, ?_⟩
  · intro clientIp starting
    have clash := running.symm.trans starting
    cases clash
  · intro other isOther
    have same := running.symm.trans isOther
    cases same
    exact ended

theorem Stale.not_isNew {n : State Number} {uuid : Octets}
    (stale : Stale (view uuid n)) : isNew uuid n = false := by
  have listed : n.server.sessions[uuid]?.isNone = false := by
    rw [Option.isNone_eq_false_iff]
    exact stale.listed
  rw [isNew, isUnused, listed, Bool.and_false, Bool.false_and]

theorem Stale.exit {seen : View Number} (stale : Stale seen) :
    Stale ({ seen with handler := some .exited } : View Number) :=
  { listed := stale.listed
    notStarting := by simp
    ended := by simp }

theorem Stale.exit_any {n : State Number} {uuid : Octets}
    (stale : Stale (view uuid n)) (target : Octets) :
    Stale (view uuid
      { n with handlers := n.handlers.insert target .exited }) := by
  obtain ⟨frame, after⟩ := view_exit target n
  by_cases same : target = uuid
  · subst same
    rw [after]
    exact stale.exit
  · rw [frame uuid same]
    exact stale

theorem Stale.lose {n : State Number} {uuid : Octets}
    (stale : Stale (view uuid n)) (message : Message) :
    Stale (view uuid (lose message n)) := by
  cases message with
  | getSocket target => exact stale.exit_any target
  | socketReply target fd => exact stale.exit_any target
  | updateSessionDetails target systemId state => exact stale
  | sessionExited target reason => exact stale

section Steps

variable [TokenArith Number]

theorem Stale.receive_own {n : State Number} {uuid : Octets}
    (stale : Stale (view uuid n)) (steadyClock : Int) (message : Message)
    (about : message.uuid = uuid) :
    Stale (view uuid (receive steadyClock message n)) := by
  subst about
  cases message with
  | getSocket uuid =>
      change Stale (view uuid (receive steadyClock (.getSocket uuid) n))
      rw [(view_receive_getSocket steadyClock uuid n).2]
      exact ⟨stale.listed, stale.notStarting, stale.ended⟩
  | socketReply uuid fd =>
      -- Nobody waits for this reply.
      cases process : n.handlers[uuid]? with
      | none => simpa only [receive, process] using stale
      | some handler =>
          cases handler with
          | starting clientIp =>
              exact absurd process (stale.notStarting clientIp)
          | running s => simpa only [receive, process] using stale
          | exited => simpa only [receive, process] using stale
  | updateSessionDetails uuid systemId state =>
      change Stale (view uuid
        (receive steadyClock (.updateSessionDetails uuid systemId state) n))
      rw [(view_receive_updateSessionDetails steadyClock uuid systemId state
        n).2]
      refine ⟨?_, stale.notStarting, stale.ended⟩
      change (Option.map _ (view uuid n).row).isSome = true
      rw [Option.isSome_map]
      exact stale.listed
  | sessionExited uuid reason => exact stale

theorem Stale.receive {n : State Number} {uuid : Octets}
    (stale : Stale (view uuid n)) (steadyClock : Int) (message : Message) :
    Stale (view uuid (receive steadyClock message n)) := by
  by_cases about : message.uuid = uuid
  · exact stale.receive_own steadyClock message about
  · rw [receive_affectsOnly steadyClock message n uuid about]
    exact stale

theorem Stale.session {n : State Number} {uuid : Octets}
    (stale : Stale (view uuid n)) (target : Octets) (s : Session Number)
    (running : n.handlers[target]? = some (.running s))
    (event : SmppSession.Event) (messages : List Message) :
    Stale (view uuid
      { n with
        handlers := n.handlers.insert target
          (.running (SmppSession.step s event).1)
        inFlight := messages }) := by
  by_cases same : target = uuid
  · subst same
    exact .of_ended (SmppSession.step s event).1 stale.listed
      (Table.lookup_insert_self n.handlers target _)
      (SmppSession.step_state_of_unbound s event (stale.ended s running))
  · have handler := Table.lookup_insert_ne n.handlers
      (.running (SmppSession.step s event).1) same
    refine ⟨stale.listed, ?_, ?_⟩
    · intro clientIp starting
      exact stale.notStarting clientIp (handler.symm.trans starting)
    · intro after isAfter
      exact stale.ended after (handler.symm.trans isAfter)

theorem Stale.step {n : State Number} {uuid : Octets}
    (stale : Stale (view uuid n)) (action : Action) :
    Stale (view uuid (machine.step n action).1) := by
  cases action with
  | connect target fd clientIp launched =>
      change Stale (view uuid (Network.connect target fd clientIp launched n))
      cases new : isNew target n with
      | false =>
          unfold Network.connect handleConnection
          rw [new]
          exact stale
      | true =>
          have different : target ≠ uuid := by
            intro same
            subst same
            rw [stale.not_isNew] at new
            contradiction
          rw [connect_affectsOnly target fd clientIp launched n new uuid
            different]
          exact stale
  | deliver index steadyClock =>
      cases found : n.inFlight[index]? with
      | none => simpa only [machine, Network.step, found] using stale
      | some message =>
          simp only [machine, Network.step, found]
          refine Stale.receive ?_ steadyClock message
          exact ⟨stale.listed, stale.notStarting, stale.ended⟩
  | fail index =>
      cases found : n.inFlight[index]? with
      | none => simpa only [machine, Network.step, found] using stale
      | some message =>
          simp only [machine, Network.step, found]
          refine Stale.lose ?_ message
          exact ⟨stale.listed, stale.notStarting, stale.ended⟩
  | session target event =>
      cases process : n.handlers[target]? with
      | none => simpa only [machine, Network.step, process] using stale
      | some handler =>
          cases handler with
          | starting clientIp =>
              simpa only [machine, Network.step, process] using stale
          | exited => simpa only [machine, Network.step, process] using stale
          | running s =>
              simp only [machine, Network.step, process]
              exact stale.session target s process event _
  | terminate target =>
      cases process : n.handlers[target]? with
      | none => simpa only [machine, Network.step, process] using stale
      | some handler =>
          simp only [machine, Network.step, process]
          exact stale.exit_any target
  | setMaxConnectionsPerIp ip max => exact stale

theorem Stale.run {n : State Number} {uuid : Octets}
    (stale : Stale (view uuid n)) (actions : List Action) :
    Stale (view uuid (machine.final n actions)) :=
  machine.invariant_rule (fun later => Stale (view uuid later)) n stale
    (fun _ action earlier => earlier.step action) actions

omit [TokenArith Number] in
theorem Stale.not_agrees {n : State Number} {uuid : Octets}
    (stale : Stale (view uuid n)) (quiet : n.inFlight = []) :
    ¬Agrees n := by
  intro agrees
  obtain ⟨info, present⟩ := Option.isSome_iff_exists.mp stale.listed
  have row := (SmppServerService.mem_getAllSessions uuid info.clientIp
    info.systemId info.state n.server).mpr present
  obtain ⟨s, running, live, _⟩ := (agrees quiet uuid _ _ _).mp row
  exact live (stale.ended s running)

theorem Linked.stale_of_end {n : State Number} (linked : Linked n)
    {uuid : Octets} {s : Session Number}
    (running : n.handlers[uuid]? = some (.running s))
    (event : SmppSession.Event)
    (ends : (SmppSession.step s event).1.state = .unbound) :
    Stale (view uuid (machine.step n (.session uuid event)).1) := by
  have listed : (view uuid n).row.isSome = true := by
    rcases (linked.of_running running).2.2 with seen | ⟨info, _, _, seen⟩
    · rw [seen]
      rfl
    · rw [seen]
      rfl
  simp only [machine, Network.step, running]
  exact .of_ended (SmppSession.step s event).1 listed
    (Table.lookup_insert_self n.handlers uuid _) ends

/-- The first step of a run that ends a live session makes the table wrong for
good: in no later state without messages under way does it agree with the
sessions. -/
theorem never_agrees_after_end (maxPerIp : UInt32)
    (earlier later : List Action)
    (kept : ∀ entry ∈ machine.history (create maxPerIp : State Number)
      earlier, undisturbed entry.before entry.event = true)
    (uuid : Octets) (s : Session Number)
    (running : (machine.final (create maxPerIp) earlier).handlers[uuid]? =
      some (.running s))
    (event : SmppSession.Event)
    (ends : (SmppSession.step s event).1.state = .unbound) :
    let n : State Number := machine.final (create maxPerIp)
      (earlier ++ .session uuid event :: later)
    n.inFlight = [] → ¬Agrees n := by
  intro n quiet
  have linked := linked_of_undisturbed maxPerIp earlier kept
  have stale := (linked.stale_of_end running event ends).run later
  have isLater : n = machine.final (machine.step
      (machine.final (create maxPerIp) earlier) (.session uuid event)).1
        later := by
    change machine.final _ (earlier ++ .session uuid event :: later) = _
    rw [machine.final_append]
    rfl
  rw [← isLater] at stale
  exact stale.not_agrees quiet

end Steps

end OpenSmsc.Network
