/-
What a handled connection leaves behind.

The registry, the table of sessions and the launched process are meant to go
together.  `handle_connection` does not ask whether the session was registered
before it launches the handler, and takes nothing back when the launch fails.
-/

import OpenSmsc.Server.TcpServer

namespace OpenSmsc.TcpServer

open Foundation TextInput SmppServerService

def Pending (uuid : Octets) (svc : Service) : Prop :=
  svc.registry.sessions[uuid]?.isSome = true

def Listed (uuid : Octets) (svc : Service) : Prop :=
  svc.sessions[uuid]?.isSome = true

def Launched (uuid : Octets) (outputs : List Effect) : Prop :=
  ∃ clientIp, Effect.system (buildLaunchCommand uuid clientIp) 0 ∈ outputs

/-- The connection got a session with a handler, or it left nothing: no call
of the service gives another answer than before it.  A connection that does
not pass the whitelist has no session id. -/
def AllOrNothing (validator : IpValidator.Validator) (accepted : Accepted)
    (svc : Service) : Prop :=
  let after := (handleConnection validator accepted svc).1
  let outputs := (handleConnection validator accepted svc).2
  (admissible validator accepted ≠ none ∧ Pending accepted.uuid after ∧
      Listed accepted.uuid after ∧ Launched accepted.uuid outputs) ∨
    (admissible validator accepted ≠ none →
        ¬Pending accepted.uuid after ∧ ¬Listed accepted.uuid after) ∧
      (∀ uuid, ¬Launched uuid outputs) ∧
      SmppServerService.machine.Indistinguishable svc after

/-! ### Outcomes -/

theorem launchClientHandler_iff (system : Octets → Int)
    (uuid clientIp : Octets) :
    (launchClientHandler system uuid clientIp).1 = true ↔
      system (cStr (buildLaunchCommand uuid clientIp)) = 0 := by
  unfold launchClientHandler
  dsimp only
  split
  · next failed => exact iff_of_false Bool.false_ne_true failed
  · next succeeded => exact iff_of_true rfl (not_not.mp succeeded)

section Passed

variable {validator : IpValidator.Validator} {accepted : Accepted}
  {clientIp : Octets} (svc : Service)
  (passed : admissible validator accepted = some clientIp)

include passed

theorem handleConnection_service :
    (handleConnection validator accepted svc).1 =
      (registerSession accepted.uuid accepted.nativeHandle clientIp
        svc).1 := by
  rw [handleConnection_passed validator accepted svc clientIp passed]

theorem system_mem_iff (command : Octets) :
    Effect.system command 0 ∈ (handleConnection validator accepted svc).2 ↔
      command = buildLaunchCommand accepted.uuid clientIp ∧
        (launchClientHandler accepted.system accepted.uuid clientIp).1 =
          true := by
  rw [handleConnection_passed validator accepted svc clientIp passed,
    launchClientHandler_iff]
  simp [eq_comm]

theorem launched_iff :
    Launched accepted.uuid (handleConnection validator accepted svc).2 ↔
      (launchClientHandler accepted.system accepted.uuid clientIp).1 =
        true := by
  unfold Launched
  constructor
  · rintro ⟨peer, member⟩
    exact ((system_mem_iff svc passed _).mp member).2
  · intro launched
    exact ⟨clientIp, (system_mem_iff svc passed _).mpr ⟨rfl, launched⟩⟩

theorem none_launched_iff :
    (∀ uuid, ¬Launched uuid (handleConnection validator accepted svc).2) ↔
      ¬(launchClientHandler accepted.system accepted.uuid clientIp).1 =
        true := by
  constructor
  · intro noneLaunched
    rw [← launched_iff svc passed]
    exact noneLaunched accepted.uuid
  · rintro failed uuid ⟨peer, member⟩
    exact failed ((system_mem_iff svc passed _).mp member).2

theorem allOrNothing_below
    (below : ConnectionRegistry.count clientIp svc.registry <
      svc.registry.maxPerIp) :
    (AllOrNothing validator accepted svc ↔
        (launchClientHandler accepted.system accepted.uuid clientIp).1 =
          true) ∧
      ConnectionRegistry.count clientIp
          (handleConnection validator accepted svc).1.registry =
        ConnectionRegistry.count clientIp svc.registry + 1 := by
  have after := handleConnection_service svc passed
  obtain ⟨rows, entries⟩ := registerSession_admitted accepted.uuid
    accepted.nativeHandle clientIp svc below
  have pending : Pending accepted.uuid
      (handleConnection validator accepted svc).1 := by
    rw [Pending, after, entries, Table.lookup_insert_self]
    rfl
  have listed : Listed accepted.uuid
      (handleConnection validator accepted svc).1 := by
    rw [Listed, after, rows, Table.lookup_insert_self]
    rfl
  have isPassed : admissible validator accepted ≠ none := by
    rw [passed]
    exact Option.some_ne_none clientIp
  refine ⟨?_, ?_⟩
  · unfold AllOrNothing
    dsimp only
    rw [launched_iff svc passed]
    constructor
    · rintro (⟨_, _, _, launched⟩ | ⟨absent, _⟩)
      · exact launched
      · exact absurd pending (absent isPassed).1
    · intro launched
      exact Or.inl ⟨isPassed, pending, listed, launched⟩
  · rw [after, registerSession_registry]
    exact ConnectionRegistry.add_admitted_count accepted.uuid
      accepted.nativeHandle clientIp svc.registry below

/-- At the limit nothing is registered, and the handler is launched all the
same. -/
theorem allOrNothing_full
    (full : svc.registry.maxPerIp ≤
      ConnectionRegistry.count clientIp svc.registry) :
    AllOrNothing validator accepted svc ↔
      ((launchClientHandler accepted.system accepted.uuid clientIp).1 =
          true ↔ Pending accepted.uuid svc) ∧
        ((launchClientHandler accepted.system accepted.uuid clientIp).1 =
          true ↔ Listed accepted.uuid svc) := by
  have after := handleConnection_service svc passed
  obtain ⟨sameRows, sameEntries⟩ := registerSession_refused accepted.uuid
    accepted.nativeHandle clientIp svc full
  have pending : Pending accepted.uuid
      (handleConnection validator accepted svc).1 ↔
        Pending accepted.uuid svc := by
    rw [Pending, after, sameEntries, Pending]
  have listed : Listed accepted.uuid
      (handleConnection validator accepted svc).1 ↔
        Listed accepted.uuid svc := by
    rw [Listed, after, sameRows, Listed]
  have unchanged : SmppServerService.machine.Indistinguishable svc
      (handleConnection validator accepted svc).1 := by
    have refused := registerSession_refused_alike accepted.uuid
      accepted.nativeHandle clientIp svc full
    rw [after]
    intro events
    exact (refused.indistinguishable events).symm
  unfold AllOrNothing
  dsimp only
  rw [pending, listed, launched_iff svc passed, none_launched_iff svc passed,
    passed]
  simp only [ne_eq, reduceCtorEq, not_false_eq_true, true_and,
    forall_const, unchanged, and_true]
  constructor
  · rintro (⟨isPending, isListed, launched⟩ |
      ⟨⟨notPending, notListed⟩, failed⟩)
    · exact ⟨iff_of_true launched isPending, iff_of_true launched isListed⟩
    · exact ⟨iff_of_false failed notPending, iff_of_false failed notListed⟩
  · rintro ⟨withEntry, withRow⟩
    by_cases launched :
        (launchClientHandler accepted.system accepted.uuid clientIp).1 = true
    · exact Or.inl ⟨withEntry.mp launched, withRow.mp launched, launched⟩
    · exact Or.inr ⟨⟨mt withEntry.mpr launched, mt withRow.mpr launched⟩,
        launched⟩

end Passed

theorem allOrNothing_rejected (validator : IpValidator.Validator)
    (accepted : Accepted) (svc : Service)
    (rejected : admissible validator accepted = none) :
    AllOrNothing validator accepted svc := by
  unfold AllOrNothing
  rw [handleConnection_rejected validator accepted svc rejected]
  refine Or.inr ⟨fun passed => absurd rejected passed, ?_, fun _ => rfl⟩
  rintro uuid ⟨clientIp, member⟩
  rw [List.mem_singleton] at member
  contradiction

/-- When handling a connection is all or nothing.  A connection that does not
pass the whitelist leaves nothing.  Below the limit it depends on the launch
alone: a failed one leaves the session and its slot behind.  At the limit the
launch must fail for a new session id.  The launch never changes the
service. -/
theorem handleConnection_allOrNothing_iff
    (validator : IpValidator.Validator) (accepted : Accepted)
    (svc : Service) :
    (admissible validator accepted = none →
        AllOrNothing validator accepted svc) ∧
      (∀ clientIp, admissible validator accepted = some clientIp →
        (ConnectionRegistry.count clientIp svc.registry <
            svc.registry.maxPerIp →
          (AllOrNothing validator accepted svc ↔
              (launchClientHandler accepted.system accepted.uuid
                clientIp).1 = true) ∧
            ConnectionRegistry.count clientIp
                (handleConnection validator accepted svc).1.registry =
              ConnectionRegistry.count clientIp svc.registry + 1) ∧
        (svc.registry.maxPerIp ≤
            ConnectionRegistry.count clientIp svc.registry →
          (AllOrNothing validator accepted svc ↔
            ((launchClientHandler accepted.system accepted.uuid
                clientIp).1 = true ↔ Pending accepted.uuid svc) ∧
              ((launchClientHandler accepted.system accepted.uuid
                clientIp).1 = true ↔ Listed accepted.uuid svc)))) ∧
      ∀ system,
        (handleConnection validator { accepted with system := system }
            svc).1 =
          (handleConnection validator accepted svc).1 := by
  refine ⟨allOrNothing_rejected validator accepted svc, ?_, ?_⟩
  · intro clientIp passed
    exact ⟨allOrNothing_below svc passed, allOrNothing_full svc passed⟩
  · intro system
    cases checked : admissible validator accepted with
    | none =>
        rw [handleConnection_rejected validator accepted svc checked]
        exact congrArg Prod.fst (handleConnection_rejected validator
          { accepted with system := system } svc checked)
    | some clientIp =>
        rw [handleConnection_service svc checked]
        exact @handleConnection_service validator
          { accepted with system := system } clientIp svc checked

/-- One slot per address.  The launch for the first connection fails; its
session stays, and the second connection is refused although no handler runs.
A handler is launched for it nevertheless. -/
theorem failed_launch_uses_slot :
    let validator : IpValidator.Validator :=
      (IpValidator.loadConfig (some (text "::1\n"))
        { configFile := text "allowed_ips.conf" }).1
    let first := connectionFrom (text "::1") 7 1 256
    let second := connectionFrom (text "::1") 8 2 0
    let svc := SmppServerService.create (ConnectionRegistry.create 1)
    let after := (handleConnection validator first svc).1
    (¬AllOrNothing validator first svc ∧
        Pending first.uuid after ∧ Listed first.uuid after ∧
        ¬Launched first.uuid (handleConnection validator first svc).2) ∧
      ¬AllOrNothing validator second after ∧
        ¬Pending second.uuid (handleConnection validator second after).1 ∧
        ¬Listed second.uuid (handleConnection validator second after).1 ∧
        Launched second.uuid
          (handleConnection validator second after).2 := by
  intro validator first second svc after
  have firstPassed : admissible validator first = some (text "::1") := by
    decide
  have secondPassed : admissible validator second = some (text "::1") := by
    decide
  have failed : ¬(launchClientHandler first.system first.uuid
      (text "::1")).1 = true := by decide
  have launched : (launchClientHandler second.system second.uuid
      (text "::1")).1 = true := by decide
  have notPending : ¬Pending second.uuid after := by
    unfold Pending
    decide
  refine ⟨⟨?_, ?_, ?_, ?_⟩, ?_, ?_, ?_, ?_⟩
  · rw [(allOrNothing_below svc firstPassed (by decide)).1]
    exact failed
  · unfold Pending
    decide
  · unfold Listed
    decide
  · rw [launched_iff svc firstPassed]
    exact failed
  · rw [allOrNothing_full after secondPassed (by decide)]
    intro both
    exact notPending (both.1.mp launched)
  · unfold Pending
    decide
  · unfold Listed
    decide
  · rw [launched_iff after secondPassed]
    exact launched

end OpenSmsc.TcpServer
