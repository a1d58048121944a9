/-
What becomes of the admitted connections of a host.

An admitted connection waits for its process, has a session that holds its
socket, is stranded or is lost.  A stranded connection has its place and no
process to come for it: the launch failed, or the process did not get its name
or its call through.  The socket of a lost one is with another caller of
`GetSocket`, or was in an answer that its process never got.
-/

import Mathlib.Data.List.Nodup
import OpenSmsc.Network.Host

namespace OpenSmsc.Host

open Foundation TcpServer ClientMain

abbrev Entry := Machine.Entry State Event Output

/-! ### Reading a run -/

def acceptedBy : Event → Option Accepted
  | .accept accepted => some accepted
  | _ => none

def acceptedIn (past : List Entry) : List Accepted :=
  past.filterMap fun entry => acceptedBy entry.event

def DistinctIds (accepted : List Accepted) : Prop :=
  (accepted.map Accepted.uuid).Nodup

instance (accepted : List Accepted) : Decidable (DistinctIds accepted) :=
  inferInstanceAs (Decidable (List.Nodup _))

/-- Peers have addresses as they are printed. -/
def PrintedPeers (accepted : List Accepted) : Prop :=
  ∀ connection ∈ accepted, ∀ clientIp ∈ connection.remoteEndpoint,
    isAddress clientIp = true

instance (accepted : List Accepted) : Decidable (PrintedPeers accepted) :=
  inferInstanceAs (Decidable (∀ connection ∈ accepted,
    ∀ clientIp ∈ connection.remoteEndpoint, isAddress clientIp = true))

structure Admits (accepted : Accepted) (clientIp : Octets) (entry : Entry) :
    Prop where
  isAccept : entry.event = .accept accepted
  peer : accepted.remoteEndpoint = some clientIp
  announced :
    .server (.service (.emitSessionStarted accepted.uuid clientIp)) ∈
      entry.outputs

def AdmittedIn (past : List Entry) (accepted : Accepted)
    (clientIp : Octets) : Prop :=
  ∃ entry ∈ past, Admits accepted clientIp entry

def processOf : Output → Option (Octets × Outcome)
  | .process command outcome => some (command, outcome)
  | .server _ => none

def processes (past : List Entry) : List (Octets × Outcome) :=
  (past.flatMap (·.outputs)).filterMap processOf

def placeOf (accepted : Accepted) (clientIp : Octets) :
    ConnectionRegistry.SessionEntry :=
  { fd := accepted.nativeHandle
    clientIp := clientIp }

def sessionOf (accepted : Accepted) (clientIp : Octets) : Outcome :=
  .session accepted.nativeHandle accepted.uuid clientIp serviceName

/-- The step takes the place of the connection and starts no session for
it. -/
structure Loses (accepted : Accepted) (clientIp : Octets) (entry : Entry) :
    Prop where
  held : pending accepted.uuid entry.before =
    some (placeOf accepted clientIp)
  gone : pending accepted.uuid entry.after = none
  cause : (entry.event = .call (.getSocket accepted.uuid) ∧
      entry.outputs =
        [.server (.service (.returnSocket accepted.nativeHandle))]) ∨
    entry.outputs = [.process (commandFor accepted clientIp) .exitFailure]

inductive Fate (h : State) (past : List Entry) (accepted : Accepted)
    (clientIp : Octets) : Prop
  | waiting (queued : commandFor accepted clientIp ∈ h.launched)
      (held : pending accepted.uuid h = some (placeOf accepted clientIp))
  | running
      (ran : (commandFor accepted clientIp, sessionOf accepted clientIp) ∈
        processes past)
      (valid : validBusName (clientBusName accepted.uuid) = true)
      (claimed : pending accepted.uuid h = none)
  | stranded
      (failed : launchCode accepted clientIp ≠ 0 ∨
        (commandFor accepted clientIp, .exitFailure) ∈ processes past)
      (held : pending accepted.uuid h = some (placeOf accepted clientIp))
  | lost (entry : Entry) (member : entry ∈ past)
      (loses : Loses accepted clientIp entry)
      (gone : pending accepted.uuid h = none)

/-! ### Growing pasts -/

theorem acceptedIn_concat (past : List Entry) (entry : Entry) :
    acceptedIn (past ++ [entry]) =
      acceptedIn past ++ (acceptedBy entry.event).toList := by
  unfold acceptedIn
  rw [List.filterMap_append]
  cases found : acceptedBy entry.event with
  | none => simp [found]
  | some accepted => simp [found]

theorem processes_concat (past : List Entry) (entry : Entry) :
    processes (past ++ [entry]) =
      processes past ++ entry.outputs.filterMap processOf := by
  unfold processes
  rw [List.flatMap_append, List.filterMap_append]
  simp

theorem admittedIn_concat (past : List Entry) (entry : Entry)
    (accepted : Accepted) (clientIp : Octets) :
    AdmittedIn (past ++ [entry]) accepted clientIp ↔
      AdmittedIn past accepted clientIp ∨ Admits accepted clientIp entry := by
  unfold AdmittedIn
  simp only [List.mem_append, List.mem_singleton, or_and_right, exists_or,
    exists_eq_left]

theorem AdmittedIn.accepted_mem {past : List Entry} {accepted : Accepted}
    {clientIp : Octets} (admitted : AdmittedIn past accepted clientIp) :
    accepted ∈ acceptedIn past := by
  obtain ⟨entry, member, admits⟩ := admitted
  refine List.mem_filterMap.mpr ⟨entry, member, ?_⟩
  rw [admits.isAccept]
  rfl

theorem AdmittedIn.peer {past : List Entry} {accepted : Accepted}
    {clientIp : Octets} (admitted : AdmittedIn past accepted clientIp) :
    accepted.remoteEndpoint = some clientIp := by
  obtain ⟨_, _, admits⟩ := admitted
  exact admits.peer

theorem Plain.no_process {outputs : List Output} (plain : Plain outputs) :
    outputs.filterMap processOf = [] := by
  rw [List.filterMap_eq_nil_iff]
  intro output member
  obtain ⟨effect, rfl, _⟩ := plain output member
  rfl

theorem Plain.not_admits {entry : Entry} (plain : Plain entry.outputs)
    (accepted : Accepted) (clientIp : Octets) :
    ¬Admits accepted clientIp entry := by
  intro admits
  obtain ⟨effect, isOutput, silent⟩ := plain _ admits.announced
  cases isOutput
  exact silent _ _ rfl

theorem commandFor_uuid {left right : Accepted} {leftIp rightIp : Octets}
    (same : commandFor left leftIp = commandFor right rightIp) :
    left.uuid = right.uuid := by
  apply buildLaunchCommand_uuid _ same
  exact (SessionId.length_eq _ _).trans (SessionId.length_eq _ _).symm

theorem DistinctIds.eq_of_uuid {connections : List Accepted}
    (distinct : DistinctIds connections) {left right : Accepted}
    (isLeft : left ∈ connections) (isRight : right ∈ connections)
    (same : left.uuid = right.uuid) : left = right :=
  List.inj_on_of_nodup_map distinct isLeft isRight same

theorem DistinctIds.fresh {connections : List Accepted} {new : Accepted}
    (distinct : DistinctIds (connections ++ [new])) {old : Accepted}
    (isOld : old ∈ connections) : old.uuid ≠ new.uuid := by
  unfold DistinctIds at distinct
  rw [List.map_append, List.nodup_append] at distinct
  exact distinct.2.2 _ (List.mem_map_of_mem isOld) _ (by simp)

theorem DistinctIds.front {first second : List Accepted}
    (distinct : DistinctIds (first ++ second)) : DistinctIds first := by
  unfold DistinctIds at distinct ⊢
  rw [List.map_append] at distinct
  exact (List.nodup_append.mp distinct).1

theorem PrintedPeers.front {first second : List Accepted}
    (printed : PrintedPeers (first ++ second)) : PrintedPeers first := by
  intro connection member
  exact printed connection (List.mem_append_left _ member)

/-! ### Command lines and sessions -/

def LaunchedIn (past : List Entry) (command : Octets) : Prop :=
  ∃ accepted ∈ acceptedIn past, ∃ clientIp,
    accepted.remoteEndpoint = some clientIp ∧
      launchCode accepted clientIp = 0 ∧
      command = commandFor accepted clientIp

theorem LaunchedIn.concat {past : List Entry} {command : Octets}
    (launched : LaunchedIn past command) (entry : Entry) :
    LaunchedIn (past ++ [entry]) command := by
  obtain ⟨accepted, member, isLine⟩ := launched
  refine ⟨accepted, ?_, isLine⟩
  rw [acceptedIn_concat]
  exact List.mem_append_left _ member

theorem launchedFor_launchedIn {past : List Entry} {entry : Entry}
    {accepted : Accepted} {clientIp : Octets}
    (isAccept : entry.event = .accept accepted)
    (peer : accepted.remoteEndpoint = some clientIp) :
    ∀ command ∈ launchedFor accepted clientIp,
      LaunchedIn (past ++ [entry]) command := by
  intro command isNew
  unfold launchedFor at isNew
  split at isNew
  · next started =>
      refine ⟨accepted, ?_, clientIp, peer, started,
        List.mem_singleton.mp isNew⟩
      rw [acceptedIn_concat, isAccept]
      exact List.mem_append_right _ (List.mem_singleton_self _)
  · cases isNew

/-- The lines that have run or wait are those of launched connections, each
once, and a session that has started is the one of an admitted connection. -/
structure Traced (h : State) (past : List Entry) : Prop where
  once : ((processes past).map Prod.fst ++ h.launched).Nodup
  launched : ∀ command ∈ (processes past).map Prod.fst ++ h.launched,
    LaunchedIn past command
  sessions : ∀ command fd uuid clientIp serverSvc,
    (command, .session fd uuid clientIp serverSvc) ∈ processes past →
      ∃ accepted, AdmittedIn past accepted clientIp ∧
        command = commandFor accepted clientIp ∧
        .session fd uuid clientIp serverSvc = sessionOf accepted clientIp

theorem Traced.grow {h : State} {past : List Entry} (traced : Traced h past)
    {entry : Entry} (noProcess : entry.outputs.filterMap processOf = [])
    (new : List Octets) (launched : entry.after.launched = h.launched ++ new)
    (newNodup : new.Nodup)
    (newOnce : ∀ command ∈ new,
      command ∉ (processes past).map Prod.fst ++ h.launched)
    (newLaunched : ∀ command ∈ new, LaunchedIn (past ++ [entry]) command) :
    Traced entry.after (past ++ [entry]) := by
  have sameProcesses : processes (past ++ [entry]) = processes past := by
    rw [processes_concat, noProcess, List.append_nil]
  constructor
  · rw [sameProcesses, launched, ← List.append_assoc, List.nodup_append]
    refine ⟨traced.once, newNodup, ?_⟩
    rintro old isOld command isNew rfl
    exact newOnce old isNew isOld
  · rw [sameProcesses, launched, ← List.append_assoc]
    intro command member
    rcases List.mem_append.mp member with old | isNew
    · exact (traced.launched command old).concat _
    · exact newLaunched command isNew
  · rw [sameProcesses]
    intro command fd uuid clientIp serverSvc ran
    obtain ⟨accepted, admitted, isSession⟩ :=
      traced.sessions command fd uuid clientIp serverSvc ran
    exact ⟨accepted, (admittedIn_concat _ _ _ _).mpr (.inl admitted),
      isSession⟩

theorem Traced.launch {h : State} {past : List Entry}
    (traced : Traced h past) {entry : Entry} {accepted : Accepted}
    {clientIp : Octets}
    (noProcess : entry.outputs.filterMap processOf = [])
    (isAccept : entry.event = .accept accepted)
    (peer : accepted.remoteEndpoint = some clientIp)
    (launched : entry.after.launched =
      h.launched ++ launchedFor accepted clientIp)
    (distinct : DistinctIds (acceptedIn past ++ [accepted])) :
    Traced entry.after (past ++ [entry]) := by
  apply traced.grow noProcess _ launched
  · unfold launchedFor
    split
    · exact List.nodup_singleton _
    · exact List.nodup_nil
  · intro command isNew isOld
    obtain ⟨other, isOther, otherIp, _, _, isLine⟩ :=
      traced.launched command isOld
    unfold launchedFor at isNew
    split at isNew
    · rw [List.mem_singleton.mp isNew] at isLine
      exact distinct.fresh isOther (commandFor_uuid isLine).symm
    · cases isNew
  · exact launchedFor_launchedIn isAccept peer

/-! ### Places -/

/-- Every admitted connection has its fate, and every place belongs to an
admitted connection. -/
structure Placed (h : State) (past : List Entry) : Prop where
  fates : ∀ accepted clientIp, AdmittedIn past accepted clientIp →
    Fate h past accepted clientIp
  places : ∀ uuid place, pending uuid h = some place →
    ∃ accepted, AdmittedIn past accepted place.clientIp ∧
      accepted.uuid = uuid ∧ accepted.nativeHandle = place.fd

theorem mem_processes_concat {past : List Entry} (entry : Entry) :
    ∀ process ∈ processes past, process ∈ processes (past ++ [entry]) := by
  intro process member
  rw [processes_concat]
  exact List.mem_append_left _ member

theorem Fate.mono {h after : State} {past : List Entry} (entry : Entry)
    {accepted : Accepted} {clientIp : Octets}
    (fate : Fate h past accepted clientIp)
    (samePlace : pending accepted.uuid after = pending accepted.uuid h)
    (stillQueued : commandFor accepted clientIp ∈ h.launched →
      commandFor accepted clientIp ∈ after.launched) :
    Fate after (past ++ [entry]) accepted clientIp := by
  cases fate with
  | waiting queued held =>
      exact .waiting (stillQueued queued) (samePlace.trans held)
  | running ran valid claimed =>
      exact .running (mem_processes_concat entry _ ran) valid
        (samePlace.trans claimed)
  | stranded failed held =>
      refine .stranded ?_ (samePlace.trans held)
      exact failed.imp_right (mem_processes_concat entry _)
  | lost losing member loses gone =>
      exact .lost losing (List.mem_append_left _ member) loses
        (samePlace.trans gone)

theorem Fate.place_eq {h : State} {past : List Entry} {accepted : Accepted}
    {clientIp : Octets} (fate : Fate h past accepted clientIp)
    {place : ConnectionRegistry.SessionEntry}
    (found : pending accepted.uuid h = some place) :
    place = placeOf accepted clientIp := by
  cases fate with
  | waiting _ held => exact Option.some.inj (found.symm.trans held)
  | stranded _ held => exact Option.some.inj (found.symm.trans held)
  | running _ _ claimed =>
      have clash := found.symm.trans claimed
      cases clash
  | lost _ _ _ gone =>
      have clash := found.symm.trans gone
      cases clash

theorem Placed.quiet {h : State} {past : List Entry} (placed : Placed h past)
    {entry : Entry} (plain : Plain entry.outputs)
    (samePending : ∀ uuid, pending uuid entry.after = pending uuid h)
    (stillQueued : ∀ command ∈ h.launched,
      command ∈ entry.after.launched) :
    Placed entry.after (past ++ [entry]) := by
  constructor
  · intro accepted clientIp admitted
    rcases (admittedIn_concat _ _ _ _).mp admitted with before | admits
    · exact (placed.fates accepted clientIp before).mono entry
        (samePending accepted.uuid) (stillQueued _)
    · exact absurd admits (plain.not_admits accepted clientIp)
  · intro uuid place held
    rw [samePending] at held
    obtain ⟨accepted, admitted, isPlace⟩ := placed.places uuid place held
    exact ⟨accepted, (admittedIn_concat _ _ _ _).mpr (.inl admitted),
      isPlace⟩

theorem Placed.admitted {h : State} {past : List Entry}
    (placed : Placed h past) {entry : Entry} {accepted : Accepted}
    {clientIp : Octets} (admits : Admits accepted clientIp entry)
    (pendingAfter : ∀ uuid, pending uuid entry.after =
      if accepted.uuid = uuid then some (placeOf accepted clientIp)
      else pending uuid h)
    (launched : entry.after.launched =
      h.launched ++ launchedFor accepted clientIp)
    (distinct : DistinctIds (acceptedIn past ++ [accepted])) :
    Placed entry.after (past ++ [entry]) := by
  constructor
  · intro other otherIp admitted
    rcases (admittedIn_concat _ _ _ _).mp admitted with before | alsoAdmits
    · have differs : accepted.uuid ≠ other.uuid :=
        (distinct.fresh before.accepted_mem).symm
      refine (placed.fates other otherIp before).mono entry ?_ ?_
      · rw [pendingAfter, if_neg differs]
      · intro queued
        rw [launched]
        exact List.mem_append_left _ queued
    · have sameEvent := admits.isAccept.symm.trans alsoAdmits.isAccept
      cases sameEvent
      have sameIp := admits.peer.symm.trans alsoAdmits.peer
      cases sameIp
      have held : pending accepted.uuid entry.after =
          some (placeOf accepted clientIp) := by
        rw [pendingAfter, if_pos rfl]
      by_cases started : launchCode accepted clientIp = 0
      · refine .waiting ?_ held
        rw [launched, launchedFor, if_pos started]
        exact List.mem_append_right _ (List.mem_singleton_self _)
      · exact .stranded (.inl started) held
  · intro uuid place held
    rw [pendingAfter] at held
    by_cases same : accepted.uuid = uuid
    · rw [if_pos same] at held
      cases held
      exact ⟨accepted, (admittedIn_concat _ _ _ _).mpr (.inr admits), same,
        rfl⟩
    · rw [if_neg same] at held
      obtain ⟨other, admitted, isPlace⟩ := placed.places uuid place held
      exact ⟨other, (admittedIn_concat _ _ _ _).mpr (.inl admitted),
        isPlace⟩

theorem Placed.taken {h : State} {past : List Entry} (placed : Placed h past)
    {entry : Entry} {uuid : Octets}
    {place : ConnectionRegistry.SessionEntry} (isBefore : entry.before = h)
    (isCall : entry.event = .call (.getSocket uuid))
    (found : pending uuid h = some place)
    (outputs : entry.outputs = [.server (.service (.returnSocket place.fd))])
    (pendingAfter : ∀ other, pending other entry.after =
      if uuid = other then none else pending other h)
    (sameLaunched : entry.after.launched = h.launched) :
    Placed entry.after (past ++ [entry]) := by
  have noAnnouncement : ∀ accepted clientIp,
      ¬Admits accepted clientIp entry := by
    intro accepted clientIp admits
    have announced := admits.announced
    rw [outputs, List.mem_singleton] at announced
    cases announced
  constructor
  · intro other otherIp admitted
    rcases (admittedIn_concat _ _ _ _).mp admitted with before | admits
    · have fate := placed.fates other otherIp before
      by_cases same : uuid = other.uuid
      · subst same
        have isPlace := fate.place_eq found
        have gone : pending other.uuid entry.after = none := by
          rw [pendingAfter, if_pos rfl]
        rw [isPlace] at found outputs
        refine .lost entry (List.mem_append_right _ List.mem_cons_self)
          ⟨?_, gone, .inl ⟨isCall, outputs⟩⟩ gone
        rw [isBefore]
        exact found
      · refine fate.mono entry ?_ ?_
        · rw [pendingAfter, if_neg same]
        · rw [sameLaunched]
          exact id
    · exact absurd admits (noAnnouncement other otherIp)
  · intro other held isHeld
    rw [pendingAfter] at isHeld
    split at isHeld
    · cases isHeld
    · obtain ⟨accepted, admitted, isPlace⟩ := placed.places other held isHeld
      exact ⟨accepted, (admittedIn_concat _ _ _ _).mpr (.inl admitted),
        isPlace⟩

/-! ### A process runs -/

structure RunsFor (h : State) (past : List Entry) (accepted : Accepted)
    (clientIp : Octets) (entry : Entry) : Prop where
  isBefore : entry.before = h
  accepted_mem : accepted ∈ acceptedIn past
  peer : accepted.remoteEndpoint = some clientIp
  code : launchCode accepted clientIp = 0
  taken : (commandFor accepted clientIp :: entry.after.launched).Perm
    h.launched
  ran : ∃ outcome answers,
    entry.outputs = [.process (commandFor accepted clientIp) outcome] ∧
      Ran answers accepted.uuid clientIp h.srv.svc
        (outcome, entry.after.srv.svc)

theorem RunsFor.of_ran {h : State} {past : List Entry}
    (lines : ∀ command ∈ h.launched, LaunchedIn past command)
    (printed : PrintedPeers (acceptedIn past)) {event : Event} {index : Nat}
    {answers : BusAnswers} {command : Octets}
    (found : h.launched[index]? = some command)
    {outcome : Outcome} {svc : SmppServerService.Service}
    (ended : ClientMain.main (bus answers) (handlerArgv command) h.srv.svc =
      (outcome, svc))
    (isResult : step h event =
      ({ srv := { h.srv with svc := svc }
         launched := h.launched.eraseIdx index },
        [.process command outcome])) :
    ∃ accepted clientIp,
      RunsFor h past accepted clientIp (machine.entry h event) := by
  obtain ⟨accepted, isAccepted, clientIp, peer, code, isLine⟩ :=
    lines command (List.mem_of_getElem? found)
  have launched : (machine.entry h event).after.launched =
      h.launched.eraseIdx index := congrArg (·.1.launched) isResult
  have sameSvc : (machine.entry h event).after.srv.svc = svc :=
    congrArg (·.1.srv.svc) isResult
  have outputs : (machine.entry h event).outputs =
      [.process command outcome] := congrArg (·.2) isResult
  rw [isLine] at found outputs ended
  refine ⟨accepted, clientIp, rfl, isAccepted, peer, code, ?_, outcome,
    answers, outputs, ?_⟩
  · rw [launched]
    exact InFlight.perm_eraseIdx _ _ _ found
  · rw [sameSvc, ← ended]
    exact main_ran (generated_no_space _ _) (generated_no_nul _ _)
      (generated_ne_nil _ _) (printed accepted isAccepted clientIp peer)
      answers h.srv.svc

namespace RunsFor

variable {h : State} {past : List Entry} {accepted : Accepted}
  {clientIp : Octets} {entry : Entry}
  (runs : RunsFor h past accepted clientIp entry)

include runs

theorem lines_perm :
    ((processes (past ++ [entry])).map Prod.fst ++
        entry.after.launched).Perm
      ((processes past).map Prod.fst ++ h.launched) := by
  obtain ⟨outcome, _, outputs, _⟩ := runs.ran
  rw [processes_concat, outputs, List.map_append, List.append_assoc]
  exact runs.taken.append_left _

theorem queued : commandFor accepted clientIp ∈ h.launched :=
  runs.taken.mem_iff.mp List.mem_cons_self

theorem still_queued {other : Octets}
    (differs : other ≠ commandFor accepted clientIp)
    (isQueued : other ∈ h.launched) : other ∈ entry.after.launched := by
  rcases List.mem_cons.mp (runs.taken.mem_iff.mpr isQueued) with
    same | behind
  · exact absurd same differs
  · exact behind

theorem not_run (traced : Traced h past) (outcome : Outcome) :
    (commandFor accepted clientIp, outcome) ∉ processes past := by
  intro already
  have disjoint := (List.nodup_append.mp traced.once).2.2
  exact disjoint _ (List.mem_map_of_mem already) _ runs.queued rfl

theorem same_connection (distinct : DistinctIds (acceptedIn past))
    {other : Accepted} {otherIp : Octets}
    (admitted : AdmittedIn past other otherIp)
    (sameUuid : other.uuid = accepted.uuid) :
    other = accepted ∧ otherIp = clientIp := by
  have same := distinct.eq_of_uuid admitted.accepted_mem runs.accepted_mem
    sameUuid
  refine ⟨same, ?_⟩
  have samePeer := admitted.peer
  rw [same, runs.peer] at samePeer
  exact (Option.some.inj samePeer).symm

theorem pending_other {uuid : Octets} (differs : uuid ≠ accepted.uuid) :
    pending uuid entry.after = pending uuid h := by
  obtain ⟨_, _, _, ran⟩ := runs.ran
  unfold pending
  cases ran with
  | failed _ isResult => rw [(Prod.mk.inj isResult).2]
  | unanswered _ place _ isResult =>
      rw [(Prod.mk.inj isResult).2]
      exact Table.lookup_erase_ne _ differs.symm
  | claimed _ place _ isResult =>
      rw [(Prod.mk.inj isResult).2]
      exact Table.lookup_erase_ne _ differs.symm

theorem pending_before {uuid : Octets}
    {place : ConnectionRegistry.SessionEntry}
    (held : pending uuid entry.after = some place) :
    pending uuid h = some place := by
  obtain ⟨_, _, _, ran⟩ := runs.ran
  unfold pending at held ⊢
  cases ran with
  | failed _ isResult => rwa [(Prod.mk.inj isResult).2] at held
  | unanswered _ _ _ isResult =>
      rw [(Prod.mk.inj isResult).2] at held
      exact (Table.lookup_of_erase held).2
  | claimed _ _ _ isResult =>
      rw [(Prod.mk.inj isResult).2] at held
      exact (Table.lookup_of_erase held).2

theorem not_admits (other : Accepted) (otherIp : Octets) :
    ¬Admits other otherIp entry := by
  obtain ⟨_, _, outputs, _⟩ := runs.ran
  intro admits
  have announced := admits.announced
  rw [outputs, List.mem_singleton] at announced
  cases announced

theorem admittedIn_iff (other : Accepted) (otherIp : Octets) :
    AdmittedIn (past ++ [entry]) other otherIp ↔
      AdmittedIn past other otherIp := by
  rw [admittedIn_concat]
  exact or_iff_left (runs.not_admits other otherIp)

theorem place_eq (placed : Placed h past)
    (distinct : DistinctIds (acceptedIn past))
    {place : ConnectionRegistry.SessionEntry}
    (held : h.srv.svc.registry.sessions[accepted.uuid]? = some place) :
    AdmittedIn past accepted clientIp ∧
      place = placeOf accepted clientIp := by
  obtain ⟨other, admitted, sameUuid, sameFd⟩ :=
    placed.places accepted.uuid place held
  obtain ⟨rfl, sameIp⟩ := runs.same_connection distinct admitted sameUuid
  rw [sameIp] at admitted
  refine ⟨admitted, ?_⟩
  cases place
  cases sameIp
  cases sameFd
  rfl

theorem traced (traced : Traced h past) (placed : Placed h past)
    (distinct : DistinctIds (acceptedIn past)) :
    Traced entry.after (past ++ [entry]) := by
  constructor
  · exact runs.lines_perm.nodup_iff.mpr traced.once
  · intro command member
    rw [runs.lines_perm.mem_iff] at member
    exact (traced.launched command member).concat entry
  · intro command fd uuid otherIp serverSvc member
    simp only [runs.admittedIn_iff]
    obtain ⟨outcome, answers, outputs, ran⟩ := runs.ran
    rw [processes_concat, outputs] at member
    rcases List.mem_append.mp member with before | isNew
    · exact traced.sessions command fd uuid otherIp serverSvc before
    · have same := List.mem_singleton.mp isNew
      obtain ⟨isLine, isOutcome⟩ := Prod.mk.inj same
      cases ran with
      | failed _ isResult =>
          rw [(Prod.mk.inj isResult).1] at isOutcome
          cases isOutcome
      | unanswered _ _ _ isResult =>
          rw [(Prod.mk.inj isResult).1] at isOutcome
          cases isOutcome
      | claimed _ place held isResult =>
          obtain ⟨admitted, isPlace⟩ := runs.place_eq placed distinct held
          rw [(Prod.mk.inj isResult).1, isPlace] at isOutcome
          cases isOutcome
          exact ⟨accepted, admitted, isLine, rfl⟩

theorem fate (traced : Traced h past) (placed : Placed h past)
    (admitted : AdmittedIn past accepted clientIp) :
    Fate entry.after (past ++ [entry]) accepted clientIp := by
  have fate := placed.fates accepted clientIp admitted
  obtain ⟨outcome, answers, outputs, ran⟩ := runs.ran
  have hasRun : (commandFor accepted clientIp, outcome) ∈
      processes (past ++ [entry]) := by
    rw [processes_concat, outputs]
    exact List.mem_append_right _ (List.mem_singleton_self _)
  cases ran with
  | failed cause isResult =>
      obtain ⟨isOutcome, sameSvc⟩ := Prod.mk.inj isResult
      have samePlace : pending accepted.uuid entry.after =
          pending accepted.uuid h := by
        unfold pending
        rw [sameSvc]
      rw [isOutcome] at hasRun
      cases fate with
      | waiting _ held => exact .stranded (.inr hasRun) (samePlace.trans held)
      | running ran _ _ => exact absurd ran (runs.not_run traced _)
      | stranded _ held =>
          exact .stranded (.inr hasRun) (samePlace.trans held)
      | lost losing member loses gone =>
          exact .lost losing (List.mem_append_left _ member) loses
            (samePlace.trans gone)
  | unanswered granted place found isResult =>
      obtain ⟨isOutcome, svc⟩ := Prod.mk.inj isResult
      have gone : pending accepted.uuid entry.after = none := by
        unfold pending
        rw [svc]
        exact Table.lookup_erase_self _ _
      rw [isOutcome] at outputs
      refine .lost entry (List.mem_append_right _ List.mem_cons_self)
        ⟨?_, gone, .inr outputs⟩ gone
      rw [runs.isBefore, ← fate.place_eq found]
      exact found
  | claimed granted place found isResult =>
      obtain ⟨isOutcome, svc⟩ := Prod.mk.inj isResult
      rw [isOutcome, fate.place_eq found] at hasRun
      refine .running hasRun (answers.refusesInvalid _ granted) ?_
      unfold pending
      rw [svc]
      exact Table.lookup_erase_self _ _

theorem placed (traced : Traced h past) (placed : Placed h past)
    (distinct : DistinctIds (acceptedIn past)) :
    Placed entry.after (past ++ [entry]) := by
  constructor
  · intro other otherIp admitted
    rw [runs.admittedIn_iff] at admitted
    by_cases sameUuid : other.uuid = accepted.uuid
    · obtain ⟨rfl, rfl⟩ := runs.same_connection distinct admitted sameUuid
      exact runs.fate traced placed admitted
    · refine (placed.fates other otherIp admitted).mono entry
        (runs.pending_other sameUuid) ?_
      apply runs.still_queued
      exact fun sameLine => sameUuid (commandFor_uuid sameLine)
  · intro uuid place held
    simp only [runs.admittedIn_iff]
    exact placed.places uuid place (runs.pending_before held)

end RunsFor

/-! ### Whole runs -/

structure Sound (h : State) (past : List Entry) : Prop where
  traced : Traced h past
  placed : Placed h past

theorem create_sound (validator : IpValidator.Validator)
    (maxPerIp : UInt32) : Sound (create validator maxPerIp) [] := by
  refine ⟨⟨List.nodup_nil, nofun, nofun⟩, ?_, nofun⟩
  rintro accepted clientIp ⟨_, member, _⟩
  cases member

theorem Sound.step {h : State} {past : List Entry} (sound : Sound h past)
    (event : Event)
    (distinct : DistinctIds
      (acceptedIn (past ++ [machine.entry h event])))
    (printed : PrintedPeers
      (acceptedIn (past ++ [machine.entry h event]))) :
    Sound (machine.step h event).1 (past ++ [machine.entry h event]) := by
  obtain ⟨traced, placed⟩ := sound
  rw [acceptedIn_concat] at distinct printed
  change Sound (machine.entry h event).after (past ++ [machine.entry h event])
  cases step_moved h event with
  | quiet plain samePending _ sameLaunched _ =>
      have grown : (machine.entry h event).after.launched =
          h.launched ++ [] :=
        sameLaunched.trans (List.append_nil _).symm
      refine ⟨traced.grow plain.no_process [] grown List.nodup_nil nofun
        nofun, placed.quiet plain samePending ?_⟩
      intro command queued
      rw [grown]
      exact List.mem_append_left _ queued
  | refused accepted clientIp isEvent peer plain samePending _ launched _ =>
      have isAccept : (machine.entry h event).event = .accept accepted :=
        isEvent
      rw [isAccept] at distinct
      refine ⟨traced.launch plain.no_process isAccept peer launched distinct,
        placed.quiet plain samePending ?_⟩
      intro command queued
      have grown : (machine.entry h event).after.launched =
          h.launched ++ launchedFor accepted clientIp := launched
      rw [grown]
      exact List.mem_append_left _ queued
  | admitted accepted clientIp isEvent peer outputs _ pendingAfter _ _
      launched _ =>
      have isAccept : (machine.entry h event).event = .accept accepted :=
        isEvent
      have isOutputs : (machine.entry h event).outputs =
          [.server (.service (.emitSessionStarted accepted.uuid clientIp)),
            .server (.system (commandFor accepted clientIp)
              (launchCode accepted clientIp))] := outputs
      have admits : Admits accepted clientIp (machine.entry h event) := by
        refine ⟨isAccept, peer, ?_⟩
        rw [isOutputs]
        exact List.mem_cons_self
      rw [isAccept] at distinct
      refine ⟨traced.launch ?_ isAccept peer launched distinct,
        placed.admitted admits pendingAfter launched distinct⟩
      rw [isOutputs]
      rfl
  | taken uuid place isEvent isHeld outputs pendingAfter sameLaunched =>
      have isOutputs : (machine.entry h event).outputs =
          [.server (.service (.returnSocket place.fd))] := outputs
      have grown : (machine.entry h event).after.launched =
          h.launched ++ [] :=
        sameLaunched.trans (List.append_nil _).symm
      refine ⟨traced.grow ?_ [] grown List.nodup_nil nofun nofun,
        placed.taken rfl isEvent isHeld outputs pendingAfter sameLaunched⟩
      rw [isOutputs]
      rfl
  | ran index answers command _ found outcome svc ended isResult =>
      have lines : ∀ command ∈ h.launched, LaunchedIn past command :=
        fun command queued =>
          traced.launched command (List.mem_append_right _ queued)
      obtain ⟨accepted, clientIp, runs⟩ :=
        RunsFor.of_ran lines printed.front found ended isResult
      exact ⟨runs.traced traced placed distinct.front,
        runs.placed traced placed distinct.front⟩

theorem acceptedIn_history (h : State) (events : List Event) :
    acceptedIn (machine.history h events) = events.filterMap acceptedBy := by
  have isEvents := congrArg (List.filterMap acceptedBy)
    (machine.history_events h events)
  rw [List.filterMap_map] at isEvents
  exact isEvents

theorem sound_of_run (validator : IpValidator.Validator) (maxPerIp : UInt32)
    (events : List Event)
    (distinct : DistinctIds (events.filterMap acceptedBy))
    (printed : PrintedPeers (events.filterMap acceptedBy)) :
    Sound (machine.final (create validator maxPerIp) events)
      (machine.history (create validator maxPerIp) events) := by
  have conditional := machine.history_rule
    (fun h past => DistinctIds (acceptedIn past) →
      PrintedPeers (acceptedIn past) → Sound h past)
    (create validator maxPerIp)
    (fun _ _ => create_sound validator maxPerIp)
    (by
      intro h past event earlier distinct printed
      have before : Sound h past := by
        rw [acceptedIn_concat] at distinct printed
        exact earlier distinct.front printed.front
      exact before.step event distinct printed)
    events
  rw [acceptedIn_history] at conditional
  exact conditional distinct printed

/-- Every admitted connection waits for its process, has its session, is
stranded or is lost.  A session that starts has the uuid, the address and the
socket of one admitted connection, and no command line runs twice. -/
theorem connection_fates (validator : IpValidator.Validator)
    (maxPerIp : UInt32) (events : List Event)
    (distinct : DistinctIds (events.filterMap acceptedBy))
    (printed : PrintedPeers (events.filterMap acceptedBy)) :
    let h := machine.final (create validator maxPerIp) events
    let past := machine.history (create validator maxPerIp) events
    (∀ accepted clientIp, AdmittedIn past accepted clientIp →
        Fate h past accepted clientIp) ∧
      (∀ command fd uuid clientIp serverSvc,
        (command, .session fd uuid clientIp serverSvc) ∈ processes past →
          ∃ accepted, AdmittedIn past accepted clientIp ∧
            command = commandFor accepted clientIp ∧
            .session fd uuid clientIp serverSvc =
              sessionOf accepted clientIp) ∧
      ((processes past).map Prod.fst ++ h.launched).Nodup := by
  have sound := sound_of_run validator maxPerIp events distinct printed
  exact ⟨sound.placed.fates, sound.traced.sessions, sound.traced.once⟩

def loopbackOnly : IpValidator.Validator :=
  (IpValidator.loadConfig (some (text "::1\n"))
    { configFile := text "allowed_ips.conf" }).1

def letterConnection : Accepted := connectionFrom (text "::1") 7 1 0

/-- Its session id is the one the source gives as an example. -/
def digitConnection : Accepted :=
  { connectionFrom (text "::1") 8 0xa3f8d901c4b72e5d 0 with
    ts := 0x0195f3a7b2c1 }

/-- A bus that refuses nothing but invalid names and loses nothing. -/
def willingBus : BusAnswers :=
  { grants := validBusName
    refusesInvalid := fun _ granted => granted
    getSocket := .answered }

def bothConnect : List Event :=
  [.accept letterConnection, .accept digitConnection, .start 0 willingBus,
    .start 0 willingBus]

theorem connection_fates_both :
    let past := machine.history (create loopbackOnly 5) bothConnect
    (processes past).map Prod.snd =
        [sessionOf letterConnection (text "::1"), .exitFailure] ∧
      Fate (machine.final (create loopbackOnly 5) bothConnect) past
        digitConnection (text "::1") := by
  refine ⟨by decide +kernel, ?_⟩
  apply (connection_fates loopbackOnly 5 bothConnect (by decide +kernel)
    (by decide +kernel)).1
  refine ⟨machine.entry
    (machine.step (create loopbackOnly 5) (.accept letterConnection)).1
    (.accept digitConnection), ?_, rfl, rfl, by decide +kernel⟩
  exact List.mem_cons_of_mem _ List.mem_cons_self

end OpenSmsc.Host
