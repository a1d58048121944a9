/-
Session ids whose timestamp starts with a digit.

The bus refuses the name of every such session, so its process never claims
the socket.  Unless somebody else asks for it by its uuid, its place is never
freed: an address then gets as many connections as the limit allows, over the
whole life of the server.
-/

import OpenSmsc.Network.HostRuns

namespace OpenSmsc.Host

open Foundation TcpServer ClientMain

/-- The top digit of the printed timestamp is not a letter.  Millisecond
clocks reach the first letter in the year 7544. -/
def DigitIds (accepted : List Accepted) : Prop :=
  ∀ connection ∈ accepted, connection.ts.toNat % 2 ^ 48 / 2 ^ 44 < 10

instance (accepted : List Accepted) : Decidable (DigitIds accepted) :=
  inferInstanceAs (Decidable (∀ connection ∈ accepted,
    connection.ts.toNat % 2 ^ 48 / 2 ^ 44 < 10))

/-- Somebody other than the process of a connection asks for a socket. -/
def asksSocket : Event → Bool
  | .call (.getSocket _) => true
  | _ => false

def limitSet : Event → Option UInt32
  | .call (.setMaxConnectionsPerIp _ max) => some max
  | _ => none

def limitsSet (past : List Entry) : List UInt32 :=
  past.filterMap fun entry => limitSet entry.event

def announcedFrom : Output → Option Octets
  | .server (.service (.emitSessionStarted _ clientIp)) => some clientIp
  | _ => none

def announcements (past : List Entry) : List Octets :=
  (past.flatMap (·.outputs)).filterMap announcedFrom

theorem announcements_concat (past : List Entry) (entry : Entry) :
    announcements (past ++ [entry]) =
      announcements past ++ entry.outputs.filterMap announcedFrom := by
  unfold announcements
  rw [List.flatMap_append, List.filterMap_append]
  simp

theorem Plain.no_announcement {outputs : List Output}
    (plain : Plain outputs) : outputs.filterMap announcedFrom = [] := by
  rw [List.filterMap_eq_nil_iff]
  intro output member
  obtain ⟨effect, rfl, silent⟩ := plain output member
  unfold announcedFrom
  split
  · next uuid clientIp isOutput =>
      cases isOutput
      exact absurd rfl (silent uuid clientIp)
  · rfl

theorem DigitIds.invalid {connections : List Accepted}
    (digits : DigitIds connections) {accepted : Accepted}
    (member : accepted ∈ connections) :
    validBusName (clientBusName accepted.uuid) = false := by
  rw [Bool.eq_false_iff, ne_eq, Accepted.uuid,
    SessionId.clientBusName_generated_valid_iff]
  exact Nat.not_le.mpr (digits accepted member)

/-- Places are only taken: the counters are the numbers of admissions. -/
structure Exhausting (bound : Nat) (h : State) (past : List Entry) :
    Prop where
  lines : ∀ command ∈ h.launched, LaunchedIn past command
  failed : ∀ process ∈ processes past, process.2 = .exitFailure
  counted : ∀ ip, (countOf ip h).toNat = (announcements past).count ip
  bounded : ∀ ip, (announcements past).count ip ≤ bound
  limited : (limit h).toNat ≤ bound

section Steps

variable {bound : Nat} {h : State} {past : List Entry} {entry : Entry}
  (exhausting : Exhausting bound h past)

include exhausting

theorem Exhausting.quiet (plain : Plain entry.outputs)
    (sameCounts : ∀ ip, countOf ip entry.after = countOf ip h)
    (lines : ∀ command ∈ entry.after.launched,
      LaunchedIn (past ++ [entry]) command)
    (limited : (limit entry.after).toNat ≤ bound) :
    Exhausting bound entry.after (past ++ [entry]) := by
  have sameProcesses : processes (past ++ [entry]) = processes past := by
    rw [processes_concat, plain.no_process, List.append_nil]
  have sameAnnouncements : announcements (past ++ [entry]) =
      announcements past := by
    rw [announcements_concat, plain.no_announcement, List.append_nil]
  refine ⟨lines, ?_, ?_, ?_, limited⟩
  · rw [sameProcesses]
    exact exhausting.failed
  · intro ip
    rw [sameAnnouncements, sameCounts]
    exact exhausting.counted ip
  · rw [sameAnnouncements]
    exact exhausting.bounded

theorem Exhausting.old_lines :
    ∀ command ∈ h.launched, LaunchedIn (past ++ [entry]) command :=
  fun command queued => (exhausting.lines command queued).concat entry

theorem Exhausting.grown_lines {accepted : Accepted} {clientIp : Octets}
    (isAccept : entry.event = .accept accepted)
    (peer : accepted.remoteEndpoint = some clientIp)
    (launched : entry.after.launched =
      h.launched ++ launchedFor accepted clientIp) :
    ∀ command ∈ entry.after.launched,
      LaunchedIn (past ++ [entry]) command := by
  intro command queued
  rw [launched] at queued
  rcases List.mem_append.mp queued with old | isNew
  · exact exhausting.old_lines command old
  · exact launchedFor_launchedIn isAccept peer command isNew

theorem Exhausting.admitted {accepted : Accepted} {clientIp : Octets}
    (admits : entry.outputs =
      [.server (.service (.emitSessionStarted accepted.uuid clientIp)),
        .server (.system (commandFor accepted clientIp)
          (launchCode accepted clientIp))])
    (below : countOf clientIp h < limit h)
    (countsAfter : ∀ ip, countOf ip entry.after =
      if clientIp = ip then countOf ip h + 1 else countOf ip h)
    (lines : ∀ command ∈ entry.after.launched,
      LaunchedIn (past ++ [entry]) command)
    (sameLimit : limit entry.after = limit h) :
    Exhausting bound entry.after (past ++ [entry]) := by
  have isAnnounced : announcements (past ++ [entry]) =
      announcements past ++ [clientIp] := by
    rw [announcements_concat, admits]
    rfl
  have counted : ∀ ip, (countOf ip entry.after).toNat =
      (announcements past ++ [clientIp]).count ip := by
    intro ip
    rw [countsAfter, List.count_append, ← exhausting.counted ip]
    by_cases same : clientIp = ip
    · subst same
      rw [if_pos rfl, List.count_singleton_self]
      exact ConnectionRegistry.count_add_one h.srv.svc.registry clientIp
        below
    · rw [if_neg same, List.count_singleton, if_neg (by simpa using same)]
      rfl
  refine ⟨lines, ?_, ?_, ?_, ?_⟩
  · rw [processes_concat, admits]
    simpa [processOf] using exhausting.failed
  · rw [isAnnounced]
    exact counted
  · intro ip
    rw [isAnnounced]
    by_cases same : clientIp = ip
    · have belowNat := UInt32.lt_iff_toNat_lt.mp below
      have limited := exhausting.limited
      have before := exhausting.counted clientIp
      rw [← same, List.count_append, List.count_singleton_self]
      omega
    · rw [List.count_append, List.count_singleton,
        if_neg (by simpa using same)]
      exact exhausting.bounded ip
  · rw [sameLimit]
    exact exhausting.limited

theorem Exhausting.ran {accepted : Accepted} {clientIp : Octets}
    (runs : RunsFor h past accepted clientIp entry)
    (digits : DigitIds (acceptedIn past)) :
    Exhausting bound entry.after (past ++ [entry]) := by
  have invalid := digits.invalid runs.accepted_mem
  obtain ⟨outcome, answers, outputs, ran⟩ := runs.ran
  have refused : answers.grants (clientBusName accepted.uuid) ≠ true := by
    intro granted
    have valid := answers.refusesInvalid _ granted
    rw [invalid] at valid
    contradiction
  cases ran with
  | unanswered granted _ _ _ => exact absurd granted refused
  | claimed granted _ _ _ => exact absurd granted refused
  | failed _ isResult =>
      obtain ⟨isOutcome, sameSvc⟩ := Prod.mk.inj isResult
      have sameAnnouncements : announcements (past ++ [entry]) =
          announcements past := by
        rw [announcements_concat, outputs]
        exact List.append_nil _
      refine ⟨?_, ?_, ?_, ?_, ?_⟩
      · intro command queued
        apply exhausting.old_lines
        exact runs.taken.mem_iff.mp (List.mem_cons_of_mem _ queued)
      · rw [processes_concat, outputs, isOutcome]
        intro process member
        rcases List.mem_append.mp member with old | isNew
        · exact exhausting.failed process old
        · rw [List.mem_singleton.mp isNew]
      · intro ip
        unfold countOf
        rw [sameAnnouncements, sameSvc]
        exact exhausting.counted ip
      · rw [sameAnnouncements]
        exact exhausting.bounded
      · unfold limit
        rw [sameSvc]
        exact exhausting.limited

theorem Exhausting.step (event : Event)
    (digits : DigitIds (acceptedIn past))
    (printed : PrintedPeers (acceptedIn past))
    (unasked : asksSocket event = false)
    (withinBound : ∀ max ∈ limitSet event, max.toNat ≤ bound) :
    Exhausting bound (machine.step h event).1
      (past ++ [machine.entry h event]) := by
  change Exhausting bound (machine.entry h event).after _
  cases step_moved h event with
  | quiet plain _ sameCounts sameLaunched sameLimit =>
      have launched : (machine.entry h event).after.launched =
          h.launched := sameLaunched
      refine exhausting.quiet plain sameCounts ?_ ?_
      · rw [launched]
        exact exhausting.old_lines
      · rcases sameLimit with same | ⟨ip, isEvent⟩
        · have isLimit : limit (machine.entry h event).after = limit h :=
            same
          rw [isLimit]
          exact exhausting.limited
        · apply withinBound
          rw [isEvent]
          rfl
  | refused accepted clientIp isEvent peer plain _ sameCounts launched
      sameLimit =>
      refine exhausting.quiet plain sameCounts
        (exhausting.grown_lines isEvent peer launched) ?_
      have isLimit : limit (machine.entry h event).after = limit h :=
        sameLimit
      rw [isLimit]
      exact exhausting.limited
  | admitted accepted clientIp isEvent peer outputs _ _ below countsAfter
      launched sameLimit =>
      exact exhausting.admitted outputs below countsAfter
        (exhausting.grown_lines isEvent peer launched) sameLimit
  | taken uuid place isEvent _ _ _ _ =>
      rw [isEvent] at unasked
      cases unasked
  | ran index answers command _ found outcome svc ended isResult =>
      obtain ⟨accepted, clientIp, runs⟩ :=
        RunsFor.of_ran exhausting.lines printed found ended isResult
      exact exhausting.ran runs digits

end Steps

/-! ### Whole runs -/

theorem create_exhausting (validator : IpValidator.Validator)
    (maxPerIp : UInt32) (bound : Nat) (limited : maxPerIp.toNat ≤ bound) :
    Exhausting bound (create validator maxPerIp) [] :=
  ⟨nofun, nofun, fun _ => rfl, fun _ => Nat.zero_le _, limited⟩

theorem DigitIds.front {first second : List Accepted}
    (digits : DigitIds (first ++ second)) : DigitIds first :=
  fun connection member => digits connection (List.mem_append_left _ member)

theorem limitsSet_history (h : State) (events : List Event) :
    limitsSet (machine.history h events) = events.filterMap limitSet := by
  have isEvents := congrArg (List.filterMap limitSet)
    (machine.history_events h events)
  rw [List.filterMap_map] at isEvents
  exact isEvents

/-- While ids start with a digit and nobody else asks for a socket, no session
ever starts, the counter of an address is the number of its admissions, and
that number stays within the highest limit there has been: places are used up
for good. -/
theorem digit_ids_use_up_places (validator : IpValidator.Validator)
    (maxPerIp : UInt32) (events : List Event)
    (digits : DigitIds (events.filterMap acceptedBy))
    (printed : PrintedPeers (events.filterMap acceptedBy))
    (unasked : ∀ event ∈ events, asksSocket event = false) (bound : Nat)
    (atStart : maxPerIp.toNat ≤ bound)
    (later : ∀ max ∈ events.filterMap limitSet, max.toNat ≤ bound) :
    let past := machine.history (create validator maxPerIp) events
    (∀ process ∈ processes past, process.2 = .exitFailure) ∧
      (∀ ip, (countOf ip
        (machine.final (create validator maxPerIp) events)).toNat =
          (announcements past).count ip) ∧
      ∀ ip, (announcements past).count ip ≤ bound := by
  intro past
  have conditional := machine.history_rule
    (fun h past => DigitIds (acceptedIn past) →
      PrintedPeers (acceptedIn past) →
      (∀ entry ∈ past, asksSocket entry.event = false) →
      (∀ max ∈ limitsSet past, max.toNat ≤ bound) →
        Exhausting bound h past)
    (create validator maxPerIp)
    (fun _ _ _ _ => create_exhausting validator maxPerIp bound atStart)
    (by
      intro h past event earlier digits printed unasked limits
      rw [acceptedIn_concat] at digits printed
      have limitsGrow : limitsSet (past ++ [machine.entry h event]) =
          limitsSet past ++ (limitSet event).toList := by
        unfold limitsSet
        rw [List.filterMap_append]
        cases isSet : limitSet event with
        | none => simp [Machine.entry, isSet]
        | some max => simp [Machine.entry, isSet]
      rw [limitsGrow] at limits
      have before := earlier digits.front printed.front
        (fun entry member => unasked entry (List.mem_append_left _ member))
        fun max member => limits max (List.mem_append_left _ member)
      have notAsked : asksSocket event = false :=
        unasked _ (List.mem_append_right past List.mem_cons_self)
      apply before.step event digits.front printed.front notAsked
      intro max isSet
      apply limits max
      rw [Option.mem_def.mp isSet]
      exact List.mem_append_right _ (List.mem_singleton_self _))
    events
  rw [acceptedIn_history, limitsSet_history] at conditional
  have exhausting := conditional digits printed
    (fun entry member => unasked _ (machine.event_mem_of_history member))
    later
  exact ⟨exhausting.failed, exhausting.counted, exhausting.bounded⟩

/-- One place per address.  The second connection comes after the process of
the first has run. -/
def oneAfterTheOther : List Event :=
  [.accept digitConnection, .start 0 willingBus,
    .accept { digitConnection with
      nativeHandle := 9
      rnd := 2 },
    .start 0 willingBus]

theorem digit_ids_use_up_one_place :
    let past := machine.history (create loopbackOnly 1) oneAfterTheOther
    announcements past = [text "::1"] ∧
      (processes past).length = 2 ∧
      (∀ process ∈ processes past, process.2 = .exitFailure) ∧
      (∀ ip, (countOf ip
        (machine.final (create loopbackOnly 1) oneAfterTheOther)).toNat =
          (announcements past).count ip) ∧
      ∀ ip, (announcements past).count ip ≤ 1 :=
  ⟨by decide +kernel, by decide +kernel,
    digit_ids_use_up_places loopbackOnly 1 oneAfterTheOther
      (by decide +kernel) (by decide +kernel) (by decide +kernel) 1
      (by decide) nofun⟩

end OpenSmsc.Host
