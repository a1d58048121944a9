/-
The close behind an UNBIND.

`handle_unbind` only sets a flag, and the next completed write closes the
connection, whichever PDU it wrote.  The response to the UNBIND is written
before the close exactly when nothing else was queued.
-/

import OpenSmsc.Server.WriteOrder

namespace OpenSmsc.SmppClientHandler

open Foundation Smpp SmppHandler SmppPduFramer

theorem Serves.staysOpen {h : Handler} {result : Result}
    (serves : Serves h result) : unbindComplete ∉ result.2 := by
  cases serves with
  | idle idles _ => exact idles.staysOpen
  | answer pdu enqueues _ _ => exact enqueues.staysOpen
  | unbind pdu enqueues _ _ => exact enqueues.staysOpen

theorem onWrite_closes_only {error : Option Octets} {h : Handler}
    (closes : unbindComplete ∈ (onWrite error h).2) :
    error = none ∧ h.closeAfterWrite = true := by
  cases error with
  | some message =>
      refine absurd closes (unbindComplete_notMem_close h ?_)
      change (some 119 : Option UInt8) ≠ some 85
      decide
  | none =>
      refine ⟨rfl, ?_⟩
      cases onWrite_completes h with
      | closes marked _ => exact marked
      | continues _ _ isResult =>
          rw [isResult] at closes
          obtain ⟨_, _, isWrite⟩ := List.mem_map.mp closes
          cases isWrite
      | rests _ _ isResult =>
          rw [isResult] at closes
          cases closes

theorem closes_completing (decoder : BindDecoder) (c : Connection)
    (event : StrandEvent)
    (closes : unbindComplete ∈ ((strand decoder).step c event).2) :
    ∃ index pdu, c.outstanding[index]? = some pdu ∧
      (strand decoder).entry c event = completingEntry c index := by
  cases event with
  | onRead completion =>
      exact absurd closes
        (onRead_serves decoder completion c.handler).staysOpen
  | sendPdu pdu =>
      exact absurd closes (sendPdu_serves pdu c.handler).staysOpen
  | writeCompletes index error =>
      have isStep : (strand decoder).step c (.writeCompletes index error) =
          strandStep decoder c (.writeCompletes index error) := rfl
      unfold strandStep at isStep
      dsimp only at isStep
      cases found : c.outstanding[index]? with
      | none =>
          rw [isStep, found] at closes
          cases closes
      | some pdu =>
          rw [isStep, found] at closes
          obtain ⟨noError, _⟩ := onWrite_closes_only closes
          subst noError
          refine ⟨index, pdu, found, ?_⟩
          unfold Machine.entry completingEntry
          rw [isStep, found]

theorem enqueued_front {before rest : List StrandEntry} (entry : StrandEntry) :
    enqueued (before ++ [entry]) <+: enqueued (before ++ entry :: rest) := by
  have isFront : before ++ entry :: rest = before ++ [entry] ++ rest := by
    simp
  rw [isFront]
  unfold enqueued
  rw [@List.flatMap_append _ _ (before ++ [entry])]
  exact List.prefix_append _ _

/-- When the connection is closed, the answer to an UNBIND is written exactly
if the queue was empty when that UNBIND was dispatched: the completion that
closes is the first behind it. -/
theorem Writing.answered_iff {c : Connection} {past : List StrandEntry}
    {index : Nat} {pdu : Octets} (writing : Writing c past)
    (found : c.outstanding[index]? = some pdu)
    {before rest : List StrandEntry} {entry : StrandEntry}
    (split : past = before ++ entry :: rest) (unbind : UnbindAccepted entry) :
    enqueued (before ++ [entry]) <+:
        written (past ++ [completingEntry c index]) ↔
      entry.before.handler.writeQueue = [] := by
  have isWrite : completedWrite (completingEntry c index) = some pdu := found
  obtain ⟨answer, isEnqueued⟩ :=
    writing.sinceUnbind before entry rest split unbind
  have front := @enqueued_front before rest entry
  rw [← split, ← writing.conserved, isEnqueued,
    (writing.completing found).1] at front
  rw [isEnqueued, written_concat, isWrite, List.append_assoc,
    List.prefix_append_right_inj]
  rw [List.append_assoc, List.prefix_append_right_inj] at front
  constructor
  · intro isFront
    have length := isFront.length_le
    rw [List.length_append] at length
    refine List.eq_nil_of_length_eq_zero ?_
    simp only [Option.toList_some, List.length_singleton] at length
    omega
  · intro empty
    rw [empty] at front ⊢
    have sameHead := (List.cons_prefix_cons.mp front).1
    rw [sameHead]
    exact List.prefix_rfl

/-- When `close("UNBIND complete")` runs, the responses to all accepted UNBINDs
and everything enqueued before them are written if and only if each of these
UNBINDs found the queue empty. -/
theorem unbind_answered_iff (decoder : BindDecoder) (sessionId : Octets)
    (events : List StrandEvent) (event : StrandEvent)
    (noError : NoWriteError events)
    (closes : unbindComplete ∈ ((strand decoder).step
      ((strand decoder).final (connected sessionId) events) event).2) :
    let past := (strand decoder).history (connected sessionId)
      (events ++ [event])
    (∀ before entry after, past = before ++ entry :: after →
        UnbindAccepted entry →
        enqueued (before ++ [entry]) <+: written past) ↔
      ∀ entry ∈ past, UnbindAccepted entry →
        entry.before.handler.writeQueue = [] := by
  dsimp only
  have phase := strand_writing decoder sessionId events noError
  dsimp only at phase
  rw [Machine.history_concat]
  generalize (strand decoder).final (connected sessionId) events = c
    at closes phase ⊢
  generalize (strand decoder).history (connected sessionId) events = past
    at phase ⊢
  obtain ⟨index, pdu, found, isEntry⟩ := closes_completing decoder c event
    closes
  rw [isEntry]
  have writing : Writing c past := by
    rcases phase with writing | closed
    · exact writing
    · rw [closed.outstanding] at found
      cases found
  have notUnbind : ¬UnbindAccepted (completingEntry c index) :=
    not_acceptsUnbind_of_silent c.handler
      (onWrite_leaves none c.handler).silent
  constructor
  · intro written entry member unbind
    rcases List.mem_append.mp member with old | new
    · obtain ⟨before, rest, split⟩ := List.append_of_mem old
      refine (writing.answered_iff found split unbind).mp ?_
      refine written before entry (rest ++ [completingEntry c index]) ?_
        unbind
      rw [split]
      simp
    · rw [List.mem_singleton.mp new] at unbind
      exact absurd unbind notUnbind
  · intro empty before entry after split unbind
    have member : entry ∈ past ++ [completingEntry c index] := by
      rw [split]
      simp
    rcases concat_split split with ⟨_, sameEntry⟩ | ⟨rest, isPast, _⟩
    · rw [← sameEntry] at unbind
      exact absurd unbind notUnbind
    · exact (writing.answered_iff found isPast unbind).mpr
        (empty entry member unbind)

def anyBind : BindDecoder := fun _ _ => some (text "test", text "test")

/-- An UNBIND with two octets behind its header, so that the framer hands it
out. -/
def shortUnbind : Octets :=
  writeHeader
      { commandLength := 18
        commandId := cmdUnbind
        commandStatus := 0
        sequenceNumber := 2 } ++
    [0, 0]

theorem unbind_answered_when_idle :
    let past := (strand anyBind).history (connected (text "a"))
      ([.onRead (.ok (shortBind.take 16)), .onRead (.ok (shortBind.drop 16)),
        .writeCompletes 0 none, .onRead (.ok (shortUnbind.take 16)),
        .onRead (.ok (shortUnbind.drop 16))] ++ [.writeCompletes 0 none])
    ∀ before entry after, past = before ++ entry :: after →
      UnbindAccepted entry → enqueued (before ++ [entry]) <+: written past :=
  (unbind_answered_iff anyBind (text "a")
    [.onRead (.ok (shortBind.take 16)), .onRead (.ok (shortBind.drop 16)),
      .writeCompletes 0 none, .onRead (.ok (shortUnbind.take 16)),
      .onRead (.ok (shortUnbind.drop 16))]
    (.writeCompletes 0 none) (by intro index message; simp)
    (by decide +kernel)).mpr (by decide +kernel)

/-- The BIND_RESP is still being written when the UNBIND arrives: its
completion closes the connection, and the UNBIND_RESP stays in the queue. -/
theorem unbind_closes_unanswered :
    let past := (strand anyBind).history (connected (text "a"))
      [.onRead (.ok (shortBind.take 16)), .onRead (.ok (shortBind.drop 16)),
        .onRead (.ok (shortUnbind.take 16)),
        .onRead (.ok (shortUnbind.drop 16)), .writeCompletes 0 none]
    past.map (fun entry => decide (UnbindAccepted entry)) =
        [false, false, false, true, false] ∧
      past.map (fun entry => decide (unbindComplete ∈ entry.outputs)) =
        [false, false, false, false, true] ∧
      (enqueued (past.take 4)).length = 2 ∧ (written past).length = 1 ∧
      ¬enqueued (past.take 4) <+: written past := by
  decide +kernel

end OpenSmsc.SmppClientHandler
