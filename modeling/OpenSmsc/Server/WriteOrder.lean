/-
The order of the server's writes.

A connection is the handler together with the `async_write` operations that
have not completed.  A completion is possible only for one of those, so the
flag, the queue and the operations can be compared in every state of a run.
The PDUs written so far and those still queued are together the PDUs enqueued,
in order.  An accepted UNBIND has the next completion close the connection,
whichever PDU that completion belongs to.
-/

import Mathlib.Data.List.TakeDrop
import OpenSmsc.Foundation.Standing
import OpenSmsc.Server.ClientHandler

namespace OpenSmsc.SmppClientHandler

open Foundation Smpp SmppHandler SmppPduFramer

structure Connection where
  handler : Handler
  /-- The buffers of the writes that have not completed. -/
  outstanding : List Octets := []
  deriving DecidableEq, Repr

inductive StrandEvent where
  | onRead (completion : ReadResult)
  | sendPdu (pdu : Octets)
  | writeCompletes (index : Nat) (error : Option Octets)

def enqueuedPdus (effects : List Effect) : List Octets :=
  effects.filterMap fun
    | .enqueuePdu pdu => some pdu
    | _ => none

def startedWrites (effects : List Effect) : List Octets :=
  effects.filterMap fun
    | .asyncWrite pdu => some pdu
    | _ => none

def perform (outstanding : List Octets) (result : Result) :
    Connection × List Effect :=
  ({ handler := result.1
     outstanding := outstanding ++ startedWrites result.2 },
    result.2)

def strandStep (decoder : BindDecoder) (c : Connection) :
    StrandEvent → Connection × List Effect
  | .onRead completion =>
      perform c.outstanding (onRead decoder completion c.handler)
  | .sendPdu pdu => perform c.outstanding (sendPdu pdu c.handler)
  | .writeCompletes index error =>
      match c.outstanding[index]? with
      | none => (c, [])
      | some _ =>
          perform (c.outstanding.eraseIdx index) (onWrite error c.handler)

def strand (decoder : BindDecoder) :
    Machine Connection StrandEvent Effect where
  step := strandStep decoder

def connected (sessionId : Octets) : Connection :=
  { handler := { sessionId } }

abbrev StrandEntry := Machine.Entry Connection StrandEvent Effect

/-! ### What a run wrote -/

def completedWrite (entry : StrandEntry) : Option Octets :=
  match entry.event with
  | .writeCompletes index none => entry.before.outstanding[index]?
  | _ => none

def written (past : List StrandEntry) : List Octets :=
  past.filterMap completedWrite

def enqueued (past : List StrandEntry) : List Octets :=
  past.flatMap fun entry => enqueuedPdus entry.outputs

def handed (past : List StrandEntry) : List Octets :=
  past.flatMap fun entry => startedWrites entry.outputs

def AcceptsUnbind (h : Handler) (effects : List Effect) : Prop :=
  ∃ pdu ∈ dispatchedPdus effects,
    16 ≤ pdu.length ∧ readU32 (pdu.drop 4) = cmdUnbind ∧
      isBound h.session = true

instance (h : Handler) (effects : List Effect) :
    Decidable (AcceptsUnbind h effects) :=
  inferInstanceAs (Decidable (∃ _ ∈ _, _))

def UnbindAccepted (entry : StrandEntry) : Prop :=
  AcceptsUnbind entry.before.handler entry.outputs

instance (entry : StrandEntry) : Decidable (UnbindAccepted entry) :=
  inferInstanceAs (Decidable (AcceptsUnbind _ _))

def unbindComplete : Effect := .close (text "UNBIND complete")

/-- Reasons that start with another letter are reasons of other calls. -/
theorem unbindComplete_notMem_close {reason : Octets} (h : Handler)
    (otherLetter : reason.head? ≠ some 85) :
    unbindComplete ∉ (close reason h).2 := by
  have otherReason : text "UNBIND complete" ≠ reason := by
    intro same
    rw [← same] at otherLetter
    exact otherLetter rfl
  simp [close, unbindComplete, otherReason]

/-! ### What a handler does to the queue -/

/-- The queue gets one PDU, and a write starts unless one is in progress. -/
structure Enqueues (pdu : Octets) (h : Handler) (result : Result) : Prop where
  writeQueue : result.1.writeQueue = h.writeQueue ++ [pdu]
  writeInProgress : result.1.writeInProgress = true
  enqueued : enqueuedPdus result.2 = [pdu]
  started : startedWrites result.2 =
    if h.writeInProgress then [] else (h.writeQueue ++ [pdu]).take 1
  staysOpen : unbindComplete ∉ result.2

structure Idles (h : Handler) (result : Result) : Prop where
  writeQueue : result.1.writeQueue = h.writeQueue
  writeInProgress : result.1.writeInProgress = h.writeInProgress
  closeAfterWrite : result.1.closeAfterWrite = h.closeAfterWrite
  enqueued : enqueuedPdus result.2 = []
  started : startedWrites result.2 = []
  staysOpen : unbindComplete ∉ result.2

inductive Serves (h : Handler) (result : Result) : Prop
  | idle (idles : Idles h result) (other : ¬AcceptsUnbind h result.2)
  | answer (pdu : Octets) (enqueues : Enqueues pdu h result)
      (closeAfterWrite : result.1.closeAfterWrite = h.closeAfterWrite)
      (other : ¬AcceptsUnbind h result.2)
  | unbind (pdu : Octets) (enqueues : Enqueues pdu h result)
      (closeAfterWrite : result.1.closeAfterWrite = true)
      (accepts : AcceptsUnbind h result.2)

theorem doWrite_starts (h : Handler) (nonempty : h.writeQueue ≠ []) :
    doWrite h = (h, (h.writeQueue.take 1).map .asyncWrite) := by
  unfold doWrite
  cases isQueue : h.writeQueue with
  | nil => contradiction
  | cons pdu later => rfl

theorem sendPdu_enqueues (pdu : Octets) (h : Handler) :
    Enqueues pdu h (sendPdu pdu h) ∧
      (sendPdu pdu h).1.closeAfterWrite = h.closeAfterWrite := by
  unfold sendPdu enqueuePdu andThen
  dsimp only
  by_cases free : h.writeInProgress = false
  · rw [if_pos free, doWrite_starts _ (by simp)]
    refine ⟨⟨rfl, rfl, ?_, ?_, ?_⟩, rfl⟩
    · cases h.writeQueue <;> rfl
    · rw [free]
      cases h.writeQueue <;> rfl
    · cases h.writeQueue <;> simp [unbindComplete]
  · rw [if_neg free]
    have busy : h.writeInProgress = true := by simpa using free
    refine ⟨⟨rfl, busy, rfl, ?_, ?_⟩, rfl⟩
    · rw [busy]
      rfl
    · simp [unbindComplete]

theorem Enqueues.of_writes {pdu : Octets} {h other : Handler}
    {result : Result} (enqueues : Enqueues pdu other result)
    (sameQueue : other.writeQueue = h.writeQueue)
    (sameFlag : other.writeInProgress = h.writeInProgress) :
    Enqueues pdu h result where
  writeQueue := by rw [enqueues.writeQueue, sameQueue]
  writeInProgress := enqueues.writeInProgress
  enqueued := enqueues.enqueued
  started := by rw [enqueues.started, sameQueue, sameFlag]
  staysOpen := enqueues.staysOpen

/-- A part of a step that leaves the queue alone and dispatches nothing. -/
structure Aside (h : Handler) (result : Result) : Prop extends
    Idles h result where
  silent : dispatchedPdus result.2 = []

theorem enqueuedPdus_append (first second : List Effect) :
    enqueuedPdus (first ++ second) =
      enqueuedPdus first ++ enqueuedPdus second :=
  List.filterMap_append

theorem startedWrites_append (first second : List Effect) :
    startedWrites (first ++ second) =
      startedWrites first ++ startedWrites second :=
  List.filterMap_append

theorem Enqueues.andThen {pdu : Octets} {h : Handler} {first : Result}
    {next : Handler → Result} (enqueues : Enqueues pdu h first)
    (aside : Aside first.1 (next first.1)) :
    Enqueues pdu h (andThen first next) := by
  unfold Foundation.andThen
  refine ⟨?_, ?_, ?_, ?_, ?_⟩
  · exact aside.writeQueue.trans enqueues.writeQueue
  · exact aside.writeInProgress.trans enqueues.writeInProgress
  · rw [enqueuedPdus_append, aside.enqueued, List.append_nil]
    exact enqueues.enqueued
  · rw [startedWrites_append, aside.started, List.append_nil]
    exact enqueues.started
  · rw [List.mem_append, not_or]
    exact ⟨enqueues.staysOpen, aside.staysOpen⟩

theorem Idles.andThen {h : Handler} {first : Result}
    {next : Handler → Result} (idles : Idles h first)
    (aside : Aside first.1 (next first.1)) :
    Idles h (andThen first next) := by
  unfold Foundation.andThen
  refine ⟨?_, ?_, ?_, ?_, ?_, ?_⟩
  · exact aside.writeQueue.trans idles.writeQueue
  · exact aside.writeInProgress.trans idles.writeInProgress
  · exact aside.closeAfterWrite.trans idles.closeAfterWrite
  · rw [enqueuedPdus_append, aside.enqueued, idles.enqueued]
    rfl
  · rw [startedWrites_append, aside.started, idles.started]
    rfl
  · rw [List.mem_append, not_or]
    exact ⟨idles.staysOpen, aside.staysOpen⟩

theorem acceptsUnbind_append (h : Handler) (first : List Effect)
    {second : List Effect} (silent : dispatchedPdus second = []) :
    AcceptsUnbind h (first ++ second) ↔ AcceptsUnbind h first := by
  unfold AcceptsUnbind
  rw [dispatchedPdus_append, silent, List.append_nil]

theorem Serves.andThen {h : Handler} {first : Result}
    {next : Handler → Result} (serves : Serves h first)
    (aside : Aside first.1 (next first.1)) :
    Serves h (andThen first next) := by
  have sameUnbind : AcceptsUnbind h (Foundation.andThen first next).2 ↔
      AcceptsUnbind h first.2 := acceptsUnbind_append h first.2 aside.silent
  cases serves with
  | idle idles other =>
      exact .idle (idles.andThen aside) (fun accepts =>
        other (sameUnbind.mp accepts))
  | answer pdu enqueues closeAfterWrite other =>
      exact .answer pdu (enqueues.andThen aside)
        (aside.closeAfterWrite.trans closeAfterWrite)
        (fun accepts => other (sameUnbind.mp accepts))
  | unbind pdu enqueues closeAfterWrite accepts =>
      exact .unbind pdu (enqueues.andThen aside)
        (aside.closeAfterWrite.trans closeAfterWrite)
        (sameUnbind.mpr accepts)

/-! ### Dispatch -/

def Answers (h : Handler) (result : Result) : Prop :=
  ∃ pdu, Enqueues pdu h result ∧
    result.1.closeAfterWrite = h.closeAfterWrite

theorem sendPdu_answers (pdu : Octets) (h : Handler) :
    Answers h (sendPdu pdu h) :=
  ⟨pdu, sendPdu_enqueues pdu h⟩

theorem handleBind_answers (decoder : BindDecoder) (commandId : UInt32)
    (rawPdu : Octets) (sequenceNumber : UInt32) (h : Handler) :
    Answers h (handleBind decoder commandId rawPdu sequenceNumber h) := by
  unfold handleBind
  obtain ⟨enqueues, closeAfterWrite⟩ := sendPdu_enqueues
    (buildBindResp decoder commandId rawPdu sequenceNumber h.session).1
    { h with session :=
        (buildBindResp decoder commandId rawPdu sequenceNumber h.session).2 }
  exact ⟨_, enqueues.of_writes rfl rfl, closeAfterWrite⟩

theorem handleEnquireLink_answers (sequenceNumber : UInt32) (h : Handler) :
    Answers h (handleEnquireLink sequenceNumber h) := by
  unfold handleEnquireLink
  split
  · exact sendPdu_answers _ h
  · exact sendPdu_answers _ h

theorem handleUnbind_unbound (sequenceNumber : UInt32) (h : Handler)
    (unbound : isBound h.session = false) :
    Answers h (handleUnbind sequenceNumber h) := by
  unfold handleUnbind
  rw [if_pos unbound]
  exact sendPdu_answers _ h

theorem handleUnbind_bound (sequenceNumber : UInt32) (h : Handler)
    (bound : isBound h.session = true) :
    (∃ pdu, Enqueues pdu h (handleUnbind sequenceNumber h)) ∧
      (handleUnbind sequenceNumber h).1.closeAfterWrite = true := by
  unfold handleUnbind
  rw [if_neg (by rw [bound]; decide)]
  obtain ⟨enqueues, closeAfterWrite⟩ := sendPdu_enqueues
    (buildUnbindResp 0x00000000 sequenceNumber)
    { h with closeAfterWrite := true }
  have responds : Enqueues (buildUnbindResp 0x00000000 sequenceNumber) h
      (sendPdu (buildUnbindResp 0x00000000 sequenceNumber)
        { h with closeAfterWrite := true }) :=
    enqueues.of_writes rfl rfl
  refine ⟨⟨_, responds.andThen ?_⟩, closeAfterWrite⟩
  exact ⟨⟨rfl, rfl, rfl, rfl, rfl, nofun⟩, rfl⟩

theorem Enqueues.dispatched {pdu : Octets} {h : Handler} {result : Result}
    (enqueues : Enqueues pdu h result) (fullPdu : Octets) :
    Enqueues pdu h (result.1, .dispatchPdu fullPdu :: result.2) := by
  refine ⟨enqueues.writeQueue, enqueues.writeInProgress, enqueues.enqueued,
    enqueues.started, ?_⟩
  rw [List.mem_cons, not_or]
  exact ⟨nofun, enqueues.staysOpen⟩

inductive Handled (decoder : BindDecoder) (fullPdu : Octets) (h : Handler) :
    Result → Prop
  | short (isShort : fullPdu.length < 16) :
      Handled decoder fullPdu h (h, [])
  | unbind (whole : 16 ≤ fullPdu.length)
      (isUnbind : readU32 (fullPdu.drop 4) = cmdUnbind) :
      Handled decoder fullPdu h
        (handleUnbind (readU32 (fullPdu.drop 12)) h)
  | other (notUnbind : readU32 (fullPdu.drop 4) ≠ cmdUnbind)
      (result : Result) (answers : Answers h result) :
      Handled decoder fullPdu h result

theorem dispatchPdu_handled (decoder : BindDecoder) (fullPdu : Octets)
    (h : Handler) :
    ∃ result, Handled decoder fullPdu h result ∧
      dispatchPdu decoder fullPdu h =
        (result.1, .dispatchPdu fullPdu :: result.2) := by
  unfold dispatchPdu andThen
  refine ⟨_, ?_, rfl⟩
  dsimp only
  split
  · next isShort => exact .short isShort
  · next whole =>
      split
      · next binds =>
          refine .other ?_ _ (handleBind_answers decoder _ fullPdu _ h)
          intro unbinds
          rw [unbinds] at binds
          exact absurd binds (by decide)
      · split
        · next isUnbind => exact .unbind (Nat.not_lt.mp whole) isUnbind
        · next notUnbind =>
            split
            · exact .other notUnbind _ (handleEnquireLink_answers _ h)
            · exact .other notUnbind _ (sendPdu_answers _ h)

theorem dispatchPdu_serves (decoder : BindDecoder) (fullPdu : Octets)
    (h : Handler) : Serves h (dispatchPdu decoder fullPdu h) := by
  have accepts_iff : AcceptsUnbind h (dispatchPdu decoder fullPdu h).2 ↔
      16 ≤ fullPdu.length ∧ readU32 (fullPdu.drop 4) = cmdUnbind ∧
        isBound h.session = true := by
    unfold AcceptsUnbind
    rw [(dispatchPdu_dispatches decoder fullPdu h).2]
    simp only [List.mem_singleton, exists_eq_left]
  obtain ⟨result, handled, isResult⟩ := dispatchPdu_handled decoder fullPdu h
  rw [isResult] at accepts_iff ⊢
  have answered (answers : Answers h result)
      (other : ¬(readU32 (fullPdu.drop 4) = cmdUnbind ∧
        isBound h.session = true)) :
      Serves h (result.1, .dispatchPdu fullPdu :: result.2) := by
    obtain ⟨pdu, enqueues, closeAfterWrite⟩ := answers
    exact .answer pdu (enqueues.dispatched fullPdu) closeAfterWrite
      (fun accepts => other (accepts_iff.mp accepts).2)
  cases handled with
  | short isShort =>
      refine .idle ⟨rfl, rfl, rfl, rfl, rfl, by simp [unbindComplete]⟩ ?_
      intro accepts
      have whole := (accepts_iff.mp accepts).1
      omega
  | unbind whole isUnbind =>
      cases bound : isBound h.session with
      | false =>
          refine answered (handleUnbind_unbound _ h bound) ?_
          rw [bound]
          nofun
      | true =>
          obtain ⟨⟨pdu, enqueues⟩, closeAfterWrite⟩ :=
            handleUnbind_bound (readU32 (fullPdu.drop 12)) h bound
          exact .unbind pdu (enqueues.dispatched fullPdu) closeAfterWrite
            (accepts_iff.mpr ⟨whole, isUnbind, bound⟩)
  | other notUnbind _ answers =>
      exact answered answers (fun both => notUnbind both.1)

theorem Serves.of_framer {h : Handler} {result : Result} (framer : Framer)
    (serves : Serves { h with framer } result) : Serves h result := by
  cases serves with
  | idle idles other =>
      exact .idle ⟨idles.writeQueue, idles.writeInProgress,
        idles.closeAfterWrite, idles.enqueued, idles.started,
        idles.staysOpen⟩ other
  | answer pdu enqueues closeAfterWrite other =>
      exact .answer pdu (enqueues.of_writes rfl rfl) closeAfterWrite other
  | unbind pdu enqueues closeAfterWrite accepts =>
      exact .unbind pdu (enqueues.of_writes rfl rfl) closeAfterWrite accepts

theorem not_acceptsUnbind_of_silent (h : Handler) {effects : List Effect}
    (silent : dispatchedPdus effects = []) : ¬AcceptsUnbind h effects := by
  unfold AcceptsUnbind
  rw [silent]
  nofun

theorem onRead_serves (decoder : BindDecoder) (completion : ReadResult)
    (h : Handler) : Serves h (onRead decoder completion h) := by
  cases completion with
  | error message =>
      refine .idle ⟨rfl, rfl, rfl, rfl, rfl, ?_⟩
        (not_acceptsUnbind_of_silent h rfl)
      apply unbindComplete_notMem_close h
      change (some 114 : Option UInt8) ≠ some 85
      decide
  | ok data =>
      refine Serves.andThen ?_
        ⟨⟨rfl, rfl, rfl, rfl, rfl, by simp [doRead, unbindComplete]⟩, rfl⟩
      apply Serves.of_framer (feedBytes data h.framer).2
      unfold dispatchComplete
      split
      · exact (dispatchPdu_serves decoder _ _).andThen
          ⟨⟨rfl, rfl, rfl, rfl, rfl, nofun⟩, rfl⟩
      · exact .idle ⟨rfl, rfl, rfl, rfl, rfl, nofun⟩
          (not_acceptsUnbind_of_silent _ rfl)

theorem sendPdu_serves (pdu : Octets) (h : Handler) :
    Serves h (sendPdu pdu h) := by
  obtain ⟨enqueues, closeAfterWrite⟩ := sendPdu_enqueues pdu h
  exact .answer pdu enqueues closeAfterWrite
    (not_acceptsUnbind_of_silent h (sendPdu_leaves pdu h).silent)

/-! ### Completions -/

/-- The three ways a write without an error can end.  The front of the queue
is gone in all of them. -/
inductive Completes (h : Handler) (result : Result) : Prop
  | closes (marked : h.closeAfterWrite = true)
      (isResult : result =
        close (text "UNBIND complete")
          { h with writeQueue := h.writeQueue.tail })
  | continues (unmarked : h.closeAfterWrite = false)
      (more : h.writeQueue.tail ≠ [])
      (isResult : result =
        ({ h with writeQueue := h.writeQueue.tail },
          (h.writeQueue.tail.take 1).map .asyncWrite))
  | rests (unmarked : h.closeAfterWrite = false)
      (none : h.writeQueue.tail = [])
      (isResult : result =
        ({ h with writeQueue := [], writeInProgress := false }, []))

theorem onWrite_completes (h : Handler) :
    Completes h (onWrite none h) := by
  unfold onWrite
  dsimp only
  by_cases marked : h.closeAfterWrite = true
  · rw [if_pos marked]
    exact .closes marked rfl
  · have unmarked : h.closeAfterWrite = false := by simpa using marked
    rw [if_neg marked]
    by_cases none : h.writeQueue.tail = []
    · rw [if_neg (not_not.mpr none), none]
      exact .rests unmarked none rfl
    · rw [if_pos none, doWrite_starts _ none]
      exact .continues unmarked none rfl

/-! ### The invariant -/

/-- The queue is what has been enqueued and not written; its front is being
written.  Behind an accepted UNBIND no write has completed. -/
structure Writing (c : Connection) (past : List StrandEntry) : Prop where
  outstanding : c.outstanding = c.handler.writeQueue.take 1
  inProgress : c.handler.writeInProgress = !c.handler.writeQueue.isEmpty
  conserved : written past ++ c.handler.writeQueue = enqueued past
  handedOver : handed past = written past ++ c.handler.writeQueue.take 1
  marked : c.handler.closeAfterWrite = true ↔
    ∃ entry ∈ past, UnbindAccepted entry
  sinceUnbind : ∀ before entry after, past = before ++ entry :: after →
    UnbindAccepted entry →
    ∃ pdu, enqueued (before ++ [entry]) =
      written past ++ entry.before.handler.writeQueue ++ [pdu]

/-- The completion behind an accepted UNBIND has run: nothing is outstanding,
and nothing will be, since the flag stays set. -/
structure Closed (c : Connection) (past : List StrandEntry) : Prop where
  outstanding : c.outstanding = []
  inProgress : c.handler.writeInProgress = true
  marked : c.handler.closeAfterWrite = true
  accepted : ∃ entry ∈ past, UnbindAccepted entry

theorem written_concat (past : List StrandEntry) (entry : StrandEntry) :
    written (past ++ [entry]) =
      written past ++ (completedWrite entry).toList := by
  unfold written
  rw [List.filterMap_append]
  cases isWrite : completedWrite entry with
  | none => simp [isWrite]
  | some pdu => simp [isWrite]

theorem enqueued_concat (past : List StrandEntry) (entry : StrandEntry) :
    enqueued (past ++ [entry]) =
      enqueued past ++ enqueuedPdus entry.outputs := by
  unfold enqueued
  rw [List.flatMap_append, List.flatMap_singleton]

theorem handed_concat (past : List StrandEntry) (entry : StrandEntry) :
    handed (past ++ [entry]) =
      handed past ++ startedWrites entry.outputs := by
  unfold handed
  rw [List.flatMap_append, List.flatMap_singleton]

/-- What serving does to a queue whose flag is right: it grows at its end, and
a write starts exactly for a new front. -/
structure Grows (h : Handler) (result : Result) : Prop where
  writeQueue : result.1.writeQueue = h.writeQueue ++ enqueuedPdus result.2
  inProgress : result.1.writeInProgress = !result.1.writeQueue.isEmpty
  started : h.writeQueue.take 1 ++ startedWrites result.2 =
    result.1.writeQueue.take 1
  marked : result.1.closeAfterWrite = true ↔
    h.closeAfterWrite = true ∨ AcceptsUnbind h result.2
  answered : AcceptsUnbind h result.2 →
    ∃ pdu, enqueuedPdus result.2 = [pdu]

theorem Enqueues.grows {pdu : Octets} {h : Handler} {result : Result}
    (enqueues : Enqueues pdu h result)
    (inProgress : h.writeInProgress = !h.writeQueue.isEmpty)
    (marked : result.1.closeAfterWrite = true ↔
      h.closeAfterWrite = true ∨ AcceptsUnbind h result.2) :
    Grows h result := by
  refine ⟨?_, ?_, ?_, marked, fun _ => ⟨pdu, enqueues.enqueued⟩⟩
  · rw [enqueues.enqueued]
    exact enqueues.writeQueue
  · rw [enqueues.writeInProgress, enqueues.writeQueue]
    simp
  · rw [enqueues.started, enqueues.writeQueue, inProgress]
    cases h.writeQueue <;> rfl

theorem Serves.grows {h : Handler} {result : Result}
    (serves : Serves h result)
    (inProgress : h.writeInProgress = !h.writeQueue.isEmpty) :
    Grows h result := by
  cases serves with
  | idle idles other =>
      refine ⟨?_, ?_, ?_, ?_, fun accepts => absurd accepts other⟩
      · rw [idles.enqueued, List.append_nil]
        exact idles.writeQueue
      · rw [idles.writeInProgress, idles.writeQueue]
        exact inProgress
      · rw [idles.started, List.append_nil, idles.writeQueue]
      · rw [idles.closeAfterWrite]
        exact (or_iff_left other).symm
  | answer pdu enqueues closeAfterWrite other =>
      refine enqueues.grows inProgress ?_
      rw [closeAfterWrite]
      exact (or_iff_left other).symm
  | unbind pdu enqueues closeAfterWrite accepts =>
      refine enqueues.grows inProgress ?_
      exact iff_of_true closeAfterWrite (.inr accepts)

section Serving

variable {c : Connection} {past : List StrandEntry} {result : Result}
  {event : StrandEvent}

def servingEntry (c : Connection) (event : StrandEvent) (result : Result) :
    StrandEntry :=
  { before := c
    event := event
    outputs := result.2
    after := (perform c.outstanding result).1 }

theorem exists_accepted_concat (past : List StrandEntry)
    (entry : StrandEntry) :
    (∃ earlier ∈ past ++ [entry], UnbindAccepted earlier) ↔
      (∃ earlier ∈ past, UnbindAccepted earlier) ∨ UnbindAccepted entry := by
  simp only [List.mem_append, List.mem_singleton, or_and_right, exists_or,
    exists_eq_left]

theorem Writing.serve (writing : Writing c past)
    (serves : Serves c.handler result)
    (noWrite : completedWrite (servingEntry c event result) = none) :
    Writing (perform c.outstanding result).1
      (past ++ [servingEntry c event result]) := by
  have grows := serves.grows writing.inProgress
  have sameWritten :
      written (past ++ [servingEntry c event result]) = written past := by
    rw [written_concat, noWrite]
    exact List.append_nil _
  have nowEnqueued : enqueued (past ++ [servingEntry c event result]) =
      written past ++ c.handler.writeQueue ++ enqueuedPdus result.2 := by
    rw [enqueued_concat, ← writing.conserved]
    rfl
  refine
    { outstanding := ?_
      inProgress := grows.inProgress
      conserved := ?_
      handedOver := ?_
      marked := ?_
      sinceUnbind := ?_ }
  · change c.outstanding ++ startedWrites result.2 = _
    rw [writing.outstanding]
    exact grows.started
  · rw [sameWritten, nowEnqueued, List.append_assoc]
    exact congrArg (_ ++ ·) grows.writeQueue
  · rw [handed_concat, sameWritten, writing.handedOver, List.append_assoc]
    exact congrArg (_ ++ ·) grows.started
  · rw [exists_accepted_concat, ← writing.marked]
    exact grows.marked
  · intro before entry after split unbind
    rw [sameWritten]
    rcases concat_split split with ⟨samePast, sameEntry⟩ | ⟨rest, isPast, _⟩
    · rw [← sameEntry] at unbind
      obtain ⟨pdu, isAnswer⟩ := grows.answered unbind
      rw [← samePast, ← sameEntry, nowEnqueued, isAnswer]
      exact ⟨pdu, rfl⟩
    · exact writing.sinceUnbind before entry rest isPast unbind

theorem Closed.serve (closed : Closed c past)
    (serves : Serves c.handler result) :
    Closed (perform c.outstanding result).1
      (past ++ [servingEntry c event result]) := by
  have extended : ∃ entry ∈ past ++ [servingEntry c event result],
      UnbindAccepted entry := by
    obtain ⟨entry, member, unbind⟩ := closed.accepted
    exact ⟨entry, List.mem_append_left _ member, unbind⟩
  have startsNothing {pdu : Octets}
      (enqueues : Enqueues pdu c.handler result) :
      c.outstanding ++ startedWrites result.2 = [] := by
    rw [enqueues.started, closed.inProgress, closed.outstanding]
    rfl
  cases serves with
  | idle idles other =>
      refine ⟨?_, ?_, ?_, extended⟩
      · change c.outstanding ++ startedWrites result.2 = []
        rw [closed.outstanding, idles.started]
        rfl
      · exact idles.writeInProgress.trans closed.inProgress
      · exact idles.closeAfterWrite.trans closed.marked
  | answer pdu enqueues closeAfterWrite other =>
      exact ⟨startsNothing enqueues, enqueues.writeInProgress,
        closeAfterWrite.trans closed.marked, extended⟩
  | unbind pdu enqueues closeAfterWrite accepts =>
      exact ⟨startsNothing enqueues, enqueues.writeInProgress,
        closeAfterWrite, extended⟩

end Serving

/-- A completion that does not close: the queue loses its front, and the next
write is that of the new front. -/
structure Advances (h : Handler) (result : Result) : Prop where
  writeQueue : result.1.writeQueue = h.writeQueue.tail
  inProgress : result.1.writeInProgress = !h.writeQueue.tail.isEmpty
  closeAfterWrite : result.1.closeAfterWrite = h.closeAfterWrite
  enqueued : enqueuedPdus result.2 = []
  started : startedWrites result.2 = h.writeQueue.tail.take 1

theorem onWrite_advances (h : Handler) (busy : h.writeInProgress = true)
    (unmarked : h.closeAfterWrite = false) :
    Advances h (onWrite none h) := by
  cases onWrite_completes h with
  | closes marked isResult =>
      rw [unmarked] at marked
      contradiction
  | continues _ more isResult =>
      rw [isResult]
      cases isTail : h.writeQueue.tail with
      | nil => contradiction
      | cons front rest =>
          refine ⟨isTail.symm, ?_, rfl, rfl, ?_⟩
          · rw [isTail]
            exact busy
          · rw [isTail]
            rfl
  | rests _ none isResult =>
      rw [isResult]
      refine ⟨none.symm, ?_, rfl, rfl, ?_⟩
      · rw [none]
        rfl
      · rw [none]
        rfl

theorem onWrite_closes (h : Handler) (marked : h.closeAfterWrite = true) :
    onWrite none h =
      close (text "UNBIND complete")
        { h with writeQueue := h.writeQueue.tail } := by
  cases onWrite_completes h with
  | closes _ isResult => exact isResult
  | continues unmarked _ _ =>
      rw [unmarked] at marked
      contradiction
  | rests unmarked _ _ =>
      rw [unmarked] at marked
      contradiction

section Completing

variable {c : Connection} {past : List StrandEntry} {index : Nat}
  {pdu : Octets}

theorem Writing.completing (writing : Writing c past)
    (found : c.outstanding[index]? = some pdu) :
    c.handler.writeQueue = pdu :: c.handler.writeQueue.tail ∧
      c.outstanding.eraseIdx index = [] := by
  rw [writing.outstanding] at found ⊢
  cases isQueue : c.handler.writeQueue with
  | nil =>
      rw [isQueue] at found
      cases found
  | cons front rest =>
      rw [isQueue] at found
      cases index with
      | zero =>
          cases found
          exact ⟨rfl, rfl⟩
      | succ index => cases found

def completingEntry (c : Connection) (index : Nat) : StrandEntry :=
  let performed :=
    perform (c.outstanding.eraseIdx index) (onWrite none c.handler)
  { before := c
    event := .writeCompletes index none
    outputs := performed.2
    after := performed.1 }

theorem Writing.written_completing (writing : Writing c past)
    (found : c.outstanding[index]? = some pdu) :
    written (past ++ [completingEntry c index]) ++
        c.handler.writeQueue.tail =
      enqueued past := by
  have isWrite : completedWrite (completingEntry c index) = some pdu := found
  obtain ⟨isQueue, _⟩ := writing.completing found
  rw [written_concat, isWrite, ← writing.conserved, List.append_assoc]
  exact congrArg (_ ++ ·) isQueue.symm

theorem Writing.complete (writing : Writing c past)
    (found : c.outstanding[index]? = some pdu)
    (unmarked : c.handler.closeAfterWrite = false) :
    Writing (completingEntry c index).after
      (past ++ [completingEntry c index]) := by
  obtain ⟨isQueue, nothingLeft⟩ := writing.completing found
  have conserved := writing.written_completing found
  have busy : c.handler.writeInProgress = true := by
    rw [writing.inProgress, isQueue]
    rfl
  have advances := onWrite_advances c.handler busy unmarked
  have nobody : ¬∃ entry ∈ past ++ [completingEntry c index],
      UnbindAccepted entry := by
    rw [exists_accepted_concat, ← writing.marked, unmarked]
    have silent := not_acceptsUnbind_of_silent c.handler
      (onWrite_leaves none c.handler).silent
    rintro (marked | accepts)
    · contradiction
    · exact silent accepts
  refine
    { outstanding := ?_
      inProgress := ?_
      conserved := ?_
      handedOver := ?_
      marked := ?_
      sinceUnbind := ?_ }
  · change c.outstanding.eraseIdx index ++
      startedWrites (onWrite none c.handler).2 =
        (onWrite none c.handler).1.writeQueue.take 1
    rw [nothingLeft, advances.started, advances.writeQueue]
    rfl
  · change (onWrite none c.handler).1.writeInProgress =
      !(onWrite none c.handler).1.writeQueue.isEmpty
    rw [advances.inProgress, advances.writeQueue]
  · change _ ++ (onWrite none c.handler).1.writeQueue = _
    rw [advances.writeQueue, conserved, enqueued_concat]
    change _ = _ ++ enqueuedPdus (onWrite none c.handler).2
    rw [advances.enqueued, List.append_nil]
  · -- The buffer that was being written is the last one handed over so far.
    have isWrite : completedWrite (completingEntry c index) = some pdu :=
      found
    change _ = _ ++ (onWrite none c.handler).1.writeQueue.take 1
    rw [handed_concat, written_concat, isWrite, writing.handedOver, isQueue,
      advances.writeQueue]
    change _ ++ startedWrites (onWrite none c.handler).2 = _
    rw [advances.started]
    rfl
  · change (onWrite none c.handler).1.closeAfterWrite = true ↔ _
    rw [advances.closeAfterWrite, unmarked]
    exact iff_of_false (by decide) nobody
  · intro before entry after split unbind
    refine absurd ⟨entry, ?_, unbind⟩ nobody
    rw [split]
    simp

theorem Writing.close (writing : Writing c past)
    (found : c.outstanding[index]? = some pdu)
    (marked : c.handler.closeAfterWrite = true) :
    Closed (completingEntry c index).after
      (past ++ [completingEntry c index]) := by
  obtain ⟨isQueue, nothingLeft⟩ := writing.completing found
  have isResult := onWrite_closes c.handler marked
  refine ⟨?_, ?_, ?_, ?_⟩
  · change c.outstanding.eraseIdx index ++
      startedWrites (onWrite none c.handler).2 = []
    rw [nothingLeft, isResult]
    rfl
  · change (onWrite none c.handler).1.writeInProgress = true
    rw [isResult]
    change c.handler.writeInProgress = true
    rw [writing.inProgress, isQueue]
    rfl
  · change (onWrite none c.handler).1.closeAfterWrite = true
    rw [isResult]
    exact marked
  · rw [exists_accepted_concat]
    exact .inl (writing.marked.mp marked)

end Completing

/-! ### Runs -/

def NoWriteError (events : List StrandEvent) : Prop :=
  ∀ index message, StrandEvent.writeCompletes index (some message) ∉ events

theorem writing_start (sessionId : Octets) :
    Writing (connected sessionId) [] := by
  refine ⟨rfl, rfl, rfl, rfl, ?_, ?_⟩
  · refine iff_of_false Bool.false_ne_true ?_
    rintro ⟨entry, member, _⟩
    cases member
  · intro before entry after split
    have nonempty : before ++ entry :: after ≠ [] := by simp
    exact absurd split.symm nonempty

theorem strand_step (decoder : BindDecoder) {c : Connection}
    {past : List StrandEntry} (before : Writing c past ∨ Closed c past)
    (event : StrandEvent)
    (noError : ∀ index message, event ≠ .writeCompletes index (some message)) :
    let entry := (strand decoder).entry c event
    Writing entry.after (past ++ [entry]) ∨
      Closed entry.after (past ++ [entry]) := by
  cases event with
  | onRead completion =>
      have serves := onRead_serves decoder completion c.handler
      exact before.imp (·.serve serves rfl) (·.serve serves)
  | sendPdu pdu =>
      have serves := sendPdu_serves pdu c.handler
      exact before.imp (·.serve serves rfl) (·.serve serves)
  | writeCompletes index error =>
      cases error with
      | some message => exact absurd rfl (noError index message)
      | none =>
          cases found : c.outstanding[index]? with
          | none =>
              have isEntry :
                  (strand decoder).entry c (.writeCompletes index none) =
                    servingEntry c (.writeCompletes index none)
                      (c.handler, []) := by
                unfold Machine.entry strand strandStep servingEntry perform
                dsimp only
                rw [found]
                simp [startedWrites]
              have serves : Serves c.handler (c.handler, []) :=
                .idle ⟨rfl, rfl, rfl, rfl, rfl, nofun⟩
                  (not_acceptsUnbind_of_silent _ rfl)
              dsimp only
              rw [isEntry]
              exact before.imp (·.serve serves found) (·.serve serves)
          | some pdu =>
              have isEntry :
                  (strand decoder).entry c (.writeCompletes index none) =
                    completingEntry c index := by
                unfold Machine.entry strand strandStep completingEntry
                dsimp only
                rw [found]
              dsimp only
              rw [isEntry]
              rcases before with writing | closed
              · cases marked : c.handler.closeAfterWrite with
                | false => exact .inl (writing.complete found marked)
                | true => exact .inr (writing.close found marked)
              · rw [closed.outstanding] at found
                cases found

theorem strand_writing (decoder : BindDecoder) (sessionId : Octets)
    (events : List StrandEvent) (noError : NoWriteError events) :
    let c := (strand decoder).final (connected sessionId) events
    let past := (strand decoder).history (connected sessionId) events
    Writing c past ∨ Closed c past := by
  refine (strand decoder).allowed_history_rule
    (fun entry => ∀ index message,
      entry.event ≠ .writeCompletes index (some message))
    (fun c past => Writing c past ∨ Closed c past) (connected sessionId)
    (.inl (writing_start sessionId))
    (fun c past event before => strand_step decoder before event) events ?_
  intro entry member index message same
  have isEvent := Machine.event_mem_of_history _ member
  rw [same] at isEvent
  exact noError index message isEvent

/-! ### First in, first out -/

/-- One write at a time, and the PDUs in the order of `enqueue_pdu`. -/
structure WritesInOrder (c : Connection) (past : List StrandEntry) :
    Prop where
  single : c.outstanding.length ≤ 1
  outstanding_iff : c.outstanding ≠ [] ↔ c.handler.writeInProgress = true
  inProgress_iff : c.handler.writeInProgress = true ↔
    c.handler.writeQueue ≠ []
  front : c.outstanding.head? = c.handler.writeQueue.head?
  order : handed past ++ c.handler.writeQueue.tail = enqueued past

theorem Writing.inOrder {c : Connection} {past : List StrandEntry}
    (writing : Writing c past) : WritesInOrder c past := by
  have inProgress := writing.inProgress
  have order := writing.conserved
  refine ⟨?_, ?_, ?_, ?_, ?_⟩
  · rw [writing.outstanding, List.length_take]
    omega
  · rw [writing.outstanding, inProgress]
    cases c.handler.writeQueue <;> simp
  · rw [inProgress]
    cases c.handler.writeQueue <;> simp
  · rw [writing.outstanding]
    cases c.handler.writeQueue <;> rfl
  · rw [writing.handedOver, ← order, List.append_assoc]
    cases c.handler.writeQueue <;> rfl

/-- `enqueue_pdu` with another function in the place of `do_write`. -/
def enqueuePduVia (write : Handler → Result) (pdu : Octets) (h : Handler) :
    Result :=
  let h := { h with writeQueue := h.writeQueue ++ [pdu] }
  andThen (h, [.enqueuePdu pdu]) fun h =>
    if h.writeInProgress = false then
      write { h with writeInProgress := true }
    else (h, [])

def onWriteVia (write : Handler → Result) (error : Option Octets)
    (h : Handler) : Result :=
  match error with
  | some message => close (text "write error: " ++ message) h
  | none =>
      let h := { h with writeQueue := h.writeQueue.tail }
      if h.closeAfterWrite then close (text "UNBIND complete") h
      else if h.writeQueue ≠ [] then write h
      else ({ h with writeInProgress := false }, [])

/-- What `do_write` does with an empty queue is never asked for: any function
that agrees with it on the other queues can take its place in its two
callers. -/
def EmptyBranchUnused : Prop :=
  ∀ write : Handler → Result,
    (∀ h, h.writeQueue ≠ [] → write h = doWrite h) →
      (∀ pdu h, enqueuePduVia write pdu h = enqueuePdu pdu h) ∧
        ∀ error h, onWriteVia write error h = onWrite error h

theorem emptyBranch_unused : EmptyBranchUnused := by
  intro write agrees
  refine ⟨?_, ?_⟩
  · intro pdu h
    unfold enqueuePduVia enqueuePdu andThen
    dsimp only
    rw [agrees _ (by simp)]
  · intro error h
    cases error with
    | some message => rfl
    | none =>
        unfold onWriteVia onWrite
        dsimp only
        by_cases more : h.writeQueue.tail = []
        · rw [if_neg (not_not.mpr more), if_neg (not_not.mpr more)]
        · rw [agrees _ more]

/-- As long as no write fails and no UNBIND is accepted, the queue is first in
first out with one write in flight. -/
theorem strand_writes_in_order (decoder : BindDecoder) (sessionId : Octets)
    (events : List StrandEvent) (noError : NoWriteError events)
    (noUnbind : ∀ entry ∈
        (strand decoder).history (connected sessionId) events,
      ¬UnbindAccepted entry) :
    WritesInOrder
        ((strand decoder).final (connected sessionId) events)
        ((strand decoder).history (connected sessionId) events) ∧
      EmptyBranchUnused := by
  refine ⟨?_, emptyBranch_unused⟩
  rcases strand_writing decoder sessionId events noError with
    writing | closed
  · exact writing.inOrder
  · obtain ⟨entry, member, unbind⟩ := closed.accepted
    exact absurd unbind (noUnbind entry member)

theorem strand_writes_two_queued :
    WritesInOrder
        ((strand fun _ _ => none).final (connected (text "a"))
          [.sendPdu [1], .sendPdu [2], .writeCompletes 0 none, .sendPdu [3]])
        ((strand fun _ _ => none).history (connected (text "a"))
          [.sendPdu [1], .sendPdu [2], .writeCompletes 0 none,
            .sendPdu [3]]) :=
  (strand_writes_in_order (fun _ _ => none) (text "a")
    [.sendPdu [1], .sendPdu [2], .writeCompletes 0 none, .sendPdu [3]]
    (by intro index message; simp) (by decide)).1

end OpenSmsc.SmppClientHandler
