/-
A session ends once.

From the three changes a step can make follows the whole life of a session: it
opens, is bound at most once, ends at most once and stays ended.  The server
is told of the end exactly once, however many handlers try to disconnect.
-/

import Mathlib.Data.List.Destutter
import OpenSmsc.Client.Authorisation

namespace OpenSmsc.SmppSession

open Foundation Smpp

variable {Number : Type} [TokenArith Number]

/-! ### The events that end a session -/

/-- An unbind ends the session, and so does a bind of an open session that the
authenticator does not accept. -/
def pduEnds (env : Env) (hdr : Header) (body : Octets)
    (s : Session Number) : Bool :=
  decide (hdr.commandId = Smpp.unbind) ||
    (decide (IsBind hdr.commandId) && decide (s.state = .opened) &&
      !((bindAnswer env body s).getD (false, esmeRinvsysid)).1)

/-- Besides these PDUs: a failed read, an impossible length, an enquiry that
is still pending at its timeout, and `Disconnect`. -/
def eventEnds (s : Session Number) : Event → Bool
  | .onHeader _ (.error _) => true
  | .onHeader env (.ok headerBuf) =>
      let hdr := decodeHeader headerBuf
      decide (hdr.commandLength < 16) ||
        (decide (hdr.commandLength = 16) && pduEnds env hdr [] s)
  | .onBody _ _ (.error _) => true
  | .onBody env hdr (.ok body) => pduEnds env hdr body s
  | .onEnquireLinkTimeout failed => !failed && s.elPending
  | .disconnect _ => true
  | .onEnquireLinkTimer _ => false
  | .deliverSm _ _ _ => false
  | .getSessionInfo => false

omit [TokenArith Number] in
theorem handleBind_ends_iff (env : Env) (hdr : Header) (body : Octets)
    (s : Session Number) (live : s.state ≠ .unbound)
    (isBind : IsBind hdr.commandId) :
    (handleBind env hdr body s).1.state = .unbound ↔
      s.state = .opened ∧
        ((bindAnswer env body s).getD (false, esmeRinvsysid)).1 = false := by
  cases handleBind_answered env hdr body s with
  | alreadyBound notOpen isResult =>
      rw [isResult]
      exact iff_of_false live (fun both => notOpen both.1)
  | refused code wasOpen answered isResult =>
      rw [isResult, answered]
      exact iff_of_true rfl ⟨wasOpen, rfl⟩
  | accepted code wasOpen answered isResult =>
      rw [isResult, answered]
      refine iff_of_false (boundState_live hdr.commandId isBind .opened) ?_
      simp

theorem dispatch_ends_iff (env : Env) (hdr : Header) (body : Octets)
    (s : Session Number) (live : s.state ≠ .unbound) :
    (dispatch env hdr body s).1.state = .unbound ↔
      pduEnds env hdr body s = true := by
  -- no other command ends the session or passes for one that does
  have stays : ¬IsBind hdr.commandId → hdr.commandId ≠ Smpp.unbind →
      (dispatch env hdr body s).1.state = s.state →
        ((dispatch env hdr body s).1.state = .unbound ↔
          pduEnds env hdr body s = true) := by
    intro notBind notUnbind same
    rw [same]
    exact iff_of_false live (by simp [pduEnds, notBind, notUnbind])
  cases dispatch_dispatchedTo env hdr body s with
  | bind isBind isResult =>
      have notUnbind : hdr.commandId ≠ Smpp.unbind := by
        rintro isUnbind
        rw [isUnbind] at isBind
        exact absurd isBind (by decide)
      rw [isResult, handleBind_ends_iff env hdr body s live isBind]
      simp [pduEnds, isBind, notUnbind]
  | unbind isUnbind isResult =>
      rw [isResult]
      exact iff_of_true (doDisconnect_state _ s) (by simp [pduEnds, isUnbind])
  | enquireLink isEnquiry isResult =>
      refine stays ?_ ?_ (by rw [isResult]; rfl)
      · rw [isEnquiry]
        decide
      · rw [isEnquiry]
        decide
  | submitSm isSubmit isResult =>
      refine stays ?_ ?_ ?_
      · rw [isSubmit]
        decide
      · rw [isSubmit]
        decide
      · rw [isResult]
        cases handleSubmitSm_submitted env hdr body s with
        | accepted tokens lastRefill mayTransmit isAnswer =>
            rw [isAnswer]
            rfl
        | refused tokens lastRefill status isError isAnswer =>
            rw [isAnswer]
            rfl
  | enquireLinkResp isResponse isResult =>
      refine stays ?_ ?_ ?_
      · rw [isResponse]
        decide
      · rw [isResponse]
        decide
      · rw [isResult]
        unfold handleEnquireLinkResp
        split <;> rfl
  | deliverSmResp isResponse isResult =>
      refine stays ?_ ?_ (by rw [isResult])
      · rw [isResponse]
        decide
      · rw [isResponse]
        decide
  | unknown notBind notUnbind _ _ _ _ isResult =>
      exact stays notBind notUnbind (by rw [isResult])

theorem onHeader_ends_iff (env : Env) (headerBuf : Octets)
    (s : Session Number) (live : s.state ≠ .unbound) :
    (onHeader env (.ok headerBuf) s).1.state = .unbound ↔
      eventEnds s (.onHeader env (.ok headerBuf)) = true := by
  unfold onHeader readBody eventEnds
  dsimp only
  by_cases small : (decodeHeader headerBuf).commandLength < 16
  · rw [if_pos small]
    exact iff_of_true (doDisconnect_state _ s) (by simp [small])
  · rw [if_neg small]
    by_cases headerOnly : (decodeHeader headerBuf).commandLength = 16
    · rw [if_pos (by rw [headerOnly]; rfl)]
      have ends := dispatch_ends_iff env (decodeHeader headerBuf) [] s live
      simpa [dispatchAndRead, headerOnly] using ends
    · have bodyFollows :
          ¬(decodeHeader headerBuf).commandLength - 16 = 0 := by
        intro zero
        have added := congrArg (· + 16) zero
        exact headerOnly (by simpa using added)
      rw [if_neg bodyFollows]
      exact iff_of_false live (by simp [small, headerOnly])

theorem step_ends_iff (s : Session Number) (event : Event)
    (live : s.state ≠ .unbound) :
    (step s event).1.state = .unbound ↔ eventEnds s event = true := by
  cases event with
  | onHeader env completion =>
      cases completion with
      | error message => exact iff_of_true (doDisconnect_state _ s) rfl
      | ok headerBuf => exact onHeader_ends_iff env headerBuf s live
  | onBody env hdr completion =>
      cases completion with
      | error message => exact iff_of_true (doDisconnect_state _ s) rfl
      | ok body => exact dispatch_ends_iff env hdr body s live
  | onEnquireLinkTimer failed =>
      refine iff_of_false ?_ Bool.false_ne_true
      simp only [step, onEnquireLinkTimer]
      split
      · exact live
      · split <;> exact live
  | onEnquireLinkTimeout failed =>
      simp only [step, onEnquireLinkTimeout, eventEnds]
      cases failed with
      | true => exact iff_of_false live Bool.false_ne_true
      | false =>
          cases pending : s.elPending with
          | false => exact iff_of_false live Bool.false_ne_true
          | true => exact iff_of_true (doDisconnect_state _ s) rfl
  | disconnect reason => exact iff_of_true (doDisconnect_state _ s) rfl
  | deliverSm srcAddr dstAddr shortMessage =>
      refine iff_of_false ?_ Bool.false_ne_true
      simp only [step, deliverSm]
      split <;> exact live
  | getSessionInfo => exact iff_of_false live Bool.false_ne_true

/-! ### States along a run -/

theorem step_state_of_unbound (s : Session Number) (event : Event)
    (ended : s.state = .unbound) : (step s event).1.state = .unbound := by
  cases step_change s event with
  | kept state systemId bindTime silent => exact state.trans ended
  | bound env hdr body pass code pdu isBind wasOpen state accepted notice =>
      rw [wasOpen] at ended
      contradiction
  | ended reason wasLive state systemId bindTime notice => exact state

theorem step_state_of_bound (s : Session Number) (event : Event)
    (kind : BindKind) (bound : s.state = kind.state) :
    (step s event).1.state = kind.state ∨
      (step s event).1.state = .unbound := by
  cases step_change s event with
  | kept state systemId bindTime silent => exact Or.inl (state.trans bound)
  | bound env hdr body pass code pdu isBind wasOpen state accepted notice =>
      exact absurd (bound.symm.trans wasOpen) kind.state_ne_opened
  | ended reason wasLive state systemId bindTime notice =>
      exact Or.inr state

theorem step_state_of_opened (s : Session Number) (event : Event)
    (opened : s.state = .opened) :
    (step s event).1.state = .opened ∨
      (∃ kind : BindKind, (step s event).1.state = kind.state) ∨
      (step s event).1.state = .unbound := by
  cases step_change s event with
  | kept state systemId bindTime silent => exact Or.inl (state.trans opened)
  | bound env hdr body pass code pdu isBind wasOpen state accepted notice =>
      obtain ⟨kind, isKind⟩ := exists_kind_of_isBind hdr.commandId isBind
      refine Or.inr (Or.inl ⟨kind, ?_⟩)
      rw [state, isKind, kind.boundState_eq]
  | ended reason wasLive state systemId bindTime notice =>
      exact Or.inr (Or.inr state)

/-- The states of a run in order, each stay in one state counted once. -/
def stateSequence (start : Session Number)
    (past : List (SessionEntry Number)) : List SessionState :=
  (start.state :: past.map (·.after.state)).destutter (· ≠ ·)

theorem stateSequence_stays (s : Session Number) (event : Event)
    (events : List Event) (same : (step s event).1.state = s.state) :
    stateSequence s (machine.history s (event :: events)) =
      stateSequence (step s event).1
        (machine.history (step s event).1 events) := by
  change List.destutter' _ s.state
      ((step s event).1.state :: List.map _ (machine.history _ events)) = _
  rw [List.destutter'_cons, if_neg (not_not.mpr same.symm), ← same]
  rfl

theorem stateSequence_changes (s : Session Number) (event : Event)
    (events : List Event) (differs : (step s event).1.state ≠ s.state) :
    stateSequence s (machine.history s (event :: events)) =
      s.state :: stateSequence (step s event).1
        (machine.history (step s event).1 events) := by
  change List.destutter' _ s.state
      ((step s event).1.state :: List.map _ (machine.history _ events)) = _
  rw [List.destutter'_cons, if_pos differs.symm]
  rfl

theorem stateSequence_of_unbound (s : Session Number) (events : List Event)
    (ended : s.state = .unbound) :
    stateSequence s (machine.history s events) = [.unbound] := by
  induction events generalizing s with
  | nil => exact congrArg (fun state => [state]) ended
  | cons event rest ih =>
      have stays := step_state_of_unbound s event ended
      rw [stateSequence_stays s event rest (stays.trans ended.symm)]
      exact ih _ stays

theorem stateSequence_of_bound (s : Session Number) (events : List Event)
    (kind : BindKind) (bound : s.state = kind.state) :
    (stateSequence s (machine.history s events)).Sublist
      [kind.state, .unbound] := by
  induction events generalizing s with
  | nil =>
      change [s.state].Sublist _
      rw [bound]
      exact List.sublist_append_left [kind.state] [.unbound]
  | cons event rest ih =>
      rcases step_state_of_bound s event kind bound with stays | ends
      · rw [stateSequence_stays s event rest (stays.trans bound.symm)]
        exact ih _ stays
      · have differs : (step s event).1.state ≠ s.state := by
          rw [ends, bound]
          exact kind.state_ne_unbound.symm
        rw [stateSequence_changes s event rest differs, bound,
          stateSequence_of_unbound _ rest ends]

theorem stateSequence_of_opened (s : Session Number) (events : List Event)
    (opened : s.state = .opened) :
    ∃ kind : BindKind,
      (stateSequence s (machine.history s events)).Sublist
        [.opened, kind.state, .unbound] := by
  induction events generalizing s with
  | nil =>
      refine ⟨.transmitter, ?_⟩
      change [s.state].Sublist _
      rw [opened]
      exact List.sublist_append_left [SessionState.opened] _
  | cons event rest ih =>
      rcases step_state_of_opened s event opened with
        stays | ⟨kind, binds⟩ | ends
      · rw [stateSequence_stays s event rest (stays.trans opened.symm)]
        exact ih _ stays
      · have differs : (step s event).1.state ≠ s.state := by
          rw [binds, opened]
          exact kind.state_ne_opened
        refine ⟨kind, ?_⟩
        rw [stateSequence_changes s event rest differs, opened]
        exact (stateSequence_of_bound _ rest kind binds).cons_cons _
      · have differs : (step s event).1.state ≠ s.state := by
          rw [ends, opened]
          decide
        refine ⟨.transmitter, ?_⟩
        rw [stateSequence_changes s event rest differs, opened,
          stateSequence_of_unbound _ rest ends]
        exact (List.sublist_cons_self _ [SessionState.unbound]).cons_cons _

/-! ### The exit signal -/

def isExit : Effect → Bool
  | .emitSessionExited _ _ => true
  | _ => false

def exitsEmitted (past : List (SessionEntry Number)) : Nat :=
  (past.flatMap (·.outputs)).countP isExit

theorem countP_isExit_notices (outputs : List Effect) :
    (notices outputs).countP isExit = outputs.countP isExit := by
  unfold notices
  rw [List.countP_filter]
  refine List.countP_congr ?_
  intro effect _
  cases effect <;> simp [isExit, isNotice]

theorem step_exits (s : Session Number) (event : Event) :
    (step s event).2.countP isExit + (if s.state = .unbound then 1 else 0) =
      if (step s event).1.state = .unbound then 1 else 0 := by
  rw [← countP_isExit_notices]
  cases step_change s event with
  | kept state systemId bindTime silent =>
      rw [silent, state]
      exact Nat.zero_add _
  | bound env hdr body pass code pdu isBind wasOpen state accepted notice =>
      obtain ⟨kind, isKind⟩ := exists_kind_of_isBind hdr.commandId isBind
      rw [notice, wasOpen, state, isKind, kind.boundState_eq,
        if_neg kind.state_ne_unbound]
      rfl
  | ended reason wasLive state systemId bindTime notice =>
      rw [notice, state, if_neg wasLive]
      rfl

theorem exitsEmitted_of_run (config : Config) (events : List Event) :
    exitsEmitted
        (machine.history (create config : Session Number) events) =
      if (machine.final (create config : Session Number) events).state =
        .unbound then 1 else 0 := by
  refine machine.history_rule
    (fun s past =>
      exitsEmitted past = if s.state = .unbound then 1 else 0)
    (create config) rfl ?_ events
  intro s past event counted
  rw [exitsEmitted] at counted ⊢
  rw [List.flatMap_append, List.countP_append, counted, List.flatMap_cons,
    List.flatMap_nil, List.append_nil, Nat.add_comm]
  exact step_exits s event

/-! ### The life of a session -/

/-- For every run of the handlers in any order: the states are part of opened,
one kind of bound and unbound, in this order; an ended session stays ended,
accepts no submit and delivers nothing; and `SessionExited` has been emitted
once if the session has ended and not at all otherwise. -/
theorem session_ends_once (config : Config) (events : List Event) :
    let s : Session Number := machine.final (create config) events
    let past := machine.history (create config : Session Number) events
    (∃ kind : BindKind,
        (stateSequence (create config) past).Sublist
          [.opened, kind.state, .unbound]) ∧
      (∀ entry ∈ past, entry.before.state = .unbound →
        entry.after.state = .unbound ∧ ¬AcceptsSubmit entry ∧
          ¬SendsDelivery entry) ∧
      exitsEmitted past = if s.state = .unbound then 1 else 0 := by
  intro s past
  refine ⟨stateSequence_of_opened (create config) events rfl, ?_,
    exitsEmitted_of_run config events⟩
  refine machine.each_step_rule
    (fun entry => entry.before.state = .unbound →
      entry.after.state = .unbound ∧ ¬AcceptsSubmit entry ∧
        ¬SendsDelivery entry) ?_ (create config) events
  intro state event ended
  refine ⟨step_state_of_unbound state event ended, ?_, ?_⟩
  · intro accepts
    rcases mayTransmit_of_acceptsSubmit state event accepts with tx | trx
    · exact absurd (tx.symm.trans ended) (by decide)
    · exact absurd (trx.symm.trans ended) (by decide)
  · intro sends
    rcases mayReceive_of_sendsDelivery state event sends with rx | trx
    · exact absurd (rx.symm.trans ended) (by decide)
    · exact absurd (trx.symm.trans ended) (by decide)

end OpenSmsc.SmppSession
