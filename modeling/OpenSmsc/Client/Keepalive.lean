/-
The keepalive of a session on its `io_context`.

The completions of the two timers go through the queue of handlers with
everything else, so a response and the timeout it should prevent can both be
queued.  The context below runs the handlers from the front of the queue; what
arrives at its back, and when a timer expires, is up to the outside.
-/

import OpenSmsc.Foundation.TimerQueue
import OpenSmsc.Client.Ending
import OpenSmsc.Client.IoContext
import OpenSmsc.Client.Requests

namespace OpenSmsc.Keepalive

open Foundation Smpp
open SmppSession (AnswersEnquiry Config DueEnquiry Effect Env Requested
  Session Timer TokenArith dispatched requestsIn timersIn)

variable {Number : Type}

/-- An ENQUIRE_LINK by its place among all the session sent. -/
structure Enquiry where
  number : Nat
  sequenceNumber : UInt32
  deriving DecidableEq, Repr

def timerOf : SmppSession.Event → Option Timer
  | .onEnquireLinkTimer _ => some .enquireLink
  | .onEnquireLinkTimeout _ => some .enquireLinkTimeout
  | _ => none

abbrev Handler := { event : SmppSession.Event // timerOf event = none }

/-- Every wait is tagged with the latest ENQUIRE_LINK at its start. -/
abbrev Timers := TimerQueue Timer Enquiry Handler

/-- The session with its timers.  The last two fields only record: how many
ENQUIRE_LINKs were sent, and those no response with their number came for. -/
structure Context (Number : Type) where
  session : Session Number
  timers : Timers := {}
  sent : Nat := 0
  unanswered : List Enquiry := []

def Context.current (k : Context Number) : Enquiry :=
  { number := k.sent
    sequenceNumber := k.session.elSeq }

def perform (latest : Enquiry) (timers : Timers) : Effect → Timers
  | .asyncWait timer _ => timers.start ⟨timer, latest⟩
  | .cancel timer => timers.cancel timer
  | _ => timers

def enquiriesIn (outputs : List Effect) : List UInt32 :=
  ((requestsIn outputs).filter fun hdr => hdr.commandId == enquireLink).map
    (·.sequenceNumber)

def answeredBy (event : SmppSession.Event) : Option UInt32 :=
  match dispatched event with
  | some (_, hdr, _) =>
      if hdr.commandId = enquireLinkResp then some hdr.sequenceNumber
      else none
  | none => none

def handlerOf : Completion Timer Enquiry Handler → SmppSession.Event
  | .wait { timer := .enquireLink, tag := _ } failed =>
      .onEnquireLinkTimer failed
  | .wait { timer := .enquireLinkTimeout, tag := _ } failed =>
      .onEnquireLinkTimeout failed
  | .handler handler => handler.1

inductive Event where
  /-- A read completes, a disconnect is posted or the bus calls a method. -/
  | arrives (handler : Handler)
  | expire (timer : Timer)
  | runNext

section Run

variable [TokenArith Number]

def runHandler (event : SmppSession.Event) (k : Context Number) :
    Context Number × List Effect :=
  let result := SmppSession.step k.session event
  let numbers := enquiriesIn result.2
  let sent := k.sent + numbers.length
  ({ session := result.1
     timers := result.2.foldl
       (perform { number := sent, sequenceNumber := result.1.elSeq })
       k.timers
     sent := sent
     unanswered :=
       (k.unanswered.filter fun enquiry =>
         answeredBy event ≠ some enquiry.sequenceNumber) ++
       (numbers.zipIdx (k.sent + 1)).map fun numbered =>
         { number := numbered.2, sequenceNumber := numbered.1 } },
    result.2)

/-- The methods of the bus run on its own thread; everything else waits for
its turn. -/
def step (k : Context Number) : Event → Context Number × List Effect
  | .arrives handler =>
      match ClientProcess.completedBy handler.1 with
      | none => runHandler handler.1 k
      | some _ => ({ k with timers := k.timers.post handler }, [])
  | .expire timer => ({ k with timers := k.timers.expire timer }, [])
  | .runNext =>
      match k.timers.queue with
      | [] => (k, [])
      | completion :: _ =>
          runHandler (handlerOf completion)
            { k with timers := k.timers.pop }

def machine : Machine (Context Number) Event Effect where
  step := step

def launch (config : Config) : Context Number :=
  let session := SmppSession.create config
  { session := session
    timers := (SmppSession.start session).foldl
      (perform { number := 0, sequenceNumber := session.elSeq }) {} }

end Run

/-! ### What a handler does to the timers -/

theorem foldl_perform_timers (latest : Enquiry) (outputs : List Effect)
    (timers : Timers) :
    outputs.foldl (perform latest) timers =
      (timersIn outputs).foldl (perform latest) timers := by
  induction outputs generalizing timers with
  | nil => rfl
  | cons effect rest ih =>
      cases effect <;> exact ih _

theorem answeredBy_eq_some {event : SmppSession.Event} {number : UInt32} :
    answeredBy event = some number ↔
      ∃ env hdr body, dispatched event = some (env, hdr, body) ∧
        hdr.commandId = enquireLinkResp ∧ hdr.sequenceNumber = number := by
  unfold answeredBy
  cases dispatched event with
  | none =>
      constructor
      · intro contrary
        cases contrary
      · rintro ⟨env, hdr, body, contrary, _⟩
        cases contrary
  | some pdu =>
      obtain ⟨env, hdr, body⟩ := pdu
      dsimp only
      by_cases isResponse : hdr.commandId = enquireLinkResp
      · rw [if_pos isResponse]
        constructor
        · intro same
          exact ⟨env, hdr, body, rfl, isResponse, Option.some.inj same⟩
        · rintro ⟨_, _, _, same, _, isNumber⟩
          cases same
          rw [isNumber]
      · rw [if_neg isResponse]
        constructor
        · intro contrary
          cases contrary
        · rintro ⟨_, _, _, same, isResponse', _⟩
          cases same
          exact absurd isResponse' isResponse

theorem answersEnquiry_iff (s : Session Number)
    (event : SmppSession.Event) :
    AnswersEnquiry s event ↔
      answeredBy event = some s.elSeq ∧ s.elPending = true := by
  rw [answeredBy_eq_some]
  constructor
  · rintro ⟨env, hdr, body, pdu, isResponse, isNumber, pending⟩
    exact ⟨⟨env, hdr, body, pdu, isResponse, isNumber⟩, pending⟩
  · rintro ⟨⟨env, hdr, body, pdu, isResponse, isNumber⟩, pending⟩
    exact ⟨env, hdr, body, pdu, isResponse, isNumber, pending⟩

/-- The ENQUIRE_LINKs without a response are those the session waits for. -/
def Ledger (k : Context Number) : Prop :=
  k.unanswered = if k.session.elPending = true then [k.current] else []

inductive Ran (event : SmppSession.Event) (k after : Context Number) : Prop
  | quiet (elPending : after.session.elPending = k.session.elPending)
      (current : after.current = k.current)
      (timers : after.timers = k.timers)
      (notDue : ¬DueEnquiry k.session event)
      (unanswered : ¬AnswersEnquiry k.session event)
      (record : after.unanswered = k.unanswered.filter fun enquiry =>
        answeredBy event ≠ some enquiry.sequenceNumber)
  | enquires (due : DueEnquiry k.session event)
      (elPending : after.session.elPending = true)
      (timers : after.timers =
        k.timers.start ⟨.enquireLinkTimeout, after.current⟩)
      (record : after.unanswered = k.unanswered ++ [after.current])
  | answered (answers : AnswersEnquiry k.session event)
      (elPending : after.session.elPending = false)
      (timers : after.timers =
        (k.timers.cancel .enquireLinkTimeout).start
          ⟨.enquireLink, after.current⟩)
      (record : after.unanswered = k.unanswered.filter fun enquiry =>
        answeredBy event ≠ some enquiry.sequenceNumber)

theorem Ledger.ran {event : SmppSession.Event} {k after : Context Number}
    (ledger : Ledger k) (ran : Ran event k after) : Ledger after := by
  unfold Ledger at ledger ⊢
  cases ran with
  | quiet elPending current timers notDue unanswered record =>
      rw [record, elPending, current, ledger]
      by_cases pending : k.session.elPending = true
      · have different : answeredBy event ≠ some k.session.elSeq :=
          fun same => unanswered ((answersEnquiry_iff _ _).mpr
            ⟨same, pending⟩)
        rw [if_pos pending, List.filter_cons]
        exact if_pos (decide_eq_true different)
      · rw [if_neg pending]
        rfl
  | enquires due elPending timers record =>
      have notPending := due.2.1
      rw [record, ledger, notPending, elPending]
      rfl
  | answered answers elPending timers record =>
      obtain ⟨same, pending⟩ := (answersEnquiry_iff _ _).mp answers
      rw [record, elPending, ledger, if_pos pending, List.filter_cons]
      exact if_neg (by
        rw [decide_eq_true_eq]
        exact fun different => different same)

/-! ### The two phases -/

theorem timeout_ne_enquireLink :
    Timer.enquireLinkTimeout ≠ .enquireLink := by
  decide

theorem Handler.ne_timer (handler : Handler) :
    handler.1 ≠ .onEnquireLinkTimer false := by
  intro same
  have notTimer := handler.2
  rw [same] at notTimer
  cases notTimer

theorem handlerOf_ne_timer {completion : Completion Timer Enquiry Handler}
    (avoids : completion.Avoids .enquireLink) :
    handlerOf completion ≠ .onEnquireLinkTimer false := by
  cases completion with
  | handler handler => exact handler.ne_timer
  | wait ended failed =>
      obtain ⟨timer, tag⟩ := ended
      cases timer with
      | enquireLink => exact absurd rfl (avoids _ _ rfl)
      | enquireLinkTimeout => exact nofun

/-- Either `el_timer_` has one live wait, with stale timeouts at most ahead of
it in the queue; or an enquiry is out, and its timeout is the only wait. -/
inductive Phase (k : Context Number) : Prop
  | idle (notPending : k.session.elPending = false) (latest : Enquiry)
      (live : k.timers.Live (Completion.Avoids .enquireLink)
        ⟨.enquireLink, latest⟩)
  | enquiring (pending : k.session.elPending = true)
      (live : k.timers.Live Completion.IsHandler
        ⟨.enquireLinkTimeout, k.current⟩)

theorem Phase.expire {k : Context Number} (phase : Phase k) (timer : Timer) :
    Phase { k with timers := k.timers.expire timer } := by
  cases phase with
  | idle notPending latest live =>
      exact .idle notPending latest (live.expire timer)
  | enquiring pending live => exact .enquiring pending (live.expire timer)

theorem Phase.post {k : Context Number} (phase : Phase k)
    (handler : Handler) :
    Phase { k with timers := k.timers.post handler } := by
  have isHandler : (Completion.handler handler :
      Completion Timer Enquiry Handler).IsHandler := ⟨handler, rfl⟩
  cases phase with
  | idle notPending latest live =>
      exact .idle notPending latest (live.post handler isHandler.avoids)
  | enquiring pending live =>
      exact .enquiring pending (live.post handler isHandler)

theorem Phase.ran {event : SmppSession.Event} {k after : Context Number}
    (phase : Phase k) (ran : Ran event k after)
    (notTimer : event ≠ .onEnquireLinkTimer false) : Phase after := by
  cases ran with
  | quiet elPending current timers notDue unanswered record =>
      cases phase with
      | idle notPending latest live =>
          rw [← timers] at live
          exact .idle (elPending.trans notPending) latest live
      | enquiring pending live =>
          rw [← timers, ← current] at live
          exact .enquiring (elPending.trans pending) live
  | enquires due elPending timers record => exact absurd due.1 notTimer
  | answered answers elPending timers record =>
      obtain ⟨_, pending⟩ := (answersEnquiry_iff _ _).mp answers
      cases phase with
      | idle notPending latest live =>
          rw [notPending] at pending
          contradiction
      | enquiring _ live =>
          obtain ⟨none, queued⟩ := live.cancel
          refine .idle elPending after.current ?_
          rw [timers]
          refine TimerQueue.Live.start none ?_
          intro completion member
          rcases queued completion member with
            isHandler | ⟨failed, rfl⟩ | isHandler
          · exact isHandler.avoids
          · intro wait failed' same
            cases same
            exact timeout_ne_enquireLink
          · exact isHandler.avoids

/-! ### Runs -/

section Runs

variable [TokenArith Number]

theorem runHandler_ran (event : SmppSession.Event) (k : Context Number) :
    Ran event k (runHandler event k).1 := by
  unfold runHandler
  cases SmppSession.step_requested k.session event with
  | quiet isQuiet notDue unanswered =>
      have noEnquiry :
          enquiriesIn (SmppSession.step k.session event).2 = [] := by
        unfold enquiriesIn
        rw [isQuiet.requests]
        rfl
      dsimp only
      rw [noEnquiry, foldl_perform_timers, isQuiet.timers]
      refine .quiet isQuiet.elPending ?_ rfl notDue unanswered
        (List.append_nil _)
      exact congrArg (Enquiry.mk k.sent) isQuiet.elSeq
  | enquires due isResult =>
      obtain ⟨hdr, isEnquiry, isNumber, isRequest⟩ :=
        SmppSession.requestsIn_enquiry
          (SmppSession.nextElSeq k.session.elSeq)
          [.asyncWait .enquireLinkTimeout k.session.elTimeoutSec] rfl
      have isSent : enquiriesIn (SmppSession.step k.session event).2 =
          [SmppSession.nextElSeq k.session.elSeq] := by
        unfold enquiriesIn
        rw [isResult, isRequest, List.filter_cons, isEnquiry, ← isNumber]
        rfl
      have allKept : (k.unanswered.filter fun enquiry =>
          answeredBy event ≠ some enquiry.sequenceNumber) =
            k.unanswered := by
        rw [due.1]
        exact List.filter_eq_self.mpr fun _ _ => rfl
      dsimp only
      rw [isSent, isResult]
      exact .enquires due rfl rfl (congrArg (· ++ _) allKept)
  | answered answers isResult =>
      dsimp only
      rw [isResult]
      exact .answered answers rfl rfl (List.append_nil _)
  | delivers srcAddr dstAddr shortMessage isDelivery isResult =>
      obtain ⟨hdr, isDeliverSm, _, isRequest⟩ :=
        SmppSession.requestsIn_delivery k.session.deliverSeq srcAddr dstAddr
          shortMessage [.returnDeliverSm k.session.deliverSeq] rfl
      have noEnquiry :
          enquiriesIn (SmppSession.step k.session event).2 = [] := by
        unfold enquiriesIn
        rw [isResult, isRequest, List.filter_cons, isDeliverSm]
        rfl
      dsimp only
      rw [noEnquiry, isResult]
      refine .quiet rfl rfl rfl ?_ ?_ (List.append_nil _)
      · rintro ⟨isTimer, _⟩
        rw [isDelivery] at isTimer
        cases isTimer
      · rintro ⟨_, _, _, pdu, _⟩
        rw [isDelivery] at pdu
        cases pdu

structure Inv (k : Context Number) : Prop where
  ledger : Ledger k
  phase : k.session.state ≠ .unbound → Phase k

theorem runHandler_live (event : SmppSession.Event) (k : Context Number)
    (live : (runHandler event k).1.session.state ≠ .unbound) :
    k.session.state ≠ .unbound := by
  intro ended
  exact live (SmppSession.step_state_of_unbound k.session event ended)

theorem Inv.runHandler {k : Context Number} (inv : Inv k)
    (event : SmppSession.Event)
    (notTimer : event ≠ .onEnquireLinkTimer false) :
    Inv (Keepalive.runHandler event k).1 := by
  have ran := runHandler_ran event k
  refine ⟨inv.ledger.ran ran, ?_⟩
  intro live
  exact (inv.phase (runHandler_live event k live)).ran ran notTimer

theorem Phase.enquire {k : Context Number}
    (notPending : k.session.elPending = false)
    (live : k.session.state ≠ .unbound) (none : k.timers.outstanding = [])
    (onlyHandlers : ∀ completion ∈ k.timers.queue, completion.IsHandler) :
    Phase (runHandler (.onEnquireLinkTimer false) k).1 := by
  cases runHandler_ran (.onEnquireLinkTimer false) k with
  | quiet _ _ _ notDue _ _ => exact absurd ⟨rfl, notPending, live⟩ notDue
  | enquires due elPending timers record =>
      refine .enquiring elPending ?_
      rw [timers]
      exact TimerQueue.Live.start none onlyHandlers
  | answered answers _ _ _ =>
      obtain ⟨_, _, _, pdu, _⟩ := answers
      cases pdu

theorem onEnquireLinkTimeout_ends (s : Session Number)
    (pending : s.elPending = true) :
    (SmppSession.step s (.onEnquireLinkTimeout false)).1.state =
      .unbound := by
  change (SmppSession.onEnquireLinkTimeout false s).1.state = _
  unfold SmppSession.onEnquireLinkTimeout SmppSession.doDisconnect
  rw [if_neg (by decide), if_neg (by rw [pending]; decide)]
  split
  · assumption
  · rfl

theorem Phase.runNext {k : Context Number} (phase : Phase k)
    (live : k.session.state ≠ .unbound)
    {completion : Completion Timer Enquiry Handler}
    {rest : List (Completion Timer Enquiry Handler)}
    (isQueue : k.timers.queue = completion :: rest) :
    let after := (runHandler (handlerOf completion)
      { k with timers := k.timers.pop }).1
    after.session.state ≠ .unbound → Phase after := by
  intro after stillLive
  have ran := runHandler_ran (handlerOf completion)
    { k with timers := k.timers.pop }
  cases phase with
  | idle notPending latest isLive =>
      rcases isLive.pop isQueue with
        ⟨rfl, none, onlyHandlers⟩ | ⟨avoids, stillWaits⟩
      · refine Phase.enquire notPending live none ?_
        change ∀ later ∈ k.timers.queue.tail, _
        rw [isQueue]
        exact onlyHandlers
      · have popped : Phase { k with timers := k.timers.pop } :=
          .idle notPending latest stillWaits
        exact popped.ran ran (handlerOf_ne_timer avoids)
  | enquiring pending isLive =>
      rcases isLive.pop isQueue with
        ⟨rfl, none, onlyHandlers⟩ | ⟨isHandler, stillWaits⟩
      · exact absurd (onEnquireLinkTimeout_ends k.session pending) stillLive
      · have popped : Phase { k with timers := k.timers.pop } :=
          .enquiring pending stillWaits
        exact popped.ran ran (handlerOf_ne_timer isHandler.avoids)

theorem step_runNext {k : Context Number}
    {completion : Completion Timer Enquiry Handler}
    {rest : List (Completion Timer Enquiry Handler)}
    (isQueue : k.timers.queue = completion :: rest) :
    step k .runNext =
      runHandler (handlerOf completion)
        { k with timers := k.timers.pop } := by
  unfold step
  dsimp only
  rw [isQueue]

theorem Inv.step {k : Context Number} (inv : Inv k) (event : Event) :
    Inv (Keepalive.step k event).1 := by
  cases event with
  | arrives handler =>
      unfold Keepalive.step
      dsimp only
      split
      · exact inv.runHandler handler.1 handler.ne_timer
      · exact ⟨inv.ledger, fun live => (inv.phase live).post handler⟩
  | expire timer =>
      exact ⟨inv.ledger, fun live => (inv.phase live).expire timer⟩
  | runNext =>
      cases isQueue : k.timers.queue with
      | nil =>
          unfold Keepalive.step
          dsimp only
          rw [isQueue]
          exact inv
      | cons completion rest =>
          rw [step_runNext isQueue]
          have ran := runHandler_ran (handlerOf completion)
            { k with timers := k.timers.pop }
          have ledger : Ledger { k with timers := k.timers.pop } :=
            inv.ledger
          refine ⟨ledger.ran ran, ?_⟩
          intro stillLive
          have live : k.session.state ≠ .unbound :=
            runHandler_live (handlerOf completion)
              { k with timers := k.timers.pop } stillLive
          exact (inv.phase live).runNext live isQueue stillLive

theorem launch_inv (config : Config)
    (interval : 0 < config.enquireLinkIntervalSec) :
    Inv (launch config : Context Number) := by
  refine ⟨rfl, ?_⟩
  intro _
  refine .idle rfl { number := 0, sequenceNumber := 0 } ?_
  have isStart : SmppSession.start
      (SmppSession.create config : Session Number) =
        [.asyncReadHeader,
          .asyncWait .enquireLink config.enquireLinkIntervalSec] :=
    congrArg (Effect.asyncReadHeader :: ·) (if_pos interval)
  unfold launch
  dsimp only
  rw [isStart]
  exact TimerQueue.Live.start rfl nofun

theorem run_inv (config : Config)
    (interval : 0 < config.enquireLinkIntervalSec) (events : List Event) :
    Inv (machine.final (launch config : Context Number) events) :=
  machine.invariant_rule Inv (launch config) (launch_inv config interval)
    (fun _ event inv => inv.step event) events

theorem Inv.stale_timeout {k : Context Number} (inv : Inv k)
    {enquiry : Enquiry} {failed : Bool}
    {rest : List (Completion Timer Enquiry Handler)}
    (isQueue : k.timers.queue =
      .wait ⟨.enquireLinkTimeout, enquiry⟩ failed :: rest)
    (answered : enquiry ∉ k.unanswered) :
    SmppSession.step k.session (.onEnquireLinkTimeout failed) =
      (k.session, []) := by
  change SmppSession.onEnquireLinkTimeout failed k.session = _
  unfold SmppSession.onEnquireLinkTimeout
  by_cases hasFailed : failed = true
  · rw [if_pos hasFailed]
  · rw [if_neg hasFailed]
    by_cases notPending : k.session.elPending = false
    · rw [if_pos notPending]
    · rw [if_neg notPending, SmppSession.doDisconnect]
      refine if_pos (Classical.byContradiction fun live => ?_)
      -- While an enquiry is out, the only timeout queued is its own.
      cases inv.phase live with
      | idle isIdle latest isLive => exact notPending isIdle
      | enquiring pending isLive =>
          rcases isLive.pop isQueue with
            ⟨isOwn, _⟩ | ⟨⟨handler, contrary⟩, _⟩
          · cases isOwn
            rw [inv.ledger, if_pos pending] at answered
            exact answered (List.mem_singleton.mpr rfl)
          · cases contrary

/-- The keepalive goes on: an enquiry is due or out, never both. -/
def Alternates (k : Context Number) : Prop :=
  (k.session.elPending = false ∧
      (k.timers.waitsOf .enquireLink).length = 1 ∧
      k.timers.Intact .enquireLink) ∨
    (k.session.elPending = true ∧
      k.timers.waitsOf .enquireLink = [] ∧
      k.timers.waitsOf .enquireLinkTimeout =
        [⟨.enquireLinkTimeout, k.current⟩] ∧
      k.timers.Intact .enquireLinkTimeout)

/-- The step runs a timeout whose ENQUIRE_LINK is answered. -/
def RunsStaleTimeout
    (entry : Machine.Entry (Context Number) Event Effect) : Prop :=
  entry.event = .runNext ∧
    ∃ enquiry failed rest,
      entry.before.timers.queue =
          .wait ⟨.enquireLinkTimeout, enquiry⟩ failed :: rest ∧
        enquiry ∉ entry.before.unanswered

omit [TokenArith Number] in
theorem Phase.alternates {k : Context Number} (phase : Phase k) :
    Alternates k := by
  cases phase with
  | idle notPending latest live =>
      refine .inl ⟨notPending, ?_, live.intact fun _ avoids => avoids⟩
      rw [live.waitsOf_own fun _ avoids => avoids]
      rfl
  | enquiring pending live =>
      refine .inr ⟨pending, ?_, ?_, ?_⟩
      · exact live.waitsOf_other timeout_ne_enquireLink
          fun _ isHandler => isHandler.avoids
      · exact live.waitsOf_own fun _ isHandler => isHandler.avoids
      · exact live.intact fun _ isHandler => isHandler.avoids

omit [TokenArith Number] in
theorem Ledger.single {k : Context Number} (ledger : Ledger k) :
    k.unanswered.length ≤ 1 := by
  rw [ledger]
  split
  · exact Nat.le_refl 1
  · exact Nat.zero_le 1

theorem keepalive_alternates (config : Config)
    (interval : 0 < config.enquireLinkIntervalSec) (events : List Event) :
    let k := machine.final (launch config : Context Number) events
    (k.session.state ≠ .unbound → Alternates k) ∧
      k.unanswered.length ≤ 1 ∧
      ∀ entry ∈ machine.history (launch config : Context Number) events,
        RunsStaleTimeout entry →
          entry.after.session = entry.before.session ∧
            entry.outputs = [] := by
  have inv : Inv (machine.final (launch config : Context Number) events) :=
    run_inv config interval events
  refine ⟨fun live => (inv.phase live).alternates, inv.ledger.single, ?_⟩
  refine machine.every_step_rule Inv _ (launch config)
    (launch_inv config interval) (fun _ event inv => inv.step event) ?_ events
  rintro k event inv ⟨isNext, enquiry, failed, rest, isQueue, answered⟩
  have unchanged := inv.stale_timeout isQueue answered
  obtain rfl : event = .runNext := isNext
  change (step k .runNext).1.session = k.session ∧ (step k .runNext).2 = []
  rw [step_runNext (k := k) isQueue]
  exact ⟨congrArg Prod.fst unchanged, congrArg Prod.snd unchanged⟩

end Runs

/-- The timeout expires after its response has arrived and before the response
is handled. -/
theorem keepalive_alternates_race :
    let config : Config := { uuid := text "u", clientIp := [] }
    let env : Env :=
      { authenticate := fun _ _ _ _ => none
        systemClock := 0
        steadyClock := 0 }
    let response : Header :=
      { commandLength := 17
        commandId := enquireLinkResp
        commandStatus := esmeRok
        sequenceNumber := 0x10000000 }
    let events : List Event :=
      [.expire .enquireLink, .runNext,
        .arrives ⟨.onBody env response (.ok [0]), rfl⟩,
        .expire .enquireLinkTimeout, .runNext, .runNext]
    0 < config.enquireLinkIntervalSec ∧
      (machine.final (launch config : Context Float) events).sent = 1 ∧
      (machine.final (launch config : Context Float) events).session.state =
        .opened ∧
      Alternates (machine.final (launch config : Context Float) events) := by
  intro config env response events
  have interval : 0 < config.enquireLinkIntervalSec := by decide
  have sent :
      (machine.final (launch config : Context Float) events).sent = 1 := by
    decide
  have opened : (machine.final (launch config : Context Float)
      events).session.state = .opened := by
    decide
  have alternates : _ →
      Alternates (machine.final (launch config : Context Float) events) :=
    (keepalive_alternates config interval events).1
  refine ⟨interval, sent, opened, alternates ?_⟩
  rw [opened]
  decide

end OpenSmsc.Keepalive
