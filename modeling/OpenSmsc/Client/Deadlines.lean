/-
The keepalive against the clock.

A wait of a timer cannot expire before its time, and the completion of an
expired wait may have to queue for its turn.  With a bound on that delay, a
session that is not over has started, or has heard the awaited response, at
most an interval and a timeout ago, apart from the delays; and the keepalive
ends no session sooner than that.
-/

import OpenSmsc.Client.Keepalive

namespace OpenSmsc.Keepalive

open Foundation Smpp
open SmppSession (AnswersEnquiry Config DueEnquiry Effect Env Session Timer
  TokenArith timersIn)

/-! ### The clock -/

/-- Seconds in ticks of the steady clock, a nanosecond each. -/
def ticks (seconds : UInt32) : Nat := seconds.toNat * 1000000000

/-- `expiry` is when the waits of a timer expire.  The last two fields only
record: when the session started or last got the response it waited for, and
when it last sent an ENQUIRE_LINK. -/
structure Clocked (Number : Type) where
  context : Context Number
  now : Nat := 0
  expiry : Timer → Nat
  heard : Nat := 0
  asked : Nat := 0

inductive Tick where
  | pass (time : Nat)
  | run (event : Event)

def setExpiry (now : Nat) (expiry : Timer → Nat) : Effect → Timer → Nat
  | .asyncWait timer seconds => fun other =>
      if other = timer then now + ticks seconds else expiry other
  | _ => expiry

def expired : Completion Timer Enquiry Handler → Option Timer
  | .wait ended false => some ended.timer
  | _ => none

variable {Number : Type}

/-- The timers with a wait outstanding or an expired one to handle. -/
def awaited (k : Context Number) : List Timer :=
  k.timers.outstanding.map (·.timer) ++ k.timers.queue.filterMap expired

/-- No completion is handled later than `slack` after the expiry. -/
def mayPass (slack time : Nat) (c : Clocked Number) : Bool :=
  (awaited c.context).all fun timer =>
    decide (c.now + time ≤ c.expiry timer + slack)

def isEarly (c : Clocked Number) : Event → Bool
  | .expire timer => decide (c.now < c.expiry timer)
  | _ => false

def handled (k : Context Number) : Event → Option SmppSession.Event
  | .arrives handler =>
      match ClientProcess.completedBy handler.1 with
      | none => some handler.1
      | some _ => none
  | .expire _ => none
  | .runNext => k.timers.queue.head?.map handlerOf

/-- The event handles the response the session waits for. -/
def hears (k : Context Number) (event : Event) : Bool :=
  match handled k event with
  | some handler =>
      k.session.elPending && answeredBy handler == some k.session.elSeq
  | none => false

/-- The clock keeps the expiry times that the outputs of an event set. -/
def Clocked.move (c : Clocked Number) (event : Event)
    (result : Context Number × List Effect) : Clocked Number :=
  { context := result.1
    now := c.now
    expiry := result.2.foldl (setExpiry c.now) c.expiry
    heard := if hears c.context event then c.now else c.heard
    asked := if (enquiriesIn result.2).isEmpty then c.asked else c.now }

section Clock

variable [TokenArith Number]

def tick (slack : Nat) (c : Clocked Number) :
    Tick → Clocked Number × List Effect
  | .pass time =>
      if mayPass slack time c then ({ c with now := c.now + time }, [])
      else (c, [])
  | .run event =>
      if isEarly c event then (c, [])
      else (c.move event (step c.context event), (step c.context event).2)

def clock (slack : Nat) : Machine (Clocked Number) Tick Effect where
  step := tick slack

/-- A session is started when the clock is. -/
def launchClocked (config : Config) : Clocked Number :=
  { context := launch config
    expiry := (SmppSession.start
        (SmppSession.create config : Session Number)).foldl
      (setExpiry 0) fun _ => 0 }

end Clock

/-! ### What a handler does to the expiry times -/

theorem foldl_setExpiry (now : Nat) (outputs : List Effect)
    (expiry : Timer → Nat) :
    outputs.foldl (setExpiry now) expiry =
      (timersIn outputs).foldl (setExpiry now) expiry := by
  induction outputs generalizing expiry with
  | nil => rfl
  | cons effect rest ih =>
      cases effect <;> exact ih _

theorem Clocked.move_expiry (c : Clocked Number) (event : Event)
    (result : Context Number × List Effect) :
    (c.move event result).expiry =
      (timersIn result.2).foldl (setExpiry c.now) c.expiry :=
  foldl_setExpiry c.now result.2 c.expiry

theorem setExpiry_own (now : Nat) (expiry : Timer → Nat) (timer : Timer)
    (seconds : UInt32) :
    setExpiry now expiry (.asyncWait timer seconds) timer =
      now + ticks seconds :=
  if_pos rfl

inductive Arms (event : SmppSession.Event) (k after : Context Number)
    (outputs : List Effect) : Prop
  | nothing (elPending : after.session.elPending = k.session.elPending)
      (kept : after.timers = k.timers) (timers : timersIn outputs = [])
      (silent : enquiriesIn outputs = [])
      (unanswered : ¬AnswersEnquiry k.session event)
  | timeout (due : DueEnquiry k.session event)
      (elPending : after.session.elPending = true)
      (started : after.timers =
        k.timers.start ⟨.enquireLinkTimeout, after.current⟩)
      (timers : timersIn outputs =
        [.asyncWait .enquireLinkTimeout k.session.elTimeoutSec])
      (asks : enquiriesIn outputs ≠ [])
  | interval (answers : AnswersEnquiry k.session event)
      (elPending : after.session.elPending = false)
      (started : after.timers =
        (k.timers.cancel .enquireLinkTimeout).start
          ⟨.enquireLink, after.current⟩)
      (timers : timersIn outputs =
        [.cancel .enquireLinkTimeout,
          .asyncWait .enquireLink k.session.elIntervalSec])

section Handlers

variable [TokenArith Number]

theorem Arms.of_quiet {event : SmppSession.Event} {k : Context Number}
    (elPending : (SmppSession.step k.session event).1.elPending =
      k.session.elPending)
    (timers : timersIn (SmppSession.step k.session event).2 = [])
    (silent : enquiriesIn (SmppSession.step k.session event).2 = [])
    (unanswered : ¬AnswersEnquiry k.session event) :
    Arms event k (runHandler event k).1 (runHandler event k).2 := by
  cases runHandler_ran event k with
  | quiet _ _ kept _ _ _ =>
      exact .nothing elPending kept timers silent unanswered
  | enquires due pending _ _ =>
      have impossible := (elPending.symm.trans pending).symm.trans due.2.1
      cases impossible
  | answered answers _ _ _ => exact absurd answers unanswered

theorem runHandler_arms (event : SmppSession.Event) (k : Context Number) :
    Arms event k (runHandler event k).1 (runHandler event k).2 := by
  cases SmppSession.step_requested k.session event with
  | quiet isQuiet notDue unanswered =>
      refine .of_quiet isQuiet.elPending isQuiet.timers ?_ unanswered
      unfold enquiriesIn
      rw [isQuiet.requests]
      rfl
  | delivers srcAddr dstAddr shortMessage isDelivery isResult =>
      obtain ⟨hdr, isDeliverSm, _, isRequest⟩ :=
        SmppSession.requestsIn_delivery k.session.deliverSeq srcAddr dstAddr
          shortMessage [.returnDeliverSm k.session.deliverSeq] rfl
      refine .of_quiet ?_ ?_ ?_ ?_
      · rw [isResult]
      · rw [isResult]
        rfl
      · unfold enquiriesIn
        rw [isResult, isRequest, List.filter_cons, isDeliverSm]
        rfl
      · rintro ⟨_, _, _, pdu, _⟩
        rw [isDelivery] at pdu
        cases pdu
  | enquires due isResult =>
      obtain ⟨hdr, isEnquiry, _, isRequest⟩ :=
        SmppSession.requestsIn_enquiry
          (SmppSession.nextElSeq k.session.elSeq)
          [.asyncWait .enquireLinkTimeout k.session.elTimeoutSec] rfl
      cases runHandler_ran event k with
      | quiet _ _ _ notDue _ _ => exact absurd due notDue
      | answered answers _ _ _ =>
          obtain ⟨_, _, _, pdu, _⟩ := answers
          rw [due.1] at pdu
          cases pdu
      | enquires _ elPending started _ =>
          refine .timeout due elPending started ?_ ?_
          · change timersIn (SmppSession.step k.session event).2 = _
            rw [isResult]
            rfl
          · change enquiriesIn (SmppSession.step k.session event).2 ≠ _
            unfold enquiriesIn
            rw [isResult, isRequest, List.filter_cons, isEnquiry]
            exact List.cons_ne_nil _ _
  | answered answers isResult =>
      cases runHandler_ran event k with
      | quiet _ _ _ _ unanswered _ => exact absurd answers unanswered
      | enquires due _ _ _ =>
          obtain ⟨_, _, _, pdu, _⟩ := answers
          rw [due.1] at pdu
          cases pdu
      | answered _ elPending started _ =>
          refine .interval answers elPending started ?_
          change timersIn (SmppSession.step k.session event).2 = _
          rw [isResult]
          rfl

inductive Happens (k : Context Number) (event : Event) : Prop
  | nothing (notHandled : handled k event = none)
      (isStep : step k event = (k, []))
  | posts (handler : Handler) (notHandled : handled k event = none)
      (isStep : step k event =
        ({ k with timers := k.timers.post handler }, []))
  | expires (timer : Timer) (isExpire : event = .expire timer)
      (isStep : step k event =
        ({ k with timers := k.timers.expire timer }, []))
  | runs (handler : SmppSession.Event) (before : Context Number)
      (isHandled : handled k event = some handler)
      (session : before.session = k.session)
      (queue : ∀ completion ∈ before.timers.queue,
        completion ∈ k.timers.queue)
      (ripe : handler = .onEnquireLinkTimer false →
        ∃ tag, .wait ⟨.enquireLink, tag⟩ false ∈ k.timers.queue)
      (isStep : step k event = runHandler handler before)

theorem step_happens (k : Context Number) (event : Event) :
    Happens k event := by
  cases event with
  | arrives handler =>
      cases completed : ClientProcess.completedBy handler.1 with
      | none =>
          refine .runs handler.1 k ?_ rfl (fun _ member => member) ?_ ?_
          · simp only [handled, completed]
          · intro isTimer
            exact absurd isTimer handler.ne_timer
          · simp only [step, completed]
      | some completion =>
          refine .posts handler ?_ ?_
          · simp only [handled, completed]
          · simp only [step, completed]
  | expire timer => exact .expires timer rfl rfl
  | runNext =>
      cases isQueue : k.timers.queue with
      | nil =>
          refine .nothing ?_ ?_
          · simp only [handled, isQueue]
            rfl
          · simp only [step, isQueue]
      | cons completion rest =>
          refine .runs (handlerOf completion)
            { k with timers := k.timers.pop } ?_ rfl ?_ ?_
            (step_runNext isQueue)
          · simp only [handled, isQueue]
            rfl
          · intro later member
            exact List.mem_of_mem_tail member
          · intro isTimer
            rw [isQueue]
            cases completion with
            | handler handler => exact absurd isTimer handler.ne_timer
            | wait ended failed =>
                obtain ⟨timer, tag⟩ := ended
                cases timer with
                | enquireLinkTimeout => cases isTimer
                | enquireLink =>
                    cases isTimer
                    exact ⟨tag, List.mem_cons_self⟩

end Handlers

/-! ### Deadlines -/

/-- No ENQUIRE_LINK is out, and the next one is due an interval after the
last response. -/
structure Resting (interval slack : Nat) (c : Clocked Number) : Prop where
  due : c.expiry .enquireLink = c.heard + interval
  onTime : c.now ≤ c.heard + interval + slack
  ripe : ∀ tag, .wait ⟨.enquireLink, tag⟩ false ∈ c.context.timers.queue →
    c.heard + interval ≤ c.now

/-- An ENQUIRE_LINK is out that was due, and its timeout runs. -/
structure Asking (interval timeout slack : Nat) (c : Clocked Number) :
    Prop where
  due : c.expiry .enquireLinkTimeout = c.asked + timeout
  notEarly : c.heard + interval ≤ c.asked
  notLate : c.asked ≤ c.heard + interval + slack
  onTime : c.now ≤ c.asked + timeout + slack
  ripe : ∀ tag,
    .wait ⟨.enquireLinkTimeout, tag⟩ false ∈ c.context.timers.queue →
      c.asked + timeout ≤ c.now

structure Timed (interval timeout slack : Nat) (c : Clocked Number) :
    Prop where
  inv : Inv c.context
  isInterval : ticks c.context.session.elIntervalSec = interval
  isTimeout : ticks c.context.session.elTimeoutSec = timeout
  resting : c.context.session.state ≠ .unbound →
    c.context.session.elPending = false → Resting interval slack c
  asking : c.context.session.state ≠ .unbound →
    c.context.session.elPending = true → Asking interval timeout slack c

theorem awaited_of_live {k : Context Number}
    {earlier : Completion Timer Enquiry Handler → Prop}
    {wait : Wait Timer Enquiry} (live : k.timers.Live earlier wait) :
    wait.timer ∈ awaited k := by
  unfold awaited
  cases live with
  | outstanding only before =>
      rw [only]
      exact List.mem_append_left _ (List.mem_singleton_self _)
  | queued front back none isQueue before behind =>
      refine List.mem_append_right _ (List.mem_filterMap.mpr
        ⟨.wait wait false, ?_, rfl⟩)
      rw [isQueue]
      exact List.mem_append_right _ List.mem_cons_self

theorem Timed.pass {interval timeout slack time : Nat}
    {c : Clocked Number} (timed : Timed interval timeout slack c)
    (may : mayPass slack time c = true) :
    Timed interval timeout slack { c with now := c.now + time } := by
  have within : ∀ timer ∈ awaited c.context,
      c.now + time ≤ c.expiry timer + slack := by
    intro timer member
    exact of_decide_eq_true (List.all_eq_true.mp may timer member)
  refine ⟨timed.inv, timed.isInterval, timed.isTimeout, ?_, ?_⟩
  · intro live notPending
    have resting := timed.resting live notPending
    refine ⟨resting.due, ?_, ?_⟩
    · cases timed.inv.phase live with
      | idle _ latest isLive =>
          have bound := within _ (awaited_of_live isLive)
          rw [resting.due] at bound
          exact bound
      | enquiring pending _ =>
          rw [notPending] at pending
          contradiction
    · intro tag member
      have ripe := resting.ripe tag member
      change c.heard + interval ≤ c.now + time
      omega
  · intro live pending
    have asking := timed.asking live pending
    refine ⟨asking.due, asking.notEarly, asking.notLate, ?_, ?_⟩
    · cases timed.inv.phase live with
      | idle notPending _ _ =>
          rw [notPending] at pending
          contradiction
      | enquiring _ isLive =>
          have bound := within _ (awaited_of_live isLive)
          rw [asking.due] at bound
          exact bound
    · intro tag member
      have ripe := asking.ripe tag member
      change c.asked + timeout ≤ c.now + time
      omega

theorem Timed.requeued {interval timeout slack : Nat} {c : Clocked Number}
    (timed : Timed interval timeout slack c) {timers : Timers}
    (inv : Inv { c.context with timers := timers })
    (queue : ∀ timer tag, .wait ⟨timer, tag⟩ false ∈ timers.queue →
      .wait ⟨timer, tag⟩ false ∈ c.context.timers.queue ∨
        c.expiry timer ≤ c.now) :
    Timed interval timeout slack
      { c with context := { c.context with timers := timers } } := by
  refine ⟨inv, timed.isInterval, timed.isTimeout, ?_, ?_⟩
  · intro live notPending
    have resting := timed.resting live notPending
    refine ⟨resting.due, resting.onTime, ?_⟩
    intro tag member
    rcases queue _ tag member with old | isExpired
    · exact resting.ripe tag old
    · rw [resting.due] at isExpired
      exact isExpired
  · intro live pending
    have asking := timed.asking live pending
    refine ⟨asking.due, asking.notEarly, asking.notLate, asking.onTime, ?_⟩
    intro tag member
    rcases queue _ tag member with old | isExpired
    · exact asking.ripe tag old
    · rw [asking.due] at isExpired
      exact isExpired

/-! ### A handler and the deadlines -/

theorem hears_iff {k : Context Number} {event : Event}
    {handler : SmppSession.Event} (isHandled : handled k event = some handler) :
    hears k event = true ↔ AnswersEnquiry k.session handler := by
  unfold hears
  rw [isHandled, answersEnquiry_iff]
  dsimp only
  rw [Bool.and_eq_true, beq_iff_eq, and_comm]

section Moves

variable {interval timeout slack : Nat} {c : Clocked Number} {event : Event}
  {result : Context Number × List Effect} {seconds : UInt32}

theorem Resting.move (resting : Resting interval slack c)
    (notHeard : hears c.context event = false)
    (timers : timersIn result.2 = [])
    (queue : ∀ completion ∈ result.1.timers.queue,
      completion ∈ c.context.timers.queue) :
    Resting interval slack (c.move event result) := by
  refine ⟨?_, ?_, ?_⟩
  · rw [Clocked.move_expiry, timers]
    simp only [Clocked.move, notHeard]
    exact resting.due
  · simp only [Clocked.move, notHeard]
    exact resting.onTime
  · intro tag member
    simp only [Clocked.move, notHeard]
    exact resting.ripe tag (queue _ member)

theorem Asking.move (asking : Asking interval timeout slack c)
    (notHeard : hears c.context event = false)
    (timers : timersIn result.2 = []) (silent : enquiriesIn result.2 = [])
    (queue : ∀ completion ∈ result.1.timers.queue,
      completion ∈ c.context.timers.queue) :
    Asking interval timeout slack (c.move event result) := by
  refine ⟨?_, ?_, ?_, ?_, ?_⟩
  · rw [Clocked.move_expiry, timers]
    simp only [Clocked.move, silent]
    exact asking.due
  · simp only [Clocked.move, notHeard, silent]
    exact asking.notEarly
  · simp only [Clocked.move, notHeard, silent]
    exact asking.notLate
  · simp only [Clocked.move, silent]
    exact asking.onTime
  · intro tag member
    simp only [Clocked.move, silent]
    exact asking.ripe tag (queue _ member)

theorem resting_of_response (isHeard : hears c.context event = true)
    (timers : timersIn result.2 =
      [.cancel .enquireLinkTimeout, .asyncWait .enquireLink seconds])
    (isInterval : ticks seconds = interval)
    (fresh : ∀ tag,
      .wait ⟨.enquireLink, tag⟩ false ∉ result.1.timers.queue) :
    Resting interval slack (c.move event result) := by
  refine ⟨?_, ?_, fun tag member => absurd member (fresh tag)⟩
  · rw [Clocked.move_expiry, timers, List.foldl_cons, List.foldl_cons,
      List.foldl_nil, setExpiry_own, isInterval]
    simp only [Clocked.move, isHeard, if_true]
  · simp only [Clocked.move, isHeard, if_true]
    omega

theorem asking_of_enquiry (notHeard : hears c.context event = false)
    (asks : enquiriesIn result.2 ≠ [])
    (timers : timersIn result.2 = [.asyncWait .enquireLinkTimeout seconds])
    (isTimeout : ticks seconds = timeout)
    (notEarly : c.heard + interval ≤ c.now)
    (notLate : c.now ≤ c.heard + interval + slack)
    (fresh : ∀ tag,
      .wait ⟨.enquireLinkTimeout, tag⟩ false ∉ result.1.timers.queue) :
    Asking interval timeout slack (c.move event result) := by
  have askedNow : (c.move event result).asked = c.now :=
    if_neg (fun isEmpty => asks (List.isEmpty_iff.mp isEmpty))
  have sameHeard : (c.move event result).heard = c.heard :=
    if_neg (Bool.eq_false_iff.mp notHeard)
  refine ⟨?_, ?_, ?_, ?_, fun tag member => absurd member (fresh tag)⟩
  · rw [Clocked.move_expiry, timers, List.foldl_cons, List.foldl_nil,
      setExpiry_own, isTimeout, askedNow]
  · rw [sameHeard, askedNow]
    exact notEarly
  · rw [sameHeard, askedNow]
    exact notLate
  · rw [askedNow]
    change c.now ≤ c.now + timeout + slack
    omega

end Moves

theorem queue_of_started {earlier : Completion Timer Enquiry Handler → Prop}
    {wait started : Wait Timer Enquiry} {timers q : Timers}
    (live : timers.Live earlier wait) (isStarted : timers = q.start started) :
    ∀ completion ∈ timers.queue, earlier completion := by
  cases live with
  | outstanding only before => exact before
  | queued front back none isQueue before behind =>
      rw [isStarted] at none
      exact absurd none (by simp [TimerQueue.start])

theorem Phase.fresh_interval {k : Context Number} (phase : Phase k)
    (notPending : k.session.elPending = false) {q : Timers}
    {started : Wait Timer Enquiry} (isStarted : k.timers = q.start started)
    (tag : Enquiry) :
    .wait ⟨.enquireLink, tag⟩ false ∉ k.timers.queue := by
  intro member
  cases phase with
  | enquiring pending _ =>
      have impossible := pending.symm.trans notPending
      cases impossible
  | idle _ latest live =>
      have avoids := queue_of_started live isStarted _ member
      exact absurd rfl (avoids _ _ rfl)

theorem Phase.fresh_timeout {k : Context Number} (phase : Phase k)
    (pending : k.session.elPending = true) {q : Timers}
    {started : Wait Timer Enquiry} (isStarted : k.timers = q.start started)
    (tag : Enquiry) :
    .wait ⟨.enquireLinkTimeout, tag⟩ false ∉ k.timers.queue := by
  intro member
  cases phase with
  | idle notPending _ _ =>
      have impossible := pending.symm.trans notPending
      cases impossible
  | enquiring _ live =>
      obtain ⟨handler, impossible⟩ := queue_of_started live isStarted _ member
      cases impossible

section Runs

variable [TokenArith Number]

theorem runHandler_seconds (event : SmppSession.Event) (k : Context Number) :
    (runHandler event k).1.session.elIntervalSec = k.session.elIntervalSec ∧
      (runHandler event k).1.session.elTimeoutSec =
        k.session.elTimeoutSec := by
  have fixed := SmppSession.step_fixed k.session event
  exact ⟨congrArg (·.2.2.2.1) fixed, congrArg (·.2.2.2.2.1) fixed⟩

theorem Timed.ran {interval timeout slack : Nat} {c : Clocked Number}
    (timed : Timed interval timeout slack c) {event : Event}
    {handler : SmppSession.Event} {before : Context Number}
    (isHandled : handled c.context event = some handler)
    (session : before.session = c.context.session)
    (queue : ∀ completion ∈ before.timers.queue,
      completion ∈ c.context.timers.queue)
    (ripe : handler = .onEnquireLinkTimer false →
      ∃ tag, .wait ⟨.enquireLink, tag⟩ false ∈ c.context.timers.queue)
    (inv : Inv (runHandler handler before).1) :
    Timed interval timeout slack
      (c.move event (runHandler handler before)) := by
  have hearsIff := hears_iff isHandled
  have wasLive := runHandler_live handler before
  have arms := runHandler_arms handler before
  obtain ⟨sameInterval, sameTimeout⟩ := runHandler_seconds handler before
  rw [session] at wasLive sameInterval sameTimeout
  have isInterval := (congrArg ticks sameInterval).trans timed.isInterval
  have isTimeout := (congrArg ticks sameTimeout).trans timed.isTimeout
  refine ⟨inv, isInterval, isTimeout, ?_, ?_⟩
  · intro live notPending
    cases arms with
    | nothing elPending kept timers silent unanswered =>
        rw [session] at elPending unanswered
        rw [← kept] at queue
        have resting := timed.resting (wasLive live)
          (elPending.symm.trans notPending)
        refine resting.move ?_ timers queue
        exact Bool.eq_false_iff.mpr (mt hearsIff.mp unanswered)
    | timeout due elPending started timers asks =>
        have impossible := elPending.symm.trans notPending
        cases impossible
    | interval answers elPending started timers =>
        rw [session] at answers timers
        exact resting_of_response (hearsIff.mpr answers) timers
          timed.isInterval ((inv.phase live).fresh_interval elPending started)
  · intro live pending
    cases arms with
    | nothing elPending kept timers silent unanswered =>
        rw [session] at elPending unanswered
        rw [← kept] at queue
        have asking := timed.asking (wasLive live)
          (elPending.symm.trans pending)
        refine asking.move ?_ timers silent queue
        exact Bool.eq_false_iff.mpr (mt hearsIff.mp unanswered)
    | interval answers elPending started timers =>
        have impossible := elPending.symm.trans pending
        cases impossible
    | timeout due elPending started timers asks =>
        -- the ENQUIRE_LINK goes out now, when its timer has expired
        rw [session] at due timers
        obtain ⟨isTimer, notPending, isLive⟩ := due
        have resting := timed.resting isLive notPending
        obtain ⟨tag, expired⟩ := ripe isTimer
        have notHeard : ¬AnswersEnquiry c.context.session handler := by
          rintro ⟨_, _, _, pdu, _⟩
          rw [isTimer] at pdu
          cases pdu
        refine asking_of_enquiry ?_ asks timers timed.isTimeout
          (resting.ripe tag expired) resting.onTime
          ((inv.phase live).fresh_timeout elPending started)
        exact Bool.eq_false_iff.mpr (mt hearsIff.mp notHeard)

omit [TokenArith Number] in
theorem Clocked.move_unhandled {c : Clocked Number} {event : Event}
    (notHandled : handled c.context event = none) (after : Context Number) :
    c.move event (after, []) = { c with context := after } := by
  have notHeard : hears c.context event = false := by
    unfold hears
    rw [notHandled]
  unfold Clocked.move
  rw [notHeard]
  rfl

theorem Timed.run {interval timeout slack : Nat} {c : Clocked Number}
    (timed : Timed interval timeout slack c) (event : Event)
    (notEarly : isEarly c event = false) :
    Timed interval timeout slack (c.move event (step c.context event)) := by
  have inv := timed.inv.step event
  cases step_happens c.context event with
  | nothing notHandled isStep =>
      rw [isStep, Clocked.move_unhandled notHandled]
      exact timed
  | posts handler notHandled isStep =>
      rw [isStep] at inv
      rw [isStep, Clocked.move_unhandled notHandled]
      refine timed.requeued inv ?_
      intro timer tag member
      rcases List.mem_append.mp member with old | isPosted
      · exact .inl old
      · cases List.mem_singleton.mp isPosted
  | expires timer isExpire isStep =>
      rw [isStep] at inv
      rw [isStep, isExpire, Clocked.move_unhandled rfl]
      rw [isExpire] at notEarly
      have isDue := of_decide_eq_false notEarly
      refine timed.requeued inv ?_
      intro other tag member
      rcases List.mem_append.mp member with old | isNew
      · exact .inl old
      · obtain ⟨wait, isWait, same⟩ := List.mem_map.mp isNew
        cases same
        have isTimer := (List.mem_filter.mp isWait).2
        rw [← of_decide_eq_true isTimer] at isDue
        exact .inr (Nat.le_of_not_lt isDue)
  | runs handler before isHandled session queue ripe isStep =>
      rw [isStep] at inv ⊢
      exact timed.ran isHandled session queue ripe inv

theorem Timed.tick {interval timeout slack : Nat} {c : Clocked Number}
    (timed : Timed interval timeout slack c) (event : Tick) :
    Timed interval timeout slack (Keepalive.tick slack c event).1 := by
  cases event with
  | pass time =>
      unfold Keepalive.tick
      dsimp only
      split
      · exact timed.pass ‹_›
      · exact timed
  | run event =>
      unfold Keepalive.tick
      dsimp only
      split
      · exact timed
      · exact timed.run event (Bool.eq_false_iff.mpr ‹_›)

theorem launchClocked_timed (config : Config)
    (interval : 0 < config.enquireLinkIntervalSec) (slack : Nat) :
    Timed (ticks config.enquireLinkIntervalSec)
      (ticks config.enquireLinkTimeoutSec) slack
      (launchClocked config : Clocked Number) := by
  have isStart : SmppSession.start
      (SmppSession.create config : Session Number) =
        [.asyncReadHeader,
          .asyncWait .enquireLink config.enquireLinkIntervalSec] :=
    congrArg (Effect.asyncReadHeader :: ·) (if_pos interval)
  refine ⟨launch_inv config interval, rfl, rfl, ?_, nofun⟩
  intro _ _
  refine ⟨?_, Nat.zero_le _, ?_⟩
  · unfold launchClocked
    dsimp only
    rw [isStart, List.foldl_cons, List.foldl_cons, List.foldl_nil,
      setExpiry_own]
  · intro tag member
    unfold launchClocked launch at member
    dsimp only at member
    rw [isStart] at member
    cases member

/-- The step runs the handler of the expired timeout, and the session is over
with it. -/
def EndsByTimeout
    (entry : Machine.Entry (Clocked Number) Tick Effect) : Prop :=
  ∃ event, entry.event = .run event ∧
    handled entry.before.context event =
      some (.onEnquireLinkTimeout false) ∧
    entry.before.context.session.state ≠ .unbound ∧
    entry.after.context.session.state = .unbound

omit [TokenArith Number] in
theorem queue_of_timeout {k : Context Number} {event : Event}
    (isTimeout : handled k event = some (.onEnquireLinkTimeout false)) :
    event = .runNext ∧
      ∃ tag, .wait ⟨.enquireLinkTimeout, tag⟩ false ∈ k.timers.queue := by
  cases event with
  | arrives handler =>
      unfold handled at isTimeout
      dsimp only at isTimeout
      split at isTimeout
      · have notTimer := handler.2
        rw [Option.some.inj isTimeout] at notTimer
        cases notTimer
      · cases isTimeout
  | expire timer => cases isTimeout
  | runNext =>
      refine ⟨rfl, ?_⟩
      obtain ⟨completion, isHead, isHandler⟩ :=
        Option.map_eq_some_iff.mp isTimeout
      have member := List.mem_of_head? isHead
      cases completion with
      | handler handler =>
          have notTimer := handler.2
          have isEvent : handler.1 = .onEnquireLinkTimeout false :=
            isHandler
          rw [isEvent] at notTimer
          cases notTimer
      | wait ended failed =>
          obtain ⟨timer, tag⟩ := ended
          cases timer with
          | enquireLink => cases isHandler
          | enquireLinkTimeout =>
              cases isHandler
              exact ⟨tag, member⟩

theorem Timed.ended {interval timeout slack : Nat} {c : Clocked Number}
    (timed : Timed interval timeout slack c) {event : Event}
    (isTimeout : handled c.context event =
      some (.onEnquireLinkTimeout false))
    (live : c.context.session.state ≠ .unbound)
    (ended : (step c.context event).1.session.state = .unbound) :
    c.heard + interval + timeout ≤ c.now := by
  obtain ⟨isNext, tag, expired⟩ := queue_of_timeout isTimeout
  have pending : c.context.session.elPending = true := by
    by_contra notPending
    cases step_happens c.context event with
    | nothing notHandled _ =>
        rw [isTimeout] at notHandled
        cases notHandled
    | posts _ notHandled _ =>
        rw [isTimeout] at notHandled
        cases notHandled
    | expires timer isExpire _ =>
        rw [isNext] at isExpire
        cases isExpire
    | runs handler before isHandled session _ _ isStep =>
        cases isHandled.symm.trans isTimeout
        have idle : SmppSession.step before.session
            (.onEnquireLinkTimeout false) = (before.session, []) :=
          if_pos (by rw [session]; exact Bool.eq_false_iff.mpr notPending)
        have same : (step c.context event).1.session = before.session := by
          rw [isStep]
          exact congrArg Prod.fst idle
        rw [same, session] at ended
        exact live ended
  have asking := timed.asking live pending
  have isDue := asking.ripe tag expired
  have notEarly := asking.notEarly
  omega

/-- A session that hears nothing is over an interval and a timeout later,
delays apart, and its keepalive ends none sooner. -/
theorem keepalive_deadlines (config : Config)
    (interval : 0 < config.enquireLinkIntervalSec) (slack : Nat)
    (run : List Tick) :
    let period := ticks config.enquireLinkIntervalSec +
      ticks config.enquireLinkTimeoutSec
    let c := (clock slack).final (launchClocked config : Clocked Number) run
    (c.context.session.state ≠ .unbound →
        c.now ≤ c.heard + period + 2 * slack) ∧
      ∀ entry ∈ (clock slack).history
          (launchClocked config : Clocked Number) run,
        EndsByTimeout entry → entry.before.heard + period ≤
          entry.before.now := by
  intro period c
  have initially : Timed (ticks config.enquireLinkIntervalSec)
      (ticks config.enquireLinkTimeoutSec) slack
      (launchClocked config : Clocked Number) :=
    launchClocked_timed config interval slack
  have keeps : ∀ (c : Clocked Number) (event : Tick),
      Timed (ticks config.enquireLinkIntervalSec)
        (ticks config.enquireLinkTimeoutSec) slack c →
      Timed (ticks config.enquireLinkIntervalSec)
        (ticks config.enquireLinkTimeoutSec) slack
        ((clock slack).step c event).1 :=
    fun c event timed => timed.tick event
  have timed := (clock slack).invariant_rule _ _ initially keeps run
  refine ⟨?_, ?_⟩
  · intro live
    cases pending : c.context.session.elPending with
    | false =>
        have onTime := (timed.resting live pending).onTime
        change c.now ≤ c.heard + _ + _ at onTime
        omega
    | true =>
        have asking := timed.asking live pending
        have onTime := asking.onTime
        have notLate := asking.notLate
        change c.now ≤ c.asked + _ + _ at onTime
        change c.asked ≤ c.heard + _ + _ at notLate
        omega
  · refine (clock slack).every_step_rule _ _ _ initially keeps ?_ run
    rintro before event timed ⟨isEvent, same, isTimeout, live, ended⟩
    obtain rfl : event = .run isEvent := same
    have notEarly : isEarly before isEvent = false := by
      rw [(queue_of_timeout isTimeout).1]
      rfl
    have isStep : (tick slack before (.run isEvent)).1 =
        before.move isEvent (step before.context isEvent) :=
      congrArg Prod.fst (if_neg (Bool.eq_false_iff.mp notEarly))
    change (tick slack before (.run isEvent)).1.context.session.state = _
      at ended
    rw [isStep] at ended
    have bound := timed.ended isTimeout live ended
    change before.heard + _ ≤ before.now
    omega

end Runs

/-- Nothing is heard: a minute after the start the session asks, and ten
seconds later the timeout of the ENQUIRE_LINK is in the queue. -/
def silence : List Tick :=
  [.pass (ticks 60), .run (.expire .enquireLink), .run .runNext,
    .pass (ticks 10), .run (.expire .enquireLinkTimeout)]

def silentSession : Config := { uuid := text "u", clientIp := [] }

def afterSilence : Clocked Float :=
  (clock 0).final (launchClocked silentSession) silence

theorem keepalive_deadlines_silence :
    0 < silentSession.enquireLinkIntervalSec ∧
      afterSilence.context.session.state ≠ .unbound ∧
      afterSilence.now = ticks 70 ∧
      ((clock 0).step afterSilence (.run .runNext)).1.context.session.state =
        .unbound ∧
      afterSilence.now ≤ afterSilence.heard +
        (ticks silentSession.enquireLinkIntervalSec +
          ticks silentSession.enquireLinkTimeoutSec) + 2 * 0 := by
  have interval : 0 < silentSession.enquireLinkIntervalSec := by decide
  have live : afterSilence.context.session.state ≠ .unbound := by
    decide +kernel
  refine ⟨interval, live, by decide +kernel, by decide +kernel, ?_⟩
  unfold afterSilence at live ⊢
  exact (keepalive_deadlines silentSession interval 0 silence).1 live

end OpenSmsc.Keepalive
