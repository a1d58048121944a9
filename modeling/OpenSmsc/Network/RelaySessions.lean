/-
Every session of the network runs as a session on its own.

Blocked threads, served calls, timeouts and ends of other processes decide when
the handlers of a session run, not what they do: the state of a running session
and all that the others see of it are those of `SmppSession` run on the
handlers and the `DeliverSm` calls it has executed, in that order.
-/

import OpenSmsc.Foundation.Components
import OpenSmsc.Network.Relay

namespace OpenSmsc.Relay

open Foundation
open SmppSession (Session TokenArith)

variable {Number : Type}

/-! ### The part of one process -/

/-- What an action runs of the session of a process. -/
def ranAt (uuid : Octets) (n : State Number) :
    Action → List SmppSession.Event
  | .handle other handler =>
      if other = uuid then
        match n.processes[other]? with
        | some (.running peer) =>
            if peer.waiting.isSome then [] else [handler.val]
        | _ => []
      else []
  | .execute target =>
      if target = uuid then
        match n.processes[target]?,
          Lanes.takeNext Delivery.target target n.deliveries with
        | some (.running _), some (delivery, _) =>
            [.deliverSm delivery.srcAddr delivery.dstAddr
              delivery.shortMessage]
        | _, _ => []
      else []
  | _ => []

abbrev RelayEntry (Number : Type) :=
  Machine.Entry (State Number) Action Observed

def sessionEvents (uuid : Octets) (past : List (RelayEntry Number)) :
    List SmppSession.Event :=
  Machine.actsOf (ranAt uuid) past

/-- What the others see of a session. -/
inductive Shown where
  | hands (srcAddr dstAddr shortMessage messageId : Octets)
  | serves (srcAddr dstAddr shortMessage : Octets)
      (outputs : List SmppSession.Effect)
  deriving DecidableEq

def Observed.shownOf (uuid : Octets) : Observed → Option Shown
  | .routes sender _ srcAddr dstAddr shortMessage messageId =>
      if sender = uuid then
        some (.hands srcAddr dstAddr shortMessage messageId)
      else none
  | .delivers delivery outputs =>
      if delivery.target = uuid then
        some (.serves delivery.srcAddr delivery.dstAddr
          delivery.shortMessage outputs)
      else none

def shownBy (uuid : Octets) (record : List Observed) : List Shown :=
  record.filterMap (Observed.shownOf uuid)

def Request.shown : Request → Option Shown
  | .routeMessage srcAddr dstAddr shortMessage messageId =>
      some (.hands srcAddr dstAddr shortMessage messageId)
  | _ => none

def shownAt : SmppSession.Event × List SmppSession.Effect → List Shown
  | (.deliverSm srcAddr dstAddr shortMessage, outputs) =>
      [.serves srcAddr dstAddr shortMessage outputs]
  | (_, outputs) => (outputs.filterMap requestOf).filterMap Request.shown

def configFor (uuid clientIp : Octets) (steadyClock : Int) :
    SmppSession.Config :=
  { uuid := uuid
    clientIp := clientIp
    constructedAt := steadyClock }

def sessionOf : Option (Process Number) → Option (Session Number)
  | some (.running peer) => some peer.session
  | _ => none

def Unstarted (process : Option (Process Number)) : Prop :=
  process = none ∨ ∃ clientIp, process = some (.starting clientIp)

/-! ### One action -/

def Claims (n : State Number) (uuid : Octets) : Prop :=
  ∃ call ∈ n.requests, call.sender = uuid ∧ ∃ asked entry,
    call.request = .getSocket asked ∧
      n.service.registry.sessions[asked]? = some entry

/-- What an action does to the session of a process. -/
inductive Led [TokenArith Number] (n : State Number) (action : Action)
    (after : State Number) (uuid : Octets) :
    List SmppSession.Event → List Shown → Prop
  | same (session : sessionOf after.processes[uuid]? =
        sessionOf n.processes[uuid]?)
      (unstarted : Unstarted after.processes[uuid]? →
        after.processes[uuid]? = n.processes[uuid]?) :
      Led n action after uuid [] []
  | launched (fd : Int) (clientIp : Octets)
      (isConnect : action = .connect uuid fd clientIp true)
      (new : isNew uuid n = true) (absent : n.processes[uuid]? = none)
      (now : after.processes[uuid]? = some (.starting clientIp)) :
      Led n action after uuid [] []
  | began (clientIp : Octets) (steadyClock : Int)
      (was : n.processes[uuid]? = some (.starting clientIp))
      (claims : Claims n uuid)
      (now : sessionOf after.processes[uuid]? =
        some (SmppSession.create (configFor uuid clientIp steadyClock)))
      (started : ¬Unstarted after.processes[uuid]?) :
      Led n action after uuid [] []
  | died (now : after.processes[uuid]? = some .exited) :
      Led n action after uuid [] []
  | ran (s : Session Number) (event : SmppSession.Event)
      (was : sessionOf n.processes[uuid]? = some s)
      (now : sessionOf after.processes[uuid]? =
        some (SmppSession.step s event).1)
      (started : ¬Unstarted after.processes[uuid]?) :
      Led n action after uuid [event]
        (shownAt (event, (SmppSession.step s event).2))

theorem not_unstarted_running (peer : Peer Number) :
    ¬Unstarted (some (.running peer)) := by
  rintro (impossible | ⟨clientIp, impossible⟩)
  · cases impossible
  · cases impossible

theorem not_unstarted_exited :
    ¬Unstarted (some .exited : Option (Process Number)) := by
  rintro (impossible | ⟨clientIp, impossible⟩)
  · cases impossible
  · cases impossible

variable [TokenArith Number] {action : Action}

theorem Led.of_unmoved {n after : State Number} {uuid : Octets}
    (unmoved : after.processes[uuid]? = n.processes[uuid]?) :
    Led n action after uuid [] [] :=
  .same (by rw [unmoved]) fun _ => unmoved

theorem Led.of_freed {n after : State Number} {uuid : Octets}
    {peer : Peer Number}
    (was : n.processes[uuid]? = some (.running peer))
    (now : after.processes[uuid]? =
      some (.running { peer with waiting := none })) :
    Led n action after uuid [] [] := by
  refine .same (by rw [now, was]; rfl) ?_
  rw [now]
  intro unstarted
  exact absurd unstarted (not_unstarted_running _)

theorem Led.of_answer (sender : Octets) (serial : Nat)
    (n before : State Number) (uuid : Octets)
    (unmoved : before.processes[uuid]? = n.processes[uuid]?) :
    Led n action (answer sender serial before) uuid [] [] := by
  cases answer_answered sender serial before uuid with
  | same same => exact .of_unmoved (same.trans unmoved)
  | freed peer isSender was waited now =>
      exact .of_freed (unmoved.symm.trans was) now

theorem Led.of_answerSocket (steadyClock : Int) (sender : Octets)
    (fd : Option Int) (n before : State Number) (uuid : Octets)
    (unmoved : before.processes[uuid]? = n.processes[uuid]?)
    (claims : ∀ given, fd = some given → Claims n sender) :
    Led n action (answerSocket steadyClock sender fd before) uuid [] [] := by
  by_cases isSender : sender = uuid
  · subst isSender
    unfold answerSocket
    split
    · rename_i clientIp was
      split
      · rename_i given
        refine .began clientIp steadyClock (unmoved.symm.trans was)
          (claims given rfl) ?_ ?_
        · rw [setProcess_self]
          rfl
        · rw [setProcess_self]
          exact not_unstarted_running _
      · exact .died (setProcess_self _ _ before)
    · exact .of_unmoved unmoved
  · refine .of_unmoved (Eq.trans ?_ unmoved)
    unfold answerSocket
    split
    · split
      · exact setProcess_other isSender _ before
      · exact setProcess_other isSender _ before
    · rfl

theorem Led.of_serveCall [Transport] (steadyClock : Int) (call : Call)
    (n before : State Number) (uuid : Octets)
    (member : call ∈ n.requests) (service : before.service = n.service)
    (unmoved : before.processes[uuid]? = n.processes[uuid]?) :
    Led n action (serveCall steadyClock call before) uuid [] [] := by
  unfold serveCall
  split
  · rename_i asked isSocket
    have claims : ∀ given,
        (SmppServerService.getSocket asked before.service).2.findSome?
          Network.socketOf = some given → Claims n call.sender := by
      intro given isGiven
      cases SmppServerService.getSocket_claimed asked before.service with
      | unknown absent isResult =>
          rw [isResult] at isGiven
          cases isGiven
      | handed entry found isResult =>
          rw [service] at found
          exact ⟨call, member, rfl, asked, entry, isSocket, found⟩
    exact .of_answerSocket steadyClock call.sender _ n _ uuid unmoved claims
  · exact .of_answer _ _ n _ uuid unmoved
  · dsimp only
    split
    · exact .of_answer _ _ n _ uuid unmoved
    · split
      · exact .of_unmoved unmoved
      · exact .of_answer _ _ n _ uuid unmoved

theorem Led.of_endServing (delivery : Delivery) (n before : State Number)
    (uuid : Octets)
    (unmoved : before.processes[uuid]? = n.processes[uuid]?) :
    Led n action (endServing delivery before) uuid [] [] := by
  rcases endServing_lookup delivery before uuid with same | ⟨peer, was, now⟩
  · exact .of_unmoved (same.trans unmoved)
  · exact .of_freed (unmoved.symm.trans was) now

theorem shownAt_handler (handler : SmppSession.IoCall)
    (outputs : List SmppSession.Effect) :
    shownAt (handler.val, outputs) =
      (outputs.filterMap requestOf).filterMap Request.shown := by
  obtain ⟨event, isIo⟩ := handler
  cases event with
  | deliverSm srcAddr dstAddr shortMessage => cases isIo
  | onHeader env completion => rfl
  | onBody env hdr completion => rfl
  | onEnquireLinkTimer failed => rfl
  | onEnquireLinkTimeout failed => rfl
  | disconnect reason => rfl
  | getSessionInfo => cases isIo

theorem shownAt_hands {event : SmppSession.Event}
    {outputs : List SmppSession.Effect}
    {srcAddr dstAddr shortMessage messageId : Octets}
    (member : Shown.hands srcAddr dstAddr shortMessage messageId ∈
      shownAt (event, outputs)) :
    SmppSession.Effect.callRouteMessage srcAddr dstAddr shortMessage
      messageId ∈ outputs := by
  have handed : Shown.hands srcAddr dstAddr shortMessage messageId ∈
      (outputs.filterMap requestOf).filterMap Request.shown := by
    cases event with
    | deliverSm src dst message => simp [shownAt] at member
    | onHeader env completion => exact member
    | onBody env hdr completion => exact member
    | onEnquireLinkTimer failed => exact member
    | onEnquireLinkTimeout failed => exact member
    | disconnect reason => exact member
    | getSessionInfo => exact member
  obtain ⟨request, isRequest, isShown⟩ := List.mem_filterMap.mp handed
  obtain ⟨effect, inOutputs, isEffect⟩ := List.mem_filterMap.mp isRequest
  cases effect <;> cases isEffect <;> cases isShown
  exact inOutputs

theorem shownAt_serves {event : SmppSession.Event}
    {outputs effects : List SmppSession.Effect}
    {srcAddr dstAddr shortMessage : Octets}
    (member : Shown.serves srcAddr dstAddr shortMessage effects ∈
      shownAt (event, outputs)) :
    event = .deliverSm srcAddr dstAddr shortMessage ∧
      effects = outputs := by
  have notHanded : Shown.serves srcAddr dstAddr shortMessage effects ∉
      (outputs.filterMap requestOf).filterMap Request.shown := by
    intro handed
    obtain ⟨request, _, isShown⟩ := List.mem_filterMap.mp handed
    cases request <;> cases isShown
  cases event with
  | deliverSm src dst message =>
      cases List.mem_singleton.mp member
      exact ⟨rfl, rfl⟩
  | onHeader env completion => exact absurd member notHanded
  | onBody env hdr completion => exact absurd member notHanded
  | onEnquireLinkTimer failed => exact absurd member notHanded
  | onEnquireLinkTimeout failed => exact absurd member notHanded
  | disconnect reason => exact absurd member notHanded
  | getSessionInfo => exact absurd member notHanded

theorem shownBy_observed_self (uuid : Octets) (serial : Nat)
    (request : Request) :
    shownBy uuid
        (observed { sender := uuid, serial := serial, request := request }) =
      request.shown.toList := by
  cases request with
  | getSocket asked => rfl
  | updateSessionDetails asked systemId state => rfl
  | routeMessage srcAddr dstAddr shortMessage messageId =>
      simp [shownBy, observed, Observed.shownOf, Request.shown]

theorem shownBy_observed_other {uuid : Octets} {call : Call}
    (foreign : call.sender ≠ uuid) : shownBy uuid (observed call) = [] := by
  unfold observed
  split
  · simp [shownBy, Observed.shownOf, foreign]
  · rfl

theorem requests_eq_toList (s : Session Number)
    (event : SmppSession.Event) :
    (SmppSession.step s event).2.filterMap requestOf =
      ((SmppSession.step s event).2.findSome? requestOf).toList := by
  have single := step_requests_le_one s event
  rw [← List.head?_filterMap]
  cases requests : (SmppSession.step s event).2.filterMap requestOf with
  | nil => rfl
  | cons first rest =>
      rw [requests, List.length_cons, Nat.succ_le_succ_iff,
        Nat.le_zero, List.length_eq_zero_iff] at single
      rw [single]
      rfl

theorem Led.of_running {n after : State Number} {uuid : Octets}
    {peer later : Peer Number} {shown : List Shown}
    (event : SmppSession.Event)
    (was : n.processes[uuid]? = some (.running peer))
    (now : after.processes[uuid]? = some (.running later))
    (stepped : later.session = (SmppSession.step peer.session event).1)
    (isShown : shown =
      shownAt (event, (SmppSession.step peer.session event).2)) :
    Led n action after uuid [event] shown := by
  rw [isShown]
  refine .ran peer.session event (by rw [was]; rfl) ?_ ?_
  · rw [now, ← stepped]
    rfl
  · rw [now]
    exact not_unstarted_running _

theorem handle_led_self [Transport] (handler : SmppSession.IoCall)
    (n : State Number) (uuid : Octets) :
    Led n (.handle uuid handler) (handle uuid handler n).1 uuid
      (ranAt uuid n (.handle uuid handler))
      (shownBy uuid (handle uuid handler n).2) := by
  cases was : n.processes[uuid]? with
  | none =>
      simp only [handle, ranAt, was, if_true]
      exact .of_unmoved rfl
  | some process =>
      cases process with
      | starting clientIp =>
          simp only [handle, ranAt, was, if_true]
          exact .of_unmoved rfl
      | exited =>
          simp only [handle, ranAt, was, if_true]
          exact .of_unmoved rfl
      | running peer =>
          simp only [handle, ranAt, was, if_true]
          split
          · exact .of_unmoved rfl
          · have shown := shownAt_handler handler
              (SmppSession.step peer.session handler.val).2
            rw [requests_eq_toList] at shown
            split
            · rename_i found
              rw [found] at shown
              exact .of_running handler.val was (setProcess_self _ _ n) rfl
                shown.symm
            · rename_i request found
              rw [found] at shown
              refine .of_running handler.val was (setProcess_self _ _ _) rfl
                ?_
              rw [shown, shownBy_observed_self]
              cases isShown : request.shown with
              | none => simp [isShown]
              | some shown => simp [isShown]

theorem handle_led_other [Transport] {other uuid : Octets}
    (isOther : other ≠ uuid) (handler : SmppSession.IoCall)
    (n : State Number) :
    Led n (.handle other handler) (handle other handler n).1 uuid
      (ranAt uuid n (.handle other handler))
      (shownBy uuid (handle other handler n).2) := by
  simp only [handle, ranAt, if_neg isOther]
  split
  · split
    · exact .of_unmoved rfl
    · split
      · exact .of_unmoved (setProcess_other isOther _ n)
      · rename_i request found
        rw [shownBy_observed_other]
        · exact .of_unmoved (setProcess_other isOther _ _)
        · exact isOther
  · exact .of_unmoved rfl

theorem execute_led_self (n : State Number) (uuid : Octets) :
    Led n (.execute uuid) (execute uuid n).1 uuid
      (ranAt uuid n (.execute uuid))
      (shownBy uuid (execute uuid n).2) := by
  cases was : n.processes[uuid]? with
  | none =>
      simp only [execute, ranAt, was, if_true]
      exact .of_unmoved rfl
  | some process =>
      cases process with
      | starting clientIp =>
          simp only [execute, ranAt, was, if_true]
          exact .of_unmoved rfl
      | exited =>
          simp only [execute, ranAt, was, if_true]
          exact .of_unmoved rfl
      | running peer =>
          cases found : Lanes.takeNext Delivery.target uuid n.deliveries with
          | none =>
              simp only [execute, ranAt, was, found, if_true]
              exact .of_unmoved rfl
          | some taken =>
              obtain ⟨delivery, rest⟩ := taken
              simp only [execute, ranAt, was, found, if_true]
              have shown : ∀ outputs,
                  shownBy uuid [.delivers delivery outputs] =
                    shownAt (.deliverSm delivery.srcAddr delivery.dstAddr
                      delivery.shortMessage, outputs) := by
                intro outputs
                simp [shownBy, Observed.shownOf, shownAt,
                  (Lanes.takeNext_some found).own]
              rw [shown]
              have here := setProcess_self uuid
                (.running { peer with
                  session := (SmppSession.deliverSm delivery.srcAddr
                    delivery.dstAddr delivery.shortMessage
                    peer.session).1 })
                { n with deliveries := rest }
              rcases endServing_lookup delivery _ uuid with
                same | ⟨freed, wasRunning, now⟩
              · exact .of_running _ was (same.trans here) rfl rfl
              · have isPeer := Process.running.inj
                  (Option.some.inj (wasRunning.symm.trans here))
                subst isPeer
                exact .of_running _ was now rfl rfl

theorem execute_led_other {target uuid : Octets} (isOther : target ≠ uuid)
    (n : State Number) :
    Led n (.execute target) (execute target n).1 uuid
      (ranAt uuid n (.execute target))
      (shownBy uuid (execute target n).2) := by
  simp only [execute, ranAt, if_neg isOther]
  split
  · rename_i peer delivery rest was found
    have foreign : delivery.target ≠ uuid := by
      rw [(Lanes.takeNext_some found).own]
      exact isOther
    have silent : ∀ outputs,
        shownBy uuid [.delivers delivery outputs] = [] := by
      intro outputs
      simp [shownBy, Observed.shownOf, foreign]
    rw [silent]
    exact .of_endServing delivery n _ uuid (setProcess_other isOther _ _)
  · exact .of_unmoved rfl

theorem step_led [Transport] (n : State Number) (action : Action)
    (uuid : Octets) :
    Led n action (step n action).1 uuid (ranAt uuid n action)
      (shownBy uuid (step n action).2) := by
  cases action with
  | connect other fd clientIp launched =>
      simp only [step, connect, Network.handleConnection]
      split
      · rename_i new
        split
        · by_cases isNew : other = uuid
          · subst isNew
            have absent : n.processes[other]? = none := by
              simp only [Relay.isNew, Network.isUnused, Bool.and_eq_true,
                Option.isNone_iff_eq_none] at new
              exact new.1.1
            rename_i isLaunched
            rw [isLaunched]
            exact .launched fd clientIp rfl new absent
              (Table.lookup_insert_self _ _ _)
          · exact .of_unmoved (Table.lookup_insert_ne _ _ isNew)
        · exact .of_unmoved rfl
      · exact .of_unmoved rfl
  | handle other handler =>
      by_cases isOther : other = uuid
      · subst isOther
        exact handle_led_self handler n other
      · exact handle_led_other isOther handler n
  | serve steadyClock sender =>
      simp only [step, serve]
      split
      · exact .of_unmoved rfl
      · split
        · exact .of_unmoved rfl
        · rename_i call rest found
          have taken := Lanes.takeNext_some found
          exact .of_serveCall steadyClock call n _ uuid
            (taken.perm.mem_iff.mpr List.mem_cons_self) rfl rfl
  | execute target =>
      by_cases isOther : target = uuid
      · subst isOther
        exact execute_led_self n target
      · exact execute_led_other isOther n
  | giveUp other =>
      simp only [step, giveUp]
      by_cases isOther : other = uuid
      · subst isOther
        split
        · exact .died (setProcess_self _ _ n)
        · rename_i peer was
          exact .of_freed was (setProcess_self _ _ n)
        · exact .of_unmoved rfl
      · refine .of_unmoved ?_
        split
        · exact setProcess_other isOther _ n
        · exact setProcess_other isOther _ n
        · rfl
  | giveUpDelivery =>
      simp only [step, giveUpDelivery]
      split
      · exact .of_endServing _ n _ uuid rfl
      · exact .of_unmoved rfl
  | terminate other =>
      simp only [step, terminate]
      split
      · exact .of_unmoved rfl
      · by_cases isOther : other = uuid
        · subst isOther
          have ended := setProcess_self other .exited
            { n with deliveries := n.deliveries.filter fun delivery =>
                decide (delivery.target ≠ other) }
          split
          · split
            · rename_i delivery serving isTarget
              rcases endServing_lookup delivery _ other with
                same | ⟨peer, was, now⟩
              · exact .died (same.trans ended)
              · have impossible := was.symm.trans ended
                cases impossible
            · exact .died ended
          · exact .died ended
        · have unmoved := setProcess_other isOther .exited
            { n with deliveries := n.deliveries.filter fun delivery =>
                decide (delivery.target ≠ other) }
          split
          · split
            · exact .of_endServing _ n _ uuid unmoved
            · exact .of_unmoved unmoved
          · exact .of_unmoved unmoved
  | setMaxConnectionsPerIp ip max => exact .of_unmoved rfl

theorem shown_at (config : SmppSession.Config)
    (events : List SmppSession.Event) {shown : Shown}
    (member : shown ∈ (SmppSession.machine.transcript
      (SmppSession.create config : Session Number) events).flatMap
        shownAt) :
    ∃ earlier event later, events = earlier ++ event :: later ∧
      shown ∈ shownAt (event,
        (SmppSession.step (SmppSession.machine.final
          (SmppSession.create config : Session Number) earlier) event).2) := by
  obtain ⟨⟨event, outputs⟩, inTranscript, isShown⟩ :=
    List.mem_flatMap.mp member
  obtain ⟨earlier, later, isEvents, isOutputs⟩ :=
    SmppSession.machine.mem_transcript inTranscript
  rw [isOutputs] at isShown
  exact ⟨earlier, event, later, isEvents, isShown⟩

/-! ### Whole runs -/

/-- A session on its own, run on what a process has executed. -/
structure Alone (uuid clientIp : Octets) (steadyClock : Int)
    (n : State Number) (past : List (RelayEntry Number)) : Prop where
  unstarted : Unstarted n.processes[uuid]? → sessionEvents uuid past = []
  session : ∀ s, sessionOf n.processes[uuid]? = some s →
    s = SmppSession.machine.final
      (SmppSession.create (configFor uuid clientIp steadyClock))
      (sessionEvents uuid past)
  seen : shownBy uuid (past.flatMap (·.outputs)) =
    (SmppSession.machine.transcript
      (SmppSession.create (configFor uuid clientIp steadyClock) :
        Session Number)
      (sessionEvents uuid past)).flatMap shownAt

theorem Alone.step [Transport] {uuid clientIp : Octets} {steadyClock : Int}
    {n : State Number} {past : List (RelayEntry Number)}
    (alone : Alone uuid clientIp steadyClock n past) (action : Action) :
    ∃ clientIp steadyClock, Alone uuid clientIp steadyClock
      (Relay.step n action).1 (past ++ [machine.entry n action]) := by
  have led := step_led n action uuid
  have events : sessionEvents uuid (past ++ [machine.entry n action]) =
      sessionEvents uuid past ++ ranAt uuid n action :=
    Machine.actsOf_concat _ _ _
  have seen : shownBy uuid
      ((past ++ [machine.entry n action]).flatMap (·.outputs)) =
        shownBy uuid (past.flatMap (·.outputs)) ++
          shownBy uuid (Relay.step n action).2 := by
    rw [List.flatMap_append, List.flatMap_singleton]
    exact List.filterMap_append
  generalize ranAt uuid n action = ran at led events
  generalize shownBy uuid (Relay.step n action).2 = shown at led seen
  cases led with
  | same session unstarted =>
      rw [List.append_nil] at events seen
      refine ⟨clientIp, steadyClock, ?_, ?_, ?_⟩
      · intro now
        rw [events]
        exact alone.unstarted (unstarted now ▸ now)
      · intro s now
        rw [events]
        exact alone.session s (session.symm.trans now)
      · rw [events, seen]
        exact alone.seen
  | launched fd newIp isConnect new absent now =>
      rw [List.append_nil] at events seen
      refine ⟨clientIp, steadyClock, ?_, ?_, ?_⟩
      · intro _
        rw [events]
        exact alone.unstarted (Or.inl absent)
      · rw [now]
        intro s impossible
        cases impossible
      · rw [events, seen]
        exact alone.seen
  | began newIp newClock was claims now started =>
      rw [List.append_nil] at events seen
      have nothing := alone.unstarted (Or.inr ⟨newIp, was⟩)
      refine ⟨newIp, newClock, fun unstarted => absurd unstarted started,
        ?_, ?_⟩
      · intro s isSession
        rw [events, nothing]
        exact (Option.some.inj (now.symm.trans isSession)).symm
      · rw [events, seen, alone.seen, nothing]
        rfl
  | died now =>
      rw [List.append_nil] at events seen
      refine ⟨clientIp, steadyClock, ?_, ?_, ?_⟩
      · rw [now]
        intro unstarted
        exact absurd unstarted not_unstarted_exited
      · rw [now]
        intro s impossible
        cases impossible
      · rw [events, seen]
        exact alone.seen
  | ran s event was now started =>
      refine ⟨clientIp, steadyClock,
        fun unstarted => absurd unstarted started, ?_, ?_⟩
      · intro later isSession
        rw [events, Machine.final_concat, ← alone.session s was]
        exact (Option.some.inj (now.symm.trans isSession)).symm
      · rw [events, seen, Machine.transcript_concat, List.flatMap_append,
          List.flatMap_singleton, alone.seen, ← alone.session s was]
        rfl

theorem alone_of_run [Transport] (Number : Type) [TokenArith Number]
    (maxPerIp : UInt32) (actions : List Action) (uuid : Octets) :
    ∃ clientIp steadyClock, Alone uuid clientIp steadyClock
      (machine.final (create maxPerIp : State Number) actions)
      (machine.history (create maxPerIp) actions) := by
  refine machine.history_rule
    (fun (n : State Number) past => ∃ clientIp steadyClock,
      Alone uuid clientIp steadyClock n past) (create maxPerIp) ?_ ?_ actions
  · refine ⟨[], 0, fun _ => rfl, ?_, rfl⟩
    intro s running
    simp [create, sessionOf] at running
  · rintro n past action ⟨clientIp, steadyClock, alone⟩
    exact alone.step action

/-- After any run of the network there are an address and a clock with which a
session on its own, run on the handlers and the `DeliverSm` calls that the
process has executed, is in the state of the process, if that still runs, and
has shown the others what they have seen, in that order. -/
theorem network_runs_sessions [Transport] (maxPerIp : UInt32)
    (actions : List Action) (uuid : Octets) :
    ∃ clientIp steadyClock,
      let start : Session Number :=
        SmppSession.create (configFor uuid clientIp steadyClock)
      let events := sessionEvents uuid
        (machine.history (create maxPerIp : State Number) actions)
      (∀ peer, (machine.final (create maxPerIp : State Number)
          actions).processes[uuid]? = some (.running peer) →
        peer.session = SmppSession.machine.final start events) ∧
      shownBy uuid
          (machine.emitted (create maxPerIp : State Number) actions) =
        (SmppSession.machine.transcript start events).flatMap shownAt := by
  obtain ⟨clientIp, steadyClock, alone⟩ :=
    alone_of_run Number maxPerIp actions uuid
  refine ⟨clientIp, steadyClock, ?_, alone.seen⟩
  intro peer running
  refine alone.session peer.session ?_
  rw [running]
  rfl

end OpenSmsc.Relay
