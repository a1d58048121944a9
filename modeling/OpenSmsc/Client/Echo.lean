/-
Two sessions connected to each other.

Each end dispatches what the other one sends.  A response that has no handler
is answered by a generic_nack, which has no handler either, so one message is
enough to keep the two ends busy for ever.
-/

import Mathlib.Logic.Function.Basic
import OpenSmsc.Client.Answers

namespace OpenSmsc.SmppSession

open Foundation Smpp

inductive Side where
  | left
  | right
  deriving DecidableEq, Repr

def Side.other : Side → Side
  | .left => .right
  | .right => .left

theorem Side.other_ne (side : Side) : side.other ≠ side := by
  cases side <;> decide

theorem Side.eq_other {side different : Side} (ne : different ≠ side) :
    different = side.other := by
  cases side <;> cases different <;> first | rfl | exact absurd rfl ne

/-- Two ends and the PDUs under way to each of them. -/
structure Peers (Number : Type) where
  session : Side → Session Number
  inbox : Side → List Octets

section Exchange

variable {Number : Type} [TokenArith Number]

/-- An end dispatches the next PDU that reached it; nothing is read from a
closed descriptor. -/
def Peers.receive (p : Peers Number) (side : Side) (env : Env) :
    Peers Number × List Octets :=
  match p.inbox side with
  | [] => (p, [])
  | pdu :: rest =>
      if (p.session side).state = .unbound then (p, [])
      else
        let (after, outputs) :=
          dispatch env (decodeHeader pdu) (pdu.drop 16) (p.session side)
        ({ session := Function.update p.session side after
           inbox := fun receiver =>
            if receiver = side then rest
            else p.inbox receiver ++ sentPdus outputs },
          sentPdus outputs)

/-- The outputs of a run are the PDUs exchanged.  An event says which end
reads next. -/
def peers : Machine (Peers Number) (Side × Env) Octets :=
  { step := fun p event => p.receive event.1 event.2 }

/-- The PDUs under way all go to one end. -/
def flight (session : Side → Session Number) (side : Side)
    (pdus : List Octets) : Peers Number :=
  { session := session
    inbox := fun receiver => if receiver = side then pdus else [] }

def inject (left right : Session Number) (message : Pdu) : Peers Number :=
  flight (fun | .left => left | .right => right) .left [message.val]

/-! ### Steps -/

theorem flight_other_still (session : Side → Session Number) (side : Side)
    (pdus : List Octets) (receiver : Side) (env : Env)
    (different : receiver ≠ side) :
    peers.step (flight session side pdus) (receiver, env) =
      (flight session side pdus, []) := by
  have empty : (flight session side pdus).inbox receiver = [] :=
    if_neg different
  simp only [peers, Peers.receive, empty]

theorem flight_empty_still (session : Side → Session Number) (side : Side)
    (event : Side × Env) :
    peers.step (flight session side []) event =
      (flight session side [], []) := by
  have empty : (flight session side []).inbox event.1 = [] := ite_self _
  simp only [peers, Peers.receive, empty]

theorem flight_closed_still (session : Side → Session Number) (side : Side)
    (pdus : List Octets) (closed : (session side).state = .unbound)
    (event : Side × Env) :
    peers.step (flight session side pdus) event =
      (flight session side pdus, []) := by
  rcases event with ⟨receiver, env⟩
  by_cases same : receiver = side
  · subst same
    cases pdus with
    | nil => exact flight_empty_still session receiver (receiver, env)
    | cons pdu rest =>
        have next : (flight session receiver (pdu :: rest)).inbox receiver =
            pdu :: rest := if_pos rfl
        simp only [peers, Peers.receive, next]
        exact if_pos closed
  · exact flight_other_still session side pdus receiver env same

theorem flight_step (session : Side → Session Number) (side : Side)
    (pdu : Octets) (env : Env) (live : (session side).state ≠ .unbound) :
    peers.step (flight session side [pdu]) (side, env) =
      let (after, outputs) :=
        dispatch env (decodeHeader pdu) (pdu.drop 16) (session side)
      (flight (Function.update session side after) side.other
        (sentPdus outputs), sentPdus outputs) := by
  have next : (flight session side [pdu]).inbox side = [pdu] := if_pos rfl
  simp only [peers, Peers.receive, next]
  rw [if_neg (by exact live)]
  refine Prod.ext ?_ rfl
  simp only [flight, Peers.mk.injEq, true_and]
  funext receiver
  by_cases same : receiver = side
  · subst same
    rw [if_pos rfl, if_neg receiver.other_ne.symm]
  · rw [if_neg same, if_neg same, if_pos (Side.eq_other same),
      List.nil_append]

/-! ### Exchanges that end -/

theorem dispatch_sent_length (env : Env) (hdr : Header) (body : Octets)
    (s : Session Number) :
    (sentPdus (dispatch env hdr body s).2).length ≤ 1 := by
  by_cases known : IsKnownResponse hdr.commandId
  · rw [dispatch_known_sent env hdr body s known]
    exact Nat.zero_le 1
  · obtain ⟨status, systemId, sent, _⟩ :=
      dispatch_replied env hdr body s known
    rw [sent]
    exact Nat.le_refl 1

theorem flight_within (session : Side → Session Number) (side : Side)
    (pdu : Octets) (bound : Nat)
    (later : ∀ env, peers.OutputsWithin bound
      (flight
        (Function.update session side
          (dispatch env (decodeHeader pdu) (pdu.drop 16) (session side)).1)
        side.other
        (sentPdus (dispatch env (decodeHeader pdu) (pdu.drop 16)
          (session side)).2))) :
    peers.OutputsWithin (bound + 1) (flight session side [pdu]) := by
  refine peers.outputsWithin_succ bound _ ?_
  rintro ⟨receiver, env⟩
  by_cases closed : (session side).state = .unbound
  · exact Or.inl (flight_closed_still session side [pdu] closed _)
  · by_cases same : receiver = side
    · subst same
      refine Or.inr ?_
      rw [flight_step session receiver pdu env closed]
      exact ⟨dispatch_sent_length env _ _ _, later env⟩
    · exact Or.inl (flight_other_still session side [pdu] receiver env same)

theorem flight_closed_within (session : Side → Session Number) (side : Side)
    (pdus : List Octets) (closed : (session side).state = .unbound) :
    peers.OutputsWithin 0 (flight session side pdus) :=
  peers.outputsWithin_still _ (flight_closed_still session side pdus closed)

theorem flight_known_within (session : Side → Session Number) (side : Side)
    (pdu : Octets) (known : IsKnownResponse (decodeHeader pdu).commandId) :
    peers.OutputsWithin 1 (flight session side [pdu]) := by
  refine flight_within session side pdu 0 fun env => ?_
  rw [dispatch_known_sent env _ _ _ known]
  exact peers.outputsWithin_still _ (flight_empty_still _ _)

theorem flight_lonely_within (session : Side → Session Number) (side : Side)
    (pdu : Octets) (closed : (session side.other).state = .unbound) :
    peers.OutputsWithin 1 (flight session side [pdu]) := by
  refine flight_within session side pdu 0 fun env => ?_
  refine flight_closed_within _ side.other _ ?_
  rw [Function.update_of_ne side.other_ne]
  exact closed

theorem flight_enquireLink_within (session : Side → Session Number)
    (side : Side) (pdu : Octets)
    (isEnquiry : (decodeHeader pdu).commandId = Smpp.enquireLink) :
    peers.OutputsWithin 2 (flight session side [pdu]) := by
  refine flight_within session side pdu 1 fun env => ?_
  have unknown : ¬IsKnownResponse (decodeHeader pdu).commandId := by
    rw [isEnquiry]
    decide
  obtain ⟨status, systemId, sent, _⟩ :=
    dispatch_replied env _ (pdu.drop 16) (session side) unknown
  rw [sent]
  refine flight_known_within _ side.other _ ?_
  rw [decodeHeader_makeResponse, isEnquiry]
  exact (by decide : IsKnownResponse (answerId Smpp.enquireLink))

/-- An unbind closes the end that answers it, so the answer to the answer is
not read. -/
theorem flight_unbind_within (session : Side → Session Number)
    (side : Side) (pdu : Octets)
    (isUnbind : (decodeHeader pdu).commandId = Smpp.unbind) :
    peers.OutputsWithin 2 (flight session side [pdu]) := by
  refine flight_within session side pdu 1 fun env => ?_
  have unknown : ¬IsKnownResponse (decodeHeader pdu).commandId := by
    rw [isUnbind]
    decide
  obtain ⟨status, systemId, sent, _⟩ :=
    dispatch_replied env _ (pdu.drop 16) (session side) unknown
  rw [sent]
  refine flight_lonely_within _ side.other _ ?_
  have back : side.other.other = side := by cases side <;> rfl
  rw [back, Function.update_self]
  rw [dispatch_unbind env _ _ _ isUnbind]
  exact doDisconnect_state _ _

/-! ### Exchanges that do not -/

theorem genericNack_unlisted : IsUnlistedResponse genericNack :=
  ⟨by decide, by decide⟩

theorem echo_forever (session : Side → Session Number) (side : Side)
    (pdu : Octets) (count : Nat)
    (live : ∀ receiver, (session receiver).state ≠ .unbound)
    (unlisted : IsUnlistedResponse (decodeHeader pdu).commandId) :
    ∃ schedule,
      (peers.emitted (flight session side [pdu]) schedule).length =
        count := by
  induction count generalizing session side pdu with
  | zero => exact ⟨[], rfl⟩
  | succ count ih =>
      let env : Env :=
        { authenticate := fun _ _ _ _ => none
          systemClock := 0
          steadyClock := 0 }
      let nack := makeResponse genericNack esmeRinvcmdid
        (decodeHeader pdu).sequenceNumber
      have nackUnlisted :
          IsUnlistedResponse (decodeHeader nack).commandId := by
        rw [decodeHeader_makeResponse]
        exact genericNack_unlisted
      obtain ⟨schedule, later⟩ :=
        ih session side.other nack live nackUnlisted
      refine ⟨(side, env) :: schedule, ?_⟩
      rw [peers.emitted_cons, flight_step session side pdu env (live side),
        dispatch_of_unlisted env _ _ _ unlisted]
      dsimp only
      rw [Function.update_eq_self, List.length_append]
      change 1 + (peers.emitted (flight session side.other [nack])
        schedule).length = _
      rw [later, Nat.add_comm]

def EndsExchange (commandId : UInt32) : Prop :=
  commandId = Smpp.unbind ∨ commandId = Smpp.enquireLink ∨
    IsKnownResponse commandId

theorem answerId_unlisted (commandId : UInt32)
    (goesOn : ¬EndsExchange commandId) :
    IsUnlistedResponse (answerId commandId) := by
  refine ⟨isResponseId_answerId commandId, ?_⟩
  by_cases served : IsServed commandId
  · rcases served with (rfl | rfl | rfl) | rfl | rfl | rfl
    · decide
    · decide
    · decide
    · exact absurd (Or.inl rfl) goesOn
    · exact absurd (Or.inr (Or.inl rfl)) goesOn
    · decide
  · rw [answerId, if_neg served]
    exact genericNack_unlisted.2

theorem dispatch_stays_open (hdr : Header) (body : Octets)
    (s : Session Number) (live : s.state ≠ .unbound)
    (notUnbind : hdr.commandId ≠ Smpp.unbind) (env : Env)
    (accepts : ∀ uuid sid pass ip,
      env.authenticate uuid sid pass ip = some (true, 0)) :
    (dispatch env hdr body s).1.state ≠ .unbound := by
  cases dispatch_dispatchedTo env hdr body s with
  | bind isBind isResult =>
      rw [isResult]
      cases handleBind_answered env hdr body s with
      | alreadyBound notOpen isAnswer =>
          rw [isAnswer]
          exact live
      | refused code wasOpen answered isAnswer =>
          rw [bindAnswer, accepts] at answered
          cases answered
      | accepted code wasOpen answered isAnswer =>
          rw [isAnswer]
          exact boundState_live hdr.commandId isBind .opened
  | unbind isUnbind isResult => exact absurd isUnbind notUnbind
  | enquireLink isEnquiry isResult =>
      rw [isResult]
      exact live
  | submitSm isSubmit isResult =>
      rw [isResult]
      cases handleSubmitSm_submitted env hdr body s with
      | accepted tokens lastRefill mayTransmit isAnswer =>
          rw [isAnswer]
          exact live
      | refused tokens lastRefill status isError isAnswer =>
          rw [isAnswer]
          exact live
  | enquireLinkResp isResponse isResult =>
      rw [isResult]
      unfold handleEnquireLinkResp
      split <;> exact live
  | deliverSmResp isResponse isResult =>
      rw [isResult]
      exact live
  | unknown _ _ _ _ _ _ isResult =>
      rw [isResult]
      exact live

theorem exchange_forever (session : Side → Session Number) (side : Side)
    (message : Octets) (count : Nat)
    (live : ∀ receiver, (session receiver).state ≠ .unbound)
    (goesOn : ¬EndsExchange (decodeHeader message).commandId) :
    ∃ schedule,
      count ≤
        (peers.emitted (flight session side [message]) schedule).length := by
  let env : Env :=
    { authenticate := fun _ _ _ _ => some (true, 0)
      systemClock := 0
      steadyClock := 0 }
  have unknown : ¬IsKnownResponse (decodeHeader message).commandId :=
    fun known => goesOn (Or.inr (Or.inr known))
  have staysOpen := dispatch_stays_open (decodeHeader message)
    (message.drop 16) (session side) (live side)
    (fun isUnbind => goesOn (Or.inl isUnbind)) env (fun _ _ _ _ => rfl)
  obtain ⟨status, systemId, sent, _⟩ :=
    dispatch_replied env (decodeHeader message) (message.drop 16)
      (session side) unknown
  let answer := makeResponse (answerId (decodeHeader message).commandId)
    status (decodeHeader message).sequenceNumber systemId
  have unlisted : IsUnlistedResponse (decodeHeader answer).commandId := by
    rw [decodeHeader_makeResponse]
    exact answerId_unlisted _ goesOn
  have bothLive : ∀ receiver, (Function.update session side
      (dispatch env (decodeHeader message) (message.drop 16)
        (session side)).1 receiver).state ≠ .unbound := by
    intro receiver
    by_cases same : receiver = side
    · subst same
      rw [Function.update_self]
      exact staysOpen
    · rw [Function.update_of_ne same]
      exact live receiver
  obtain ⟨schedule, later⟩ :=
    echo_forever _ side.other answer count bothLive unlisted
  refine ⟨(side, env) :: schedule, ?_⟩
  rw [peers.emitted_cons,
    flight_step session side message env (live side), List.length_append]
  dsimp only
  rw [sent]
  change count ≤ 1 + (peers.emitted (flight _ side.other [answer])
    schedule).length
  omega

/-! ### Responses to responses -/

/-- Which responses are answered, and which exchanges end.  In every state of
a session a response is taken in silence exactly when it is enquire_link_resp
or deliver_sm_resp.  Between two connected sessions the number of PDUs that
follow one injected PDU is bounded, over all orders of delivery and all
answers from outside, exactly when one end is closed already or the PDU is an
unbind, an enquire_link or one of these two responses. -/
theorem response_exchange_iff :
    (∀ (s : Session Number) (env : Env) (hdr : Header) (body : Octets),
        isResponseId hdr.commandId = true →
        (sentPdus (dispatch env hdr body s).2 = [] ↔
          IsKnownResponse hdr.commandId)) ∧
      (∀ (left right : Session Number) (message : Pdu),
        (∃ bound, peers.OutputsWithin bound (inject left right message)) ↔
          left.state = .unbound ∨ right.state = .unbound ∨
            EndsExchange (decodeHeader message.val).commandId) := by
  refine ⟨?_, ?_⟩
  · intro s env hdr body isResponse
    constructor
    · intro silent
      by_contra unknown
      rw [dispatch_of_unlisted env hdr body s ⟨isResponse, unknown⟩] at silent
      contradiction
    · exact dispatch_known_sent env hdr body s
  · intro left right message
    constructor
    · rintro ⟨bound, within⟩
      by_contra neither
      rw [not_or, not_or] at neither
      obtain ⟨leftLive, rightLive, goesOn⟩ := neither
      obtain ⟨schedule, many⟩ := exchange_forever
        (fun | .left => left | .right => right) .left message.val (bound + 1)
        (by intro receiver; cases receiver <;> assumption) goesOn
      have few := within schedule
      unfold inject at few
      omega
    · rintro (leftClosed | rightClosed | isUnbind | isEnquiry | known)
      · exact ⟨0, flight_closed_within _ .left _ leftClosed⟩
      · exact ⟨1, flight_lonely_within _ .left _ rightClosed⟩
      · exact ⟨2, flight_unbind_within _ .left _ isUnbind⟩
      · exact ⟨2, flight_enquireLink_within _ .left _ isEnquiry⟩
      · exact ⟨1, flight_known_within _ .left _ known⟩

/-- Two new sessions, and one generic_nack to one of them: it is answered by a
generic_nack, and any number of PDUs is exchanged. -/
theorem genericNack_echoes :
    let s : Session Float :=
      create
        { uuid := text "a1"
          clientIp := text "10.0.0.1" }
    let nack := makeResponse genericNack esmeRinvcmdid 7
    (∀ env, sentPdus (dispatch env (decodeHeader nack) (nack.drop 16) s).2 =
        [nack]) ∧
      ∀ count, ∃ schedule,
        (peers.emitted (inject s s ⟨nack, by decide⟩) schedule).length =
          count := by
  intro s nack
  have header : decodeHeader nack =
      { commandLength := 16
        commandId := genericNack
        commandStatus := esmeRinvcmdid
        sequenceNumber := 7 } :=
    decodeHeader_makeResponse _ _ _ _
  have unlisted : IsUnlistedResponse (decodeHeader nack).commandId := by
    rw [header]
    exact genericNack_unlisted
  refine ⟨?_, ?_⟩
  · intro env
    rw [dispatch_of_unlisted env _ _ s unlisted, header]
    rfl
  · intro count
    refine echo_forever _ .left nack count ?_ unlisted
    intro receiver
    cases receiver <;> exact (by decide : SessionState.opened ≠ .unbound)

end Exchange

end OpenSmsc.SmppSession
