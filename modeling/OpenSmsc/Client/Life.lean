/-
The whole life of a session as the bus sees it.

A session makes at most one `Authenticate` call.  If it is accepted there is
one report to the server, and whatever happens there is at most one
`SessionExited`, the last of the three.  So there are five stages of a life,
and the stage determines the state and the identity of the session.
-/

import OpenSmsc.Client.Authorisation

namespace OpenSmsc.SmppSession

open Foundation Smpp

/-! ### Stages -/

structure Login where
  kind : BindKind
  systemId : Octets
  password : Octets
  code : UInt32
  bindTime : UInt64
  deriving DecidableEq, Repr

inductive Stage where
  | fresh
  | bound (login : Login)
  | rejected (systemId password : Octets) (answer : Option (Bool × UInt32))
  | closed (reason : Octets)
  | ended (login : Login) (reason : Octets)
  deriving DecidableEq, Repr

def Stage.state : Stage → SessionState
  | .fresh => .opened
  | .bound login => login.kind.state
  | .rejected _ _ _ => .unbound
  | .closed _ => .unbound
  | .ended _ _ => .unbound

def Stage.identity : Stage → Octets × UInt64
  | .bound login => (login.systemId, login.bindTime)
  | .ended login _ => (login.systemId, login.bindTime)
  | _ => ([], 0)

def Stage.milestones (uuid clientIp : Octets) : Stage → List Effect
  | .fresh => []
  | .bound login =>
      [.callAuthenticate uuid login.systemId login.password clientIp
          (some (true, login.code)),
        .callUpdateSessionDetails uuid login.systemId
          (stateName login.kind.state)]
  | .rejected systemId password answer =>
      [.callAuthenticate uuid systemId password clientIp answer,
        .emitSessionExited uuid (text "auth failed")]
  | .closed reason => [.emitSessionExited uuid reason]
  | .ended login reason =>
      [.callAuthenticate uuid login.systemId login.password clientIp
          (some (true, login.code)),
        .callUpdateSessionDetails uuid login.systemId
          (stateName login.kind.state),
        .emitSessionExited uuid reason]

def isMilestone : Effect → Bool
  | .callAuthenticate _ _ _ _ _ => true
  | .callUpdateSessionDetails _ _ _ => true
  | .emitSessionExited _ _ => true
  | _ => false

def milestones (outputs : List Effect) : List Effect :=
  outputs.filter isMilestone

/-- The event dispatches the bind of the login, and the authenticator accepts
it. -/
def Makes (uuid clientIp : Octets) (login : Login) (event : Event) : Prop :=
  ∃ env hdr body, dispatched event = some (env, hdr, body) ∧
    hdr.commandId = login.kind.commandId ∧
    (bindCredentials body 0).1 = (login.systemId, login.password) ∧
    env.authenticate uuid login.systemId login.password clientIp =
      some (true, login.code) ∧
    env.systemClock = login.bindTime

def Stage.MadeBy (uuid clientIp : Octets) (events : List Event) :
    Stage → Prop
  | .fresh => True
  | .bound login => ∃ event ∈ events, Makes uuid clientIp login event
  | .rejected _ _ answer => answer.map Prod.fst ≠ some true
  | .closed _ => True
  | .ended login _ => ∃ event ∈ events, Makes uuid clientIp login event

/-! ### One step -/

variable {Number : Type}

inductive Advance (s : Session Number) (event : Event)
    (result : Result Number) : Prop
  | nothing (same : result.1.state = s.state ∧
        result.1.systemId = s.systemId ∧ result.1.bindTime = s.bindTime)
      (silent : milestones result.2 = [])
  | binds (login : Login) (wasOpen : s.state = .opened)
      (made : Makes s.uuid s.clientIp login event)
      (after : result.1.state = login.kind.state ∧
        result.1.systemId = login.systemId ∧
        result.1.bindTime = login.bindTime)
      (told : milestones result.2 =
        (Stage.bound login).milestones s.uuid s.clientIp)
  | rejects (systemId password : Octets)
      (answer : Option (Bool × UInt32)) (wasOpen : s.state = .opened)
      (refused : answer.map Prod.fst ≠ some true)
      (after : result.1.state = .unbound ∧
        result.1.systemId = s.systemId ∧ result.1.bindTime = s.bindTime)
      (told : milestones result.2 =
        (Stage.rejected systemId password answer).milestones s.uuid
          s.clientIp)
  | ends (reason : Octets) (wasLive : s.state ≠ .unbound)
      (after : result.1.state = .unbound ∧
        result.1.systemId = s.systemId ∧ result.1.bindTime = s.bindTime)
      (told : milestones result.2 = [.emitSessionExited s.uuid reason])

theorem milestones_append (first second : List Effect) :
    milestones (first ++ second) = milestones first ++ milestones second :=
  List.filter_append ..

theorem Advance.append_quiet {s after : Session Number} {event : Event}
    {outputs extra : List Effect} (advance : Advance s event (after, outputs))
    (quiet : milestones extra = []) :
    Advance s event (after, outputs ++ extra) := by
  have same : milestones (outputs ++ extra) = milestones outputs := by
    rw [milestones_append, quiet, List.append_nil]
  cases advance with
  | nothing unchanged silent => exact .nothing unchanged (same.trans silent)
  | binds login wasOpen made bound told =>
      exact .binds login wasOpen made bound (same.trans told)
  | rejects systemId password answer wasOpen refused ended told =>
      exact .rejects systemId password answer wasOpen refused ended
        (same.trans told)
  | ends reason wasLive ended told =>
      exact .ends reason wasLive ended (same.trans told)

theorem doDisconnect_advance (reason : Octets) (s : Session Number)
    (event : Event) (earlier : List Effect)
    (quiet : milestones earlier = []) :
    Advance s event ((doDisconnect reason s).1,
      earlier ++ (doDisconnect reason s).2) := by
  unfold doDisconnect
  by_cases ended : s.state = .unbound
  · simp only [if_pos ended, List.append_nil]
    exact .nothing ⟨rfl, rfl, rfl⟩ quiet
  · simp only [if_neg ended]
    refine .ends reason ended ⟨rfl, rfl, rfl⟩ ?_
    rw [milestones_append, quiet]
    rfl

theorem handleBind_advance (env : Env) (hdr : Header) (body : Octets)
    (s : Session Number) (event : Event)
    (pdu : dispatched event = some (env, hdr, body))
    (isBind : IsBind hdr.commandId) :
    Advance s event (handleBind env hdr body s) := by
  cases handleBind_answered env hdr body s with
  | alreadyBound notOpen isResult =>
      rw [isResult]
      exact .nothing ⟨rfl, rfl, rfl⟩ rfl
  | refused code wasOpen answered isResult =>
      rw [isResult]
      refine .rejects _ _ (bindAnswer env body s) wasOpen ?_
        ⟨rfl, rfl, rfl⟩ rfl
      intro accepted
      cases answer : bindAnswer env body s with
      | none =>
          rw [answer] at accepted
          contradiction
      | some given =>
          rw [answer, Option.getD_some] at answered
          rw [answer, answered] at accepted
          exact Bool.false_ne_true (Option.some.inj accepted)
  | accepted code wasOpen answered isResult =>
      obtain ⟨kind, isKind⟩ := exists_kind_of_isBind hdr.commandId isBind
      rw [isResult, isKind, kind.boundState_eq]
      refine .binds
        { kind := kind
          systemId := (bindCredentials body 0).1.1
          password := (bindCredentials body 0).1.2
          code := code
          bindTime := env.systemClock } wasOpen ?_ ⟨rfl, rfl, rfl⟩ ?_
      · exact ⟨env, hdr, body, pdu, isKind, rfl, answered, rfl⟩
      · simp only [bindCall, answered]
        rfl

theorem handleSubmitSm_advance [TokenArith Number] (env : Env)
    (hdr : Header) (body : Octets) (s : Session Number) (event : Event) :
    Advance s event (handleSubmitSm env hdr body s) := by
  cases handleSubmitSm_submitted env hdr body s with
  | accepted tokens lastRefill mayTransmit isResult =>
      rw [isResult]
      exact .nothing ⟨rfl, rfl, rfl⟩ rfl
  | refused tokens lastRefill status isError isResult =>
      rw [isResult]
      exact .nothing ⟨rfl, rfl, rfl⟩ rfl

theorem handleEnquireLinkResp_advance (hdr : Header) (s : Session Number)
    (event : Event) : Advance s event (handleEnquireLinkResp hdr s) := by
  unfold handleEnquireLinkResp
  split
  · exact .nothing ⟨rfl, rfl, rfl⟩ rfl
  · exact .nothing ⟨rfl, rfl, rfl⟩ rfl

section Steps

variable [TokenArith Number]

theorem dispatch_advance (env : Env) (hdr : Header) (body : Octets)
    (s : Session Number) (event : Event)
    (pdu : dispatched event = some (env, hdr, body)) :
    Advance s event (dispatch env hdr body s) := by
  cases dispatch_dispatchedTo env hdr body s with
  | bind isBind isResult =>
      rw [isResult]
      exact handleBind_advance env hdr body s event pdu isBind
  | unbind isUnbind isResult =>
      rw [isResult]
      exact doDisconnect_advance _ s event [_] rfl
  | enquireLink isEnquiry isResult =>
      rw [isResult]
      exact .nothing ⟨rfl, rfl, rfl⟩ rfl
  | submitSm isSubmit isResult =>
      rw [isResult]
      exact handleSubmitSm_advance env hdr body s event
  | enquireLinkResp isResponse isResult =>
      rw [isResult]
      exact handleEnquireLinkResp_advance hdr s event
  | deliverSmResp isResponse isResult =>
      rw [isResult]
      exact .nothing ⟨rfl, rfl, rfl⟩ rfl
  | unknown _ _ _ _ _ _ isResult =>
      rw [isResult]
      exact .nothing ⟨rfl, rfl, rfl⟩ rfl

theorem step_advance (s : Session Number) (event : Event) :
    Advance s event (step s event) := by
  cases step_handled s event with
  | idle outputs quiet isResult =>
      rw [isResult]
      refine .nothing ⟨rfl, rfl, rfl⟩ (List.filter_eq_nil_iff.mpr ?_)
      intro effect member
      rcases quiet effect member with ⟨hdr, rfl⟩ | ⟨name, message, rfl⟩ | rfl
      · exact Bool.false_ne_true
      · exact Bool.false_ne_true
      · exact Bool.false_ne_true
  | disconnects reason isResult =>
      rw [isResult]
      exact doDisconnect_advance reason s event [] rfl
  | dispatches env hdr body pdu isResult =>
      rw [isResult]
      exact (dispatch_advance env hdr body s event pdu).append_quiet rfl
  | enquires elSeq live isResult =>
      rw [isResult]
      exact .nothing ⟨rfl, rfl, rfl⟩ rfl
  | delivers srcAddr dstAddr shortMessage mayReceive isResult =>
      rw [isResult]
      exact .nothing ⟨rfl, rfl, rfl⟩ rfl

end Steps

/-! ### Whole lives -/

theorem Stage.eq_fresh {stage : Stage} (isOpen : stage.state = .opened) :
    stage = .fresh := by
  cases stage with
  | fresh => rfl
  | bound login => exact absurd isOpen login.kind.state_ne_opened
  | rejected systemId password answer => cases isOpen
  | closed reason => cases isOpen
  | ended login reason => cases isOpen

def Stage.exit (reason : Octets) : Stage → Stage
  | .bound login => .ended login reason
  | _ => .closed reason

theorem Stage.exit_spec {stage : Stage} (live : stage.state ≠ .unbound)
    (reason : Octets) :
    (stage.exit reason).state = .unbound ∧
      (stage.exit reason).identity = stage.identity ∧
      (∀ uuid clientIp, (stage.exit reason).milestones uuid clientIp =
        stage.milestones uuid clientIp ++ [.emitSessionExited uuid reason]) ∧
      ∀ uuid clientIp events, stage.MadeBy uuid clientIp events →
        (stage.exit reason).MadeBy uuid clientIp events := by
  cases stage with
  | fresh => exact ⟨rfl, rfl, fun _ _ => rfl, fun _ _ _ => id⟩
  | bound login => exact ⟨rfl, rfl, fun _ _ => rfl, fun _ _ _ => id⟩
  | rejected systemId password answer => exact absurd rfl live
  | closed earlier => exact absurd rfl live
  | ended login earlier => exact absurd rfl live

theorem Stage.MadeBy.concat {uuid clientIp : Octets} {events : List Event}
    {stage : Stage} (made : stage.MadeBy uuid clientIp events)
    (event : Event) : stage.MadeBy uuid clientIp (events ++ [event]) := by
  cases stage with
  | fresh => exact made
  | bound login =>
      obtain ⟨earlier, member, makes⟩ := made
      exact ⟨earlier, List.mem_append_left _ member, makes⟩
  | rejected systemId password answer => exact made
  | closed reason => exact made
  | ended login reason =>
      obtain ⟨earlier, member, makes⟩ := made
      exact ⟨earlier, List.mem_append_left _ member, makes⟩

theorem milestones_concat (past : List (SessionEntry Number))
    (entry : SessionEntry Number) :
    milestones ((past ++ [entry]).flatMap (·.outputs)) =
      milestones (past.flatMap (·.outputs)) ++ milestones entry.outputs := by
  rw [List.flatMap_append, milestones_append, List.flatMap_singleton]

/-- The session is at the stage, and the steps so far have told the bus what
belongs to it. -/
structure At (config : Config) (stage : Stage) (s : Session Number)
    (past : List (SessionEntry Number)) : Prop where
  uuid : s.uuid = config.uuid
  clientIp : s.clientIp = config.clientIp
  state : s.state = stage.state
  identity : (s.systemId, s.bindTime) = stage.identity
  told : milestones (past.flatMap (·.outputs)) =
    stage.milestones config.uuid config.clientIp
  made : stage.MadeBy config.uuid config.clientIp (past.map (·.event))

theorem At.step [TokenArith Number] {config : Config} {stage : Stage}
    {s : Session Number} {past : List (SessionEntry Number)}
    (here : At config stage s past) (event : Event) :
    ∃ next, At config next (step s event).1
      (past ++ [machine.entry s event]) := by
  have fixed := step_fixed s event
  have uuid : (SmppSession.step s event).1.uuid = config.uuid :=
    (congrArg (·.1) fixed).trans here.uuid
  have clientIp : (SmppSession.step s event).1.clientIp = config.clientIp :=
    (congrArg (·.2.1) fixed).trans here.clientIp
  have outputs : (machine.entry s event).outputs =
      (SmppSession.step s event).2 := rfl
  have stillMade := here.made.concat event
  have sameEvents : (past ++ [machine.entry s event]).map (·.event) =
      past.map (·.event) ++ [event] := List.map_append
  rw [← sameEvents] at stillMade
  have nothingTold (wasOpen : s.state = .opened) :
      milestones (past.flatMap (·.outputs)) = [] ∧
        s.systemId = [] ∧ s.bindTime = 0 := by
    have isFresh := Stage.eq_fresh (here.state.symm.trans wasOpen)
    have told := here.told
    have identity := here.identity
    rw [isFresh] at told identity
    exact ⟨told, Prod.mk.inj identity⟩
  cases step_advance s event with
  | nothing same silent =>
      refine ⟨stage, uuid, clientIp, same.1.trans here.state, ?_, ?_,
        stillMade⟩
      · rw [same.2.1, same.2.2]
        exact here.identity
      · rw [milestones_concat, outputs, silent, List.append_nil]
        exact here.told
  | binds login wasOpen made after told =>
      refine ⟨.bound login, uuid, clientIp, after.1, ?_, ?_, event, ?_, ?_⟩
      · rw [after.2.1, after.2.2]
        rfl
      · rw [milestones_concat, outputs, (nothingTold wasOpen).1, told,
          here.uuid, here.clientIp]
        rfl
      · rw [sameEvents]
        exact List.mem_append_right _ (List.mem_singleton_self _)
      · rw [← here.uuid, ← here.clientIp]
        exact made
  | rejects systemId password answer wasOpen refused after told =>
      obtain ⟨noneBefore, noId, noTime⟩ := nothingTold wasOpen
      refine ⟨.rejected systemId password answer, uuid, clientIp, after.1,
        ?_, ?_, refused⟩
      · rw [after.2.1, after.2.2, noId, noTime]
        rfl
      · rw [milestones_concat, outputs, noneBefore, told, here.uuid,
          here.clientIp]
        rfl
  | ends reason wasLive after told =>
      rw [here.state] at wasLive
      obtain ⟨state, identity, exits, madeBy⟩ := Stage.exit_spec wasLive reason
      refine ⟨stage.exit reason, uuid, clientIp, after.1.trans state.symm,
        ?_, ?_, madeBy _ _ _ stillMade⟩
      · rw [after.2.1, after.2.2, identity]
        exact here.identity
      · rw [milestones_concat, outputs, here.told, told, exits, here.uuid]

theorem at_some_stage [TokenArith Number] (config : Config)
    (events : List Event) :
    ∃ stage, At config stage
      (machine.final (create config : Session Number) events)
      (machine.history (create config) events) := by
  refine machine.history_rule (fun s past => ∃ stage, At config stage s past)
    (create config) ?_ ?_ events
  · exact ⟨.fresh, rfl, rfl, rfl, rfl, rfl, trivial⟩
  · rintro s past event ⟨stage, here⟩
    exact here.step event

/-- After every run the session is at one of the five stages: its state, its
identity and all it has told the authenticator and the server are those of the
stage, and an accepted login was made by an event of the run. -/
theorem session_life [TokenArith Number] (config : Config)
    (events : List Event) :
    let s : Session Number := machine.final (create config) events
    ∃ stage : Stage,
      milestones (machine.emitted (create config : Session Number) events) =
          stage.milestones config.uuid config.clientIp ∧
        s.state = stage.state ∧
        getSessionInfo s = (config.uuid, config.clientIp, stage.identity.1,
          stateName stage.state, stage.identity.2) ∧
        stage.MadeBy config.uuid config.clientIp events := by
  intro s
  obtain ⟨stage, here⟩ : ∃ stage,
      At config stage s (machine.history (create config) events) :=
    at_some_stage config events
  refine ⟨stage, here.told, here.state, ?_, ?_⟩
  · unfold getSessionInfo
    rw [here.uuid, here.clientIp, here.state, ← here.identity]
  · have made := here.made
    rw [machine.history_events] at made
    exact made

end OpenSmsc.SmppSession
