/-
The read loop of a session over the octets its peer sends.

`read_header`, `on_header`, `read_body` and `on_body` start each other through
the reads they ask for.  Driven over a stream that ends with the close of the
peer, they dispatch the frames of the stream, one after the other, and stop in
the state unbound.
-/

import Mathlib.Data.List.Infix
import OpenSmsc.Foundation.Framing
import OpenSmsc.Client.SocketUse

namespace OpenSmsc.SmppSession

open Foundation Smpp

/-! ### Reads -/

inductive PendingRead where
  | header
  | body (hdr : Header)
  deriving DecidableEq, Repr

def pendingOf : Effect → Option PendingRead
  | .asyncReadHeader => some .header
  | .asyncReadBody hdr => some (.body hdr)
  | _ => none

/-- A session, what is still to be read of its peer's octets, and the read it
waits for.  No further octets follow the stream. -/
structure Reading (Number : Type) where
  session : Session Number
  stream : Octets
  isOpen : Bool
  pending : Option PendingRead

variable {Number : Type}

/-- `async_read` gives exactly the octets asked for or an error, and always an
error on a closed descriptor. -/
def asyncRead (count : Nat) (r : Reading Number) : ReadResult × Octets :=
  if r.isOpen = false then (.error (text "Bad file descriptor"), r.stream)
  else if count ≤ r.stream.length then
    (.ok (r.stream.take count), r.stream.drop count)
  else (.error (text "End of file"), [])

section Loop

variable [TokenArith Number]

/-- The handler that runs when the pending read completes, and the octets it
leaves. -/
def completion (env : Env) (r : Reading Number) : Option (Event × Octets) :=
  match r.pending with
  | none => none
  | some .header =>
      let (result, rest) := asyncRead 16 r
      some (.onHeader env result, rest)
  | some (.body hdr) =>
      let (result, rest) := asyncRead (hdr.commandLength - 16).toNat r
      some (.onBody env hdr result, rest)

/-- The loop after a handler has run: the descriptor may be closed, and the
next read is the one the handler asked for. -/
def Reading.advance (r : Reading Number) (rest : Octets)
    (result : Result Number) : Reading Number :=
  { session := result.1
    stream := rest
    isOpen := r.isOpen && !decide (Effect.closeSocket ∈ result.2)
    pending := result.2.findSome? pendingOf }

/-- One completed read per step; an output is the event the session took. -/
def readLoop : Machine (Reading Number) Env Event :=
  { step := fun r env =>
      match completion env r with
      | none => (r, [])
      | some (event, rest) =>
          (r.advance rest (step r.session event), [event]) }

def startReading (config : Config) (stream : Octets) : Reading Number :=
  { session := create config
    stream := stream
    isOpen := true
    pending := (start (create config : Session Number)).findSome? pendingOf }

/-! ### Frames -/

def pduLayout : Layout UInt8 :=
  { headSize := 16
    positive := by decide
    total := fun head => (decodeHeader head).commandLength.toNat }

/-- The PDUs of a stream: cut after `command_length` octets, again and again,
up to an incomplete or impossible one. -/
def pduFrames (stream : Octets) : List (Header × Octets) :=
  (pduLayout.frames stream).map fun frame => (decodeHeader frame.1, frame.2)

def dispatchedPdus (events : List Event) : List (Header × Octets) :=
  events.filterMap fun event => (dispatched event).map (·.2)

theorem pduFrames_append (head body rest : Octets)
    (isFrame : pduLayout.IsFrame head body) :
    pduFrames (head ++ (body ++ rest)) =
      (decodeHeader head, body) :: pduFrames rest := by
  rw [pduFrames, pduLayout.frames_append head body rest isFrame]
  rfl

theorem pduFrames_spec (stream : Octets) :
    (∀ frame ∈ pduFrames stream,
        frame.1.commandLength.toNat = 16 + frame.2.length) ∧
      (pduFrames stream).flatMap
          (fun frame => writeHeader frame.1 ++ frame.2) <+: stream := by
  obtain ⟨isFrames, rest, whole, _⟩ := pduLayout.frames_spec stream
  refine ⟨?_, rest, ?_⟩
  · intro frame member
    obtain ⟨raw, rawMember, rfl⟩ := List.mem_map.mp member
    exact (isFrames raw rawMember).2
  · have same : (pduFrames stream).flatMap
        (fun frame => writeHeader frame.1 ++ frame.2) =
        (pduLayout.frames stream).flatMap
          (fun frame => frame.1 ++ frame.2) := by
      rw [pduFrames, List.flatMap_map]
      refine List.flatMap_congr ?_
      intro raw member
      rw [writeHeader_decodeHeader raw.1 (isFrames raw member).1]
    rw [same]
    exact whole.symm

/-! ### One frame -/

/-- What a run of the loop over a stream must come to. -/
structure Served (s : Session Number) (stream : Octets)
    (events : List Event) : Prop where
  frames : dispatchedPdus events <+: pduFrames stream
  live : ∀ entry ∈ machine.history s events,
    (dispatched entry.event).isSome → entry.before.state ≠ .unbound
  complete : dispatchedPdus events = pduFrames stream ∨
    ∃ entry ∈ machine.history s events,
      (dispatched entry.event).isSome ∧ entry.after.state = .unbound
  ended : (machine.final s events).state = .unbound

theorem dispatchedPdus_cons_none (event : Event) (events : List Event)
    (quiet : dispatched event = none) :
    dispatchedPdus (event :: events) = dispatchedPdus events := by
  simp [dispatchedPdus, quiet]

theorem dispatchedPdus_cons_some (event : Event) (events : List Event)
    (env : Env) (hdr : Header) (body : Octets)
    (pdu : dispatched event = some (env, hdr, body)) :
    dispatchedPdus (event :: events) =
      (hdr, body) :: dispatchedPdus events := by
  simp [dispatchedPdus, pdu]

theorem served_nothing (s : Session Number) (stream : Octets) (event : Event)
    (quiet : dispatched event = none)
    (ended : (step s event).1.state = .unbound)
    (empty : pduFrames stream = []) : Served s stream [event] := by
  have none : dispatchedPdus [event] = [] :=
    dispatchedPdus_cons_none event [] quiet
  refine ⟨?_, ?_, Or.inl (none.trans empty.symm), ended⟩
  · rw [none]
    exact List.nil_prefix
  · intro entry member isSome
    rw [List.mem_singleton.mp member] at isSome
    change (dispatched event).isSome = true at isSome
    rw [quiet] at isSome
    contradiction

theorem Served.cons_quiet {s : Session Number} {stream : Octets}
    {events : List Event} (served : Served s stream events) (event : Event)
    (quiet : dispatched event = none) (same : (step s event).1 = s) :
    Served s stream (event :: events) := by
  have later : machine.history s (event :: events) =
      machine.entry s event :: machine.history s events := by
    change _ :: machine.history (step s event).1 events = _
    rw [same]
  have sameEnd : machine.final s (event :: events) =
      machine.final s events := by
    change machine.final (step s event).1 events = _
    rw [same]
  refine ⟨?_, ?_, ?_, ?_⟩
  · rw [dispatchedPdus_cons_none event events quiet]
    exact served.frames
  · intro entry member isSome
    rw [later] at member
    rcases List.mem_cons.mp member with first | rest
    · rw [first] at isSome
      change (dispatched event).isSome = true at isSome
      rw [quiet] at isSome
      contradiction
    · exact served.live entry rest isSome
  · rw [dispatchedPdus_cons_none event events quiet, later]
    rcases served.complete with all | ⟨entry, member, closes⟩
    · exact Or.inl all
    · exact Or.inr ⟨entry, List.mem_cons_of_mem _ member, closes⟩
  · rw [sameEnd]
    exact served.ended

theorem Served.cons_frame {s : Session Number} {head body rest : Octets}
    {events : List Event} {event : Event} {env : Env}
    (served : Served (step s event).1 rest events)
    (isFrame : pduLayout.IsFrame head body)
    (pdu : dispatched event = some (env, decodeHeader head, body))
    (live : s.state ≠ .unbound) :
    Served s (head ++ (body ++ rest)) (event :: events) := by
  have later : machine.history s (event :: events) =
      machine.entry s event ::
        machine.history (step s event).1 events := rfl
  refine ⟨?_, ?_, ?_, served.ended⟩
  · rw [dispatchedPdus_cons_some event events env _ _ pdu,
      pduFrames_append head body rest isFrame]
    exact (List.prefix_cons_inj _).mpr served.frames
  · intro entry member isSome
    rw [later] at member
    rcases List.mem_cons.mp member with first | rest
    · rw [first]
      exact live
    · exact served.live entry rest isSome
  · rw [dispatchedPdus_cons_some event events env _ _ pdu,
      pduFrames_append head body rest isFrame, later]
    rcases served.complete with all | ⟨entry, member, closes⟩
    · exact Or.inl (congrArg _ all)
    · exact Or.inr ⟨entry, List.mem_cons_of_mem _ member, closes⟩

theorem served_last (s : Session Number) (head body rest : Octets)
    (event failed : Event) (env : Env)
    (isFrame : pduLayout.IsFrame head body)
    (pdu : dispatched event = some (env, decodeHeader head, body))
    (quiet : dispatched failed = none) (live : s.state ≠ .unbound)
    (closes : (step s event).1.state = .unbound)
    (stays : (step (step s event).1 failed).1.state = .unbound) :
    Served s (head ++ (body ++ rest)) [event, failed] := by
  refine ⟨?_, ?_, ?_, stays⟩
  · rw [dispatchedPdus_cons_some event _ env _ _ pdu,
      dispatchedPdus_cons_none failed [] quiet,
      pduFrames_append head body rest isFrame]
    exact (List.prefix_cons_inj _).mpr List.nil_prefix
  · intro entry member isSome
    rcases List.mem_cons.mp member with first | second
    · rw [first]
      exact live
    · rw [List.mem_singleton.mp second] at isSome
      change (dispatched failed).isSome = true at isSome
      rw [quiet] at isSome
      contradiction
  · refine Or.inr ⟨machine.entry s event, List.mem_cons_self, ?_, closes⟩
    change (dispatched event).isSome = true
    rw [pdu]
    rfl

/-! ### Steps of the loop -/

def ready (s : Session Number) (stream : Octets) : Reading Number :=
  { session := s
    stream := stream
    isOpen := true
    pending := some .header }

omit [TokenArith Number] in
theorem doDisconnect_pending (reason : Octets) (s : Session Number) :
    (doDisconnect reason s).2.findSome? pendingOf = none := by
  unfold doDisconnect
  split <;> rfl

theorem dispatch_pending (env : Env) (hdr : Header) (body : Octets)
    (s : Session Number) :
    (dispatch env hdr body s).2.findSome? pendingOf = none := by
  cases dispatch_dispatchedTo env hdr body s with
  | bind isBind isResult =>
      rw [isResult]
      cases handleBind_answered env hdr body s with
      | alreadyBound notOpen isAnswer => rw [isAnswer]; rfl
      | refused code wasOpen answered isAnswer => rw [isAnswer]; rfl
      | accepted code wasOpen answered isAnswer => rw [isAnswer]; rfl
  | unbind isUnbind isResult =>
      rw [isResult]
      exact doDisconnect_pending _ s
  | enquireLink isEnquiry isResult => rw [isResult]; rfl
  | submitSm isSubmit isResult =>
      rw [isResult]
      cases handleSubmitSm_submitted env hdr body s with
      | accepted tokens lastRefill mayTransmit isAnswer => rw [isAnswer]; rfl
      | refused tokens lastRefill status isError isAnswer =>
          rw [isAnswer]
          rfl
  | enquireLinkResp isResponse isResult =>
      rw [isResult]
      unfold handleEnquireLinkResp
      split <;> rfl
  | deliverSmResp isResponse isResult => rw [isResult]; rfl
  | unknown _ _ _ _ _ _ isResult => rw [isResult]; rfl

theorem dispatchAndRead_pending (env : Env) (hdr : Header) (body : Octets)
    (s : Session Number) :
    (dispatchAndRead env hdr body s).2.findSome? pendingOf =
      some .header := by
  rw [dispatchAndRead, List.findSome?_append, dispatch_pending]
  rfl

theorem readLoop_stopped (r : Reading Number) (stopped : r.pending = none)
    (envs : List Env) :
    readLoop.final r envs = r ∧ readLoop.emitted r envs = [] := by
  have still (env : Env) : readLoop.step r env = (r, []) := by
    simp only [readLoop, completion, stopped]
  induction envs with
  | nil => exact ⟨rfl, rfl⟩
  | cons env rest ih =>
      rw [readLoop.emitted_cons]
      change readLoop.final (readLoop.step r env).1 rest = r ∧ _
      rw [still env]
      exact ih

theorem advance_disconnected (r : Reading Number) (rest : Octets)
    (event : Event) (reason : Octets)
    (disconnects : step r.session event = doDisconnect reason r.session) :
    (r.advance rest (step r.session event)).pending = none ∧
      (step r.session event).1.state = .unbound := by
  rw [disconnects]
  exact ⟨doDisconnect_pending reason r.session,
    doDisconnect_state reason r.session⟩

theorem advance_dispatched (r : Reading Number) (rest : Octets)
    (event : Event) (env : Env) (hdr : Header) (body : Octets)
    (pdu : dispatched event = some (env, hdr, body))
    (isOpen : r.isOpen = true) (live : r.session.state ≠ .unbound) :
    r.advance rest (step r.session event) =
      { session := (step r.session event).1
        stream := rest
        isOpen := !decide ((step r.session event).1.state = .unbound)
        pending := some .header } := by
  have closes : Effect.closeSocket ∈ (step r.session event).2 ↔
      (step r.session event).1.state = .unbound :=
    (step_closes_iff r.session event).trans (and_iff_right live)
  have next : (step r.session event).2.findSome? pendingOf =
      some .header := by
    rw [step_of_dispatched r.session event env hdr body pdu]
    exact dispatchAndRead_pending env hdr body r.session
  unfold Reading.advance
  rw [next, isOpen, Bool.true_and, decide_eq_decide.mpr closes]

inductive HeaderRead (env : Env) (s : Session Number) (stream : Octets)
    (next : Reading Number × List Event) : Prop
  | stops (event : Event) (r : Reading Number)
      (quiet : dispatched event = none)
      (ended : (step s event).1.state = .unbound)
      (noFrame : pduFrames stream = []) (stopped : r.pending = none)
      (isNext : next = (r, [event]))
  | dispatches (event : Event) (head rest : Octets)
      (isFrame : pduLayout.IsFrame head [])
      (whole : stream = head ++ ([] ++ rest))
      (pdu : dispatched event = some (env, decodeHeader head, []))
      (isNext : next =
        ((ready s stream).advance rest (step s event), [event]))
  | announces (event : Event) (head tail : Octets)
      (headLength : head.length = 16) (whole : stream = head ++ tail)
      (hasBody : 16 < (decodeHeader head).commandLength.toNat)
      (quiet : dispatched event = none) (same : (step s event).1 = s)
      (isNext : next =
        ({ session := s
           stream := tail
           isOpen := true
           pending := some (.body (decodeHeader head)) }, [event]))

theorem pduFrames_of_none (stream : Octets)
    (missing : pduLayout.first? stream = none) : pduFrames stream = [] := by
  rw [pduFrames, pduLayout.frames_of_none stream missing]
  rfl

theorem ready_step (env : Env) (s : Session Number) (stream : Octets) :
    HeaderRead env s stream (readLoop.step (ready s stream) env) := by
  by_cases short : stream.length < 16
  · -- end of file inside the header
    let event : Event := .onHeader env (.error (text "End of file"))
    have isStep : readLoop.step (ready s stream) env =
        ((ready s stream).advance [] (step s event), [event]) := by
      simp only [readLoop, completion, ready, asyncRead,
        Bool.true_eq_false, if_false, if_neg (Nat.not_le.mpr short)]
      rfl
    obtain ⟨stopped, ended⟩ :=
      advance_disconnected (ready s stream) [] event _ rfl
    exact .stops event _ rfl ended
      (pduFrames_of_none stream (if_pos short)) stopped isStep
  have isHead : (stream.take 16).length = 16 := by
    rw [List.length_take]
    omega
  have whole : stream = stream.take 16 ++ stream.drop 16 :=
    (List.take_append_drop 16 stream).symm
  let event : Event := .onHeader env (.ok (stream.take 16))
  have isStep : readLoop.step (ready s stream) env =
      ((ready s stream).advance (stream.drop 16) (step s event),
        [event]) := by
    simp only [readLoop, completion, ready, asyncRead, Bool.true_eq_false,
      if_false, if_pos (Nat.not_lt.mp short)]
    rfl
  by_cases small : (decodeHeader (stream.take 16)).commandLength < 16
  · -- a length that does not cover the header
    have disconnects : step s event =
        doDisconnect (text "invalid PDU length") s := if_pos small
    obtain ⟨stopped, ended⟩ :=
      advance_disconnected (ready s stream) (stream.drop 16) event _
        disconnects
    have announced : pduLayout.total (stream.take 16) < 16 :=
      UInt32.lt_iff_toNat_lt.mp small
    refine .stops event _ ?_ ended (pduFrames_of_none stream ?_) stopped
      isStep
    · have notHeaderOnly :
          (decodeHeader (stream.take 16)).commandLength ≠ 16 := by
        intro equal
        rw [equal] at small
        exact absurd small (by decide)
      exact if_neg notHeaderOnly
    · exact (if_neg short).trans (if_pos announced)
  have atLeast : 16 ≤ (decodeHeader (stream.take 16)).commandLength.toNat :=
    Nat.not_lt.mp fun below => small (UInt32.lt_iff_toNat_lt.mpr below)
  by_cases headerOnly :
      (decodeHeader (stream.take 16)).commandLength = 16
  · refine .dispatches event (stream.take 16) (stream.drop 16)
      ⟨isHead, ?_⟩ whole ?_ isStep
    · exact congrArg UInt32.toNat headerOnly
    · exact if_pos headerOnly
  · have differs :
        (decodeHeader (stream.take 16)).commandLength.toNat ≠ 16 :=
      fun equal => headerOnly (UInt32.toNat_inj.mp equal)
    have bodyFollows :
        ¬(decodeHeader (stream.take 16)).commandLength - 16 = 0 := by
      intro zero
      have added := congrArg (· + 16) zero
      exact headerOnly (by simpa using added)
    have asksBody : step s event =
        (s, [.asyncReadBody (decodeHeader (stream.take 16))]) :=
      (if_neg small).trans (if_neg bodyFollows)
    refine .announces event (stream.take 16) (stream.drop 16) isHead whole
      (by omega) (if_neg headerOnly) ?_ ?_
    · rw [asksBody]
    · rw [isStep, asksBody]
      rfl

inductive BodyRead (env : Env) (s : Session Number) (hdr : Header)
    (tail : Octets) (r : Reading Number)
    (next : Reading Number × List Event) : Prop
  | stops (event : Event) (after : Reading Number)
      (quiet : dispatched event = none)
      (ended : (step s event).1.state = .unbound)
      (short : tail.length < (hdr.commandLength - 16).toNat)
      (stopped : after.pending = none) (isNext : next = (after, [event]))
  | dispatches (event : Event) (body rest : Octets)
      (bodyLength : body.length = (hdr.commandLength - 16).toNat)
      (whole : tail = body ++ rest)
      (pdu : dispatched event = some (env, hdr, body))
      (isNext : next = (r.advance rest (step s event), [event]))

theorem body_step (env : Env) (s : Session Number) (hdr : Header)
    (tail : Octets) :
    let r : Reading Number :=
      { session := s
        stream := tail
        isOpen := true
        pending := some (.body hdr) }
    BodyRead env s hdr tail r (readLoop.step r env) := by
  intro r
  by_cases short : tail.length < (hdr.commandLength - 16).toNat
  · let event : Event := .onBody env hdr (.error (text "End of file"))
    have isStep : readLoop.step r env =
        (r.advance [] (step s event), [event]) := by
      simp only [readLoop, completion, r, asyncRead, Bool.true_eq_false,
        if_false, if_neg (Nat.not_le.mpr short)]
      rfl
    obtain ⟨stopped, ended⟩ := advance_disconnected r [] event _ rfl
    exact .stops event _ rfl ended short stopped isStep
  · let count := (hdr.commandLength - 16).toNat
    let event : Event := .onBody env hdr (.ok (tail.take count))
    have isStep : readLoop.step r env =
        (r.advance (tail.drop count) (step s event), [event]) := by
      simp only [readLoop, completion, r, asyncRead, Bool.true_eq_false,
        if_false, if_pos (Nat.not_lt.mp short)]
      rfl
    refine .dispatches event (tail.take count) (tail.drop count) ?_
      (List.take_append_drop count tail).symm rfl isStep
    rw [List.length_take]
    exact Nat.min_eq_left (Nat.not_lt.mp short)

/-! ### Runs of the loop -/

/-- The loop, run from `r`, has stopped; with the events before it has served
the stream. -/
def Finishes (s : Session Number) (stream : Octets) (earlier : List Event)
    (r : Reading Number) (envs : List Env) : Prop :=
  (readLoop.final r envs).pending = none ∧
    Served s stream (earlier ++ readLoop.emitted r envs)

theorem finishes_cons (s : Session Number) (stream : Octets)
    (earlier : List Event) (r next : Reading Number) (event : Event)
    (env : Env) (envs : List Env)
    (isStep : readLoop.step r env = (next, [event]))
    (later : Finishes s stream (earlier ++ [event]) next envs) :
    Finishes s stream earlier r (env :: envs) := by
  have final : readLoop.final r (env :: envs) = readLoop.final next envs := by
    change readLoop.final (readLoop.step r env).1 envs = _
    rw [isStep]
  have emitted : readLoop.emitted r (env :: envs) =
      event :: readLoop.emitted next envs := by
    rw [readLoop.emitted_cons, isStep]
    rfl
  unfold Finishes at later ⊢
  rw [final, emitted]
  rw [List.append_assoc] at later
  exact later

theorem finishes_stopped (s : Session Number) (stream : Octets)
    (earlier : List Event) (r : Reading Number) (envs : List Env)
    (stopped : r.pending = none) (served : Served s stream earlier) :
    Finishes s stream earlier r envs := by
  obtain ⟨final, emitted⟩ := readLoop_stopped r stopped envs
  unfold Finishes
  rw [final, emitted, List.append_nil]
  exact ⟨stopped, served⟩

theorem Finishes.cons_quiet {s : Session Number} {stream : Octets}
    {earlier : List Event} {r : Reading Number} {envs : List Env}
    (finishes : Finishes s stream earlier r envs) (event : Event)
    (quiet : dispatched event = none) (same : (step s event).1 = s) :
    Finishes s stream (event :: earlier) r envs :=
  ⟨finishes.1, finishes.2.cons_quiet event quiet same⟩

theorem closed_step (env : Env) (s : Session Number) (stream : Octets) :
    let r : Reading Number :=
      { session := s
        stream := stream
        isOpen := false
        pending := some .header }
    ∃ event next, readLoop.step r env = (next, [event]) ∧
      dispatched event = none ∧ (step s event).1.state = .unbound ∧
      next.pending = none := by
  intro r
  let event : Event := .onHeader env (.error (text "Bad file descriptor"))
  obtain ⟨stopped, stays⟩ := advance_disconnected r stream event _ rfl
  exact ⟨event, r.advance stream (step s event), rfl, rfl, stays, stopped⟩

theorem finishes_dispatch (s : Session Number) (head body rest : Octets)
    (event : Event) (env : Env) (r : Reading Number) (envs : List Env)
    (isFrame : pduLayout.IsFrame head body)
    (pdu : dispatched event = some (env, decodeHeader head, body))
    (live : s.state ≠ .unbound) (isOpen : r.isOpen = true)
    (isSession : r.session = s) (enough : 0 < envs.length)
    (restFinishes : ∀ later : Session Number, later.state ≠ .unbound →
      Finishes later rest [] (ready later rest) envs) :
    Finishes s (head ++ (body ++ rest)) [event]
      (r.advance rest (step s event)) envs := by
  subst isSession
  rw [advance_dispatched r rest event env _ body pdu isOpen live]
  by_cases closes : (step r.session event).1.state = .unbound
  · cases envs with
    | nil => contradiction
    | cons next envs =>
        rw [decide_eq_true closes, Bool.not_true]
        obtain ⟨failed, after, isStep, quiet, stays, stopped⟩ :=
          closed_step next (step r.session event).1 rest
        refine finishes_cons _ _ _ _ after failed next envs isStep ?_
        exact finishes_stopped _ _ _ after envs stopped
          (served_last r.session head body rest event failed env isFrame pdu
            quiet live closes stays)
  · rw [decide_eq_false closes, Bool.not_false]
    obtain ⟨stopped, served⟩ := restFinishes _ closes
    exact ⟨stopped, served.cons_frame isFrame pdu live⟩

theorem finishes_body (s : Session Number) (head tail : Octets) (env : Env)
    (envs : List Env) (headLength : head.length = 16)
    (hasBody : 16 < (decodeHeader head).commandLength.toNat)
    (live : s.state ≠ .unbound) (enough : 0 < envs.length)
    (restFinishes : ∀ (later : Session Number) (rest : Octets),
      later.state ≠ .unbound → rest.length ≤ tail.length →
      Finishes later rest [] (ready later rest) envs) :
    Finishes s (head ++ tail) []
      { session := s
        stream := tail
        isOpen := true
        pending := some (.body (decodeHeader head)) } (env :: envs) := by
  have bodyLen : ((decodeHeader head).commandLength - 16).toNat =
      (decodeHeader head).commandLength.toNat - 16 :=
    UInt32.toNat_sub_of_le _ _ (UInt32.le_iff_toNat_le.mpr (by
      change 16 ≤ _
      omega))
  cases body_step env s (decodeHeader head) tail with
  | stops event r quiet ended short stopped isNext =>
      have noFrame : pduFrames (head ++ tail) = [] := by
        refine pduFrames_of_none _
          (pduLayout.first?_incomplete head tail headLength ?_)
        change 16 + tail.length < (decodeHeader head).commandLength.toNat
        omega
      refine finishes_cons _ _ _ _ r event env _ isNext ?_
      exact finishes_stopped _ _ _ r _ stopped
        (served_nothing s _ event quiet ended noFrame)
  | dispatches event body rest bodyLength whole pdu isNext =>
      have isFrame : pduLayout.IsFrame head body := by
        refine ⟨headLength, ?_⟩
        change (decodeHeader head).commandLength.toNat = 16 + body.length
        omega
      refine finishes_cons _ _ _ _ _ event env _ isNext ?_
      rw [whole]
      refine finishes_dispatch s head body rest event env _ envs isFrame pdu
        live rfl rfl enough ?_
      intro later laterLive
      refine restFinishes later rest laterLive ?_
      rw [whole, List.length_append]
      omega

/-- From a live session the loop serves every stream.  Each frame takes at
most two reads and at least sixteen octets. -/
theorem ready_finishes (s : Session Number) (stream : Octets)
    (envs : List Env) (live : s.state ≠ .unbound)
    (enough : stream.length + 2 ≤ envs.length) :
    Finishes s stream [] (ready s stream) envs := by
  induction length : stream.length using Nat.strongRecOn
    generalizing s stream envs with
  | ind count ih =>
      match envs, enough with
      | first :: second :: envs, enough =>
          simp only [List.length_cons] at enough
          cases ready_step first s stream with
          | stops event r quiet ended noFrame stopped isNext =>
              refine finishes_cons _ _ _ _ r event first _ isNext ?_
              exact finishes_stopped _ _ _ r _ stopped
                (served_nothing s stream event quiet ended noFrame)
          | dispatches event head rest isFrame whole pdu isNext =>
              have headLength : head.length = 16 := isFrame.1
              have shorter := congrArg List.length whole
              rw [List.length_append, List.nil_append, headLength] at shorter
              refine finishes_cons _ _ _ _ _ event first _ isNext ?_
              rw [whole]
              refine finishes_dispatch s head [] rest event first _ _ isFrame
                pdu live rfl rfl (by simp) ?_
              intro later laterLive
              exact ih rest.length (by omega) later rest _ laterLive
                (by simp only [List.length_cons]; omega) rfl
          | announces event head tail headLength whole hasBody quiet same
              isNext =>
              have shorter := congrArg List.length whole
              rw [List.length_append, headLength] at shorter
              refine finishes_cons _ _ _ _ _ event first _ isNext ?_
              refine Finishes.cons_quiet ?_ event quiet same
              rw [whole]
              refine finishes_body s head tail second envs headLength hasBody
                live (by omega) ?_
              intro later rest laterLive notLonger
              exact ih rest.length (by omega) later rest envs laterLive
                (by omega) rfl

theorem readLoop_session (r : Reading Number) (envs : List Env) :
    (readLoop.final r envs).session =
      machine.final r.session (readLoop.emitted r envs) := by
  induction envs generalizing r with
  | nil => rfl
  | cons env rest ih =>
      rw [readLoop.emitted_cons, machine.final_append]
      change (readLoop.final (readLoop.step r env).1 rest).session = _
      rw [ih]
      simp only [readLoop]
      cases completion env r with
      | none => rfl
      | some handler => rfl

/-! ### What the handlers of a read do -/

def isRead : Event → Bool
  | .onHeader _ _ => true
  | .onBody _ _ _ => true
  | _ => false

/-- A completed read hands a PDU to `dispatch` and reads on, asks for the body
of a PDU, or ends the session. -/
inductive ReadHandled
    (entry : Machine.Entry (Session Number) Event Effect) : Prop
  | dispatches (env : Env) (hdr : Header) (body : Octets)
      (pdu : dispatched entry.event = some (env, hdr, body))
      (after : entry.after = (dispatch env hdr body entry.before).1)
      (outputs : entry.outputs =
        (dispatch env hdr body entry.before).2 ++ [.asyncReadHeader])
  | asksBody (hdr : Header) (quiet : dispatched entry.event = none)
      (after : entry.after = entry.before)
      (outputs : entry.outputs = [.asyncReadBody hdr])
  | disconnects (reason : Octets) (quiet : dispatched entry.event = none)
      (after : entry.after = (doDisconnect reason entry.before).1)
      (outputs : entry.outputs = (doDisconnect reason entry.before).2)

theorem onHeader_readHandled (env : Env) (completion : ReadResult)
    (s : Session Number) :
    ReadHandled (machine.entry s (.onHeader env completion)) := by
  cases completion with
  | error message => exact .disconnects _ rfl rfl rfl
  | ok headerBuf =>
      by_cases headerOnly : (decodeHeader headerBuf).commandLength = 16
      · have pdu : dispatched (.onHeader env (.ok headerBuf)) =
            some (env, decodeHeader headerBuf, []) := if_pos headerOnly
        have isStep := step_of_dispatched s _ env _ [] pdu
        have after : (step s (.onHeader env (.ok headerBuf))).1 =
            (dispatch env (decodeHeader headerBuf) [] s).1 := by
          rw [isStep]
          rfl
        exact .dispatches env _ [] pdu after (congrArg Prod.snd isStep)
      · have quiet : dispatched (.onHeader env (.ok headerBuf)) = none :=
          if_neg headerOnly
        by_cases small : (decodeHeader headerBuf).commandLength < 16
        · have isStep : step s (.onHeader env (.ok headerBuf)) =
              doDisconnect (text "invalid PDU length") s := if_pos small
          exact .disconnects _ quiet (congrArg Prod.fst isStep)
            (congrArg Prod.snd isStep)
        · have bodyFollows :
              ¬(decodeHeader headerBuf).commandLength - 16 = 0 := by
            intro zero
            have added := congrArg (· + 16) zero
            exact headerOnly (by simpa using added)
          have isStep : step s (.onHeader env (.ok headerBuf)) =
              (s, [.asyncReadBody (decodeHeader headerBuf)]) :=
            (if_neg small).trans (if_neg bodyFollows)
          exact .asksBody _ quiet (congrArg Prod.fst isStep)
            (congrArg Prod.snd isStep)

theorem entry_readHandled (s : Session Number) (event : Event)
    (read : isRead event = true) : ReadHandled (machine.entry s event) := by
  cases event with
  | onHeader env completion => exact onHeader_readHandled env completion s
  | onBody env hdr completion =>
      cases completion with
      | error message => exact .disconnects _ rfl rfl rfl
      | ok body => exact .dispatches env hdr body rfl rfl rfl
  | onEnquireLinkTimer failed => contradiction
  | onEnquireLinkTimeout failed => contradiction
  | disconnect reason => contradiction
  | deliverSm srcAddr dstAddr shortMessage => contradiction
  | getSessionInfo => contradiction

theorem readLoop_reads (r : Reading Number) (envs : List Env) :
    ∀ event ∈ readLoop.emitted r envs, isRead event = true := by
  have each := readLoop.each_step_rule
    (fun entry => ∀ event ∈ entry.outputs, isRead event = true)
    (by
      intro r env event member
      simp only [readLoop, Machine.entry, completion] at member
      cases isPending : r.pending with
      | none =>
          rw [isPending] at member
          cases member
      | some pending =>
          rw [isPending] at member
          cases pending with
          | header =>
              rw [List.mem_singleton.mp member]
              rfl
          | body hdr =>
              rw [List.mem_singleton.mp member]
              rfl)
    r envs
  intro event member
  obtain ⟨entry, inHistory, inOutputs⟩ := List.mem_flatMap.mp member
  exact each entry inHistory event inOutputs

theorem history_readHandled (s : Session Number) (events : List Event)
    (reads : ∀ event ∈ events, isRead event = true) :
    ∀ entry ∈ machine.history s events, ReadHandled entry := by
  intro entry member
  obtain ⟨before, after, split⟩ := List.append_of_mem member
  obtain ⟨earlier, event, later, isEvents, _, isEntry⟩ :=
    machine.history_split s events split
  rw [← isEntry]
  apply entry_readHandled
  apply reads
  rw [isEvents]
  exact List.mem_append_right _ List.mem_cons_self

/-- The read loop over a whole stream.  For every stream there is a number of
completed reads after which the loop has stopped for good, whatever the
outside answered meanwhile.  Then the session is unbound; each completed read
called `dispatch` with one PDU, asked for a body or disconnected; the PDUs
passed to `dispatch` are the frames of the stream from the first one on; none
is after one that disconnected, and unless one did, all are; every body has
the length its header announces; and the PDUs, header and body each, are the
front of the stream. -/
theorem readLoop_serves_frames (config : Config) (stream : Octets) :
    ∃ bound, ∀ envs : List Env, bound ≤ envs.length →
      let start : Reading Number := startReading config stream
      let events := readLoop.emitted start envs
      let past := machine.history (create config : Session Number) events
      (readLoop.final start envs).pending = none ∧
        (readLoop.final start envs).session =
          machine.final (create config) events ∧
        (readLoop.final start envs).session.state = .unbound ∧
        (∀ entry ∈ past, ReadHandled entry) ∧
        dispatchedPdus events <+: pduFrames stream ∧
        (∀ entry ∈ past, (dispatched entry.event).isSome →
          entry.before.state ≠ .unbound) ∧
        (dispatchedPdus events = pduFrames stream ∨
          ∃ entry ∈ past, (dispatched entry.event).isSome ∧
            entry.after.state = .unbound) ∧
        (∀ pdu ∈ dispatchedPdus events,
          pdu.1.commandLength.toNat = 16 + pdu.2.length) ∧
        (dispatchedPdus events).flatMap
          (fun pdu => writeHeader pdu.1 ++ pdu.2) <+: stream := by
  refine ⟨stream.length + 2, ?_⟩
  intro envs enough start events past
  have opened : (create config : Session Number).state ≠ .unbound := by
    exact (by decide : SessionState.opened ≠ .unbound)
  obtain ⟨stopped, served⟩ :=
    ready_finishes (create config : Session Number) stream envs opened enough
  have isSession := readLoop_session start envs
  obtain ⟨bodies, octets⟩ := pduFrames_spec stream
  refine ⟨stopped, isSession, ?_, ?_, served.frames, served.live,
    served.complete, ?_, ?_⟩
  · rw [isSession]
    exact served.ended
  · exact history_readHandled _ events (readLoop_reads start envs)
  · intro pdu member
    exact bodies pdu (served.frames.subset member)
  · exact (List.IsPrefix.flatMap served.frames _).trans octets

end Loop

end OpenSmsc.SmppSession
