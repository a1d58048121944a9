/-
The message ids a session issues over its whole life, and what they share with
the ids of another session.

A session numbers its accepted submits from one.  All that tells two sessions
apart is the front of the id: the first eight characters of the uuid, which
are the top 32 of the 48 timestamp bits and none of the random ones.
-/

import OpenSmsc.Client.Outputs
import OpenSmsc.Server.SessionId

namespace OpenSmsc.SmppSession

open Foundation Smpp

variable {Number : Type}

/-! ### The ids of one session -/

def issuedIds
    (past : List (Machine.Entry (Session Number) Event Effect)) :
    List Octets :=
  past.flatMap fun entry =>
    (routed entry.outputs).map fun message => message.2.2.2

def numberedIds (msgIdPrefix : Octets) (count : Nat) : List Octets :=
  (List.range count).map fun index =>
    messageId msgIdPrefix (UInt32.ofNat (index + 1))

theorem numberedIds_succ (msgIdPrefix : Octets) (count : Nat) :
    numberedIds msgIdPrefix (count + 1) =
      numberedIds msgIdPrefix count ++
        [messageId msgIdPrefix (UInt32.ofNat (count + 1))] := by
  simp only [numberedIds, List.range_succ, List.map_append, List.map_cons,
    List.map_nil]

theorem first_mem_numberedIds (msgIdPrefix : Octets) (count : Nat) :
    messageId msgIdPrefix 1 ∈ numberedIds msgIdPrefix (count + 1) :=
  List.mem_map.mpr ⟨0, List.mem_range.mpr (Nat.succ_pos count), rfl⟩

theorem issuedIds_concat
    (past : List (Machine.Entry (Session Number) Event Effect))
    (entry : Machine.Entry (Session Number) Event Effect) :
    issuedIds (past ++ [entry]) =
      issuedIds past ++
        (routed entry.outputs).map fun message => message.2.2.2 := by
  simp only [issuedIds, List.flatMap_append, List.flatMap_cons,
    List.flatMap_nil, List.append_nil]

/-- The counter of a session is the number of ids issued, and these are the
first that many under the prefix. -/
structure Numbered (msgIdPrefix : Octets) (s : Session Number)
    (past : List (Machine.Entry (Session Number) Event Effect))
    (count : Nat) : Prop where
  samePrefix : s.msgIdPrefix = msgIdPrefix
  counter : s.msgSeq = UInt32.ofNat count
  issued : issuedIds past = numberedIds msgIdPrefix count

section Runs

variable [TokenArith Number]

theorem Numbered.step {msgIdPrefix : Octets} {s : Session Number}
    {past : List (Machine.Entry (Session Number) Event Effect)}
    {count : Nat} (numbered : Numbered msgIdPrefix s past count)
    (event : Event) :
    ∃ next,
      Numbered msgIdPrefix (machine.step s event).1
        (past ++ [machine.entry s event]) next := by
  have keepsPrefix :
      (machine.step s event).1.msgIdPrefix = msgIdPrefix := by
    have fixed := step_fixed s event
    exact (congrArg (·.2.2.1) fixed).trans numbered.samePrefix
  cases step_routes s event with
  | nothing silent same =>
      refine ⟨count, keepsPrefix, same.trans numbered.counter, ?_⟩
      rw [issuedIds_concat, numbered.issued]
      change _ ++ (routed (SmppSession.step s event).2).map _ = _
      rw [silent]
      exact List.append_nil _
  | message srcAddr dstAddr shortMessage mayTransmit issued counted =>
      have nextCounter : s.msgSeq + 1 = UInt32.ofNat (count + 1) := by
        rw [numbered.counter, UInt32.ofNat_add]
        rfl
      refine ⟨count + 1, keepsPrefix, counted.trans nextCounter, ?_⟩
      rw [issuedIds_concat, numbered.issued, numberedIds_succ]
      change _ ++ (routed (SmppSession.step s event).2).map _ = _
      rw [issued, numbered.samePrefix, nextCounter]
      rfl

theorem issuedIds_of_run (config : Config) (events : List Event) :
    ∃ count,
      issuedIds (machine.history (create config : Session Number) events) =
        numberedIds (create config : Session Number).msgIdPrefix count := by
  have numbered := machine.history_rule
    (fun s past => ∃ count,
      Numbered (create config : Session Number).msgIdPrefix s past count)
    (create config) ⟨0, rfl, rfl, rfl⟩
    (fun s past event earlier =>
      earlier.elim fun _ atCount => atCount.step event)
    events
  obtain ⟨count, atCount⟩ := numbered
  exact ⟨count, atCount.issued⟩

end Runs

/-! ### The ids of two sessions -/

theorem messageId_prefix_eq (left right : Octets) (leftSeq rightSeq : UInt32)
    (equal : messageId left leftSeq = messageId right rightSeq) :
    left = right := by
  refine List.append_inj_left' equal ?_
  rw [setwHex_word_length, setwHex_word_length]

theorem numberedIds_prefix_eq (left right id : Octets)
    (leftCount rightCount : Nat)
    (inLeft : id ∈ numberedIds left leftCount)
    (inRight : id ∈ numberedIds right rightCount) : left = right := by
  obtain ⟨leftIndex, _, leftEq⟩ := List.mem_map.mp inLeft
  obtain ⟨rightIndex, _, rightEq⟩ := List.mem_map.mp inRight
  exact messageId_prefix_eq left right _ _ (leftEq.trans rightEq.symm)

section Runs

variable [TokenArith Number]

/-- The session the server starts under a generated id. -/
def createGenerated (config : Config) (ts rnd : UInt64) : Session Number :=
  create { config with uuid := generateSessionId ts rnd }

theorem createGenerated_msgIdPrefix (config : Config) (ts rnd : UInt64) :
    (createGenerated config ts rnd : Session Number).msgIdPrefix =
      setwHex 8 (ts.toNat % 2 ^ 48 / 2 ^ 16) := by
  have long : 8 ≤ (generateSessionId ts rnd).length := by
    rw [SessionId.length_eq]
    decide
  have front := SessionId.take_eq ts rnd 8 (by decide) (by decide)
  rw [show 16 ^ (12 - 8) = 2 ^ 16 by decide] at front
  unfold createGenerated create
  dsimp only
  rw [if_pos long]
  exact front

theorem createGenerated_msgIdPrefix_eq_iff (config config' : Config)
    (ts rnd ts' rnd' : UInt64) :
    (createGenerated config ts rnd : Session Number).msgIdPrefix =
        (createGenerated config' ts' rnd' : Session Number).msgIdPrefix ↔
      ts.toNat % 2 ^ 48 / 2 ^ 16 = ts'.toNat % 2 ^ 48 / 2 ^ 16 := by
  rw [createGenerated_msgIdPrefix, createGenerated_msgIdPrefix]
  constructor
  · intro equal
    exact setwHex_injective 8 _ _ (by decide) (by omega) (by omega) equal
  · intro equal
    rw [equal]

/-- Two sessions issue no common id exactly when their ids were generated in
different windows of 2^16 ms, or one of them accepted no submit. -/
theorem issuedIds_disjoint_iff (config config' : Config)
    (ts rnd ts' rnd' : UInt64) (events events' : List Event) :
    let ids := issuedIds (machine.history
      (createGenerated config ts rnd : Session Number) events)
    let ids' := issuedIds (machine.history
      (createGenerated config' ts' rnd' : Session Number) events')
    (∀ id ∈ ids, id ∉ ids') ↔
      ts.toNat % 2 ^ 48 / 2 ^ 16 ≠ ts'.toNat % 2 ^ 48 / 2 ^ 16 ∨
        ids = [] ∨ ids' = [] := by
  intro ids ids'
  obtain ⟨count, idsEq⟩ := @issuedIds_of_run Number _
    { config with uuid := generateSessionId ts rnd } events
  obtain ⟨count', idsEq'⟩ := @issuedIds_of_run Number _
    { config' with uuid := generateSessionId ts' rnd' } events'
  change ids = numberedIds (createGenerated config ts rnd :
    Session Number).msgIdPrefix count at idsEq
  change ids' = numberedIds (createGenerated config' ts' rnd' :
    Session Number).msgIdPrefix count' at idsEq'
  have samePrefix := @createGenerated_msgIdPrefix_eq_iff Number _
    config config' ts rnd ts' rnd'
  constructor
  · intro disjoint
    by_contra overlap
    rw [not_or, not_or, not_not] at overlap
    obtain ⟨sameWindow, nonempty, nonempty'⟩ := overlap
    -- Both runs issued their id number one, under the same prefix.
    cases count with
    | zero => exact nonempty idsEq
    | succ earlier =>
        cases count' with
        | zero => exact nonempty' idsEq'
        | succ earlier' =>
            have first := first_mem_numberedIds
              (createGenerated config ts rnd : Session Number).msgIdPrefix
              earlier
            have first' := first_mem_numberedIds
              (createGenerated config' ts' rnd' :
                Session Number).msgIdPrefix earlier'
            rw [← idsEq] at first
            rw [← idsEq', ← samePrefix.mpr sameWindow] at first'
            exact disjoint _ first first'
  · intro apart id inIds inIds'
    rcases apart with windows | empty | empty'
    · rw [idsEq] at inIds
      rw [idsEq'] at inIds'
      exact windows (samePrefix.mp
        (numberedIds_prefix_eq _ _ id count count' inIds inIds'))
    · rw [empty] at inIds
      contradiction
    · rw [empty'] at inIds'
      contradiction

end Runs

def bindAndSubmit : List Event :=
  let env : Env :=
    { authenticate := fun _ _ _ _ => some (true, esmeRok)
      systemClock := 100
      steadyClock := 0 }
  let bind : Header :=
    { commandLength := 31
      commandId := bindTransmitter
      commandStatus := 0
      sequenceNumber := 1 }
  let submit : Header :=
    { commandLength := 33
      commandId := submitSm
      commandStatus := 0
      sequenceNumber := 2 }
  [.onHeader env (.ok (writeHeader bind)),
    .onBody env bind
      (.ok (text "user" ++ [0] ++ text "secret" ++ [0, 0, 0x34, 0])),
    .onHeader env (.ok (writeHeader submit)),
    .onBody env submit (.ok (List.replicate 17 0))]

/-- Two different ids of the same millisecond, one submit in each session, and
both submits are answered with the same message id. -/
theorem issuedIds_collide :
    let config : Config :=
      { uuid := []
        clientIp := text "10.0.0.1" }
    let ids (rnd : UInt64) := issuedIds (machine.history
      (createGenerated config 0x0195f3a7b2c1 rnd : Session Float)
      bindAndSubmit)
    generateSessionId 0x0195f3a7b2c1 1 ≠
        generateSessionId 0x0195f3a7b2c1 2 ∧
      text "0195f3a700000001" ∈ ids 1 ∧
      text "0195f3a700000001" ∈ ids 2 := by
  decide

end OpenSmsc.SmppSession
