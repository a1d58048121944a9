/-
The submits of a session, accounted for over its whole run.

Every accepted submit_sm takes the next id, which its response and its one
RouteMessage call carry; a refused one takes none and is answered by a bare
header.
-/

import Mathlib.Algebra.Ring.Nat
import Mathlib.Data.List.Forall2
import Mathlib.Data.List.Nodup
import OpenSmsc.Client.MessageId
import OpenSmsc.Client.SubmitSmCodec

namespace OpenSmsc.SmppSession

open Foundation Smpp

variable {Number : Type}

/-! ### Submits of a run -/

structure Submit where
  hdr : Header
  body : Octets
  outputs : List Effect

def submitOf (event : Event) : Option (Header × Octets) :=
  match dispatched event with
  | none => none
  | some (_, hdr, body) =>
      if hdr.commandId = submitSm then some (hdr, body) else none

def submitOfEntry
    (entry : Machine.Entry (Session Number) Event Effect) : Option Submit :=
  (submitOf entry.event).map fun pdu =>
    { hdr := pdu.1
      body := pdu.2
      outputs := entry.outputs }

def submits (past : List (Machine.Entry (Session Number) Event Effect)) :
    List Submit :=
  past.filterMap submitOfEntry

def Submit.accepted (submit : Submit) : Bool :=
  (sentPdus submit.outputs).any fun pdu =>
    (decodeHeader pdu).commandStatus == esmeRok

def acceptedSubmits
    (past : List (Machine.Entry (Session Number) Event Effect)) :
    List Submit :=
  (submits past).filter (·.accepted)

/-- The submit was answered by one response that carries `id`, and routed once
under the same id. -/
structure Submit.Issued (submit : Submit) (id : Octets) : Prop where
  response : ∃ pdu,
    sentPdus submit.outputs = [pdu] ∧
      (decodeHeader pdu).commandId = submitSmResp ∧
      (decodeHeader pdu).sequenceNumber = submit.hdr.sequenceNumber ∧
      (readCstr pdu 65 16).1 = id
  routedOnce : routed submit.outputs =
    [((parseSubmitSm submit.body).srcAddr,
      (parseSubmitSm submit.body).dstAddr,
      (parseSubmitSm submit.body).shortMessage, id)]

/-- The submit was answered by a bare header and not routed. -/
structure Submit.Refused (submit : Submit) : Prop where
  response : ∃ pdu,
    sentPdus submit.outputs = [pdu] ∧ pdu.length = 16 ∧
      (decodeHeader pdu).commandId = submitSmResp ∧
      (decodeHeader pdu).sequenceNumber = submit.hdr.sequenceNumber
  notRouted : routed submit.outputs = []

/-! ### Ids -/

theorem messageId_free (msgIdPrefix : Octets) (seq : UInt32)
    (free : 0 ∉ msgIdPrefix) : 0 ∉ messageId msgIdPrefix seq := by
  unfold messageId
  rw [List.mem_append, not_or]
  refine ⟨free, ?_⟩
  intro member
  have isDigit := setwHex_isHexDigit 8 seq.toNat (by decide) seq.toNat_lt
    0 member
  contradiction

theorem messageId_fits (msgIdPrefix : Octets) (seq : UInt32)
    (free : 0 ∉ msgIdPrefix) (short : msgIdPrefix.length ≤ 8) :
    TerminatedCstr (messageId msgIdPrefix seq) := by
  refine ⟨messageId_free msgIdPrefix seq free, ?_⟩
  unfold messageId
  rw [List.length_append, setwHex_word_length]
  omega

theorem messageId_injective (msgIdPrefix : Octets) (left right : UInt32)
    (equal : messageId msgIdPrefix left = messageId msgIdPrefix right) :
    left = right := by
  have digits := List.append_cancel_left equal
  exact UInt32.toNat_inj.mp (setwHex_injective 8 _ _ (by decide)
    left.toNat_lt right.toNat_lt digits)

theorem numberedIds_nodup (msgIdPrefix : Octets) (count : Nat)
    (few : count ≤ 2 ^ 32) : (numberedIds msgIdPrefix count).Nodup := by
  refine List.Nodup.map_on ?_ List.nodup_range
  intro left leftMember right rightMember equal
  rw [List.mem_range] at leftMember rightMember
  have same := messageId_injective msgIdPrefix _ _ equal
  have words := congrArg UInt32.toNat same
  rw [UInt32.toNat_ofNat', UInt32.toNat_ofNat'] at words
  omega

theorem create_msgIdPrefix_short [TokenArith Number] (config : Config) :
    (create config : Session Number).msgIdPrefix.length ≤ 8 := by
  unfold create
  dsimp only
  split
  · rw [List.length_take]
    omega
  · omega

theorem create_msgIdPrefix_free [TokenArith Number] (config : Config)
    (free : 0 ∉ config.uuid) :
    0 ∉ (create config : Session Number).msgIdPrefix := by
  unfold create
  dsimp only
  split
  · exact fun member => free (List.mem_of_mem_take member)
  · exact free

theorem readCstr_makeResponse (commandId status sequenceNumber : UInt32)
    (id : Octets) (nonempty : id.isEmpty = false)
    (fits : TerminatedCstr id) :
    (readCstr (makeResponse commandId status sequenceNumber id) 65 16).1 =
      id := by
  have body : (makeResponse commandId status sequenceNumber id).drop 16 =
      id ++ [0] := by
    unfold makeResponse
    rw [drop_writeHeader, nonempty]
    rfl
  rw [(readCstr_tracks _ 16).1, body, cstr_terminated id [] fits]

theorem issued_of_outputs {hdr : Header} {body id : Octets}
    {outputs : List Effect} (nonempty : id.isEmpty = false)
    (fits : TerminatedCstr id)
    (isOutputs : outputs =
      [.sendPdu (makeResponse submitSmResp esmeRok hdr.sequenceNumber id),
        .callRouteMessage (parseSubmitSm body).srcAddr
          (parseSubmitSm body).dstAddr (parseSubmitSm body).shortMessage id,
        .asyncReadHeader]) :
    Submit.Issued { hdr, body, outputs } id := by
  refine ⟨⟨makeResponse submitSmResp esmeRok hdr.sequenceNumber id, ?_⟩, ?_⟩
  · rw [isOutputs, decodeHeader_makeResponse]
    refine ⟨rfl, rfl, rfl, ?_⟩
    exact readCstr_makeResponse _ _ _ _ nonempty fits
  · rw [isOutputs]
    rfl

theorem refused_of_outputs {hdr : Header} {body : Octets} {status : UInt32}
    {outputs : List Effect}
    (isOutputs : outputs =
      [.sendPdu (makeResponse submitSmResp status hdr.sequenceNumber),
        .asyncReadHeader]) :
    Submit.Refused { hdr, body, outputs } := by
  refine ⟨⟨makeResponse submitSmResp status hdr.sequenceNumber, ?_⟩, ?_⟩
  · rw [isOutputs, decodeHeader_makeResponse]
    exact ⟨rfl, rfl, rfl, rfl⟩
  · rw [isOutputs]
    rfl

/-! ### Steps -/

inductive Accounts (s after : Session Number) (event : Event)
    (outputs : List Effect) : Prop
  | other (notSubmit : submitOf event = none) (silent : routed outputs = [])
      (same : after.msgSeq = s.msgSeq)
  | accepted (hdr : Header) (body : Octets)
      (isSubmit : submitOf event = some (hdr, body))
      (isOutputs : outputs =
        [.sendPdu (makeResponse submitSmResp esmeRok hdr.sequenceNumber
            (messageId s.msgIdPrefix (s.msgSeq + 1))),
          .callRouteMessage (parseSubmitSm body).srcAddr
            (parseSubmitSm body).dstAddr (parseSubmitSm body).shortMessage
            (messageId s.msgIdPrefix (s.msgSeq + 1)),
          .asyncReadHeader])
      (counted : after.msgSeq = s.msgSeq + 1)
  | refused (hdr : Header) (body : Octets) (status : UInt32)
      (isSubmit : submitOf event = some (hdr, body))
      (isError : status ≠ esmeRok)
      (isOutputs : outputs =
        [.sendPdu (makeResponse submitSmResp status hdr.sequenceNumber),
          .asyncReadHeader])
      (same : after.msgSeq = s.msgSeq)

section Runs

variable [TokenArith Number]

theorem dispatched_accounts (s : Session Number) (event : Event) (env : Env)
    (hdr : Header) (body : Octets)
    (pdu : dispatched event = some (env, hdr, body)) :
    Accounts s (step s event).1 event (step s event).2 := by
  have ofEvent : submitOf event =
      if hdr.commandId = submitSm then some (hdr, body) else none := by
    unfold submitOf
    rw [pdu]
  rw [step_of_dispatched s event env hdr body pdu]
  by_cases isSubmit : hdr.commandId = submitSm
  · rw [if_pos isSubmit] at ofEvent
    unfold dispatchAndRead
    rw [dispatch_submit env hdr body s isSubmit]
    cases handleSubmitSm_submitted env hdr body s with
    | accepted tokens lastRefill mayTransmit isResult =>
        rw [isResult]
        exact .accepted hdr body ofEvent rfl rfl
    | refused tokens lastRefill status isError isResult =>
        rw [isResult]
        exact .refused hdr body status ofEvent isError rfl rfl
  · rw [if_neg isSubmit] at ofEvent
    obtain ⟨silent, same⟩ := dispatch_silent env hdr body s isSubmit
    refine .other ofEvent ?_ same
    rw [dispatchAndRead_routed]
    exact silent

theorem step_accounts (s : Session Number) (event : Event) :
    Accounts s (step s event).1 event (step s event).2 := by
  cases pdu : dispatched event with
  | some dispatchedPdu =>
      rcases dispatchedPdu with ⟨env, hdr, body⟩
      exact dispatched_accounts s event env hdr body pdu
  | none =>
      have notSubmit : submitOf event = none := by
        unfold submitOf
        rw [pdu]
      obtain ⟨silent, same⟩ := step_silent s event pdu
      exact .other notSubmit silent same

end Runs

theorem submits_concat
    (past : List (Machine.Entry (Session Number) Event Effect))
    (entry : Machine.Entry (Session Number) Event Effect) :
    submits (past ++ [entry]) =
      submits past ++ (submitOfEntry entry).toList := by
  unfold submits
  rw [List.filterMap_append]
  cases found : submitOfEntry entry <;> simp [found]

theorem acceptedSubmits_concat
    (past : List (Machine.Entry (Session Number) Event Effect))
    (entry : Machine.Entry (Session Number) Event Effect) :
    acceptedSubmits (past ++ [entry]) =
      acceptedSubmits past ++
        (submitOfEntry entry).toList.filter (·.accepted) := by
  unfold acceptedSubmits
  rw [submits_concat, List.filter_append]

/-- The account of a run: the counter is the number of accepted submits, and
these hold the first that many ids, in order; the others were refused. -/
structure Accounted (msgIdPrefix : Octets) (s : Session Number)
    (past : List (Machine.Entry (Session Number) Event Effect)) : Prop where
  samePrefix : s.msgIdPrefix = msgIdPrefix
  counter : s.msgSeq = UInt32.ofNat (acceptedSubmits past).length
  issued : List.Forall₂ Submit.Issued (acceptedSubmits past)
    (numberedIds msgIdPrefix (acceptedSubmits past).length)
  calls : issuedIds past =
    numberedIds msgIdPrefix (acceptedSubmits past).length
  refused : ∀ submit ∈ submits past, submit.accepted = false →
    submit.Refused

section Account

variable {msgIdPrefix : Octets} {s after : Session Number}
  {past : List (Machine.Entry (Session Number) Event Effect)}
  {event : Event} {outputs : List Effect}

theorem Accounted.keep (account : Accounted msgIdPrefix s past)
    (samePrefix : after.msgIdPrefix = msgIdPrefix)
    (refused : ∀ submit ∈ submitOfEntry
        { before := s, event, outputs, after },
      submit.accepted = false ∧ submit.Refused)
    (silent : routed outputs = []) (same : after.msgSeq = s.msgSeq) :
    Accounted msgIdPrefix after
      (past ++ [{ before := s, event, outputs, after }]) := by
  have noneAccepted : (submitOfEntry
      { before := s, event, outputs, after }).toList.filter (·.accepted) =
        [] := by
    rw [List.filter_eq_nil_iff]
    intro submit member
    rw [(refused submit (Option.mem_toList.mp member)).1]
    exact Bool.false_ne_true
  have sameAccepted := acceptedSubmits_concat past
    { before := s, event, outputs, after }
  have sameIds := issuedIds_concat past
    { before := s, event, outputs, after }
  rw [noneAccepted, List.append_nil] at sameAccepted
  rw [silent, List.map_nil, List.append_nil] at sameIds
  constructor
  · exact samePrefix
  · rw [sameAccepted, same, account.counter]
  · rw [sameAccepted]
    exact account.issued
  · rw [sameIds, sameAccepted]
    exact account.calls
  · rw [submits_concat]
    intro submit member isRefused
    rcases List.mem_append.mp member with earlier | last
    · exact account.refused submit earlier isRefused
    · exact (refused submit (Option.mem_toList.mp last)).2

theorem Accounted.other (account : Accounted msgIdPrefix s past)
    (samePrefix : after.msgIdPrefix = msgIdPrefix)
    (notSubmit : submitOf event = none) (silent : routed outputs = [])
    (same : after.msgSeq = s.msgSeq) :
    Accounted msgIdPrefix after
      (past ++ [{ before := s, event, outputs, after }]) := by
  have noSubmit : submitOfEntry
      { before := s, event, outputs, after } = none := by
    unfold submitOfEntry
    rw [notSubmit]
    rfl
  refine account.keep samePrefix ?_ silent same
  rw [noSubmit]
  intro submit member
  cases member

theorem submitOfEntry_of_submit {hdr : Header} {body : Octets}
    (isSubmit : submitOf event = some (hdr, body)) :
    submitOfEntry { before := s, event, outputs, after } =
      some { hdr, body, outputs } := by
  unfold submitOfEntry
  rw [isSubmit]
  rfl

theorem Accounted.refuse {hdr : Header} {body : Octets} {status : UInt32}
    (account : Accounted msgIdPrefix s past)
    (samePrefix : after.msgIdPrefix = msgIdPrefix)
    (isSubmit : submitOf event = some (hdr, body))
    (isError : status ≠ esmeRok)
    (isOutputs : outputs =
      [.sendPdu (makeResponse submitSmResp status hdr.sequenceNumber),
        .asyncReadHeader])
    (same : after.msgSeq = s.msgSeq) :
    Accounted msgIdPrefix after
      (past ++ [{ before := s, event, outputs, after }]) := by
  have isRefused : Submit.accepted { hdr, body, outputs } = false := by
    simpa [Submit.accepted, isOutputs, sentPdus] using isError
  have wasRefused : Submit.Refused { hdr, body, outputs } :=
    refused_of_outputs isOutputs
  refine account.keep samePrefix ?_ wasRefused.notRouted same
  rw [submitOfEntry_of_submit isSubmit]
  rintro submit ⟨⟩
  exact ⟨isRefused, wasRefused⟩

theorem Accounted.accept {hdr : Header} {body : Octets}
    (account : Accounted msgIdPrefix s past) (free : 0 ∉ msgIdPrefix)
    (short : msgIdPrefix.length ≤ 8)
    (samePrefix : after.msgIdPrefix = msgIdPrefix)
    (isSubmit : submitOf event = some (hdr, body))
    (isOutputs : outputs =
      [.sendPdu (makeResponse submitSmResp esmeRok hdr.sequenceNumber
          (messageId s.msgIdPrefix (s.msgSeq + 1))),
        .callRouteMessage (parseSubmitSm body).srcAddr
          (parseSubmitSm body).dstAddr (parseSubmitSm body).shortMessage
          (messageId s.msgIdPrefix (s.msgSeq + 1)),
        .asyncReadHeader])
    (counted : after.msgSeq = s.msgSeq + 1) :
    Accounted msgIdPrefix after
      (past ++ [{ before := s, event, outputs, after }]) := by
  have isAccepted : Submit.accepted { hdr, body, outputs } = true := by
    simp [Submit.accepted, isOutputs, sentPdus]
  have nextCounter : s.msgSeq + 1 =
      UInt32.ofNat ((acceptedSubmits past).length + 1) := by
    rw [account.counter, UInt32.ofNat_add]
    rfl
  rw [account.samePrefix, nextCounter] at isOutputs
  have wasIssued : Submit.Issued { hdr, body, outputs }
      (messageId msgIdPrefix
        (UInt32.ofNat ((acceptedSubmits past).length + 1))) :=
    issued_of_outputs (messageId_nonempty _ _)
      (messageId_fits msgIdPrefix _ free short) isOutputs
  have moreSubmits := submits_concat past
    { before := s, event, outputs, after }
  have moreAccepted := acceptedSubmits_concat past
    { before := s, event, outputs, after }
  have moreIds := issuedIds_concat past
    { before := s, event, outputs, after }
  rw [submitOfEntry_of_submit isSubmit, Option.toList_some] at moreSubmits
  rw [submitOfEntry_of_submit isSubmit, Option.toList_some,
    List.filter_cons_of_pos isAccepted, List.filter_nil] at moreAccepted
  rw [wasIssued.routedOnce, List.map_singleton] at moreIds
  have oneMore : (acceptedSubmits (past ++
      [{ before := s, event, outputs, after }])).length =
        (acceptedSubmits past).length + 1 := by
    rw [moreAccepted, List.length_append]
    rfl
  constructor
  · exact samePrefix
  · rw [oneMore, counted, nextCounter]
  · rw [oneMore, moreAccepted, numberedIds_succ]
    exact List.rel_append account.issued (.cons wasIssued .nil)
  · rw [moreIds, oneMore, numberedIds_succ, account.calls]
  · rw [moreSubmits]
    intro submit member refused
    rcases List.mem_append.mp member with earlier | last
    · exact account.refused submit earlier refused
    · rw [List.mem_singleton.mp last, isAccepted] at refused
      contradiction

end Account

section Runs

variable [TokenArith Number]

theorem Accounted.step {msgIdPrefix : Octets} {s : Session Number}
    {past : List (Machine.Entry (Session Number) Event Effect)}
    (account : Accounted msgIdPrefix s past) (free : 0 ∉ msgIdPrefix)
    (short : msgIdPrefix.length ≤ 8) (event : Event) :
    Accounted msgIdPrefix (machine.step s event).1
      (past ++ [machine.entry s event]) := by
  have samePrefix : (machine.step s event).1.msgIdPrefix = msgIdPrefix :=
    (congrArg (·.2.2.1) (step_fixed s event)).trans account.samePrefix
  cases step_accounts s event with
  | other notSubmit silent same =>
      exact account.other samePrefix notSubmit silent same
  | accepted hdr body isSubmit isOutputs counted =>
      exact account.accept free short samePrefix isSubmit isOutputs counted
  | refused hdr body status isSubmit isError isOutputs same =>
      exact account.refuse samePrefix isSubmit isError isOutputs same

theorem accounted_of_run (config : Config) (events : List Event)
    (free : 0 ∉ config.uuid) :
    Accounted (create config : Session Number).msgIdPrefix
      (machine.final (create config : Session Number) events)
      (machine.history (create config) events) := by
  refine machine.history_rule
    (Accounted (create config : Session Number).msgIdPrefix)
    (create config) ⟨rfl, rfl, .nil, rfl, by simp [submits]⟩ ?_ events
  intro s past event account
  exact account.step (create_msgIdPrefix_free config free)
    (create_msgIdPrefix_short config) event

theorem numberedIds_eq (msgIdPrefix : Octets) (count : Nat) :
    numberedIds msgIdPrefix count =
      (List.range count).map fun index =>
        msgIdPrefix ++ setwHex 8 ((index + 1) % 2 ^ 32) := by
  refine List.map_congr_left ?_
  intro index _
  unfold messageId
  rw [UInt32.toNat_ofNat']

/-- The submits of a run, accounted for.  The k-th accepted one has the id of
number k, in its response and in its one RouteMessage call; these are all the
calls of the run, and no two ids are equal; every other submit got a bare
header. -/
theorem submits_accounted (config : Config) (events : List Event)
    (free : 0 ∉ config.uuid)
    (few : (acceptedSubmits (machine.history
      (create config : Session Number) events)).length ≤ 2 ^ 32) :
    let past := machine.history (create config : Session Number) events
    let ids := (List.range (acceptedSubmits past).length).map fun index =>
      (create config : Session Number).msgIdPrefix ++
        setwHex 8 ((index + 1) % 2 ^ 32)
    List.Forall₂ Submit.Issued (acceptedSubmits past) ids ∧
      ids.Nodup ∧ (∀ id ∈ ids, id ≠ []) ∧ issuedIds past = ids ∧
      ∀ submit ∈ submits past, submit.accepted = false →
        submit.Refused := by
  intro past ids
  have account := @accounted_of_run Number _ config events free
  have isIds : numberedIds (create config : Session Number).msgIdPrefix
      (acceptedSubmits past).length = ids := numberedIds_eq _ _
  refine ⟨?_, ?_, ?_, ?_, account.refused⟩
  · rw [← isIds]
    exact account.issued
  · rw [← isIds]
    exact numberedIds_nodup _ _ few
  · rw [← isIds]
    intro id member
    obtain ⟨index, _, rfl⟩ := List.mem_map.mp member
    exact List.isEmpty_eq_false_iff.mp (messageId_nonempty _ _)
  · rw [← isIds]
    exact account.calls

end Runs

theorem submits_accounted_once :
    let config : Config :=
      { uuid := text "0a1b2c3d-7000", clientIp := text "10.0.0.1" }
    let env : Env :=
      { authenticate := fun _ _ _ _ => some (true, 0)
        systemClock := 0
        steadyClock := 0 }
    let pdu (commandId : UInt32) : Header :=
      { commandLength := 17
        commandId := commandId
        commandStatus := 0
        sequenceNumber := 7 }
    let events : List Event :=
      [.onBody env (pdu bindTransmitter) (.ok [0]),
        .onBody env (pdu submitSm) (.ok [0])]
    let past := machine.history (create config : Session Float) events
    0 ∉ config.uuid ∧ (acceptedSubmits past).length = 1 ∧
      List.Forall₂ Submit.Issued (acceptedSubmits past)
        [text "0a1b2c3d00000001"] := by
  intro config env pdu events past
  have free : 0 ∉ config.uuid := by decide
  have once : (acceptedSubmits past).length = 1 := by decide
  have few : (acceptedSubmits past).length ≤ 2 ^ 32 := by
    rw [once]
    decide
  have account := (submits_accounted config events free few).1
  change List.Forall₂ Submit.Issued (acceptedSubmits past)
    ((List.range (acceptedSubmits past).length).map _) at account
  rw [once] at account
  exact ⟨free, once, account⟩

end OpenSmsc.SmppSession
