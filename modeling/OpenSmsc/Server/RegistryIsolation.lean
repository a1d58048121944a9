/-
Sets of registry operations that do not influence each other.

Two parties use the registry, each with IPs and uuids of its own; only the
limit is common to both.  A release finds the counter it decrements through the
stored entry, so it matters that an entry under a party's uuid names one of
that party's IPs.
-/

import OpenSmsc.Server.RegistryRuns

namespace OpenSmsc.ConnectionRegistry

open Foundation

structure Territory where
  ips : Octets → Prop
  uuids : Octets → Prop

/-- The limit belongs to nobody. -/
def Territory.Holds (territory : Territory) : Operation → Prop
  | .add uuid _ clientIp => territory.uuids uuid ∧ territory.ips clientIp
  | .claimFd uuid => territory.uuids uuid
  | .remove uuid => territory.uuids uuid
  | .setMaxPerIp _ => False
  | .count ip => territory.ips ip

structure Apart (own other : Territory) : Prop where
  ips : ∀ ip, own.ips ip → ¬other.ips ip
  uuids : ∀ uuid, own.uuids uuid → ¬other.uuids uuid

theorem Apart.symm {own other : Territory} (apart : Apart own other) :
    Apart other own :=
  ⟨fun ip others owns => apart.ips ip owns others,
    fun uuid others owns => apart.uuids uuid owns others⟩

def Confined (territory : Territory) (r : Registry) : Prop :=
  ∀ uuid entry, territory.uuids uuid → r.sessions[uuid]? = some entry →
    territory.ips entry.clientIp

/-- Seen from its own territory, `left` is `right`; what else `left` holds
stays within `other`. -/
structure Agree (own other : Territory) (left right : Registry) : Prop where
  maxPerIp : left.maxPerIp = right.maxPerIp
  sessions : ∀ uuid, own.uuids uuid →
    left.sessions[uuid]? = right.sessions[uuid]?
  count : ∀ ip, own.ips ip → count ip left = count ip right
  confined : Confined own left
  otherConfined : Confined other left

section Operations

variable {own other : Territory} {left right : Registry}

/-! ### Own operations -/

theorem Confined.afterAdd {territory : Territory} {r : Registry}
    (confined : Confined territory r) {uuid : Octets} {clientIp : Octets}
    (fd : Int) (names : territory.uuids uuid → territory.ips clientIp) :
    Confined territory (add uuid fd clientIp r).2 := by
  intro key entry isKey found
  rw [add_lookup] at found
  split at found
  · next added =>
      cases found
      rw [← added.2] at isKey
      exact names isKey
  · exact confined key entry isKey found

theorem Confined.afterClaim {territory : Territory} {r : Registry}
    (confined : Confined territory r) (uuid : Octets) :
    Confined territory (claimFd uuid r).2 := by
  intro key entry isKey found
  rw [claimFd_lookup] at found
  split at found
  · cases found
  · exact confined key entry isKey found

theorem Agree.ownAdd (agree : Agree own other left right)
    (apart : Apart own other) {uuid clientIp : Octets} (fd : Int)
    (isOwn : own.uuids uuid ∧ own.ips clientIp) :
    (add uuid fd clientIp left).1 = (add uuid fd clientIp right).1 ∧
      Agree own other (add uuid fd clientIp left).2
        (add uuid fd clientIp right).2 := by
  have sameSuccess : (add uuid fd clientIp left).1 =
      (add uuid fd clientIp right).1 := by
    rw [add_success, add_success, agree.count clientIp isOwn.2,
      agree.maxPerIp]
  refine ⟨sameSuccess, ?_, ?_, ?_, ?_, ?_⟩
  · rw [add_maxPerIp, add_maxPerIp]
    exact agree.maxPerIp
  · intro key isKey
    rw [add_lookup, add_lookup, sameSuccess, agree.sessions key isKey]
  · intro ip isIp
    rw [add_count, add_count, sameSuccess, agree.count ip isIp]
  · exact agree.confined.afterAdd fd (fun _ => isOwn.2)
  · exact agree.otherConfined.afterAdd fd (fun others =>
      absurd others (apart.uuids uuid isOwn.1))

theorem Agree.ownClaim (agree : Agree own other left right) {uuid : Octets}
    (isOwn : own.uuids uuid) :
    (claimFd uuid left).1 = (claimFd uuid right).1 ∧
      Agree own other (claimFd uuid left).2 (claimFd uuid right).2 := by
  have sameEntry := agree.sessions uuid isOwn
  refine ⟨?_, ?_, ?_, ?_, ?_, ?_⟩
  · rw [claimFd_answer, claimFd_answer]
    unfold filed
    rw [sameEntry]
  · rw [claimFd_maxPerIp, claimFd_maxPerIp]
    exact agree.maxPerIp
  · intro key isKey
    rw [claimFd_lookup, claimFd_lookup, agree.sessions key isKey]
  · intro ip isIp
    rw [claimFd_count, claimFd_count, sameEntry, agree.count ip isIp]
  · exact agree.confined.afterClaim uuid
  · exact agree.otherConfined.afterClaim uuid

theorem Agree.limit (agree : Agree own other left right)
    (max : UInt32) :
    Agree own other (setMaxPerIp max left) (setMaxPerIp max right) :=
  ⟨rfl, agree.sessions, agree.count, agree.confined, agree.otherConfined⟩

theorem Agree.ownOperation (agree : Agree own other left right)
    (apart : Apart own other) (operation : Operation)
    (isOwn : own.Holds operation) :
    (perform left operation).2 = (perform right operation).2 ∧
      Agree own other (perform left operation).1
        (perform right operation).1 := by
  cases operation with
  | add uuid fd clientIp =>
      obtain ⟨sameAnswer, stillAgree⟩ := agree.ownAdd apart fd isOwn
      exact ⟨congrArg Answer.added sameAnswer, stillAgree⟩
  | claimFd uuid =>
      obtain ⟨sameAnswer, stillAgree⟩ := agree.ownClaim isOwn
      exact ⟨congrArg Answer.claimed sameAnswer, stillAgree⟩
  | remove uuid =>
      refine ⟨rfl, ?_⟩
      change Agree own other (remove uuid left) (remove uuid right)
      rw [remove_eq_claimFd, remove_eq_claimFd]
      exact (agree.ownClaim isOwn).2
  | setMaxPerIp max => exact isOwn.elim
  | count ip =>
      exact ⟨congrArg Answer.counted (agree.count ip isOwn), agree⟩

/-! ### Operations of the other party -/

theorem Agree.otherAdd (agree : Agree own other left right)
    (apart : Apart own other) {uuid clientIp : Octets} (fd : Int)
    (isOther : other.uuids uuid ∧ other.ips clientIp) :
    Agree own other (add uuid fd clientIp left).2 right := by
  refine ⟨?_, ?_, ?_, ?_, ?_⟩
  · rw [add_maxPerIp]
    exact agree.maxPerIp
  · intro key isKey
    have different : uuid ≠ key := by
      intro same
      rw [← same] at isKey
      exact apart.uuids uuid isKey isOther.1
    rw [add_lookup, if_neg (fun both => different both.2)]
    exact agree.sessions key isKey
  · intro ip isIp
    have different : clientIp ≠ ip := by
      intro same
      rw [← same] at isIp
      exact apart.ips clientIp isIp isOther.2
    rw [add_count, if_neg (fun both => different both.2)]
    exact agree.count ip isIp
  · exact agree.confined.afterAdd fd (fun owns =>
      absurd isOther.1 (apart.uuids uuid owns))
  · exact agree.otherConfined.afterAdd fd (fun _ => isOther.2)

theorem Agree.otherClaim (agree : Agree own other left right)
    (apart : Apart own other) {uuid : Octets} (isOther : other.uuids uuid) :
    Agree own other (claimFd uuid left).2 right := by
  refine ⟨?_, ?_, ?_, ?_, ?_⟩
  · rw [claimFd_maxPerIp]
    exact agree.maxPerIp
  · intro key isKey
    have different : uuid ≠ key := by
      intro same
      rw [← same] at isKey
      exact apart.uuids uuid isKey isOther
    rw [claimFd_lookup, if_neg different]
    exact agree.sessions key isKey
  · intro ip isIp
    have different :
        left.sessions[uuid]?.map (·.clientIp) ≠ some ip := by
      intro same
      obtain ⟨entry, found, isClientIp⟩ := Option.map_eq_some_iff.mp same
      have others := agree.otherConfined uuid entry isOther found
      rw [isClientIp] at others
      exact apart.ips ip isIp others
    rw [claimFd_count, if_neg different]
    exact agree.count ip isIp
  · exact agree.confined.afterClaim uuid
  · exact agree.otherConfined.afterClaim uuid

theorem Agree.otherOperation (agree : Agree own other left right)
    (apart : Apart own other) (operation : Operation)
    (isOther : other.Holds operation) :
    Agree own other (perform left operation).1 right := by
  cases operation with
  | add uuid fd clientIp => exact agree.otherAdd apart fd isOther
  | claimFd uuid => exact agree.otherClaim apart isOther
  | remove uuid =>
      change Agree own other (remove uuid left) right
      rw [remove_eq_claimFd]
      exact agree.otherClaim apart isOther
  | setMaxPerIp max => exact isOther.elim
  | count ip => exact agree

end Operations

/-! ### Interleavings -/

inductive Party where
  | first
  | second
  deriving DecidableEq, Repr

def Party.other : Party → Party
  | .first => .second
  | .second => .first

inductive Call where
  | ofParty (party : Party) (operation : Operation)
  | setMaxPerIp (max : UInt32)
  deriving DecidableEq, Repr

def Call.operation : Call → Operation
  | .ofParty _ operation => operation
  | .setMaxPerIp max => .setMaxPerIp max

def Call.isOf (party : Party) : Call → Bool
  | .ofParty caller _ => decide (caller = party)
  | .setMaxPerIp _ => false

def calls : Machine Registry Call Answer where
  step r call := machine.step r call.operation

def answersTo (party : Party) (maxPerIp : UInt32) (run : List Call) :
    List (Call × List Answer) :=
  (calls.transcript (create maxPerIp) run).filter fun answered =>
    answered.1.isOf party

def Keeps (territory : Party → Territory) : Call → Prop
  | .ofParty party operation => (territory party).Holds operation
  | .setMaxPerIp _ => True

theorem agree_create (own other : Territory) (maxPerIp : UInt32) :
    Agree own other (create maxPerIp) (create maxPerIp) := by
  have nothing (uuid : Octets) :
      (create maxPerIp).sessions[uuid]? = none := rfl
  refine ⟨rfl, fun _ _ => rfl, fun _ _ => rfl, ?_, ?_⟩
  · intro uuid entry _ found
    rw [nothing] at found
    cases found
  · intro uuid entry _ found
    rw [nothing] at found
    cases found

theorem apart_other {territory : Party → Territory}
    (apart : Apart (territory .first) (territory .second)) (party : Party) :
    Apart (territory party) (territory party.other) := by
  cases party with
  | first => exact apart
  | second => exact apart.symm

theorem Party.eq_of_ne_other {caller party : Party}
    (notOther : caller ≠ party.other) : caller = party := by
  cases caller <;> cases party <;> first | rfl | exact absurd rfl notOther

section Calls

variable {territory : Party → Territory} {party : Party}
  {left right : Registry}

theorem Agree.call
    (agree : Agree (territory party) (territory party.other) left right)
    (apart : Apart (territory party) (territory party.other)) (call : Call)
    (keeps : Keeps territory call)
    (notOther : call.isOf party.other = false) :
    (calls.step left call).2 = (calls.step right call).2 ∧
      Agree (territory party) (territory party.other)
        (calls.step left call).1 (calls.step right call).1 := by
  cases call with
  | ofParty caller operation =>
      have isOwn : caller = party :=
        Party.eq_of_ne_other (of_decide_eq_false notOther)
      subst isOwn
      obtain ⟨sameAnswer, stillAgree⟩ := agree.ownOperation apart operation keeps
      exact ⟨congrArg (fun answer => [answer]) sameAnswer, stillAgree⟩
  | setMaxPerIp max => exact ⟨rfl, agree.limit max⟩

theorem Agree.callOther
    (agree : Agree (territory party) (territory party.other) left right)
    (apart : Apart (territory party) (territory party.other)) (call : Call)
    (keeps : Keeps territory call)
    (isOther : call.isOf party.other = true) :
    Agree (territory party) (territory party.other)
      (calls.step left call).1 right := by
  cases call with
  | ofParty caller operation =>
      have isOtherParty : caller = party.other := of_decide_eq_true isOther
      subst isOtherParty
      exact agree.otherOperation apart operation keeps
  | setMaxPerIp max => cases isOther

end Calls

/-- Every interleaving answers the calls of a party as if the other party had
made none. -/
theorem answersTo_other_omitted (territory : Party → Territory)
    (apart : Apart (territory .first) (territory .second))
    (maxPerIp : UInt32) (run : List Call)
    (keeps : ∀ call ∈ run, Keeps territory call) (party : Party) :
    answersTo party maxPerIp run =
      answersTo party maxPerIp
        (run.filter fun call => !call.isOf party.other) := by
  have apart := apart_other apart party
  have omitted := calls.omission_rule
    (fun call => !call.isOf party.other) (Keeps territory)
    (Agree (territory party) (territory party.other))
    (fun _ _ call keeps kept agree =>
      agree.call apart call keeps (by simpa using kept))
    (fun _ _ call keeps left agree =>
      agree.callOther apart call keeps (by simpa using left))
    (create maxPerIp) (create maxPerIp) (agree_create _ _ maxPerIp) run keeps
  unfold answersTo
  rw [← omitted, List.filter_filter]
  refine List.filter_congr ?_
  intro answered _
  cases answered.1 with
  | ofParty caller operation =>
      cases caller <;> cases party <;> rfl
  | setMaxPerIp max => rfl

theorem answersTo_first_alone :
    let first : Territory :=
      { ips := (· = text "1.1.1.1"), uuids := (· = text "a") }
    let second : Territory :=
      { ips := (· = text "2.2.2.2"), uuids := (· = text "b") }
    let run : List Call :=
      [.setMaxPerIp 1, .ofParty .second (.add (text "b") 4 (text "2.2.2.2")),
        .ofParty .first (.add (text "a") 3 (text "1.1.1.1")),
        .ofParty .second (.claimFd (text "b")),
        .ofParty .first (.count (text "1.1.1.1"))]
    Apart first second ∧
      answersTo .first 5 run =
        answersTo .first 5 (run.filter fun call => !call.isOf .second) := by
  intro first second run
  have apart : Apart first second := by
    refine ⟨?_, ?_⟩
    · rintro ip rfl
      exact (by decide : text "1.1.1.1" ≠ text "2.2.2.2")
    · rintro uuid rfl
      exact (by decide : text "a" ≠ text "b")
  refine ⟨apart, ?_⟩
  refine answersTo_other_omitted
    (fun
      | .first => first
      | .second => second)
    apart 5 run ?_ .first
  simp only [run, List.forall_mem_cons]
  exact ⟨True.intro, ⟨rfl, rfl⟩, ⟨rfl, rfl⟩, rfl, rfl, nofun⟩

end OpenSmsc.ConnectionRegistry
