/-
A receiver that is gone swallows every message.

The table never forgets a session, and `RouteMessage` tries the first recorded
receiver only.  Once that one's process is gone, with no older session left
that could still be recorded as a receiver, no message is delivered any more,
however many receivers connect and bind later.
-/

import OpenSmsc.Network.RelayOrder
import OpenSmsc.Network.RelayRows

namespace OpenSmsc.Relay

open Foundation
open SmppSession (Session TokenArith)
open SmppServerService (Service FirstReceiver)

/-! ### The first receiver -/

theorem firstReceiver_of_below {s after : Service} {uuid : Octets}
    (first : FirstReceiver s uuid)
    (below : ∀ other : Octets, compare uuid other ≠ .lt →
      after.sessions[other]? = s.sessions[other]?) :
    FirstReceiver after uuid := by
  have self : compare uuid uuid ≠ .lt := by
    have equal : compare uuid uuid = .eq := Std.ReflCmp.compare_self
    rw [equal]
    decide
  refine ⟨?_, ?_⟩
  · obtain ⟨info, present, receives⟩ := first.recorded
    exact ⟨info, (below uuid self).trans present, receives⟩
  · intro other info present receives
    by_cases above : compare uuid other = .lt
    · exact Or.inr above
    · rw [below other above] at present
      exact first.least other info present receives

/-! ### The receiver that is gone -/

section Loss

variable {Number : Type}

/-- `uuid` is the first recorded receiver, and no process up to it in the
order of the table is left, nor a call of one. -/
structure Swallows (n : State Number) (uuid : Octets) : Prop where
  first : FirstReceiver n.service uuid
  gone : ∀ other : Octets, compare uuid other ≠ .lt →
    n.processes[other]? = none ∨ n.processes[other]? = some .exited
  silent : ∀ call ∈ n.requests, compare uuid call.sender = .lt

def ConnectsAbove (uuid : Octets) : Action → Prop
  | .connect new _ _ _ => compare uuid new = .lt
  | _ => True

instance (uuid : Octets) : DecidablePred (ConnectsAbove uuid)
  | .connect new _ _ _ => inferInstanceAs (Decidable (compare uuid new = .lt))
  | .handle _ _ => isTrue True.intro
  | .serve _ _ => isTrue True.intro
  | .execute _ => isTrue True.intro
  | .giveUp _ => isTrue True.intro
  | .giveUpDelivery => isTrue True.intro
  | .terminate _ => isTrue True.intro
  | .setMaxConnectionsPerIp _ _ => isTrue True.intro

theorem Swallows.running_above {n : State Number} {uuid other : Octets}
    (swallows : Swallows n uuid) {peer : Peer Number}
    (running : n.processes[other]? = some (.running peer)) :
    compare uuid other = .lt := by
  by_contra notAbove
  rcases swallows.gone other notAbove with absent | exited
  · rw [absent] at running
    cases running
  · rw [exited] at running
    cases running

theorem Swallows.step [Transport] [TokenArith Number] {n : State Number}
    {uuid : Octets} (swallows : Swallows n uuid) (owned : Owned n)
    (action : Action) (above : ConnectsAbove uuid action) :
    Swallows (Relay.step n action).1 uuid := by
  have silent : ∀ call ∈ (Relay.step n action).1.requests,
      compare uuid call.sender = .lt := by
    intro call member
    cases step_asked n action call member with
    | before old => exact swallows.silent call old
    | launch fd clientIp launched isConnect isSocket =>
        rw [isConnect] at above
        exact above
    | session peer handler running isHandle ran sent asks arrives =>
        exact swallows.running_above running
  refine ⟨firstReceiver_of_below swallows.first ?_, ?_, silent⟩
  · intro other notAbove
    cases step_rowMoved n action other with
    | same unmoved => exact unmoved
    | opened fd clientIp launched isConnect new now =>
        rw [isConnect] at above
        exact absurd above notAbove
    | updated call member systemId state isUpdate now =>
        rw [owned.updates call member other systemId state isUpdate]
          at notAbove
        exact absurd (swallows.silent call member) notAbove
  · intro other notAbove
    have before := swallows.gone other notAbove
    have notRunning : ∀ peer,
        n.processes[other]? ≠ some (.running peer) := by
      intro peer running
      exact notAbove (swallows.running_above running)
    cases step_became n action other with
    | same unmoved =>
        rw [unmoved]
        exact before
    | launched clientIp absent starts asked =>
        -- a launched process has made its first call
        have called := silent
          { sender := other, serial := 0, request := .getSocket other }
          (by
            rw [asked]
            exact List.mem_append_right _ (List.mem_singleton_self _))
        exact absurd called notAbove
    | started clientIp was starts =>
        rw [was] at before
        rcases before with impossible | impossible
        · cases impossible
        · cases impossible
    | ended wasNot ends => exact Or.inr ends
    | terminated ends none => exact Or.inr ends
    | ran peer session identity was runs => exact absurd was (notRunning peer)
    | freed peer session identity was free =>
        exact absurd was (notRunning peer)
    | called peer session arrived identity was calls asked ordinary =>
        exact absurd was (notRunning peer)

theorem Swallows.traffic [Transport] {n after : State Number} {uuid : Octets}
    {outputs : List Observed} (swallows : Swallows n uuid)
    (traffic : Traffic n after outputs) :
    (∀ delivery ∈ after.deliveries, delivery ∈ n.deliveries) ∧
      ∀ delivery effects, Observed.delivers delivery effects ∈ outputs →
        delivery ∈ n.deliveries := by
  cases traffic with
  | kept requests deliveries serving =>
      rw [deliveries]
      exact ⟨fun _ member => member, fun _ _ member => by cases member⟩
  | dropped other requests deliveries serving =>
      rw [deliveries]
      exact ⟨fun _ member => (List.mem_filter.mp member).1,
        fun _ _ member => by cases member⟩
  | called call requests deliveries serving =>
      rw [deliveries]
      refine ⟨fun _ member => member, ?_⟩
      intro delivery effects member
      unfold observed at member
      split at member <;> simp at member
  | served call taken deliveries free serving socket answered =>
      rw [deliveries]
      exact ⟨fun _ member => member, fun _ _ member => by cases member⟩
  | dispatched call target srcAddr dstAddr shortMessage messageId message
      taken isRoute arrives deliveries free serving isTarget running =>
      obtain ⟨peer, running⟩ := running
      rw [isTarget, targetUuid_of_first swallows.first] at running
      have self : compare uuid uuid = .eq := Std.ReflCmp.compare_self
      have above := swallows.running_above running
      rw [self] at above
      cases above
  | executed executed effects requests taken serving =>
      refine ⟨?_, ?_⟩
      · intro delivery member
        exact taken.perm.mem_iff.mpr (List.mem_cons_of_mem _ member)
      · intro delivery others member
        cases List.mem_singleton.mp member
        exact taken.perm.mem_iff.mpr List.mem_cons_self

/-- Let the first recorded receiver be gone, with every session that comes
before it in the table.  From then on, as long as new sessions come after it in
the order of the table, nothing is delivered but what was under way already,
whoever binds as a receiver and however many messages are handed over. -/
theorem gone_receiver_swallows [Transport] [TokenArith Number]
    (maxPerIp : UInt32) (actions : List Action) (uuid : Octets)
    (swallows : Swallows
      (machine.final (create maxPerIp : State Number) actions) uuid)
    (later : List Action)
    (above : ∀ action ∈ later, ConnectsAbove uuid action) :
    ∀ delivery effects,
      Observed.delivers delivery effects ∈
          machine.emitted
            (machine.final (create maxPerIp : State Number) actions) later →
        delivery ∈
          (machine.final (create maxPerIp : State Number)
            actions).deliveries := by
  have owned := owned_of_run Number maxPerIp actions
  generalize machine.final (create maxPerIp : State Number) actions = n at *
  induction later generalizing n with
  | nil =>
      intro delivery effects member
      cases member
  | cons action rest ih =>
      rw [List.forall_mem_cons] at above
      obtain ⟨fewer, delivered⟩ := swallows.traffic (step_traffic n action)
      intro delivery effects member
      rw [Machine.emitted_cons, List.mem_append] at member
      rcases member with here | behind
      · exact delivered delivery effects here
      · exact fewer delivery (ih above.2 (step n action).1
          (swallows.step owned action above.1) (owned.step action) delivery
          effects behind)

def readPdu (uuid : Octets) (hdr : Smpp.Header) (body : Octets) :
    List Action :=
  let env : SmppSession.Env :=
    { authenticate := fun _ _ _ _ => some (true, Smpp.esmeRok)
      systemClock := 100
      steadyClock := 0 }
  [.handle uuid ⟨.onHeader env (.ok (Smpp.writeHeader hdr)), rfl⟩,
    .handle uuid ⟨.onBody env hdr (.ok body), rfl⟩]

def connectAndBind (uuid : Octets) (commandId : UInt32) : List Action :=
  [.connect uuid 7 (text "10.0.0.1") true, .serve 0 uuid] ++
    readPdu uuid
      { commandLength := 31
        commandId := commandId
        commandStatus := 0
        sequenceNumber := 1 }
      (text "user" ++ [0] ++ text "secret" ++ [0, 0, 0x34, 0]) ++
    [.serve 0 uuid]

def submit (uuid : Octets) : List Action :=
  readPdu uuid
      { commandLength := 37
        commandId := Smpp.submitSm
        commandStatus := 0
        sequenceNumber := 2 }
      ([0, 0, 0] ++ text "1" ++ [0, 0, 0] ++ text "2" ++
        [0, 0, 0, 0, 0, 0, 0, 0, 0, 0, 2] ++ text "hi") ++
    [.serve 0 uuid]

def receiverGone : List Action :=
  connectAndBind (text "a1") Smpp.bindReceiver ++ [.terminate (text "a1")]

def afterReceiverGone : State Float :=
  letI := asciiTransport
  machine.final (create 5) receiverGone

def successorSubmits : List Action :=
  connectAndBind (text "b1") Smpp.bindTransceiver ++ submit (text "b1")

theorem receiverGone_swallows : Swallows afterReceiverGone (text "a1") := by
  refine ⟨?_, ?_, ?_⟩
  · exact SmppServerService.find?_receiver_some afterReceiverGone.service
      (text "a1")
      { clientIp := text "10.0.0.1"
        systemId := text "user"
        state := text "BOUND_RX" } (by decide +kernel)
  · intro other _
    by_cases isGone : other = text "a1"
    · rw [isGone]
      exact Or.inr rfl
    · left
      have keys : afterReceiverGone.processes.keys = [text "a1"] := by
        decide +kernel
      rw [Std.TreeMap.getElem?_eq_none]
      rw [← Std.TreeMap.mem_keys, keys, List.mem_singleton]
      exact isGone
  · intro call member
    have none : afterReceiverGone.requests = [] := by decide +kernel
    rw [none] at member
    cases member

/-- Nobody gets the successor's message, although the successor itself is a
receiver. -/
theorem gone_receiver_swallows_successor :
    letI := asciiTransport
    routedBy (text "b1")
        (machine.emitted afterReceiverGone successorSubmits) =
      [{ serial := 2
         srcAddr := text "1"
         dstAddr := text "2"
         shortMessage := text "hi" }] ∧
      ∀ delivery effects, Observed.delivers delivery effects ∉
        machine.emitted afterReceiverGone successorSubmits := by
  let := asciiTransport
  refine ⟨by decide +kernel, ?_⟩
  intro delivery effects delivers
  have above : ∀ action ∈ successorSubmits,
      ConnectsAbove (text "a1") action := by
    decide +kernel
  have underWay : delivery ∈ afterReceiverGone.deliveries :=
    gone_receiver_swallows 5 receiverGone (text "a1")
      receiverGone_swallows successorSubmits above delivery effects delivers
  have none : afterReceiverGone.deliveries = [] := by decide +kernel
  rw [none] at underWay
  cases underWay

end Loss

end OpenSmsc.Relay
