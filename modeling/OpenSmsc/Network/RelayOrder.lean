/-
What becomes of the messages a session hands over.

Whatever times out, dies or is served late, the messages of one sender that one
receiver gets are among those the sender handed over, in that order, and no
message is delivered twice, to whomever.  A message goes over the bus twice; if
the bus leaves strings as they are, it arrives as it was handed over.
-/

import Mathlib.Data.List.Perm.Subperm
import OpenSmsc.Network.Relay

namespace OpenSmsc.Relay

open Foundation
open SmppSession (Session TokenArith)

/-- A message as the server relays it, with the sender's number for it. -/
structure Relayed extends Smpp.Message where
  serial : Nat
  deriving DecidableEq, Repr

def Call.relayed (call : Call) : Option Relayed :=
  match call.request with
  | .routeMessage srcAddr dstAddr shortMessage _ =>
      some
        { serial := call.serial
          srcAddr := srcAddr
          dstAddr := dstAddr
          shortMessage := shortMessage }
  | _ => none

def Delivery.relayed (delivery : Delivery) : Relayed :=
  { delivery.toMessage with serial := delivery.serial }

def Relayed.carried [Transport] (message : Relayed) : Option Relayed :=
  (Relay.carried message.toMessage).map fun arrived =>
    { message with toMessage := arrived }

def Relayed.atReceiver [Transport] (message : Relayed) : Option Relayed :=
  (carriedTwice message.toMessage).map fun arrived =>
    { message with toMessage := arrived }

theorem Relayed.atReceiver_eq [Transport] (message : Relayed) :
    message.atReceiver = message.carried.bind Relayed.carried := by
  cases first : Relay.carried message.toMessage with
  | none => simp [atReceiver, carriedTwice, Relayed.carried, first]
  | some arrived =>
      simp [atReceiver, carriedTwice, Relayed.carried, first]

theorem Transport.Exact.atReceiver [Transport] (exact : Transport.Exact)
    {message arrived : Relayed}
    (arrives : message.atReceiver = some arrived) : arrived = message := by
  obtain ⟨texts, isTexts, rfl⟩ := Option.map_eq_some_iff.mp arrives
  rw [exact.carriedTwice isTexts]

/-! ### Accounts of a run -/

/-- The messages a sender handed to the server. -/
def routedBy (sender : Octets) (record : List Observed) : List Relayed :=
  record.filterMap fun
    | .routes by_ serial srcAddr dstAddr shortMessage _ =>
        if by_ = sender then
          some
            { serial := serial
              srcAddr := srcAddr
              dstAddr := dstAddr
              shortMessage := shortMessage }
        else none
    | .delivers _ _ => none

def executions (record : List Observed) : List Delivery :=
  record.filterMap fun
    | .routes _ _ _ _ _ _ => none
    | .delivers delivery _ => some delivery

def messagesOf (sender : Octets) (deliveries : List Delivery) :
    List Relayed :=
  (Lanes.lane Delivery.sender sender deliveries).map Delivery.relayed

def deliveredTo (sender target : Octets) (record : List Observed) :
    List Relayed :=
  messagesOf sender (Lanes.lane Delivery.target target (executions record))

def deliveredFor (sender : Octets) (record : List Observed) :
    List Relayed :=
  messagesOf sender (executions record)

@[simp] theorem routedBy_append (sender : Octets)
    (first second : List Observed) :
    routedBy sender (first ++ second) =
      routedBy sender first ++ routedBy sender second :=
  List.filterMap_append

@[simp] theorem executions_append (first second : List Observed) :
    executions (first ++ second) = executions first ++ executions second :=
  List.filterMap_append

@[simp] theorem messagesOf_append (sender : Octets)
    (first second : List Delivery) :
    messagesOf sender (first ++ second) =
      messagesOf sender first ++ messagesOf sender second := by
  unfold messagesOf
  rw [Lanes.lane_append, List.map_append]

@[simp] theorem executions_observed (call : Call) :
    executions (observed call) = [] := by
  unfold observed
  split <;> rfl

theorem routedBy_observed (sender : Octets) (call : Call) :
    routedBy sender (observed call) =
      (Lanes.lane Call.sender sender [call]).filterMap Call.relayed := by
  obtain ⟨by_, serial, request⟩ := call
  by_cases own : by_ = sender
  · cases request with
    | getSocket uuid =>
        simp [observed, routedBy, Lanes.lane, Call.relayed, own]
    | updateSessionDetails uuid systemId state =>
        simp [observed, routedBy, Lanes.lane, Call.relayed, own]
    | routeMessage srcAddr dstAddr shortMessage messageId =>
        simp [observed, routedBy, Lanes.lane, Call.relayed, own]
  · cases request with
    | getSocket uuid => simp [observed, routedBy, Lanes.lane, own]
    | updateSessionDetails uuid systemId state =>
        simp [observed, routedBy, Lanes.lane, own]
    | routeMessage srcAddr dstAddr shortMessage messageId =>
        simp [observed, routedBy, Lanes.lane, own]

/-! ### The path of a message -/

def unserved (sender : Octets) (requests : List Call) : List Relayed :=
  (Lanes.lane Call.sender sender requests).filterMap Call.relayed

/-- What the server gets of a sender splits into what it has served and what it
has not.  The deliveries, made or under way, come from the served part. -/
structure Conveyed [Transport] {Number : Type} (sender : Octets)
    (n : State Number) (record : List Observed) (done : List Relayed) :
    Prop where
  handed : (routedBy sender record).filterMap Relayed.carried =
    done ++ unserved sender n.requests
  ordered : ∀ target, (deliveredTo sender target record ++
    messagesOf sender
      (Lanes.lane Delivery.target target n.deliveries)).Sublist
        (done.filterMap Relayed.carried)
  once : (deliveredFor sender record ++
    messagesOf sender n.deliveries).Subperm (done.filterMap Relayed.carried)

section Steps

variable {Number : Type} {sender : Octets} {n after : State Number}
  {record : List Observed} {done : List Relayed}

theorem unserved_append (first second : List Call) :
    unserved sender (first ++ second) =
      unserved sender first ++ unserved sender second := by
  unfold unserved
  rw [Lanes.lane_append, List.filterMap_append]

theorem unserved_taken {call : Call} {items rest : List Call}
    (taken : Lanes.Taken Call.sender call.sender items call rest) :
    unserved sender items =
      unserved sender [call] ++ unserved sender rest := by
  unfold unserved
  rw [taken.split sender, List.filterMap_append]

theorem unserved_other {call : Call} (foreign : call.sender ≠ sender) :
    unserved sender [call] = [] := by
  unfold unserved
  rw [Lanes.lane_singleton_other foreign]
  rfl

theorem unserved_own {call : Call} (own : call.sender = sender) :
    unserved sender [call] = call.relayed.toList := by
  cases relayed : call.relayed with
  | none => simp [unserved, Lanes.lane, own, relayed]
  | some message => simp [unserved, Lanes.lane, own, relayed]

theorem relayed_arrives [Transport] (call : Call) :
    call.arrives.bind Call.relayed = call.relayed.bind Relayed.carried := by
  obtain ⟨by_, serial, request⟩ := call
  cases request with
  | getSocket uuid => rfl
  | updateSessionDetails uuid systemId state =>
      cases carries : Transport.carries systemId with
      | none => simp [Call.arrives, Request.arrives, Call.relayed, carries]
      | some arrived =>
          simp [Call.arrives, Request.arrives, Call.relayed, carries]
  | routeMessage srcAddr dstAddr shortMessage messageId =>
      cases carries : carried ⟨srcAddr, dstAddr, shortMessage⟩ with
      | none => simp [Call.arrives, Request.arrives, Call.relayed,
          Relayed.carried, carries]
      | some arrived => simp [Call.arrives, Request.arrives, Call.relayed,
          Relayed.carried, carries]

theorem unserved_arrives [Transport] (sender : Octets) (call : Call) :
    unserved sender call.arrives.toList =
      (unserved sender [call]).filterMap Relayed.carried := by
  have sameSender : ∀ arrived, call.arrives = some arrived →
      arrived.sender = call.sender := by
    intro arrived arrives
    obtain ⟨request, _, rfl⟩ := Option.map_eq_some_iff.mp arrives
    rfl
  have message := relayed_arrives call
  by_cases own : call.sender = sender
  · have carries : call.relayed.toList.filterMap Relayed.carried =
        (call.relayed.bind Relayed.carried).toList := by
      cases call.relayed with
      | none => rfl
      | some message =>
          cases isCarried : message.carried with
          | none => simp [isCarried]
          | some arrived => simp [isCarried]
    rw [unserved_own own, carries, ← message]
    cases arrives : call.arrives with
    | none => rfl
    | some arrived => exact unserved_own ((sameSender _ arrives).trans own)
  · rw [unserved_other own]
    cases arrives : call.arrives with
    | none => rfl
    | some arrived =>
        apply unserved_other
        rw [sameSender arrived arrives]
        exact own

theorem messagesOf_deliveryFor [Transport] (sender : Octets) (call : Call)
    (target srcAddr dstAddr shortMessage messageId : Octets)
    (message : Smpp.Message)
    (isRoute : call.request =
      .routeMessage srcAddr dstAddr shortMessage messageId)
    (arrives : carried ⟨srcAddr, dstAddr, shortMessage⟩ = some message) :
    messagesOf sender [deliveryFor call target message] =
      (unserved sender [call]).filterMap Relayed.carried := by
  by_cases own : call.sender = sender
  · rw [unserved_own own]
    simp [messagesOf, Lanes.lane, deliveryFor, own, Call.relayed, isRoute,
      Delivery.relayed, Relayed.carried, arrives]
  · rw [unserved_other own]
    simp [messagesOf, Lanes.lane, deliveryFor, own]

theorem messagesOf_sublist (sender : Octets) {some all : List Delivery}
    (sublist : some.Sublist all) :
    (messagesOf sender some).Sublist (messagesOf sender all) :=
  (sublist.filter _).map _

theorem messagesOf_lane_sublist (sender target : Octets)
    (deliveries : List Delivery) :
    (messagesOf sender
      (Lanes.lane Delivery.target target deliveries)).Sublist
      (messagesOf sender deliveries) :=
  messagesOf_sublist sender List.filter_sublist

variable [Transport]

theorem Conveyed.fewer {fewer : List Delivery}
    (conveyed : Conveyed sender n record done)
    (requests : after.requests = n.requests)
    (deliveries : after.deliveries = fewer)
    (sublist : fewer.Sublist n.deliveries) :
    Conveyed sender after record done := by
  refine ⟨?_, ?_, ?_⟩
  · rw [requests]
    exact conveyed.handed
  · intro target
    rw [deliveries]
    have lanes := messagesOf_sublist sender
      (sublist.filter fun delivery => decide (delivery.target = target))
    exact ((List.Sublist.refl _).append lanes).trans
      (conveyed.ordered target)
  · rw [deliveries]
    exact ((List.Sublist.refl _).append
      (messagesOf_sublist sender sublist)).subperm.trans conveyed.once

theorem Conveyed.called (conveyed : Conveyed sender n record done)
    (call : Call)
    (requests : after.requests = n.requests ++ call.arrives.toList)
    (deliveries : after.deliveries = n.deliveries) :
    Conveyed sender after (record ++ observed call) done := by
  refine ⟨?_, ?_, ?_⟩
  · rw [routedBy_append, routedBy_observed, List.filterMap_append,
      conveyed.handed, requests, unserved_append, unserved_arrives,
      List.append_assoc]
    rfl
  · intro target
    rw [deliveries]
    simpa [deliveredTo] using conveyed.ordered target
  · rw [deliveries]
    simpa [deliveredFor] using conveyed.once

theorem Conveyed.served (conveyed : Conveyed sender n record done)
    (call : Call)
    (taken : Lanes.Taken Call.sender call.sender n.requests call
      after.requests)
    (deliveries : after.deliveries = n.deliveries) :
    Conveyed sender after record (done ++ unserved sender [call]) := by
  refine ⟨?_, ?_, ?_⟩
  · rw [conveyed.handed, unserved_taken taken, List.append_assoc]
  · intro target
    rw [deliveries, List.filterMap_append]
    exact (conveyed.ordered target).trans (List.sublist_append_left _ _)
  · rw [deliveries, List.filterMap_append]
    exact conveyed.once.trans (List.sublist_append_left _ _).subperm

theorem Conveyed.dispatched (conveyed : Conveyed sender n record done)
    (call : Call) (target srcAddr dstAddr shortMessage messageId : Octets)
    (message : Smpp.Message)
    (taken : Lanes.Taken Call.sender call.sender n.requests call
      after.requests)
    (isRoute : call.request =
      .routeMessage srcAddr dstAddr shortMessage messageId)
    (arrives : carried ⟨srcAddr, dstAddr, shortMessage⟩ = some message)
    (deliveries : after.deliveries = n.deliveries ++
      [deliveryFor call target message]) :
    Conveyed sender after record (done ++ unserved sender [call]) := by
  have isMessage := messagesOf_deliveryFor sender call target srcAddr
    dstAddr shortMessage messageId message isRoute arrives
  refine ⟨?_, ?_, ?_⟩
  · rw [conveyed.handed, unserved_taken taken, List.append_assoc]
  · intro other
    rw [deliveries, Lanes.lane_append, messagesOf_append,
      ← List.append_assoc, List.filterMap_append, ← isMessage]
    exact (conveyed.ordered other).append (messagesOf_lane_sublist sender
      other _)
  · rw [deliveries, messagesOf_append, ← List.append_assoc,
      List.filterMap_append, isMessage]
    exact conveyed.once.append (List.Subperm.refl _)

theorem Conveyed.executed (conveyed : Conveyed sender n record done)
    (delivery : Delivery) (outputs : List SmppSession.Effect)
    (requests : after.requests = n.requests)
    (taken : Lanes.Taken Delivery.target delivery.target n.deliveries
      delivery after.deliveries) :
    Conveyed sender after (record ++ [.delivers delivery outputs])
      done := by
  have execution : executions [.delivers delivery outputs] = [delivery] := rfl
  refine ⟨?_, ?_, ?_⟩
  · have silent : routedBy sender [.delivers delivery outputs] = [] := rfl
    rw [requests, routedBy_append, silent, List.append_nil]
    exact conveyed.handed
  · intro target
    have ordered := conveyed.ordered target
    rw [taken.split target, messagesOf_append] at ordered
    unfold deliveredTo
    rw [executions_append, execution, Lanes.lane_append, messagesOf_append,
      List.append_assoc]
    exact ordered
  · have moved : (messagesOf sender n.deliveries).Perm
        (messagesOf sender [delivery] ++
          messagesOf sender after.deliveries) := by
      rw [← messagesOf_append]
      exact (taken.perm.filter _).map _
    unfold deliveredFor
    rw [executions_append, execution, messagesOf_append, List.append_assoc]
    exact (moved.symm.append_left _).subperm.trans conveyed.once

theorem Conveyed.moved {outputs : List Observed}
    (conveyed : Conveyed sender n record done)
    (traffic : Traffic n after outputs) :
    ∃ done', Conveyed sender after (record ++ outputs) done' := by
  cases traffic with
  | kept requests deliveries serving =>
      refine ⟨done, ?_⟩
      rw [List.append_nil]
      exact conveyed.fewer requests deliveries (List.Sublist.refl _)
  | dropped uuid requests deliveries serving =>
      refine ⟨done, ?_⟩
      rw [List.append_nil]
      exact conveyed.fewer requests deliveries List.filter_sublist
  | called call requests deliveries serving =>
      exact ⟨done, conveyed.called call requests deliveries⟩
  | served call taken deliveries free serving socket answered =>
      refine ⟨done ++ unserved sender [call], ?_⟩
      rw [List.append_nil]
      exact conveyed.served call taken deliveries
  | dispatched call target srcAddr dstAddr shortMessage messageId message
      taken isRoute arrives deliveries free serving isTarget running =>
      refine ⟨done ++ unserved sender [call], ?_⟩
      rw [List.append_nil]
      exact conveyed.dispatched call target srcAddr dstAddr shortMessage
        messageId message taken isRoute arrives deliveries
  | executed delivery effects requests taken serving =>
      exact ⟨done, conveyed.executed delivery effects requests taken⟩

end Steps

theorem conveyed_of_run [Transport] (Number : Type) [TokenArith Number]
    (maxPerIp : UInt32) (actions : List Action) (sender : Octets) :
    ∃ done, Conveyed sender
      (machine.final (create maxPerIp : State Number) actions)
      (machine.emitted (create maxPerIp : State Number) actions) done := by
  unfold Machine.emitted
  refine machine.history_rule
    (fun (n : State Number) past => ∃ done,
      Conveyed sender n (past.flatMap (·.outputs)) done)
    (create maxPerIp) ?_ ?_ actions
  · exact ⟨[], rfl, fun _ => List.Sublist.refl _, List.Subperm.refl _⟩
  · rintro n past action ⟨done, conveyed⟩
    rw [List.flatMap_append, List.flatMap_singleton]
    exact conveyed.moved (step_traffic n action)

theorem Conveyed.served_sublist [Transport] {Number : Type}
    {sender : Octets} {n : State Number} {record : List Observed}
    {done : List Relayed} (conveyed : Conveyed sender n record done) :
    (done.filterMap Relayed.carried).Sublist
      ((routedBy sender record).filterMap Relayed.atReceiver) := by
  have twice : (routedBy sender record).filterMap Relayed.atReceiver =
      ((routedBy sender record).filterMap Relayed.carried).filterMap
        Relayed.carried := by
    rw [List.filterMap_filterMap]
    exact List.filterMap_congr fun message _ => message.atReceiver_eq
  rw [twice, conveyed.handed, List.filterMap_append]
  exact List.sublist_append_left _ _

theorem delivered_subperm_routed [Transport] (Number : Type)
    [TokenArith Number] (maxPerIp : UInt32) (actions : List Action)
    (sender : Octets) :
    let record := machine.emitted (create maxPerIp : State Number) actions
    (deliveredFor sender record).Subperm
      ((routedBy sender record).filterMap Relayed.atReceiver) := by
  intro record
  obtain ⟨done, conveyed⟩ := conveyed_of_run Number maxPerIp actions sender
  exact (List.sublist_append_left _ _).subperm.trans
    (conveyed.once.trans conveyed.served_sublist.subperm)

/-! ### The numbers of a sender's messages -/

section Numbers

variable [Transport] {Number : Type} [TokenArith Number]

theorem step_routedBy (n : State Number) (action : Action)
    (sender : Octets) :
    routedBy sender (step n action).2 = [] ∨
      ∃ peer message after,
        n.processes[sender]? = some (.running peer) ∧
          routedBy sender (step n action).2 = [message] ∧
          message.serial = peer.calls ∧
          (step n action).1.processes[sender]? = some (.running after) ∧
          after.calls = peer.calls + 1 := by
  cases action with
  | handle uuid handler =>
      simp only [step, handle]
      split
      · rename_i peer was
        split
        · exact Or.inl rfl
        · split
          · exact Or.inl rfl
          · rename_i request found
            by_cases own : uuid = sender
            · subst own
              cases request with
              | getSocket asked => exact Or.inl rfl
              | updateSessionDetails asked systemId state =>
                  exact Or.inl rfl
              | routeMessage srcAddr dstAddr shortMessage messageId =>
                  let message : Relayed :=
                    { serial := peer.calls
                      srcAddr := srcAddr
                      dstAddr := dstAddr
                      shortMessage := shortMessage }
                  refine Or.inr ⟨peer, message, _, was, ?_, rfl,
                    setProcess_self _ _ _, rfl⟩
                  simp [observed, routedBy, message]
            · left
              rw [routedBy_observed, Lanes.lane_singleton_other own]
              rfl
      · exact Or.inl rfl
  | execute target =>
      simp only [step, execute]
      split
      · exact Or.inl rfl
      · exact Or.inl rfl
  | connect _ _ _ _ => exact Or.inl rfl
  | serve _ _ => exact Or.inl rfl
  | giveUp _ => exact Or.inl rfl
  | giveUpDelivery => exact Or.inl rfl
  | terminate _ => exact Or.inl rfl
  | setMaxConnectionsPerIp _ _ => exact Or.inl rfl

/-- A number above those of all messages so far, unless the process cannot
hand over another one. -/
def nextNumber : Option (Process Number) → Option Nat
  | none => some 0
  | some (.starting _) => some 0
  | some (.running peer) => some peer.calls
  | some .exited => none

omit [Transport] [TokenArith Number] in
theorem Became.nextNumber_le {n after : State Number} {uuid : Octets}
    (became : Became n after uuid) {bound : Nat}
    (bounded : nextNumber after.processes[uuid]? = some bound) :
    ∃ earlier ≤ bound, nextNumber n.processes[uuid]? = some earlier := by
  cases became with
  | same unmoved =>
      rw [unmoved] at bounded
      exact ⟨bound, Nat.le_refl _, bounded⟩
  | launched clientIp absent now asked =>
      exact ⟨0, Nat.zero_le _, by rw [absent]; rfl⟩
  | started clientIp was now =>
      exact ⟨0, Nat.zero_le _, by rw [was]; rfl⟩
  | ended notRunning now =>
      rw [now] at bounded
      cases bounded
  | terminated now gone =>
      rw [now] at bounded
      cases bounded
  | ran peer session identity was now =>
      rw [now] at bounded
      exact ⟨bound, Nat.le_refl _, by rw [was]; exact bounded⟩
  | freed peer session identity was now =>
      rw [now] at bounded
      exact ⟨bound, Nat.le_refl _, by rw [was]; exact bounded⟩
  | called peer session arrived identity was now asked ordinary =>
      rw [now] at bounded
      cases bounded
      exact ⟨peer.calls, Nat.le_succ _, by rw [was]; rfl⟩

structure Numbered (sender : Octets) (n : State Number)
    (record : List Observed) : Prop where
  increasing : (routedBy sender record).Pairwise
    fun earlier later => earlier.serial < later.serial
  below : ∀ bound, nextNumber n.processes[sender]? = some bound →
    ∀ message ∈ routedBy sender record, message.serial < bound

theorem Numbered.step {sender : Octets} {n : State Number}
    {record : List Observed} (numbered : Numbered sender n record)
    (action : Action) :
    Numbered sender (Relay.step n action).1
      (record ++ (Relay.step n action).2) := by
  rcases step_routedBy n action sender with
    silent | ⟨peer, message, after, was, routed, number, now, next⟩
  · refine ⟨?_, ?_⟩
    · rw [routedBy_append, silent, List.append_nil]
      exact numbered.increasing
    · intro bound bounded other member
      rw [routedBy_append, silent, List.append_nil] at member
      obtain ⟨earlier, atMost, wasBounded⟩ :=
        (step_became n action sender).nextNumber_le bounded
      exact Nat.lt_of_lt_of_le
        (numbered.below earlier wasBounded other member) atMost
  · have below : ∀ other ∈ routedBy sender record,
        other.serial < peer.calls :=
      numbered.below peer.calls (by rw [was]; rfl)
    refine ⟨?_, ?_⟩
    · rw [routedBy_append, routed, List.pairwise_append]
      refine ⟨numbered.increasing, List.pairwise_singleton _ _, ?_⟩
      intro earlier member later isMessage
      rw [List.mem_singleton.mp isMessage, number]
      exact below earlier member
    · intro bound bounded other member
      rw [now] at bounded
      cases bounded
      rw [routedBy_append, routed, List.mem_append,
        List.mem_singleton] at member
      rw [next]
      rcases member with old | isMessage
      · exact Nat.lt_succ_of_lt (below other old)
      · rw [isMessage, number]
        exact Nat.lt_succ_self _

variable (Number) in
theorem numbered_of_run (maxPerIp : UInt32) (actions : List Action)
    (sender : Octets) :
    Numbered sender
      (machine.final (create maxPerIp : State Number) actions)
      (machine.emitted (create maxPerIp : State Number) actions) := by
  unfold Machine.emitted
  refine machine.history_rule
    (fun (n : State Number) past =>
      Numbered sender n (past.flatMap (·.outputs)))
    (create maxPerIp) ?_ ?_ actions
  · exact ⟨List.Pairwise.nil, fun _ _ _ member => by cases member⟩
  · intro n past action numbered
    rw [List.flatMap_append, List.flatMap_singleton]
    exact numbered.step action

/-- How a served `DeliverSm` ends: the message is sent as it came in, or the
call throws. -/
def EndsWell (delivery : Delivery) (outputs : List SmppSession.Effect) :
    Prop :=
  (∃ seq, outputs =
      [.sendPdu (Smpp.makeDeliverSm seq delivery.srcAddr delivery.dstAddr
        delivery.shortMessage), .returnDeliverSm seq]) ∨
    ∃ name message, outputs = [.throwError name message]

theorem step_delivers (n : State Number) (action : Action)
    (delivery : Delivery) (outputs : List SmppSession.Effect)
    (delivers : Observed.delivers delivery outputs ∈ (step n action).2) :
    EndsWell delivery outputs := by
  have notObserved : ∀ call : Call,
      Observed.delivers delivery outputs ∉ observed call := by
    intro call
    unfold observed
    split <;> simp
  cases action with
  | execute target =>
      simp only [step, execute] at delivers
      split at delivers
      · rename_i peer served rest was found
        cases List.mem_singleton.mp delivers
        unfold SmppSession.deliverSm
        split
        · exact Or.inr ⟨_, _, rfl⟩
        · exact Or.inl ⟨_, rfl⟩
      · cases delivers
  | handle uuid handler =>
      simp only [step, handle] at delivers
      split at delivers
      · split at delivers
        · cases delivers
        · split at delivers
          · cases delivers
          · exact absurd delivers (notObserved _)
      · cases delivers
  | connect _ _ _ _ => cases delivers
  | serve _ _ => cases delivers
  | giveUp _ => cases delivers
  | giveUpDelivery => cases delivers
  | terminate _ => cases delivers
  | setMaxConnectionsPerIp _ _ => cases delivers

theorem Transport.Exact.filterMap_atReceiver (exact : Transport.Exact)
    (messages : List Relayed) :
    (messages.filterMap Relayed.atReceiver).Sublist messages := by
  induction messages with
  | nil => exact List.Sublist.refl _
  | cons message rest ih =>
      rw [List.filterMap_cons]
      split
      · exact ih.cons _
      · rename_i arrived arrives
        rw [exact.atReceiver arrives]
        exact ih.cons_cons _

/-- Every run of the network, with any timeouts, crashes and late calls.  The
messages of a sender bear increasing numbers; what any one receiver gets of
them is a selection in the same order, as the bus carries it in two calls;
nothing is delivered twice, to whomever, and nothing that was not handed over;
and what a receiver sends is the message it got.  If the bus is exact, that is
the message as it was handed over. -/
theorem relay_ordered_once (maxPerIp : UInt32) (actions : List Action)
    (sender : Octets) :
    let record := machine.emitted (create maxPerIp : State Number) actions
    (routedBy sender record).Pairwise
        (fun earlier later => earlier.serial < later.serial) ∧
      (∀ target, (deliveredTo sender target record).Sublist
        ((routedBy sender record).filterMap Relayed.atReceiver)) ∧
      ((deliveredFor sender record).map Relayed.serial).Nodup ∧
      (∀ message ∈ deliveredFor sender record,
        ∃ sent ∈ routedBy sender record,
          sent.atReceiver = some message) ∧
      (∀ delivery outputs, Observed.delivers delivery outputs ∈ record →
        EndsWell delivery outputs) ∧
      (Transport.Exact →
        (∀ target, (deliveredTo sender target record).Sublist
          (routedBy sender record)) ∧
        ∀ message ∈ deliveredFor sender record,
          message ∈ routedBy sender record) := by
  intro record
  obtain ⟨done, conveyed⟩ := conveyed_of_run Number maxPerIp actions
    sender
  have numbered := numbered_of_run Number maxPerIp actions sender
  have inOrder : ∀ target, (deliveredTo sender target record).Sublist
      ((routedBy sender record).filterMap Relayed.atReceiver) := by
    intro target
    exact (List.sublist_append_left _ _).trans
      ((conveyed.ordered target).trans conveyed.served_sublist)
  have increasing : ((routedBy sender record).filterMap
      Relayed.atReceiver).Pairwise
        fun earlier later => earlier.serial < later.serial := by
    apply numbered.increasing.filterMap
    intro earlier later below first isFirst second isSecond
    obtain ⟨_, _, rfl⟩ := Option.map_eq_some_iff.mp isFirst
    obtain ⟨_, _, rfl⟩ := Option.map_eq_some_iff.mp isSecond
    exact below
  have distinct : (((routedBy sender record).filterMap
      Relayed.atReceiver).map Relayed.serial).Nodup :=
    List.pairwise_map.mpr (increasing.imp fun below => Nat.ne_of_lt below)
  have selected := delivered_subperm_routed Number maxPerIp actions sender
  refine ⟨numbered.increasing, inOrder, ?_, ?_, ?_, ?_⟩
  · obtain ⟨same, isPerm, sublist⟩ := selected
    exact (isPerm.map _).nodup_iff.mp
      (distinct.sublist (sublist.map _))
  · intro message member
    exact List.mem_filterMap.mp (selected.subset member)
  · intro delivery outputs member
    obtain ⟨entry, inHistory, isOutput⟩ := List.mem_flatMap.mp member
    exact machine.each_step_rule
      (fun entry => ∀ delivery outputs,
        Observed.delivers delivery outputs ∈ entry.outputs →
          EndsWell delivery outputs)
      step_delivers (create maxPerIp : State Number) actions entry inHistory
      delivery outputs isOutput
  · intro exact
    have kept := exact.filterMap_atReceiver (routedBy sender record)
    exact ⟨fun target => (inOrder target).trans kept,
      fun message member => kept.subset (selected.subset member)⟩

end Numbers

end OpenSmsc.Relay
