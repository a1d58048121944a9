/-
No call waits for ever.

Session threads wait for the server's bus thread, the server's bus thread waits
for the bus thread of a receiver, and the bus thread of a receiver waits for
nobody; a session that is its own receiver makes no exception.  So whatever has
happened before, serving the calls under way brings every caller its answer,
with no timeout needed, in a number of steps that is known beforehand.
-/

import OpenSmsc.Network.RelayOrder

namespace OpenSmsc.Relay

open Foundation
open SmppSession (Session TokenArith)

variable {Number : Type}

/-! ### Who waits for what -/

def Attended (n : State Number) (sender : Octets) (serial : Nat) : Prop :=
  (∃ call ∈ n.requests, call.isSocket = false ∧ call.sender = sender ∧
      call.serial = serial) ∨
    ∃ delivery, n.serving = some delivery ∧ delivery.sender = sender ∧
      delivery.serial = serial

structure Waits (n : State Number) : Prop where
  callers : ∀ uuid peer serial,
    n.processes[uuid]? = some (.running peer) →
      peer.waiting = some serial → Attended n uuid serial
  starters : ∀ uuid clientIp,
    n.processes[uuid]? = some (.starting clientIp) →
      ∃ call ∈ n.requests, call.isSocket = true ∧ call.sender = uuid
  server : ∀ delivery, n.serving = some delivery → delivery ∈ n.deliveries
  receivers : ∀ delivery ∈ n.deliveries, ∃ peer,
    n.processes[delivery.target]? = some (.running peer)

variable {n after : State Number} {outputs : List Observed}

theorem Traffic.request [Transport]
    (traffic : Traffic n after outputs) (call : Call)
    (member : call ∈ n.requests) :
    call ∈ after.requests ∨
      (call.isSocket = true ∧ ∀ clientIp,
        after.processes[call.sender]? ≠ some (.starting clientIp)) ∨
      (call.isSocket = false ∧ Unblocked after call.sender call.serial) ∨
      call.isSocket = false ∧
        ∃ delivery, after.serving = some delivery ∧
          delivery.sender = call.sender ∧ delivery.serial = call.serial := by
  cases traffic with
  | kept requests deliveries serving =>
      rw [requests]
      exact Or.inl member
  | dropped uuid requests deliveries serving =>
      rw [requests]
      exact Or.inl member
  | called new requests deliveries serving =>
      rw [requests]
      exact Or.inl (List.mem_append_left _ member)
  | served taken isTaken deliveries free serving socket answered =>
      rcases List.mem_cons.mp (isTaken.perm.mem_iff.mp member) with
        same | left
      · subst same
        cases isSocket : call.isSocket with
        | true => exact Or.inr (Or.inl ⟨rfl, socket isSocket⟩)
        | false =>
            exact Or.inr (Or.inr (Or.inl ⟨rfl, answered isSocket⟩))
      · exact Or.inl left
  | dispatched taken target srcAddr dstAddr shortMessage messageId message
      isTaken isRoute arrives deliveries free serving isTarget running =>
      rcases List.mem_cons.mp (isTaken.perm.mem_iff.mp member) with
        same | left
      · subst same
        refine Or.inr (Or.inr (Or.inr ⟨?_, _, serving, rfl, rfl⟩))
        simp [Call.isSocket, isRoute]
      · exact Or.inl left
  | executed delivery effects requests taken serving =>
      rw [requests]
      exact Or.inl member

theorem Traffic.serving_kept [Transport]
    (traffic : Traffic n after outputs)
    (delivery : Delivery) (busy : n.serving = some delivery) :
    after.serving = some delivery ∨
      Unblocked after delivery.sender delivery.serial := by
  have answered : Ended n after →
      Unblocked after delivery.sender delivery.serial := by
    rintro ⟨ended, wasEnded, _, unblocked⟩
    rw [busy] at wasEnded
    cases wasEnded
    exact unblocked
  cases traffic with
  | kept requests deliveries serving =>
      rcases serving with same | ended
      · exact Or.inl (same.trans busy)
      · exact Or.inr (answered ended)
  | dropped uuid requests deliveries serving =>
      rcases serving with ⟨same, others⟩ | ended
      · exact Or.inl (same.trans busy)
      · exact Or.inr (answered ended)
  | called new requests deliveries serving =>
      exact Or.inl (serving.trans busy)
  | served taken isTaken deliveries free serving socket answered =>
      rw [free] at busy
      cases busy
  | dispatched taken target srcAddr dstAddr shortMessage messageId message
      isTaken isRoute arrives deliveries free serving isTarget running =>
      rw [free] at busy
      cases busy
  | executed executed effects requests taken serving =>
      rcases serving with ⟨same, other⟩ | ended
      · exact Or.inl (same.trans busy)
      · exact Or.inr (answered ended)

theorem Traffic.attended [Transport]
    (traffic : Traffic n after outputs)
    {sender : Octets} {serial : Nat} (attended : Attended n sender serial) :
    Attended after sender serial ∨ Unblocked after sender serial := by
  rcases attended with ⟨call, member, ordinary, isSender, isSerial⟩ |
    ⟨delivery, busy, isSender, isSerial⟩
  · subst isSender isSerial
    rcases traffic.request call member with
      left | ⟨socket, _⟩ | ⟨_, unblocked⟩ |
        ⟨_, delivery, serving, sameSender, sameSerial⟩
    · exact Or.inl (Or.inl ⟨call, left, ordinary, rfl, rfl⟩)
    · rw [ordinary] at socket
      cases socket
    · exact Or.inr unblocked
    · exact Or.inl (Or.inr ⟨delivery, serving, sameSender, sameSerial⟩)
  · subst isSender isSerial
    rcases traffic.serving_kept delivery busy with still | unblocked
    · exact Or.inl (Or.inr ⟨delivery, still, rfl, rfl⟩)
    · exact Or.inr unblocked

theorem Traffic.delivery_from [Transport]
    (traffic : Traffic n after outputs)
    (delivery : Delivery) (member : delivery ∈ after.deliveries) :
    delivery ∈ n.deliveries ∨
      ∃ peer, n.processes[delivery.target]? = some (.running peer) := by
  cases traffic with
  | kept requests deliveries serving =>
      rw [deliveries] at member
      exact Or.inl member
  | dropped uuid requests deliveries serving =>
      rw [deliveries] at member
      exact Or.inl (List.mem_filter.mp member).1
  | called new requests deliveries serving =>
      rw [deliveries] at member
      exact Or.inl member
  | served taken isTaken deliveries free serving socket answered =>
      rw [deliveries] at member
      exact Or.inl member
  | dispatched taken target srcAddr dstAddr shortMessage messageId message
      isTaken isRoute arrives deliveries free serving isTarget running =>
      rw [deliveries, List.mem_append, List.mem_singleton] at member
      rcases member with old | new
      · exact Or.inl old
      · rw [new]
        exact Or.inr running
  | executed executed effects requests taken serving =>
      exact Or.inl (taken.perm.mem_iff.mpr (List.mem_cons_of_mem _ member))

theorem Traffic.serving_under_way [Transport]
    (traffic : Traffic n after outputs)
    (waits : Waits n) (delivery : Delivery)
    (busy : after.serving = some delivery) :
    delivery ∈ after.deliveries := by
  have notEnded : ¬ Ended n after := by
    rintro ⟨_, _, free, _⟩
    rw [free] at busy
    cases busy
  cases traffic with
  | kept requests deliveries serving =>
      have same := serving.resolve_right notEnded
      rw [deliveries]
      exact waits.server delivery (same.symm.trans busy)
  | dropped uuid requests deliveries serving =>
      obtain ⟨same, others⟩ := serving.resolve_right notEnded
      have was := same.symm.trans busy
      rw [deliveries]
      exact List.mem_filter.mpr ⟨waits.server delivery was,
        decide_eq_true (others delivery was)⟩
  | called new requests deliveries serving =>
      rw [deliveries]
      exact waits.server delivery (serving.symm.trans busy)
  | served taken isTaken deliveries free serving socket answered =>
      rw [serving] at busy
      cases busy
  | dispatched taken target srcAddr dstAddr shortMessage messageId message
      isTaken isRoute arrives deliveries free serving isTarget running =>
      rw [serving] at busy
      cases busy
      rw [deliveries]
      exact List.mem_append_right _ (List.mem_singleton_self _)
  | executed executed effects requests taken serving =>
      obtain ⟨same, other⟩ := serving.resolve_right notEnded
      have was := same.symm.trans busy
      rcases List.mem_cons.mp
          (taken.perm.mem_iff.mp (waits.server delivery was)) with
        isExecuted | left
      · rw [isExecuted] at was
        exact absurd was other
      · exact left

theorem Became.blocked {uuid : Octets} (became : Became n after uuid)
    {peer : Peer Number} {serial : Nat}
    (now : after.processes[uuid]? = some (.running peer))
    (waiting : peer.waiting = some serial) :
    (∃ earlier, n.processes[uuid]? = some (.running earlier) ∧
        earlier.waiting = some serial) ∨
      Attended after uuid serial := by
  rcases became.running now with
    ⟨_, free⟩ | ⟨earlier, was, _, free | kept | asks⟩
  · cases free.symm.trans waiting
  · cases free.symm.trans waiting
  · exact Or.inl ⟨earlier, was, kept.symm.trans waiting⟩
  · obtain ⟨call, member, notSocket, isSender, waits⟩ := asks
    have isSerial := Option.some.inj (waits.symm.trans waiting)
    exact Or.inr (Or.inl ⟨call, member, notSocket, isSender, isSerial⟩)

theorem Became.still_running {uuid : Octets} (became : Became n after uuid)
    {peer : Peer Number}
    (was : n.processes[uuid]? = some (.running peer)) :
    (∃ later, after.processes[uuid]? = some (.running later)) ∨
      ∀ delivery ∈ after.deliveries, delivery.target ≠ uuid := by
  cases became with
  | same unmoved => exact Or.inl ⟨peer, unmoved.trans was⟩
  | launched clientIp absent starts asked =>
      rw [absent] at was
      cases was
  | started clientIp starting starts =>
      rw [starting] at was
      cases was
  | ended notRunning ends => exact absurd was (notRunning peer)
  | terminated ends gone => exact Or.inr gone
  | ran earlier session identity wasRunning runs => exact Or.inl ⟨_, runs⟩
  | freed earlier session identity wasRunning free => exact Or.inl ⟨_, free⟩
  | called earlier session arrived identity wasRunning calls asked ordinary =>
      exact Or.inl ⟨_, calls⟩

theorem Became.starting {uuid clientIp : Octets}
    (became : Became n after uuid)
    (now : after.processes[uuid]? = some (.starting clientIp)) :
    n.processes[uuid]? = some (.starting clientIp) ∨
      ∃ call ∈ after.requests, call.isSocket = true ∧
        call.sender = uuid := by
  cases became with
  | same unmoved => exact Or.inl (unmoved.symm.trans now)
  | launched launchedIp absent starts asked =>
      refine Or.inr
        ⟨{ sender := uuid, serial := 0, request := .getSocket uuid }, ?_,
          rfl, rfl⟩
      rw [asked]
      exact List.mem_append_right _ (List.mem_singleton_self _)
  | started startedIp was starts =>
      obtain ⟨session, _, starts⟩ := starts
      rw [starts] at now
      cases now
  | ended notRunning ends =>
      rw [ends] at now
      cases now
  | terminated ends gone =>
      rw [ends] at now
      cases now
  | ran earlier session identity was runs =>
      rw [runs] at now
      cases now
  | freed earlier session identity was free =>
      rw [free] at now
      cases now
  | called earlier session arrived identity was calls asked ordinary =>
      rw [calls] at now
      cases now

theorem Waits.moved [Transport] (waits : Waits n)
    (traffic : Traffic n after outputs)
    (became : ∀ uuid, Became n after uuid) : Waits after := by
  refine ⟨?_, ?_, ?_, ?_⟩
  · intro uuid peer serial now waiting
    rcases (became uuid).blocked now waiting with
      ⟨earlier, was, waited⟩ | attended
    · rcases traffic.attended (waits.callers uuid earlier serial was waited)
        with attended | unblocked
      · exact attended
      · exact absurd waiting (unblocked peer now)
    · exact attended
  · intro uuid clientIp now
    rcases (became uuid).starting now with was | asked
    · obtain ⟨call, member, socket, isSender⟩ :=
        waits.starters uuid clientIp was
      subst isSender
      rcases traffic.request call member with
        left | ⟨_, done⟩ | ⟨ordinary, _⟩ | ⟨ordinary, _⟩
      · exact ⟨call, left, socket, rfl⟩
      · exact absurd now (done clientIp)
      · rw [socket] at ordinary
        cases ordinary
      · rw [socket] at ordinary
        cases ordinary
    · exact asked
  · intro delivery busy
    exact traffic.serving_under_way waits delivery busy
  · intro delivery member
    have running : ∃ peer,
        n.processes[delivery.target]? = some (.running peer) := by
      rcases traffic.delivery_from delivery member with old | running
      · exact waits.receivers delivery old
      · exact running
    obtain ⟨peer, was⟩ := running
    rcases (became delivery.target).still_running was with later | gone
    · exact later
    · exact absurd rfl (gone delivery member)

theorem waits_of_run [Transport] (Number : Type) [TokenArith Number]
    (maxPerIp : UInt32) (actions : List Action) :
    Waits (machine.final (create maxPerIp : State Number) actions) := by
  have absent : ∀ (uuid : Octets) (process : Process Number),
      (create maxPerIp : State Number).processes[uuid]? ≠ some process := by
    intro uuid process
    simp [create]
  refine machine.invariant_rule Waits (create maxPerIp) ?_ ?_ actions
  · refine ⟨?_, ?_, ?_, ?_⟩
    · intro uuid peer serial now
      exact absurd now (absent uuid _)
    · intro uuid clientIp now
      exact absurd now (absent uuid _)
    · intro delivery busy
      cases busy
    · intro delivery member
      cases member
  · intro n action waits
    exact waits.moved (step_traffic n action) (step_became n action)

/-! ### Serving what is under way -/

section Service

variable [Transport] [TokenArith Number]

/-- The server takes a call, or a receiver serves a `DeliverSm`. -/
def isService : Action → Bool
  | .serve _ _ => true
  | .execute _ => true
  | _ => false

/-- A call can cause one `DeliverSm`. -/
def work (n : State Number) : Nat :=
  2 * n.requests.length + n.deliveries.length

omit [Transport] [TokenArith Number] in
theorem nothing_of_work (nothing : work n = 0) :
    n.requests = [] ∧ n.deliveries = [] := by
  simp only [work] at nothing
  refine ⟨?_, ?_⟩
  · apply List.eq_nil_of_length_eq_zero
    omega
  · apply List.eq_nil_of_length_eq_zero
    omega

structure Settled (n : State Number) : Prop where
  requests : n.requests = []
  deliveries : n.deliveries = []
  serving : n.serving = none
  started : ∀ uuid : Octets, ∀ clientIp,
    n.processes[uuid]? ≠ some (.starting clientIp)
  answered : ∀ uuid : Octets, ∀ peer,
    n.processes[uuid]? = some (.running peer) → peer.waiting = none

omit [Transport] [TokenArith Number] in
theorem Waits.settled (waits : Waits n) (requests : n.requests = [])
    (deliveries : n.deliveries = []) : Settled n := by
  have free : n.serving = none := by
    cases serving : n.serving with
    | none => rfl
    | some delivery =>
        have member := waits.server delivery serving
        rw [deliveries] at member
        cases member
  refine ⟨requests, deliveries, free, ?_, ?_⟩
  · intro uuid clientIp starting
    obtain ⟨call, member, _⟩ := waits.starters uuid clientIp starting
    rw [requests] at member
    cases member
  · intro uuid peer running
    cases waiting : peer.waiting with
    | none => rfl
    | some serial =>
        rcases waits.callers uuid peer serial running waiting with
          ⟨call, member, _⟩ | ⟨delivery, serving, _⟩
        · rw [requests] at member
          cases member
        · rw [free] at serving
          cases serving

theorem serveCall_work (steadyClock : Int) (call : Call)
    (n : State Number) :
    work (serveCall steadyClock call n) ≤ work n + 1 := by
  unfold serveCall
  split
  · simp [work]
  · simp [work]
  · dsimp only
    split
    · simp [work]
    · split
      · simp [work]
        omega
      · simp [work]

theorem serve_work (steadyClock : Int) (sender : Octets) (n : State Number)
    (call : Call) (rest : List Call) (free : n.serving = none)
    (found : Lanes.takeNext Call.sender sender n.requests =
      some (call, rest)) :
    work (serve steadyClock sender n) < work n := by
  have shorter := (Lanes.takeNext_some found).perm.length_eq
  have bound := serveCall_work steadyClock call { n with requests := rest }
  have isServed : serve steadyClock sender n =
      serveCall steadyClock call { n with requests := rest } := by
    have idle : ¬ n.serving.isSome = true := by simp [free]
    rw [serve, if_neg idle, found]
  rw [isServed]
  refine Nat.lt_of_le_of_lt bound ?_
  simp only [work, shorter, List.length_cons]
  omega

omit [Transport] in
theorem execute_work (target : Octets) (n : State Number)
    (peer : Peer Number) (delivery : Delivery) (rest : List Delivery)
    (running : n.processes[target]? = some (.running peer))
    (found : Lanes.takeNext Delivery.target target n.deliveries =
      some (delivery, rest)) :
    work (execute target n).1 < work n := by
  have shorter := (Lanes.takeNext_some found).perm.length_eq
  simp only [execute, running, found]
  simp [work, shorter]

theorem service_work (n : State Number) (action : Action)
    (service : isService action = true) :
    (step n action).1 = n ∨ work (step n action).1 < work n := by
  cases action with
  | serve steadyClock sender =>
      cases busy : n.serving with
      | some delivery => exact Or.inl (by simp [step, serve, busy])
      | none =>
          cases found : Lanes.takeNext Call.sender sender n.requests with
          | none => exact Or.inl (by simp [step, serve, busy, found])
          | some taken =>
              exact Or.inr (serve_work steadyClock sender n taken.1 taken.2
                busy found)
  | execute target =>
      simp only [step]
      cases running : n.processes[target]? with
      | none => exact Or.inl (by simp [execute, running])
      | some process =>
          cases found : Lanes.takeNext Delivery.target target
              n.deliveries with
          | none => exact Or.inl (by simp [execute, running, found])
          | some taken =>
              cases process with
              | starting clientIp =>
                  exact Or.inl (by simp [execute, running])
              | exited => exact Or.inl (by simp [execute, running])
              | running peer =>
                  exact Or.inr (execute_work target n peer taken.1 taken.2
                    running found)
  | connect _ _ _ _ => cases service
  | handle _ _ => cases service
  | giveUp _ => cases service
  | giveUpDelivery => cases service
  | terminate _ => cases service
  | setMaxConnectionsPerIp _ _ => cases service

theorem Waits.progress (waits : Waits n) (busy : 0 < work n) :
    ∃ action, isService action = true ∧
      work (step n action).1 < work n := by
  cases deliveries : n.deliveries with
  | cons delivery others =>
      have member : delivery ∈ n.deliveries := by
        rw [deliveries]
        exact List.mem_cons_self
      obtain ⟨peer, running⟩ := waits.receivers delivery member
      obtain ⟨⟨taken, rest⟩, found⟩ :=
        Lanes.takeNext_isSome Delivery.target member rfl
      exact ⟨.execute delivery.target, rfl,
        execute_work delivery.target n peer taken rest running found⟩
  | nil =>
      -- the server waits for nobody, so it can take a call
      have free : n.serving = none := by
        cases serving : n.serving with
        | none => rfl
        | some delivery =>
            have member := waits.server delivery serving
            rw [deliveries] at member
            cases member
      cases requests : n.requests with
      | nil => simp [work, requests, deliveries] at busy
      | cons call others =>
          have member : call ∈ n.requests := by
            rw [requests]
            exact List.mem_cons_self
          obtain ⟨⟨taken, rest⟩, found⟩ :=
            Lanes.takeNext_isSome Call.sender member rfl
          exact ⟨.serve 0 call.sender, rfl,
            serve_work 0 call.sender n taken rest free found⟩

def Effective (n : State Number) (actions : List Action) : Prop :=
  ∀ entry ∈ machine.history n actions, entry.after ≠ entry.before

def Stuck (n : State Number) : Prop :=
  ∀ action, isService action = true → (step n action).1 = n

theorem effective_length (n : State Number) (services : List Action)
    (all : ∀ action ∈ services, isService action = true)
    (effective : Effective n services) : services.length ≤ work n := by
  induction services generalizing n with
  | nil => exact Nat.zero_le _
  | cons action rest ih =>
      rw [List.forall_mem_cons] at all
      have changed : (step n action).1 ≠ n :=
        effective (machine.entry n action) List.mem_cons_self
      have less := (service_work n action all.1).resolve_left changed
      have shorter := ih (step n action).1 all.2 fun entry member =>
        effective entry (List.mem_cons_of_mem _ member)
      rw [List.length_cons]
      omega

theorem Waits.settles (waits : Waits n) :
    ∃ services : List Action,
      (∀ action ∈ services, isService action = true) ∧
        Settled (machine.final n services) := by
  generalize isWork : work n = amount
  induction amount using Nat.strongRecOn generalizing n with
  | ind amount ih =>
      rcases Nat.eq_zero_or_pos amount with none | some
      · obtain ⟨requests, deliveries⟩ := nothing_of_work (isWork.trans none)
        exact ⟨[], by simp, waits.settled requests deliveries⟩
      · obtain ⟨action, service, less⟩ :=
          waits.progress (isWork.symm ▸ some)
        have next := waits.moved (step_traffic n action)
          (step_became n action)
        obtain ⟨services, all, settled⟩ :=
          ih (work (step n action).1) (isWork ▸ less) next rfl
        exact ⟨action :: services,
          List.forall_mem_cons.mpr ⟨service, all⟩, settled⟩

/-- After any run, with any timeouts and crashes, let the threads only serve
what is under way.  At most `work` services do anything; when none of them can
do anything any more, every call has been answered and nobody waits; and that
point is reached.  No timeout is needed, and no order of the services can lead
into a deadlock. -/
theorem calls_answered (maxPerIp : UInt32) (actions : List Action) :
    let n := machine.final (create maxPerIp : State Number) actions
    (∀ services : List Action,
        (∀ action ∈ services, isService action = true) →
          Effective n services → services.length ≤ work n) ∧
      (∀ services : List Action, Stuck (machine.final n services) →
        Settled (machine.final n services)) ∧
      ∃ services : List Action,
        (∀ action ∈ services, isService action = true) ∧
          Settled (machine.final n services) := by
  intro n
  refine ⟨effective_length n, ?_, ?_⟩
  · intro services stuck
    have waits : Waits (machine.final n services) := by
      have whole := waits_of_run Number maxPerIp (actions ++ services)
      rw [Machine.final_append] at whole
      exact whole
    by_contra unsettled
    have busy : 0 < work (machine.final n services) := by
      apply Nat.pos_of_ne_zero
      intro nothing
      obtain ⟨requests, deliveries⟩ := nothing_of_work nothing
      exact unsettled (waits.settled requests deliveries)
    obtain ⟨action, service, less⟩ := waits.progress busy
    rw [stuck action service] at less
    exact Nat.lt_irrefl _ less
  · exact (waits_of_run Number maxPerIp actions).settles

end Service

end OpenSmsc.Relay
