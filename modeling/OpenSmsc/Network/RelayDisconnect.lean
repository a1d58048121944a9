/-
`DisconnectAll` ends the sessions of an address.

The server calls `Disconnect` of every uuid that its table has under the
address.  A running session is in the table under the address it has, so the
call reaches the sessions of the address and no others.  `Disconnect` posts
`do_disconnect` to the session's own thread: once that has run, the session is
over for good.
-/

import OpenSmsc.Client.Ending
import OpenSmsc.Network.RelayRows

namespace OpenSmsc.Relay

open Foundation
open SmppSession (Session TokenArith)

/-! ### Who is called -/

theorem clientBusName_inj {left right : Octets}
    (same : clientBusName left = clientBusName right) : left = right :=
  List.append_cancel_left same

theorem mem_disconnectAll (s : SmppServerService.Service)
    (ip reason uuid : Octets) :
    SmppServerService.Effect.callDisconnect (clientBusName uuid) reason ∈
        SmppServerService.disconnectAll ip reason s ↔
      ∃ info, s.sessions[uuid]? = some info ∧ info.clientIp = ip := by
  unfold SmppServerService.disconnectAll
  simp only [List.mem_map, List.mem_filter, decide_eq_true_eq]
  constructor
  · rintro ⟨⟨other, info⟩, ⟨member, sameIp⟩, isCall⟩
    have isUuid := clientBusName_inj
      (SmppServerService.Effect.callDisconnect.inj isCall).1
    subst isUuid
    exact ⟨info, Std.TreeMap.mem_toList_iff_getElem?_eq_some.mp member,
      sameIp⟩
  · rintro ⟨info, row, sameIp⟩
    exact ⟨(uuid, info),
      ⟨Std.TreeMap.mem_toList_iff_getElem?_eq_some.mpr row, sameIp⟩, rfl⟩

/-! ### What a call does -/

variable {Number : Type} [TokenArith Number]

theorem final_unbound {s : Session Number} (ended : s.state = .unbound)
    (events : List SmppSession.Event) :
    (SmppSession.machine.final s events).state = .unbound :=
  SmppSession.machine.invariant_rule (fun s => s.state = .unbound) s ended
    (fun s event ended => SmppSession.step_state_of_unbound s event ended)
    events

theorem unbound_of_disconnect (s : Session Number) (reason : Octets)
    {events : List SmppSession.Event}
    (member : SmppSession.Event.disconnect reason ∈ events) :
    (SmppSession.machine.final s events).state = .unbound := by
  obtain ⟨earlier, later, isEvents⟩ := List.append_of_mem member
  rw [isEvents, Machine.final_append]
  exact final_unbound (SmppSession.doDisconnect_state reason _) later

/-- Let the server call `DisconnectAll` after any run, and let any run follow
in which every handler that was called and still runs executes what was posted
to it.  Then every session of the address that was running was called and is
over, and no session of another address was called. -/
theorem disconnectAll_ends [Transport] (maxPerIp : UInt32)
    (actions later : List Action) (ip reason : Octets)
    (executed :
      let n : State Number := machine.final (create maxPerIp) actions
      ∀ uuid last,
        SmppServerService.Effect.callDisconnect (clientBusName uuid)
            reason ∈ SmppServerService.disconnectAll ip reason n.service →
          (machine.final n later).processes[uuid]? = some (.running last) →
            SmppSession.Event.disconnect reason ∈
              sessionEvents uuid (machine.history n later)) :
    let n : State Number := machine.final (create maxPerIp) actions
    ∀ uuid peer, n.processes[uuid]? = some (.running peer) →
      if peer.session.clientIp = ip then
        SmppServerService.Effect.callDisconnect (clientBusName uuid)
            reason ∈ SmppServerService.disconnectAll ip reason n.service ∧
          ∀ last, (machine.final n later).processes[uuid]? =
            some (.running last) → last.session.state = .unbound
      else
        SmppServerService.Effect.callDisconnect (clientBusName uuid)
          reason ∉ SmppServerService.disconnectAll ip reason n.service := by
  intro n uuid peer running
  have addressed : Addressed n uuid :=
    addressed_of_run Number maxPerIp actions uuid
  obtain ⟨info, row, sameIp⟩ := addressed.running peer.session
    (by rw [running]; rfl)
  split
  · rename_i isIp
    have called := (mem_disconnectAll n.service ip reason uuid).mpr
      ⟨info, row, sameIp.trans isIp⟩
    refine ⟨called, ?_⟩
    intro last still
    have posted := executed uuid last called still
    obtain ⟨clientIp, steadyClock, alone⟩ := alone_of_run Number maxPerIp
      (actions ++ later) uuid
    rw [Machine.final_append, Machine.history_append] at alone
    have isSession := alone.session last.session (by
      rw [still]
      rfl)
    rw [isSession]
    refine unbound_of_disconnect _ reason ?_
    unfold sessionEvents Machine.actsOf
    rw [List.flatMap_append]
    exact List.mem_append_right _ posted
  · rename_i otherIp
    intro called
    obtain ⟨other, otherRow, isIp⟩ :=
      (mem_disconnectAll n.service ip reason uuid).mp called
    rw [row] at otherRow
    cases otherRow
    exact otherIp (sameIp.symm.trans isIp)

def twoAddresses : List Action :=
  [.connect (text "a1") 7 (text "10.0.0.1") true, .serve 0 (text "a1"),
    .connect (text "b1") 8 (text "10.0.0.2") true, .serve 0 (text "b1")]

def afterTwoAddresses : State Float :=
  letI := asciiTransport
  machine.final (create 5) twoAddresses

def firstDisconnects : List Action :=
  [.handle (text "a1") ⟨.disconnect (text "maintenance"), rfl⟩]

def isMaintenance : SmppSession.Event → Bool
  | .disconnect reason => decide (reason = text "maintenance")
  | _ => false

theorem disconnectAll_ends_first :
    letI := asciiTransport
    (∃ peer, afterTwoAddresses.processes[text "a1"]? =
        some (.running peer) ∧ peer.session.state = .opened) ∧
      (∃ last, (machine.final afterTwoAddresses
          firstDisconnects).processes[text "a1"]? =
        some (.running last)) ∧
      ∀ last, (machine.final afterTwoAddresses
          firstDisconnects).processes[text "a1"]? =
        some (.running last) → last.session.state = .unbound := by
  let := asciiTransport
  have isRunning : (sessionOf afterTwoAddresses.processes[text "a1"]?).map
      (fun s => (s.clientIp, s.state)) =
        some (text "10.0.0.1", .opened) := by
    decide +kernel
  have stillRunning : (sessionOf (machine.final afterTwoAddresses
      firstDisconnects).processes[text "a1"]?).isSome = true := by
    decide +kernel
  have called : SmppServerService.disconnectAll (text "10.0.0.1")
      (text "maintenance") afterTwoAddresses.service =
        [.callDisconnect (clientBusName (text "a1"))
          (text "maintenance")] := by
    decide +kernel
  have ran : (sessionEvents (text "a1") (machine.history afterTwoAddresses
      firstDisconnects)).any isMaintenance = true := by
    decide +kernel
  obtain ⟨s, isSession, isPair⟩ := Option.map_eq_some_iff.mp isRunning
  obtain ⟨peer, running, isPeer⟩ := running_of_sessionOf isSession
  obtain ⟨later, isLater⟩ := Option.isSome_iff_exists.mp stillRunning
  obtain ⟨last, lastRunning, _⟩ := running_of_sessionOf isLater
  cases isPeer
  have executed : ∀ (uuid : Octets) (last : Peer Float),
      SmppServerService.Effect.callDisconnect (clientBusName uuid)
          (text "maintenance") ∈ SmppServerService.disconnectAll
            (text "10.0.0.1") (text "maintenance")
            afterTwoAddresses.service →
        (machine.final afterTwoAddresses
            firstDisconnects).processes[uuid]? = some (.running last) →
          SmppSession.Event.disconnect (text "maintenance") ∈
            sessionEvents uuid
              (machine.history afterTwoAddresses firstDisconnects) := by
    intro uuid last isCalled _
    rw [called, List.mem_singleton] at isCalled
    have isUuid := clientBusName_inj
      (SmppServerService.Effect.callDisconnect.inj isCalled).1
    rw [isUuid]
    obtain ⟨event, member, isEvent⟩ := List.any_eq_true.mp ran
    cases event with
    | disconnect given =>
        rw [of_decide_eq_true isEvent] at member
        exact member
    | onHeader env completion => cases isEvent
    | onBody env hdr completion => cases isEvent
    | onEnquireLinkTimer failed => cases isEvent
    | onEnquireLinkTimeout failed => cases isEvent
    | deliverSm srcAddr dstAddr shortMessage => cases isEvent
    | getSessionInfo => cases isEvent
  have ends := disconnectAll_ends 5 twoAddresses firstDisconnects
    (text "10.0.0.1") (text "maintenance") executed (text "a1") peer running
  rw [if_pos (congrArg Prod.fst isPair)] at ends
  exact ⟨⟨peer, running, congrArg Prod.snd isPair⟩, ⟨last, lastRunning⟩,
    ends.2⟩

end OpenSmsc.Relay
