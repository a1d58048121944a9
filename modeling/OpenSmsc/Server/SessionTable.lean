/-
The session table over whole runs of the server.

What `GetAllSessions` shows is read off the history of the run: a row for
every uuid whose connection was ever announced, with the address of the latest
announcement and the details of the latest report since.  Rows are never
removed, and `RouteMessage` goes by the same rows.
-/

import OpenSmsc.Foundation.Registers
import OpenSmsc.Server.Admission

namespace OpenSmsc.SmppServerService

open Foundation

/-- The step registers a connection from `clientIp` under `uuid` and announces
it, which a refused registration does not. -/
def Announces (uuid clientIp : Octets) (entry : Entry) : Prop :=
  (∃ fd, entry.event = .registerSession uuid fd clientIp) ∧
    .emitSessionStarted uuid clientIp ∈ entry.outputs

/-- The step says what the details of `uuid` are from now on: a report says
it, and an announcement starts them afresh. -/
def Details (uuid systemId state : Octets) (entry : Entry) : Prop :=
  entry.event = .updateSessionDetails uuid systemId state ∨
    (∃ clientIp, Announces uuid clientIp entry) ∧ systemId = text "" ∧
      state = text "OPEN"

def ConnectedFrom (uuid clientIp : Octets) (past : List Entry) : Prop :=
  Stands (Announces uuid clientIp)
    (fun entry => ∃ other, Announces uuid other entry) past

def LastDetails (uuid systemId state : Octets) (past : List Entry) : Prop :=
  Stands (Details uuid systemId state)
    (fun entry => ∃ systemId state, Details uuid systemId state entry) past

/-! ### One step and one row -/

inductive RowStep (uuid : Octets) (s : Service) (event : Event) : Prop
  | announced (clientIp : Octets)
      (announces : ∀ other ip,
        Announces other ip (machine.entry s event) ↔
          other = uuid ∧ ip = clientIp)
      (noReport : ∀ other systemId state,
        event ≠ .updateSessionDetails other systemId state)
      (row : (machine.step s event).1.sessions[uuid]? = some
        { clientIp := clientIp
          systemId := text ""
          state := text "OPEN" })
  | reported (systemId state : Octets)
      (isReport : event = .updateSessionDetails uuid systemId state)
      (silent : ∀ clientIp, ¬Announces uuid clientIp (machine.entry s event))
      (row : (machine.step s event).1.sessions[uuid]? =
        s.sessions[uuid]?.map fun info =>
          { info with
            systemId := systemId
            state := state })
  | kept
      (silent : ∀ clientIp, ¬Announces uuid clientIp (machine.entry s event))
      (noReport : ∀ systemId state,
        event ≠ .updateSessionDetails uuid systemId state)
      (row : (machine.step s event).1.sessions[uuid]? = s.sessions[uuid]?)

theorem announces_registerSession_iff (uuid other ip clientIp : Octets)
    (fd : Int) (s : Service) :
    Announces uuid ip (machine.entry s (.registerSession other fd clientIp)) ↔
      (uuid = other ∧ ip = clientIp) ∧
        ConnectionRegistry.count clientIp s.registry <
          s.registry.maxPerIp := by
  have outputs : (machine.entry s
      (.registerSession other fd clientIp)).outputs =
        (registerSession other fd clientIp s).2 := rfl
  unfold Announces
  rw [outputs]
  cases registerSession_registered other fd clientIp s with
  | refused full isResult =>
      rw [isResult]
      apply iff_of_false
      · exact fun announces => absurd announces.2 List.not_mem_nil
      · exact fun announces => UInt32.not_lt.mpr full announces.2
  | admitted below isResult =>
      rw [isResult, List.mem_singleton, Effect.emitSessionStarted.injEq]
      constructor
      · exact fun announces => ⟨announces.2, below⟩
      · rintro ⟨⟨rfl, rfl⟩, _⟩
        exact ⟨⟨fd, rfl⟩, rfl, rfl⟩

theorem registerSession_rowStep (uuid other : Octets) (fd : Int)
    (clientIp : Octets) (s : Service) :
    RowStep uuid s (.registerSession other fd clientIp) := by
  by_cases same : other = uuid
  · subst same
    cases registerSession_registered other fd clientIp s with
    | refused full isResult =>
        apply RowStep.kept
        · intro ip announces
          rw [announces_registerSession_iff] at announces
          exact UInt32.not_lt.mpr full announces.2
        · exact nofun
        · change (registerSession other fd clientIp s).1.sessions[other]? = _
          rw [isResult]
    | admitted below isResult =>
        apply RowStep.announced clientIp
        · intro uuid ip
          rw [announces_registerSession_iff]
          exact and_iff_left below
        · exact nofun
        · change (registerSession other fd clientIp s).1.sessions[other]? = _
          rw [isResult]
          exact Table.lookup_insert_self _ _ _
  · apply RowStep.kept
    · intro ip announces
      rw [announces_registerSession_iff] at announces
      exact same announces.1.1.symm
    · exact nofun
    · exact (registerSession_other other fd clientIp s same).1

theorem getSocket_sessions (uuid : Octets) (s : Service) :
    (getSocket uuid s).1.sessions = s.sessions := by
  cases getSocket_claimed uuid s with
  | unknown _ isResult => rw [isResult]
  | handed _ _ isResult => rw [isResult]

theorem not_announces {s : Service} {event : Event}
    (other : ∀ uuid fd clientIp, event ≠ .registerSession uuid fd clientIp)
    (uuid clientIp : Octets) :
    ¬Announces uuid clientIp (machine.entry s event) := by
  rintro ⟨⟨fd, isRegistration⟩, _⟩
  exact other uuid fd clientIp isRegistration

theorem step_rowStep (uuid : Octets) (s : Service) (event : Event) :
    RowStep uuid s event := by
  cases event with
  | registerSession other fd clientIp =>
      exact registerSession_rowStep uuid other fd clientIp s
  | getSocket target =>
      exact .kept (not_announces (by nofun) uuid) nofun
        (congrArg (·[uuid]?) (getSocket_sessions target s))
  | updateSessionDetails other systemId state =>
      have row := updateSessionDetails_lookup other systemId state uuid s
      by_cases same : other = uuid
      · subst same
        rw [if_pos rfl] at row
        exact .reported systemId state rfl (not_announces (by nofun) other) row
      · rw [if_neg same] at row
        refine .kept (not_announces (by nofun) uuid) ?_ row
        intro otherId otherState isReport
        cases isReport
        exact same rfl
  | getConnectionCount ip =>
      exact .kept (not_announces (by nofun) uuid) nofun rfl
  | getAllSessions => exact .kept (not_announces (by nofun) uuid) nofun rfl
  | setMaxConnectionsPerIp ip max =>
      exact .kept (not_announces (by nofun) uuid) nofun rfl
  | disconnectAll ip reason =>
      exact .kept (not_announces (by nofun) uuid) nofun rfl
  | routeMessage deliver srcAddr dstAddr shortMessage messageId =>
      exact .kept (not_announces (by nofun) uuid) nofun rfl
  | sessionExited other reason =>
      exact .kept (not_announces (by nofun) uuid) nofun rfl

theorem RowStep.details_iff {uuid : Octets} {s : Service} {event : Event}
    (clientIp : Octets)
    (announces : ∀ other ip,
      Announces other ip (machine.entry s event) ↔
        other = uuid ∧ ip = clientIp)
    (noReport : ∀ other systemId state,
      event ≠ .updateSessionDetails other systemId state)
    (systemId state : Octets) :
    Details uuid systemId state (machine.entry s event) ↔
      systemId = text "" ∧ state = text "OPEN" := by
  constructor
  · rintro (isReport | ⟨_, fresh⟩)
    · exact absurd isReport (noReport uuid systemId state)
    · exact fresh
  · intro fresh
    exact .inr ⟨⟨clientIp, (announces uuid clientIp).mpr ⟨rfl, rfl⟩⟩, fresh⟩

/-! ### Whole runs -/

def addressOf (uuid : Octets) (s : Service) : Option Octets :=
  s.sessions[uuid]?.map (·.clientIp)

theorem addressOf_step (uuid clientIp : Octets) (s : Service)
    (event : Event) :
    addressOf uuid (machine.step s event).1 = some clientIp ↔
      Announces uuid clientIp (machine.entry s event) ∨
        (addressOf uuid s = some clientIp ∧
          ¬∃ other, Announces uuid other (machine.entry s event)) := by
  unfold addressOf
  cases step_rowStep uuid s event with
  | announced ip announces noReport row =>
      rw [row, Option.map_some, Option.some.injEq]
      simp only [announces, true_and, exists_eq, not_true_eq_false, and_false,
        or_false]
      exact eq_comm
  | reported systemId state isReport silent row =>
      rw [row, Option.map_map]
      simp only [silent, exists_false, not_false_eq_true, and_true, false_or]
      rfl
  | kept silent noReport row =>
      rw [row]
      simp only [silent, exists_false, not_false_eq_true, and_true, false_or]

theorem addressOf_iff (registry : ConnectionRegistry.Registry)
    (events : List Event) (uuid clientIp : Octets) :
    addressOf uuid (machine.final (create registry) events) =
        some clientIp ↔
      ConnectedFrom uuid clientIp
        (machine.history (create registry) events) :=
  machine.stands_rule (fun s => addressOf uuid s = some clientIp) _ _
    (create registry) nofun (addressOf_step uuid clientIp) events

/-- A row carries the latest details.  The converse needs the row: a report
about a uuid without one is lost. -/
theorem lastDetails_of_row (registry : ConnectionRegistry.Registry)
    (events : List Event) (uuid : Octets) (info : SessionInfo)
    (present : (machine.final (create registry) events).sessions[uuid]? =
      some info) :
    LastDetails uuid info.systemId info.state
      (machine.history (create registry) events) := by
  refine machine.history_rule
    (fun s past => ∀ info, s.sessions[uuid]? = some info →
      LastDetails uuid info.systemId info.state past)
    (create registry) nofun ?_ events info present
  intro s past event earlier info present
  unfold LastDetails
  rw [stands_concat]
  cases step_rowStep uuid s event with
  | announced clientIp announces noReport row =>
      left
      rw [row] at present
      cases present
      exact (RowStep.details_iff clientIp announces noReport _ _).mpr
        ⟨rfl, rfl⟩
  | reported systemId state isReport silent row =>
      left
      rw [row, Option.map_eq_some_iff] at present
      obtain ⟨old, _, isInfo⟩ := present
      rw [← isInfo]
      exact .inl isReport
  | kept silent noReport row =>
      right
      rw [row] at present
      refine ⟨earlier info present, ?_⟩
      rintro ⟨systemId, state, isReport | ⟨⟨clientIp, announces⟩, _⟩⟩
      · exact noReport systemId state isReport
      · exact silent clientIp announces

theorem Details.unique {uuid : Octets} {left right : Octets × Octets}
    {entry : Entry} (isLeft : Details uuid left.1 left.2 entry)
    (isRight : Details uuid right.1 right.2 entry) : left = right := by
  rcases isLeft with leftReport | ⟨⟨_, ⟨_, leftRegisters⟩, _⟩, leftFresh⟩
  · rcases isRight with rightReport | ⟨⟨_, ⟨_, rightRegisters⟩, _⟩, _⟩
    · rw [leftReport] at rightReport
      obtain ⟨_, sameId, sameState⟩ :=
        Event.updateSessionDetails.inj rightReport
      exact Prod.ext sameId sameState
    · rw [leftReport] at rightRegisters
      cases rightRegisters
  · rcases isRight with rightReport | ⟨_, rightFresh⟩
    · rw [leftRegisters] at rightReport
      cases rightReport
    · exact Prod.ext (leftFresh.1.trans rightFresh.1.symm)
        (leftFresh.2.trans rightFresh.2.symm)

theorem LastDetails.unique {uuid : Octets} {past : List Entry}
    {left right : Octets × Octets}
    (isLeft : LastDetails uuid left.1 left.2 past)
    (isRight : LastDetails uuid right.1 right.2 past) : left = right := by
  refine Stands.unique
    (fun (details : Octets × Octets) =>
      Details uuid details.1 details.2)
    ?_ ?_ isLeft isRight
  · exact fun details entry said => ⟨details.1, details.2, said⟩
  · exact fun left right entry => Details.unique

theorem row_iff (registry : ConnectionRegistry.Registry)
    (events : List Event) (uuid : Octets) (info : SessionInfo) :
    (machine.final (create registry) events).sessions[uuid]? = some info ↔
      ConnectedFrom uuid info.clientIp
          (machine.history (create registry) events) ∧
        LastDetails uuid info.systemId info.state
          (machine.history (create registry) events) := by
  constructor
  · intro present
    refine ⟨(addressOf_iff registry events uuid info.clientIp).mp ?_,
      lastDetails_of_row registry events uuid info present⟩
    exact congrArg (Option.map (·.clientIp)) present
  · rintro ⟨connected, details⟩
    have address := (addressOf_iff registry events uuid _).mpr connected
    rw [addressOf, Option.map_eq_some_iff] at address
    obtain ⟨row, present, sameIp⟩ := address
    have sameDetails : (row.systemId, row.state) =
        (info.systemId, info.state) :=
      LastDetails.unique (lastDetails_of_row registry events uuid row present)
        details
    have same : row = info := by
      cases row
      cases info
      cases sameIp
      cases sameDetails
      rfl
    rw [present, same]

theorem present_iff (registry : ConnectionRegistry.Registry)
    (events : List Event) (uuid : Octets) :
    (∃ info, (machine.final (create registry) events).sessions[uuid]? =
        some info) ↔
      ∃ entry ∈ machine.history (create registry) events,
        ∃ clientIp, Announces uuid clientIp entry := by
  rw [← exists_stands_iff]
  constructor
  · rintro ⟨info, present⟩
    exact ⟨info.clientIp, ((row_iff registry events uuid info).mp present).1⟩
  · rintro ⟨clientIp, connected⟩
    have address := (addressOf_iff registry events uuid _).mpr connected
    rw [addressOf, Option.map_eq_some_iff] at address
    obtain ⟨info, present, _⟩ := address
    exact ⟨info, present⟩

theorem getAllSessions_ordered (s : Service) :
    ((getAllSessions s).map (·.1)).Pairwise (compare · · = .lt) := by
  have ordered := Std.TreeMap.ordered_keys_toList (t := s.sessions)
  rw [getAllSessions, List.map_map, List.pairwise_map]
  exact ordered

/-- After every run `GetAllSessions` shows one row for each uuid whose
connection was ever announced, in the order of the uuids, with the address of
the latest announcement and the latest details. -/
theorem getAllSessions_shows_history (registry : ConnectionRegistry.Registry)
    (events : List Event) :
    let rows := getAllSessions (machine.final (create registry) events)
    let past := machine.history (create registry) events
    (∀ uuid clientIp systemId state,
        (uuid, clientIp, systemId, state) ∈ rows ↔
          ConnectedFrom uuid clientIp past ∧
            LastDetails uuid systemId state past) ∧
      (∀ uuid, uuid ∈ rows.map (·.1) ↔
        ∃ entry ∈ past, ∃ clientIp, Announces uuid clientIp entry) ∧
      (rows.map (·.1)).Pairwise (compare · · = .lt) := by
  refine ⟨?_, ?_, getAllSessions_ordered _⟩
  · intro uuid clientIp systemId state
    rw [mem_getAllSessions]
    exact row_iff registry events uuid _
  · intro uuid
    rw [← present_iff]
    constructor
    · intro member
      obtain ⟨⟨_, clientIp, systemId, state⟩, isRow, rfl⟩ :=
        List.mem_map.mp member
      exact ⟨_, (mem_getAllSessions _ _ _ _ _).mp isRow⟩
    · rintro ⟨info, present⟩
      exact List.mem_map.mpr
        ⟨_, (mem_getAllSessions _ _ _ _ _).mpr present, rfl⟩

/-! ### Routing -/

/-- The latest details of a connected `uuid` say that it is bound as a
receiver. -/
def ReportsReceiver (uuid : Octets) (past : List Entry) : Prop :=
  ∃ clientIp systemId state, ConnectedFrom uuid clientIp past ∧
    LastDetails uuid systemId state past ∧
      (state = text "BOUND_RX" ∨ state = text "BOUND_TRX")

structure FirstReporting (uuid : Octets) (past : List Entry) : Prop where
  reports : ReportsReceiver uuid past
  least : ∀ other, ReportsReceiver other past →
    other = uuid ∨ compare uuid other = .lt

theorem isReceiver_iff (info : SessionInfo) :
    isReceiver info = true ↔
      info.state = text "BOUND_RX" ∨ info.state = text "BOUND_TRX" := by
  unfold isReceiver
  rw [Bool.or_eq_true, decide_eq_true_iff, decide_eq_true_iff]

theorem reportsReceiver_iff (registry : ConnectionRegistry.Registry)
    (events : List Event) (uuid : Octets) :
    ReportsReceiver uuid (machine.history (create registry) events) ↔
      ∃ info, (machine.final (create registry) events).sessions[uuid]? =
        some info ∧ isReceiver info = true := by
  constructor
  · rintro ⟨clientIp, systemId, state, connected, details, receives⟩
    refine ⟨_, (row_iff registry events uuid ⟨clientIp, systemId, state⟩).mpr
      ⟨connected, details⟩, ?_⟩
    exact (isReceiver_iff _).mpr receives
  · rintro ⟨info, present, receives⟩
    obtain ⟨connected, details⟩ :=
      (row_iff registry events uuid info).mp present
    exact ⟨_, _, _, connected, details, (isReceiver_iff info).mp receives⟩

theorem firstReporting_iff (registry : ConnectionRegistry.Registry)
    (events : List Event) (uuid : Octets) :
    FirstReporting uuid (machine.history (create registry) events) ↔
      FirstReceiver (machine.final (create registry) events) uuid := by
  constructor
  · intro first
    constructor
    · exact (reportsReceiver_iff registry events uuid).mp first.reports
    · intro other info present receives
      apply first.least other
      exact (reportsReceiver_iff registry events other).mpr
        ⟨info, present, receives⟩
  · intro first
    constructor
    · exact (reportsReceiver_iff registry events uuid).mpr first.recorded
    · intro other reports
      obtain ⟨info, present, receives⟩ :=
        (reportsReceiver_iff registry events other).mp reports
      exact first.least other info present receives

/-- A message goes to the least uuid whose latest report says receiver,
whatever has become of its session since, and to nobody else. -/
theorem routeMessage_follows_reports
    (registry : ConnectionRegistry.Registry) (events : List Event)
    (deliver : Octets → Option UInt32)
    (srcAddr dstAddr shortMessage messageId : Octets) :
    let past := machine.history (create registry) events
    let outputs := (machine.step (machine.final (create registry) events)
      (.routeMessage deliver srcAddr dstAddr shortMessage messageId)).2
    (∀ uuid, FirstReporting uuid past → uuid ≠ [] →
        outputs =
          [.callDeliverSm (clientBusName uuid) srcAddr dstAddr shortMessage
              (deliver uuid),
            .returnRoutedTo (if (deliver uuid).isSome then uuid else [])]) ∧
      (FirstReporting [] past → outputs = [.returnRoutedTo []]) ∧
      ((∀ uuid, ¬FirstReporting uuid past) →
        outputs = [.returnRoutedTo []] ∧
          ∀ uuid, ¬ReportsReceiver uuid past) := by
  intro past outputs
  have isOutputs : outputs =
      (routeMessage deliver srcAddr dstAddr shortMessage messageId
        (machine.final (create registry) events)).2 ++
      [.returnRoutedTo (routeMessage deliver srcAddr dstAddr shortMessage
        messageId (machine.final (create registry) events)).1] := rfl
  simp only [past, firstReporting_iff, reportsReceiver_iff]
  rw [isOutputs]
  cases routeMessage_routing deliver srcAddr dstAddr shortMessage messageId
    (machine.final (create registry) events) with
  | nobody empty isResult =>
      rw [isResult]
      refine ⟨?_, fun _ => rfl, fun _ => ⟨rfl, ?_⟩⟩
      · intro uuid first _
        exact absurd empty first.not_noReceiver
      · rintro uuid ⟨info, present, receives⟩
        rw [empty uuid info present] at receives
        contradiction
  | nameless first isResult =>
      rw [isResult]
      refine ⟨?_, fun _ => rfl, fun nobody => absurd first (nobody [])⟩
      intro uuid other named
      exact absurd (other.unique first) named
  | tried target named first isResult =>
      rw [isResult]
      refine ⟨?_, ?_, fun nobody => absurd first (nobody target)⟩
      · intro uuid other _
        rw [other.unique first]
        rfl
      · intro nameless
        exact absurd (first.unique nameless) named

end OpenSmsc.SmppServerService
