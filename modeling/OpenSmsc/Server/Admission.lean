/-
The per-IP limit over whole runs of the server.

A ledger is read off the steps of a run: who was admitted under which limit,
whose socket was claimed and who ended.  The registry counts the sessions that
wait for their claim; a claim frees a place although the session lives on, and
the end of a session changes nothing.
-/

import OpenSmsc.Server.Service

namespace OpenSmsc.SmppServerService

open Foundation

/-! ### Limits along a list -/

/-- Every number of the list exceeds its position, counted from `offset`. -/
def ExceedsPosition (offset : Nat) : List Nat → Prop
  | [] => True
  | limit :: rest => offset < limit ∧ ExceedsPosition (offset + 1) rest

theorem ExceedsPosition.mono {limits : List Nat} {high : Nat}
    (exceeds : ExceedsPosition high limits) (low : Nat)
    (le : low ≤ high) : ExceedsPosition low limits := by
  induction limits generalizing low high with
  | nil => trivial
  | cons limit rest ih =>
      exact ⟨Nat.lt_of_le_of_lt le exceeds.1,
        ih exceeds.2 (low + 1) (Nat.succ_le_succ le)⟩

theorem ExceedsPosition.sublist {kept limits : List Nat}
    (sublist : kept.Sublist limits) (offset : Nat)
    (exceeds : ExceedsPosition offset limits) :
    ExceedsPosition offset kept := by
  induction sublist generalizing offset with
  | slnil => trivial
  | cons limit _ ih =>
      exact (ih (offset + 1) exceeds.2).mono offset (Nat.le_succ offset)
  | cons_cons limit _ ih => exact ⟨exceeds.1, ih (offset + 1) exceeds.2⟩

theorem ExceedsPosition.concat {limits : List Nat} (limit offset : Nat)
    (exceeds : ExceedsPosition offset limits)
    (above : offset + limits.length < limit) :
    ExceedsPosition offset (limits ++ [limit]) := by
  induction limits generalizing offset with
  | nil => exact ⟨above, trivial⟩
  | cons first rest ih =>
      refine ⟨exceeds.1, ih (offset + 1) exceeds.2 ?_⟩
      rw [List.length_cons] at above
      omega

structure Admission where
  uuid : Octets
  clientIp : Octets
  /-- The limit in force at the admission. -/
  limit : UInt32
  deriving DecidableEq, Repr

/-- The admissions of a run in order, the uuids whose socket was handed out
and the uuids whose session has ended. -/
structure Ledger where
  admissions : List Admission := []
  claimed : List Octets := []
  ended : List Octets := []

abbrev Entry := Machine.Entry Service Event Effect

def isSocket : Effect → Bool
  | .returnSocket _ => true
  | _ => false

def Ledger.record (ledger : Ledger) (entry : Entry) : Ledger :=
  match entry.event with
  | .registerSession uuid _ clientIp =>
      if Effect.emitSessionStarted uuid clientIp ∈ entry.outputs then
        { ledger with
          admissions := ledger.admissions ++
            [{ uuid := uuid
               clientIp := clientIp
               limit := entry.before.registry.maxPerIp }] }
      else ledger
  | .getSocket uuid =>
      if entry.outputs.any isSocket then
        { ledger with claimed := uuid :: ledger.claimed }
      else ledger
  | .sessionExited uuid _ =>
      { ledger with ended := uuid :: ledger.ended }
  | _ => ledger

def Ledger.pending (ledger : Ledger) : List Admission :=
  ledger.admissions.filter fun admission =>
    decide (admission.uuid ∉ ledger.claimed)

def Ledger.unclaimed (ip : Octets) (ledger : Ledger) : List Admission :=
  ledger.pending.filter fun admission => decide (admission.clientIp = ip)

theorem Ledger.pending_claim (ledger : Ledger) (uuid : Octets) :
    ({ ledger with claimed := uuid :: ledger.claimed } : Ledger).pending =
      ledger.pending.filter fun admission =>
        decide (admission.uuid ≠ uuid) := by
  simp only [Ledger.pending, List.filter_filter, List.mem_cons, not_or,
    Bool.decide_and]

theorem Ledger.unclaimed_claim (ledger : Ledger) (uuid ip : Octets) :
    (({ ledger with claimed := uuid :: ledger.claimed } :
        Ledger).unclaimed ip).Sublist (ledger.unclaimed ip) := by
  unfold Ledger.unclaimed
  rw [Ledger.pending_claim]
  exact List.Sublist.filter _ List.filter_sublist

theorem Ledger.pending_registered (ledger : Ledger) (admission : Admission)
    (unclaimed : admission.uuid ∉ ledger.claimed) :
    ({ ledger with
        admissions := ledger.admissions ++ [admission] } :
        Ledger).pending = ledger.pending ++ [admission] := by
  simp [Ledger.pending, unclaimed]

theorem Ledger.unclaimed_registered (ledger : Ledger) (admission : Admission)
    (unclaimed : admission.uuid ∉ ledger.claimed) (ip : Octets) :
    ({ ledger with
        admissions := ledger.admissions ++ [admission] } :
        Ledger).unclaimed ip =
      ledger.unclaimed ip ++
        if admission.clientIp = ip then [admission] else [] := by
  unfold Ledger.unclaimed
  rw [Ledger.pending_registered ledger admission unclaimed, List.filter_append]
  by_cases same : admission.clientIp = ip
  · simp [same]
  · simp [same]

def registeredUuid : Event → Option Octets
  | .registerSession uuid _ _ => some uuid
  | _ => none

/-- The registry holds exactly the pending sessions of the ledger, and no
session was admitted over its limit.  `uuids` are those registered so far. -/
structure Tracks (s : Service) (ledger : Ledger) (uuids : List Octets) :
    Prop where
  counted : ConnectionRegistry.Counted s.registry
  rows : (s.registry.sessions.toList.map fun row =>
      (row.1, row.2.clientIp)).Perm
    (ledger.pending.map fun admission =>
      (admission.uuid, admission.clientIp))
  admittedKnown : ∀ admission ∈ ledger.admissions, admission.uuid ∈ uuids
  claimedKnown : ∀ uuid ∈ ledger.claimed, uuid ∈ uuids
  withinLimits : ∀ ip, ExceedsPosition 0
    ((ledger.unclaimed ip).map fun admission => admission.limit.toNat)

namespace Tracks

variable {s : Service} {ledger : Ledger} {uuids : List Octets}

theorem initial (maxPerIp : UInt32) :
    Tracks (create (ConnectionRegistry.create maxPerIp)) {} [] :=
  { counted := ConnectionRegistry.create_counted maxPerIp
    rows := List.Perm.refl _
    admittedKnown := by simp
    claimedKnown := by simp
    withinLimits := fun _ => trivial }

theorem count_eq (tracks : Tracks s ledger uuids) (ip : Octets) :
    (getConnectionCount ip s).toNat = (ledger.unclaimed ip).length := by
  have counts := tracks.rows.countP_eq fun row => decide (row.2 = ip)
  rw [List.countP_map, List.countP_map] at counts
  refine (tracks.counted ip).trans (counts.trans ?_)
  exact List.countP_eq_length_filter

theorem exists_admission (tracks : Tracks s ledger uuids) {uuid : Octets}
    {entry : ConnectionRegistry.SessionEntry}
    (found : s.registry.sessions[uuid]? = some entry) :
    ∃ admission ∈ ledger.admissions, admission.uuid = uuid := by
  have member : (uuid, entry.clientIp) ∈
      s.registry.sessions.toList.map fun row => (row.1, row.2.clientIp) :=
    List.mem_map.mpr
      ⟨_, Std.TreeMap.mem_toList_iff_getElem?_eq_some.mpr found, rfl⟩
  obtain ⟨admission, pending, equal⟩ :=
    List.mem_map.mp (tracks.rows.mem_iff.mp member)
  exact ⟨admission, List.mem_of_mem_filter pending,
    congrArg Prod.fst equal⟩

theorem absent_of_fresh (tracks : Tracks s ledger uuids) {uuid : Octets}
    (fresh : uuid ∉ uuids) : s.registry.sessions[uuid]? = none := by
  cases found : s.registry.sessions[uuid]? with
  | none => rfl
  | some entry =>
      obtain ⟨admission, member, rfl⟩ := tracks.exists_admission found
      exact absurd (tracks.admittedKnown admission member) fresh

theorem congr (tracks : Tracks s ledger uuids) (after : Service)
    (sameSessions : after.registry.sessions = s.registry.sessions)
    (sameCounts : ∀ ip, ConnectionRegistry.count ip after.registry =
      ConnectionRegistry.count ip s.registry) :
    Tracks after ledger uuids := by
  refine { tracks with counted := ?_, rows := ?_ }
  · intro ip
    rw [sameCounts, tracks.counted ip]
    simp only [ConnectionRegistry.pendingOf, sameSessions]
  · rw [sameSessions]
    exact tracks.rows

theorem more_uuids (tracks : Tracks s ledger uuids) (uuid : Octets) :
    Tracks s ledger (uuids ++ [uuid]) :=
  { tracks with
    admittedKnown := fun admission member =>
      List.mem_append_left _ (tracks.admittedKnown admission member)
    claimedKnown := fun known member =>
      List.mem_append_left _ (tracks.claimedKnown known member) }

theorem registered (tracks : Tracks s ledger uuids) (uuid : Octets) (fd : Int)
    (clientIp : Octets) (fresh : uuid ∉ uuids)
    (below : ConnectionRegistry.count clientIp s.registry <
      s.registry.maxPerIp) (sessions : Std.TreeMap Octets SessionInfo) :
    Tracks
      { registry := (ConnectionRegistry.add uuid fd clientIp s.registry).2
        sessions := sessions }
      { ledger with
        admissions := ledger.admissions ++
          [{ uuid := uuid
             clientIp := clientIp
             limit := s.registry.maxPerIp }] }
      (uuids ++ [uuid]) := by
  have absent := tracks.absent_of_fresh fresh
  have unclaimed : uuid ∉ ledger.claimed := fun member =>
    fresh (tracks.claimedKnown uuid member)
  have pending := ledger.pending_registered
    { uuid := uuid
      clientIp := clientIp
      limit := s.registry.maxPerIp } unclaimed
  constructor
  · exact ConnectionRegistry.add_counted uuid fd clientIp s.registry absent
      tracks.counted
  · cases ConnectionRegistry.add_added uuid fd clientIp s.registry with
    | refused full isResult => exact absurd full (UInt32.not_le.mpr below)
    | admitted _ isResult =>
        rw [pending, isResult, List.map_append]
        refine ((Table.toList_perm_insert s.registry.sessions uuid _
          absent).map _).trans ?_
        refine (tracks.rows.cons (uuid, clientIp)).trans ?_
        exact (List.perm_append_singleton _ _).symm
  · intro admission member
    rcases List.mem_append.mp member with old | new
    · exact List.mem_append_left _ (tracks.admittedKnown admission old)
    · rw [List.mem_singleton.mp new]
      exact List.mem_append_right _ (List.mem_singleton_self uuid)
  · intro known member
    exact List.mem_append_left _ (tracks.claimedKnown known member)
  · intro ip
    rw [Ledger.unclaimed_registered ledger _ unclaimed ip]
    by_cases same : clientIp = ip
    · rw [if_pos same, List.map_append]
      refine (tracks.withinLimits ip).concat s.registry.maxPerIp.toNat 0 ?_
      rw [List.length_map, Nat.zero_add, ← tracks.count_eq ip, ← same]
      exact UInt32.lt_iff_toNat_lt.mp below
    · rw [if_neg same, List.append_nil]
      exact tracks.withinLimits ip

theorem claim (tracks : Tracks s ledger uuids) (uuid : Octets)
    (entry : ConnectionRegistry.SessionEntry)
    (found : s.registry.sessions[uuid]? = some entry) :
    Tracks
      { s with registry := ConnectionRegistry.release uuid entry s.registry }
      { ledger with claimed := uuid :: ledger.claimed } uuids := by
  obtain ⟨admission, admitted, isUuid⟩ := tracks.exists_admission found
  constructor
  · exact ConnectionRegistry.release_counted uuid entry s.registry found
      tracks.counted
  · -- Both sides lose exactly the rows of `uuid`.
    let keep (row : Octets × Octets) : Bool := decide (row.1 ≠ uuid)
    have remaining := ((Table.toList_perm_erase s.registry.sessions uuid
      entry found).map fun row => (row.1, row.2.clientIp)).symm.trans
        tracks.rows
    have filtered := remaining.filter keep
    have kept :
        List.filter keep (((uuid, entry) ::
            (s.registry.sessions.erase uuid).toList).map fun row =>
              (row.1, row.2.clientIp)) =
          (s.registry.sessions.erase uuid).toList.map fun row =>
            (row.1, row.2.clientIp) := by
      have dropsUuid : keep (uuid, entry.clientIp) = false := by
        simp [keep]
      rw [List.map_cons, List.filter_cons_of_neg (by simp [dropsUuid]),
        List.filter_eq_self]
      intro row member
      obtain ⟨⟨other, content⟩, present, rfl⟩ := List.mem_map.mp member
      have lookup := Std.TreeMap.mem_toList_iff_getElem?_eq_some.mp present
      have different : other ≠ uuid := (Table.lookup_of_erase lookup).1.symm
      exact decide_eq_true different
    rw [kept] at filtered
    rw [Ledger.pending_claim]
    refine filtered.trans ?_
    rw [List.filter_map]
    exact List.Perm.refl _
  · exact tracks.admittedKnown
  · intro known member
    rcases List.mem_cons.mp member with rfl | old
    · rw [← isUuid]
      exact tracks.admittedKnown admission admitted
    · exact tracks.claimedKnown known old
  · intro ip
    exact ExceedsPosition.sublist ((ledger.unclaimed_claim uuid ip).map _)
      0 (tracks.withinLimits ip)

theorem step (tracks : Tracks s ledger uuids) (event : Event)
    (fresh : ∀ uuid, registeredUuid event = some uuid → uuid ∉ uuids) :
    Tracks (machine.step s event).1 (ledger.record (machine.entry s event))
      (uuids ++ (registeredUuid event).toList) := by
  have nothingNew (quiet : registeredUuid event = none) :
      uuids ++ (registeredUuid event).toList = uuids := by
    rw [quiet]
    exact List.append_nil uuids
  cases event with
  | registerSession uuid fd clientIp =>
      change Tracks (registerSession uuid fd clientIp s).1
        (if Effect.emitSessionStarted uuid clientIp ∈
            (registerSession uuid fd clientIp s).2 then _ else ledger)
        (uuids ++ [uuid])
      cases registerSession_registered uuid fd clientIp s with
      | refused full isResult =>
          rw [isResult, if_neg (by simp)]
          have unchanged := ConnectionRegistry.add_refused_unchanged uuid fd
            clientIp s.registry full
          exact (tracks.congr _ unchanged.1 unchanged.2).more_uuids uuid
      | admitted below isResult =>
          rw [isResult, if_pos (List.mem_singleton_self _)]
          exact tracks.registered uuid fd clientIp (fresh uuid rfl) below _
  | getSocket uuid =>
      rw [nothingNew rfl]
      change Tracks (getSocket uuid s).1
        (if (getSocket uuid s).2.any isSocket = true then _ else ledger)
        uuids
      cases getSocket_claimed uuid s with
      | unknown absent isResult =>
          rw [isResult]
          exact tracks
      | handed entry found isResult =>
          rw [isResult]
          exact tracks.claim uuid entry found
  | updateSessionDetails uuid systemId state =>
      rw [nothingNew rfl]
      have sameRegistry := updateSessionDetails_registry uuid systemId state s
      refine tracks.congr _ (congrArg (·.sessions) sameRegistry) ?_
      intro ip
      exact congrArg (ConnectionRegistry.count ip) sameRegistry
  | setMaxConnectionsPerIp ip max =>
      rw [nothingNew rfl]
      exact tracks.congr _ rfl fun _ => rfl
  | sessionExited uuid reason =>
      rw [nothingNew rfl]
      exact { tracks with }
  | getConnectionCount ip =>
      rw [nothingNew rfl]
      exact tracks
  | getAllSessions =>
      rw [nothingNew rfl]
      exact tracks
  | disconnectAll ip reason =>
      rw [nothingNew rfl]
      exact tracks
  | routeMessage deliver srcAddr dstAddr shortMessage messageId =>
      rw [nothingNew rfl]
      exact tracks

end Tracks

/-! ### Whole runs -/

end OpenSmsc.SmppServerService
