/-
The registry of accepted connections that wait for their client handler.

An entry lives from `add` until its socket is claimed or it is removed.  The
per-IP counters are kept apart from the entries; the invariant below says they
agree, and each operation keeps it.
-/

import OpenSmsc.Foundation.Collections
import OpenSmsc.Octets

namespace OpenSmsc.ConnectionRegistry

open Foundation

structure SessionEntry where
  fd : Int
  clientIp : Octets
  deriving DecidableEq, Repr

structure Registry where
  maxPerIp : UInt32
  sessions : Std.TreeMap Octets SessionEntry
  ipCounts : Std.TreeMap Octets UInt32

def create (maxPerIp : UInt32 := 5) : Registry :=
  { maxPerIp := maxPerIp
    sessions := ∅
    ipCounts := ∅ }

def count (ip : Octets) (r : Registry) : UInt32 :=
  r.ipCounts[ip]?.getD 0

/-- `ip_counts_[client_ip]` creates a missing counter even when the
connection is then refused. -/
def add (uuid : Octets) (fd : Int) (clientIp : Octets) (r : Registry) :
    Bool × Registry :=
  let cnt := r.ipCounts[clientIp]?.getD 0
  if r.maxPerIp ≤ cnt then
    (false, { r with ipCounts := r.ipCounts.insert clientIp cnt })
  else
    (true,
      { r with
        sessions := r.sessions.insert uuid
          { fd := fd
            clientIp := clientIp }
        ipCounts := r.ipCounts.insert clientIp (cnt + 1) })

/-- What `claim_fd` and `remove` do to an entry they found. -/
def release (uuid : Octets) (entry : SessionEntry) (r : Registry) :
    Registry :=
  let cnt := r.ipCounts[entry.clientIp]?.getD 0
  { r with
    sessions := r.sessions.erase uuid
    ipCounts := r.ipCounts.insert entry.clientIp
      (if 0 < cnt then cnt - 1 else cnt) }

def claimFd (uuid : Octets) (r : Registry) : Option Int × Registry :=
  match r.sessions[uuid]? with
  | none => (none, r)
  | some entry => (some entry.fd, release uuid entry r)

def remove (uuid : Octets) (r : Registry) : Registry :=
  match r.sessions[uuid]? with
  | none => r
  | some entry => release uuid entry r

def setMaxPerIp (max : UInt32) (r : Registry) : Registry :=
  { r with maxPerIp := max }

/-! ### Counters -/

def pendingOf (ip : Octets) (r : Registry) : Nat :=
  Table.countWhere (fun entry => decide (entry.clientIp = ip)) r.sessions

def Counted (r : Registry) : Prop :=
  ∀ ip, (count ip r).toNat = pendingOf ip r

theorem create_counted (maxPerIp : UInt32) : Counted (create maxPerIp) := by
  intro ip
  rfl

theorem count_insert (r : Registry) (clientIp ip : Octets) (cnt : UInt32) :
    (r.ipCounts.insert clientIp cnt)[ip]?.getD 0 =
      if clientIp = ip then cnt else count ip r := by
  by_cases same : clientIp = ip
  · subst same
    rw [if_pos rfl, Table.lookup_insert_self]
    rfl
  · rw [if_neg same, Table.lookup_insert_ne _ cnt same]
    rfl

inductive Added (uuid : Octets) (fd : Int) (clientIp : Octets)
    (r : Registry) (result : Bool × Registry) : Prop
  | refused (full : r.maxPerIp ≤ count clientIp r)
      (isResult : result =
        (false,
          { r with
            ipCounts := r.ipCounts.insert clientIp (count clientIp r) }))
  | admitted (below : count clientIp r < r.maxPerIp)
      (isResult : result =
        (true,
          { r with
            sessions := r.sessions.insert uuid
              { fd := fd
                clientIp := clientIp }
            ipCounts :=
              r.ipCounts.insert clientIp (count clientIp r + 1) }))

theorem add_added (uuid : Octets) (fd : Int) (clientIp : Octets)
    (r : Registry) :
    Added uuid fd clientIp r (add uuid fd clientIp r) := by
  by_cases full : r.maxPerIp ≤ count clientIp r
  · exact .refused full (if_pos full)
  · exact .admitted (UInt32.not_le.mp full) (if_neg full)

theorem add_admitted_sessions (uuid : Octets) (fd : Int)
    (clientIp : Octets) (r : Registry)
    (below : count clientIp r < r.maxPerIp) :
    (add uuid fd clientIp r).2.sessions =
      r.sessions.insert uuid
        { fd := fd
          clientIp := clientIp } := by
  cases add_added uuid fd clientIp r with
  | refused full _ => exact absurd full (UInt32.not_le.mpr below)
  | admitted _ isResult => rw [isResult]

theorem add_admitted_count (uuid : Octets) (fd : Int) (clientIp : Octets)
    (r : Registry) (below : count clientIp r < r.maxPerIp) :
    count clientIp (add uuid fd clientIp r).2 = count clientIp r + 1 := by
  cases add_added uuid fd clientIp r with
  | refused full _ => exact absurd full (UInt32.not_le.mpr below)
  | admitted _ isResult =>
      rw [isResult]
      exact (count_insert r clientIp clientIp _).trans (if_pos rfl)

theorem add_refused_unchanged (uuid : Octets) (fd : Int)
    (clientIp : Octets) (r : Registry)
    (full : r.maxPerIp ≤ count clientIp r) :
    (add uuid fd clientIp r).2.sessions = r.sessions ∧
      ∀ ip, count ip (add uuid fd clientIp r).2 = count ip r := by
  cases add_added uuid fd clientIp r with
  | refused _ isResult =>
      rw [isResult]
      refine ⟨rfl, ?_⟩
      intro ip
      refine (count_insert r clientIp ip _).trans ?_
      split
      · next same => rw [same]
      · rfl
  | admitted below _ => exact absurd full (UInt32.not_le.mpr below)

theorem count_add_one (r : Registry) (clientIp : Octets)
    (below : count clientIp r < r.maxPerIp) :
    (count clientIp r + 1).toNat = (count clientIp r).toNat + 1 := by
  have limit := r.maxPerIp.toNat_lt
  have belowNat := UInt32.lt_iff_toNat_lt.mp below
  rw [UInt32.toNat_add]
  change ((count clientIp r).toNat + 1) % 2 ^ 32 = _
  omega

theorem Counted.positive {r : Registry} (counted : Counted r)
    {uuid : Octets} {session : SessionEntry}
    (found : r.sessions[uuid]? = some session) :
    0 < count session.clientIp r := by
  have rows := Table.countWhere_erase
    (fun entry => decide (entry.clientIp = session.clientIp)) r.sessions uuid
    session found
  rw [if_pos (decide_eq_true rfl)] at rows
  have isCount := counted session.clientIp
  unfold pendingOf at isCount
  rw [UInt32.lt_iff_toNat_lt]
  change 0 < (count session.clientIp r).toNat
  omega

theorem add_counted (uuid : Octets) (fd : Int) (clientIp : Octets)
    (r : Registry) (fresh : r.sessions[uuid]? = none)
    (counted : Counted r) : Counted (add uuid fd clientIp r).2 := by
  intro ip
  cases add_added uuid fd clientIp r with
  | refused full _ =>
      have unchanged := add_refused_unchanged uuid fd clientIp r full
      rw [unchanged.2, counted ip, pendingOf, pendingOf, unchanged.1]
  | admitted below isResult =>
      rw [isResult]
      refine (congrArg UInt32.toNat
        (count_insert r clientIp ip _)).trans ?_
      refine Eq.trans ?_
        (Table.countWhere_insert _ r.sessions uuid _ fresh).symm
      change _ = pendingOf ip r + _
      by_cases same : clientIp = ip
      · subst same
        rw [if_pos rfl, count_add_one r clientIp below, counted clientIp]
        simp
      · rw [if_neg same, counted ip]
        simp [same]

theorem release_counted (uuid : Octets) (entry : SessionEntry)
    (r : Registry) (found : r.sessions[uuid]? = some entry)
    (counted : Counted r) : Counted (release uuid entry r) := by
  intro ip
  have rows : pendingOf ip r = pendingOf ip (release uuid entry r) +
      if decide (entry.clientIp = ip) = true then 1 else 0 :=
    Table.countWhere_erase _ r.sessions uuid entry found
  refine (congrArg UInt32.toNat
    (count_insert r entry.clientIp ip _)).trans ?_
  by_cases same : entry.clientIp = ip
  · subst same
    have positive := counted.positive found
    have oneLe : (1 : UInt32) ≤ count entry.clientIp r := by
      rw [UInt32.le_iff_toNat_le]
      exact UInt32.lt_iff_toNat_lt.mp positive
    rw [if_pos (decide_eq_true rfl), ← counted entry.clientIp] at rows
    rw [if_pos rfl]
    change (if 0 < count entry.clientIp r then count entry.clientIp r - 1
      else count entry.clientIp r).toNat = _
    rw [if_pos positive, UInt32.toNat_sub_of_le _ _ oneLe]
    change (count entry.clientIp r).toNat - 1 = _
    omega
  · rw [if_neg same, counted ip, rows]
    simp [same]

theorem claimFd_counted (uuid : Octets) (r : Registry)
    (counted : Counted r) : Counted (claimFd uuid r).2 := by
  unfold claimFd
  cases found : r.sessions[uuid]? with
  | none => exact counted
  | some entry => exact release_counted uuid entry r found counted

theorem remove_counted (uuid : Octets) (r : Registry)
    (counted : Counted r) : Counted (remove uuid r) := by
  unfold remove
  cases found : r.sessions[uuid]? with
  | none => exact counted
  | some entry => exact release_counted uuid entry r found counted

theorem setMaxPerIp_counted (max : UInt32) (r : Registry)
    (counted : Counted r) : Counted (setMaxPerIp max r) := counted

/-! ### Registries that answer alike -/

/-- Two registries that differ at most in counters that stand at zero and
counters that are missing. -/
structure Alike (left right : Registry) : Prop where
  maxPerIp : left.maxPerIp = right.maxPerIp
  sessions : left.sessions = right.sessions
  count : ∀ ip, count ip left = count ip right

theorem Alike.count_insert {left right : Registry}
    (alike : Alike left right) (clientIp ip : Octets) (cnt : UInt32) :
    (left.ipCounts.insert clientIp cnt)[ip]?.getD 0 =
      (right.ipCounts.insert clientIp cnt)[ip]?.getD 0 := by
  rw [ConnectionRegistry.count_insert, ConnectionRegistry.count_insert,
    alike.count ip]

theorem Alike.add {left right : Registry} (alike : Alike left right)
    (uuid : Octets) (fd : Int) (clientIp : Octets) :
    (add uuid fd clientIp left).1 = (add uuid fd clientIp right).1 ∧
      Alike (add uuid fd clientIp left).2
        (add uuid fd clientIp right).2 := by
  have sameCount := alike.count clientIp
  cases add_added uuid fd clientIp left with
  | refused full isResult =>
      rw [alike.maxPerIp, sameCount] at full
      cases add_added uuid fd clientIp right with
      | refused _ isResult' =>
          rw [isResult, isResult']
          refine ⟨rfl, alike.maxPerIp, alike.sessions, ?_⟩
          rw [sameCount]
          exact fun ip => alike.count_insert clientIp ip _
      | admitted below _ => exact absurd full (UInt32.not_le.mpr below)
  | admitted below isResult =>
      rw [alike.maxPerIp, sameCount] at below
      cases add_added uuid fd clientIp right with
      | refused full _ => exact absurd full (UInt32.not_le.mpr below)
      | admitted _ isResult' =>
          rw [isResult, isResult']
          refine ⟨rfl, alike.maxPerIp, ?_, ?_⟩
          · dsimp only
            rw [alike.sessions]
          · rw [sameCount]
            exact fun ip => alike.count_insert clientIp ip _

theorem Alike.release {left right : Registry} (alike : Alike left right)
    (uuid : Octets) (entry : SessionEntry) :
    Alike (release uuid entry left) (release uuid entry right) := by
  refine ⟨alike.maxPerIp, congrArg (·.erase uuid) alike.sessions, ?_⟩
  have sameCount := alike.count entry.clientIp
  unfold ConnectionRegistry.count at sameCount
  unfold ConnectionRegistry.release
  dsimp only
  rw [sameCount]
  exact fun ip => alike.count_insert entry.clientIp ip _

theorem Alike.claimFd {left right : Registry} (alike : Alike left right)
    (uuid : Octets) :
    (claimFd uuid left).1 = (claimFd uuid right).1 ∧
      Alike (claimFd uuid left).2 (claimFd uuid right).2 := by
  unfold ConnectionRegistry.claimFd
  rw [alike.sessions]
  cases right.sessions[uuid]? with
  | none => exact ⟨rfl, alike⟩
  | some entry => exact ⟨rfl, alike.release uuid entry⟩

theorem add_refused_alike (uuid : Octets) (fd : Int) (clientIp : Octets)
    (r : Registry) (full : r.maxPerIp ≤ count clientIp r) :
    Alike (add uuid fd clientIp r).2 r := by
  obtain ⟨sameSessions, sameCounts⟩ :=
    add_refused_unchanged uuid fd clientIp r full
  refine ⟨?_, sameSessions, sameCounts⟩
  cases add_added uuid fd clientIp r with
  | refused _ isResult => rw [isResult]
  | admitted _ isResult => rw [isResult]

end OpenSmsc.ConnectionRegistry
