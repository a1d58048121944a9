/-
Runs of the connection registry.

Every operation holds the mutex for its whole length, so a run is a list of
operations with their answers.  The counters follow the entries as long as no
pending uuid is added again.  Which socket a claim hands out is read off the
history of the run, whatever uuids are used.
-/

import OpenSmsc.Foundation.Standing
import OpenSmsc.Server.Service

namespace OpenSmsc.ConnectionRegistry

open Foundation

inductive Operation where
  | add (uuid : Octets) (fd : Int) (clientIp : Octets)
  | claimFd (uuid : Octets)
  | remove (uuid : Octets)
  | setMaxPerIp (max : UInt32)
  | count (ip : Octets)
  deriving DecidableEq, Repr

inductive Answer where
  | added (success : Bool)
  | claimed (fd : Option Int)
  | removed
  | limitSet
  | counted (count : UInt32)
  deriving DecidableEq, Repr

def perform (r : Registry) : Operation → Registry × Answer
  | .add uuid fd clientIp =>
      ((add uuid fd clientIp r).2, .added (add uuid fd clientIp r).1)
  | .claimFd uuid => ((claimFd uuid r).2, .claimed (claimFd uuid r).1)
  | .remove uuid => (remove uuid r, .removed)
  | .setMaxPerIp max => (setMaxPerIp max r, .limitSet)
  | .count ip => (r, .counted (count ip r))

def machine : Machine Registry Operation Answer where
  step r operation := ((perform r operation).1, [(perform r operation).2])

abbrev Entry := Machine.Entry Registry Operation Answer

theorem remove_eq_claimFd (uuid : Octets) (r : Registry) :
    remove uuid r = (claimFd uuid r).2 := by
  unfold remove claimFd
  split
  · rfl
  · rfl

/-! ### Entries and counters after an operation -/

theorem add_success (uuid : Octets) (fd : Int) (clientIp : Octets)
    (r : Registry) :
    (add uuid fd clientIp r).1 = decide (count clientIp r < r.maxPerIp) := by
  cases add_added uuid fd clientIp r with
  | refused full isResult =>
      rw [isResult, decide_eq_false (UInt32.not_lt.mpr full)]
  | admitted below isResult => rw [isResult, decide_eq_true below]

theorem add_maxPerIp (uuid : Octets) (fd : Int) (clientIp : Octets)
    (r : Registry) : (add uuid fd clientIp r).2.maxPerIp = r.maxPerIp := by
  cases add_added uuid fd clientIp r with
  | refused _ isResult => rw [isResult]
  | admitted _ isResult => rw [isResult]

theorem add_lookup (uuid other : Octets) (fd : Int) (clientIp : Octets)
    (r : Registry) :
    (add uuid fd clientIp r).2.sessions[other]? =
      if (add uuid fd clientIp r).1 = true ∧ uuid = other then
        some { fd := fd, clientIp := clientIp }
      else r.sessions[other]? := by
  cases add_added uuid fd clientIp r with
  | refused _ isResult =>
      rw [isResult, if_neg (fun both => Bool.false_ne_true both.1)]
  | admitted _ isResult =>
      rw [isResult]
      by_cases same : uuid = other
      · rw [if_pos ⟨rfl, same⟩, ← same]
        exact Table.lookup_insert_self _ _ _
      · rw [if_neg (fun both => same both.2)]
        exact Table.lookup_insert_ne _ _ same

theorem add_count (uuid : Octets) (fd : Int) (clientIp ip : Octets)
    (r : Registry) :
    count ip (add uuid fd clientIp r).2 =
      if (add uuid fd clientIp r).1 = true ∧ clientIp = ip then
        count ip r + 1
      else count ip r := by
  cases add_added uuid fd clientIp r with
  | refused full isResult =>
      have unchanged := (add_refused_unchanged uuid fd clientIp r full).2 ip
      rw [unchanged, isResult, if_neg (fun both => Bool.false_ne_true both.1)]
  | admitted _ isResult =>
      rw [isResult]
      refine (count_insert r clientIp ip _).trans ?_
      by_cases same : clientIp = ip
      · rw [if_pos same, if_pos ⟨rfl, same⟩, same]
      · rw [if_neg same, if_neg (fun both => same both.2)]

theorem claimFd_maxPerIp (uuid : Octets) (r : Registry) :
    (claimFd uuid r).2.maxPerIp = r.maxPerIp := by
  unfold claimFd
  cases r.sessions[uuid]? with
  | none => rfl
  | some entry => rfl

theorem claimFd_lookup (uuid other : Octets) (r : Registry) :
    (claimFd uuid r).2.sessions[other]? =
      if uuid = other then none else r.sessions[other]? := by
  unfold claimFd
  cases found : r.sessions[uuid]? with
  | none =>
      by_cases same : uuid = other
      · rw [if_pos same, ← same, found]
      · rw [if_neg same]
  | some entry =>
      change (r.sessions.erase uuid)[other]? = _
      by_cases same : uuid = other
      · rw [if_pos same, ← same, Table.lookup_erase_self]
      · rw [if_neg same, Table.lookup_erase_ne _ same]

def decremented (cnt : UInt32) : UInt32 := if 0 < cnt then cnt - 1 else cnt

theorem toNat_decremented {cnt : UInt32} (positive : 0 < cnt) :
    (decremented cnt).toNat + 1 = cnt.toNat := by
  have oneLe : (1 : UInt32) ≤ cnt := by
    rw [UInt32.le_iff_toNat_le]
    exact UInt32.lt_iff_toNat_lt.mp positive
  have positiveNat : 0 < cnt.toNat := UInt32.lt_iff_toNat_lt.mp positive
  rw [decremented, if_pos positive, UInt32.toNat_sub_of_le _ _ oneLe]
  change cnt.toNat - 1 + 1 = cnt.toNat
  omega

theorem claimFd_count (uuid ip : Octets) (r : Registry) :
    count ip (claimFd uuid r).2 =
      if r.sessions[uuid]?.map (·.clientIp) = some ip then
        decremented (count ip r)
      else count ip r := by
  unfold claimFd
  cases found : r.sessions[uuid]? with
  | none => rfl
  | some entry =>
      rw [Option.map_some]
      refine (count_insert r entry.clientIp ip _).trans ?_
      by_cases same : entry.clientIp = ip
      · rw [if_pos same, if_pos (congrArg some same), same]
        rfl
      · rw [if_neg same, if_neg (fun both => same (Option.some.inj both))]

/-! ### Answers that depend on the entries and counters only -/

theorem Alike.perform {left right : Registry} (alike : Alike left right)
    (operation : Operation) :
    (perform left operation).2 = (perform right operation).2 ∧
      Alike (perform left operation).1 (perform right operation).1 := by
  cases operation with
  | add uuid fd clientIp =>
      obtain ⟨sameAnswer, stillAlike⟩ := alike.add uuid fd clientIp
      exact ⟨congrArg Answer.added sameAnswer, stillAlike⟩
  | claimFd uuid =>
      obtain ⟨sameAnswer, stillAlike⟩ := alike.claimFd uuid
      exact ⟨congrArg Answer.claimed sameAnswer, stillAlike⟩
  | remove uuid =>
      refine ⟨rfl, ?_⟩
      change Alike (remove uuid left) (remove uuid right)
      rw [remove_eq_claimFd, remove_eq_claimFd]
      exact (alike.claimFd uuid).2
  | setMaxPerIp max => exact ⟨rfl, rfl, alike.sessions, alike.count⟩
  | count ip => exact ⟨congrArg Answer.counted (alike.count ip), alike⟩

theorem Alike.indistinguishable {left right : Registry}
    (alike : Alike left right) : machine.Indistinguishable left right := by
  refine machine.indistinguishable_rule Alike ?_ left right alike
  intro left right operation alike
  obtain ⟨sameAnswer, stillAlike⟩ := alike.perform operation
  refine ⟨?_, stillAlike⟩
  change [_] = [_]
  rw [sameAnswer]

/-! ### Counters -/

def AddsFresh (r : Registry) : Operation → Prop
  | .add uuid _ _ => r.sessions[uuid]? = none
  | _ => True

instance decidableAddsFresh (r : Registry) :
    (operation : Operation) → Decidable (AddsFresh r operation)
  | .add uuid _ _ => inferInstanceAs (Decidable (r.sessions[uuid]? = none))
  | .claimFd _ => .isTrue True.intro
  | .remove _ => .isTrue True.intro
  | .setMaxPerIp _ => .isTrue True.intro
  | .count _ => .isTrue True.intro

theorem perform_counted (r : Registry) (operation : Operation)
    (fresh : AddsFresh r operation) (counted : Counted r) :
    Counted (perform r operation).1 := by
  cases operation with
  | add uuid fd clientIp =>
      exact add_counted uuid fd clientIp r fresh counted
  | claimFd uuid => exact claimFd_counted uuid r counted
  | remove uuid => exact remove_counted uuid r counted
  | setMaxPerIp max => exact setMaxPerIp_counted max r counted
  | count ip => exact counted

structure CountsAdd (clientIp : Octets) (entry : Entry) : Prop where
  success_iff : entry.outputs = [.added true] ↔
    pendingOf clientIp entry.before < entry.before.maxPerIp.toNat
  withinLimit : entry.outputs = [.added true] →
    pendingOf clientIp entry.after ≤ entry.after.maxPerIp.toNat
  noWrap : entry.outputs = [.added true] →
    (count clientIp entry.after).toNat =
      (count clientIp entry.before).toNat + 1
  refused : entry.outputs = [.added false] →
    machine.Indistinguishable entry.after entry.before

/-- A claim or a removal takes the entry out and decrements a positive
counter, or finds no entry and changes nothing. -/
structure CountsRelease (uuid : Octets) (entry : Entry) : Prop where
  positive : ∀ session, entry.before.sessions[uuid]? = some session →
    0 < count session.clientIp entry.before
  released : ∀ session, entry.before.sessions[uuid]? = some session →
    entry.after.sessions[uuid]? = none ∧
      (count session.clientIp entry.before).toNat =
        (count session.clientIp entry.after).toNat + 1
  unknown : entry.before.sessions[uuid]? = none →
    machine.Indistinguishable entry.after entry.before

structure Counts (entry : Entry) : Prop where
  counted : Counted entry.after
  add : ∀ uuid fd clientIp, entry.event = .add uuid fd clientIp →
    CountsAdd clientIp entry
  claimFd : ∀ uuid, entry.event = .claimFd uuid → CountsRelease uuid entry
  remove : ∀ uuid, entry.event = .remove uuid → CountsRelease uuid entry

theorem Counted.countsAdd {r : Registry} (counted : Counted r)
    (uuid : Octets) (fd : Int) (clientIp : Octets)
    (fresh : r.sessions[uuid]? = none) :
    CountsAdd clientIp (machine.entry r (.add uuid fd clientIp)) := by
  have isCount := counted clientIp
  have after := add_counted uuid fd clientIp r fresh counted clientIp
  have outputs : (machine.entry r (.add uuid fd clientIp)).outputs =
      [.added (add uuid fd clientIp r).1] := rfl
  cases add_added uuid fd clientIp r with
  | refused full isResult =>
      have fullNat := UInt32.le_iff_toNat_le.mp full
      have isRefused : (machine.entry r (.add uuid fd clientIp)).outputs =
          [.added false] := by
        rw [outputs, isResult]
      have notAdded : (machine.entry r (.add uuid fd clientIp)).outputs ≠
          [.added true] := by
        rw [isRefused]
        decide
      refine ⟨?_, ?_, ?_, ?_⟩
      · refine iff_of_false notAdded ?_
        change ¬pendingOf clientIp r < r.maxPerIp.toNat
        omega
      · exact fun added => absurd added notAdded
      · exact fun added => absurd added notAdded
      · intro _
        exact (add_refused_alike uuid fd clientIp r full).indistinguishable
  | admitted below isResult =>
      have belowNat := UInt32.lt_iff_toNat_lt.mp below
      have isAdded : (machine.entry r (.add uuid fd clientIp)).outputs =
          [.added true] := by
        rw [outputs, isResult]
      have nextCount := add_admitted_count uuid fd clientIp r below
      have noWrap := count_add_one r clientIp below
      refine ⟨?_, ?_, ?_, ?_⟩
      · refine iff_of_true isAdded ?_
        change pendingOf clientIp r < r.maxPerIp.toNat
        omega
      · intro _
        change pendingOf clientIp (add uuid fd clientIp r).2 ≤
          (add uuid fd clientIp r).2.maxPerIp.toNat
        rw [← after, nextCount, noWrap, add_maxPerIp]
        omega
      · intro _
        change (count clientIp (add uuid fd clientIp r).2).toNat = _
        rw [nextCount]
        exact noWrap
      · rw [isAdded]
        intro refused
        exact absurd refused (by decide)

theorem Counted.countsRelease {r : Registry} (counted : Counted r)
    (uuid : Octets) (operation : Operation)
    (isAfter : (perform r operation).1 = (claimFd uuid r).2) :
    CountsRelease uuid (machine.entry r operation) where
  positive session found := counted.positive found
  released session found := by
    change r.sessions[uuid]? = some session at found
    change (perform r operation).1.sessions[uuid]? = none ∧
      (count session.clientIp r).toNat =
        (count session.clientIp (perform r operation).1).toNat + 1
    rw [isAfter]
    refine ⟨(claimFd_lookup uuid uuid r).trans (if_pos rfl), ?_⟩
    rw [claimFd_count, found, Option.map_some, if_pos rfl]
    exact (toNat_decremented (counted.positive found)).symm
  unknown missing := by
    have unchanged : (machine.entry r operation).after = r := by
      change (perform r operation).1 = r
      rw [isAfter]
      unfold claimFd
      change r.sessions[uuid]? = none at missing
      rw [missing]
    rw [unchanged]
    exact fun _ => rfl

theorem Counted.counts {r : Registry} (counted : Counted r)
    (operation : Operation) (fresh : AddsFresh r operation) :
    Counts (machine.entry r operation) := by
  refine ⟨perform_counted r operation fresh counted, ?_, ?_, ?_⟩
  · intro uuid fd clientIp isAdd
    change operation = _ at isAdd
    subst isAdd
    exact counted.countsAdd uuid fd clientIp fresh
  · intro uuid isClaim
    change operation = _ at isClaim
    subst isClaim
    exact counted.countsRelease uuid _ rfl
  · intro uuid isRemove
    change operation = _ at isRemove
    subst isRemove
    exact counted.countsRelease uuid _ (remove_eq_claimFd uuid r)

def Adds (uuid : Octets) (fd : Int) (entry : Entry) : Prop :=
  (∃ clientIp, entry.event = .add uuid fd clientIp) ∧
    entry.outputs = [.added true]

def Claims (uuid : Octets) (fd : Int) (entry : Entry) : Prop :=
  entry.event = .claimFd uuid ∧ entry.outputs = [.claimed (some fd)]

/-- The entry settles what a later claim of `uuid` gets. -/
def Settles (uuid : Octets) (entry : Entry) : Prop :=
  (∃ fd, Adds uuid fd entry) ∨ entry.event = .claimFd uuid ∨
    entry.event = .remove uuid

/-- The latest successful `add` of `uuid` had the descriptor `fd`, and `uuid`
has been neither claimed nor removed since. -/
def Awaits (uuid : Octets) (fd : Int) (past : List Entry) : Prop :=
  Stands (Adds uuid fd) (Settles uuid) past

def filed (uuid : Octets) (r : Registry) : Option Int :=
  r.sessions[uuid]?.map (·.fd)

theorem claimFd_answer (uuid : Octets) (r : Registry) :
    (claimFd uuid r).1 = filed uuid r := by
  unfold claimFd filed
  cases r.sessions[uuid]? with
  | none => rfl
  | some entry => rfl

theorem filed_claimFd (uuid other : Octets) (r : Registry) :
    filed other (claimFd uuid r).2 =
      if uuid = other then none else filed other r := by
  unfold filed
  rw [claimFd_lookup]
  split
  · rfl
  · rfl

theorem filed_add (uuid other : Octets) (fd : Int) (clientIp : Octets)
    (r : Registry) :
    filed other (add uuid fd clientIp r).2 =
      if (add uuid fd clientIp r).1 = true ∧ uuid = other then some fd
      else filed other r := by
  unfold filed
  rw [add_lookup]
  split
  · rfl
  · rfl

theorem adds_add_iff (uuid other : Octets) (fd filedFd : Int)
    (clientIp : Octets) (r : Registry) :
    Adds other fd (machine.entry r (.add uuid filedFd clientIp)) ↔
      (add uuid filedFd clientIp r).1 = true ∧ uuid = other ∧
        filedFd = fd := by
  unfold Adds
  simp only [Machine.entry, machine, perform, Operation.add.injEq,
    List.cons.injEq, Answer.added.injEq, and_true, exists_and_left]
  constructor
  · rintro ⟨⟨sameUuid, sameFd, _⟩, success⟩
    exact ⟨success, sameUuid, sameFd⟩
  · rintro ⟨success, sameUuid, sameFd⟩
    exact ⟨⟨sameUuid, sameFd, clientIp, rfl⟩, success⟩

theorem settles_add_iff (uuid other : Octets) (fd : Int)
    (clientIp : Octets) (r : Registry) :
    Settles other (machine.entry r (.add uuid fd clientIp)) ↔
      (add uuid fd clientIp r).1 = true ∧ uuid = other := by
  unfold Settles
  simp only [adds_add_iff, exists_and_left, exists_eq', and_true]
  constructor
  · rintro (both | isClaim | isRemove)
    · exact both
    · cases isClaim
    · cases isRemove
  · exact .inl

theorem settles_other_iff (uuid : Octets) (r : Registry)
    (operation : Operation)
    (notAdd : ∀ other fd clientIp, operation ≠ .add other fd clientIp) :
    (Settles uuid (machine.entry r operation) ↔
        operation = .claimFd uuid ∨ operation = .remove uuid) ∧
      ∀ fd, ¬Adds uuid fd (machine.entry r operation) := by
  have never : ∀ fd, ¬Adds uuid fd (machine.entry r operation) := by
    rintro fd ⟨⟨clientIp, isAdd⟩, _⟩
    exact notAdd uuid fd clientIp isAdd
  refine ⟨?_, never⟩
  constructor
  · rintro (⟨fd, isAdd⟩ | settles)
    · exact absurd isAdd (never fd)
    · exact settles
  · exact .inr

theorem filed_perform (uuid : Octets) (fd : Int) (r : Registry)
    (operation : Operation) :
    filed uuid (perform r operation).1 = some fd ↔
      Adds uuid fd (machine.entry r operation) ∨
        (filed uuid r = some fd ∧
          ¬Settles uuid (machine.entry r operation)) := by
  have released (other : Octets) :
      filed uuid (claimFd other r).2 = some fd ↔
        filed uuid r = some fd ∧ ¬other = uuid := by
    rw [filed_claimFd]
    by_cases same : other = uuid
    · simp [same]
    · simp [same]
  cases operation with
  | add other otherFd clientIp =>
      rw [adds_add_iff, settles_add_iff]
      change filed uuid (add other otherFd clientIp r).2 = some fd ↔ _
      rw [filed_add]
      by_cases filesIt :
          (add other otherFd clientIp r).1 = true ∧ other = uuid
      · rw [if_pos filesIt, Option.some.injEq]
        constructor
        · exact fun same => .inl ⟨filesIt.1, filesIt.2, same⟩
        · rintro (⟨_, _, same⟩ | ⟨_, unsettled⟩)
          · exact same
          · exact absurd filesIt unsettled
      · rw [if_neg filesIt]
        constructor
        · exact fun already => .inr ⟨already, filesIt⟩
        · rintro (⟨success, same, _⟩ | ⟨already, _⟩)
          · exact absurd ⟨success, same⟩ filesIt
          · exact already
  | claimFd other =>
      obtain ⟨settles_iff, never⟩ :=
        settles_other_iff uuid r (.claimFd other) nofun
      rw [settles_iff]
      change filed uuid (claimFd other r).2 = some fd ↔ _
      simpa [never fd] using released other
  | remove other =>
      obtain ⟨settles_iff, never⟩ :=
        settles_other_iff uuid r (.remove other) nofun
      rw [settles_iff]
      change filed uuid (remove other r) = some fd ↔ _
      rw [remove_eq_claimFd]
      simpa [never fd] using released other
  | setMaxPerIp max =>
      obtain ⟨settles_iff, never⟩ :=
        settles_other_iff uuid r (.setMaxPerIp max) nofun
      rw [settles_iff]
      simp [never fd, perform, setMaxPerIp, filed]
  | count ip =>
      obtain ⟨settles_iff, never⟩ :=
        settles_other_iff uuid r (.count ip) nofun
      rw [settles_iff]
      simp [never fd, perform]

theorem filed_iff_awaits (maxPerIp : UInt32) (operations : List Operation)
    (uuid : Octets) (fd : Int) :
    filed uuid (machine.final (create maxPerIp) operations) = some fd ↔
      Awaits uuid fd (machine.history (create maxPerIp) operations) := by
  refine machine.history_rule
    (fun r past => filed uuid r = some fd ↔ Awaits uuid fd past)
    (create maxPerIp) ?_ ?_ operations
  · exact iff_of_false nofun not_stands_nil
  · intro r past operation earlier
    unfold Awaits at earlier ⊢
    rw [stands_concat, ← earlier]
    exact filed_perform uuid fd r operation

theorem claims_entry_iff (uuid : Octets) (fd : Int) (r : Registry)
    (operation : Operation) :
    Claims uuid fd (machine.entry r operation) ↔
      operation = .claimFd uuid ∧ filed uuid r = some fd := by
  unfold Claims
  change operation = .claimFd uuid ∧ [(perform r operation).2] = _ ↔ _
  refine and_congr_right ?_
  intro isClaim
  rw [isClaim]
  change [Answer.claimed (claimFd uuid r).1] = _ ↔ _
  rw [claimFd_answer]
  simp

theorem added_between_claims (maxPerIp : UInt32)
    (operations : List Operation) (uuid : Octets)
    {before between after : List Entry} {first second : Entry}
    (split : machine.history (create maxPerIp) operations =
      before ++ first :: (between ++ second :: after))
    {firstFd fd : Int} (firstClaims : Claims uuid firstFd first)
    (claims : Claims uuid fd second) :
    ∃ entry ∈ between, Adds uuid fd entry := by
  have regrouped : before ++ first :: (between ++ second :: after) =
      (before ++ first :: between) ++ second :: after := by simp
  rw [regrouped] at split
  obtain ⟨earlier, operation, later, _, isPast, isSecond⟩ :=
    machine.history_split _ _ split
  rw [← isSecond, claims_entry_iff] at claims
  have awaits := (filed_iff_awaits maxPerIp earlier uuid fd).mp claims.2
  rw [isPast] at awaits
  refine Stands.behind awaits (.inr (.inl firstClaims.1)) ?_
  rintro ⟨⟨clientIp, isAdd⟩, _⟩
  rw [firstClaims.1] at isAdd
  cases isAdd

theorem getSocket_throws_iff (uuid : Octets)
    (s : SmppServerService.Service) :
    (∃ message, SmppServerService.Effect.throwError
        (text "com.telecom.smpp.Error.NotFound") message ∈
          (SmppServerService.getSocket uuid s).2) ↔
      (claimFd uuid s.registry).1 = none := by
  unfold SmppServerService.getSocket
  dsimp only
  cases (claimFd uuid s.registry).1 with
  | none => simp
  | some fd => simp

/-- A claim returns the descriptor of the latest successful `add` of its uuid
that has not been claimed or removed since, and none if there is no such; a
second claim needs a second `add`; `GetSocket` throws exactly when there is
none. -/
theorem claimFd_latest_add (maxPerIp : UInt32) (operations : List Operation)
    (uuid : Octets) :
    let r := machine.final (create maxPerIp) operations
    let past := machine.history (create maxPerIp) operations
    (∀ fd, (claimFd uuid r).1 = some fd ↔ Awaits uuid fd past) ∧
      ((claimFd uuid r).1 = none ↔ ¬∃ fd, Awaits uuid fd past) ∧
      (∀ before first between second after firstFd fd,
        past = before ++ first :: (between ++ second :: after) →
        Claims uuid firstFd first → Claims uuid fd second →
        ∃ entry ∈ between, Adds uuid fd entry) ∧
      ∀ s : SmppServerService.Service, s.registry = r →
        ((∃ message, SmppServerService.Effect.throwError
            (text "com.telecom.smpp.Error.NotFound") message ∈
              (SmppServerService.getSocket uuid s).2) ↔
          ¬∃ fd, Awaits uuid fd past) := by
  dsimp only
  have answer (fd : Int) :
      (claimFd uuid (machine.final (create maxPerIp) operations)).1 =
          some fd ↔
        Awaits uuid fd (machine.history (create maxPerIp) operations) := by
    rw [claimFd_answer]
    exact filed_iff_awaits maxPerIp operations uuid fd
  have nullopt :
      (claimFd uuid (machine.final (create maxPerIp) operations)).1 = none ↔
        ¬∃ fd, Awaits uuid fd
          (machine.history (create maxPerIp) operations) := by
    rw [Option.eq_none_iff_forall_ne_some]
    simp only [Ne, answer, not_exists]
  refine ⟨answer, nullopt, ?_, ?_⟩
  · intro before first between second after firstFd fd split firstClaims
      claims
    exact added_between_claims maxPerIp operations uuid split firstClaims
      claims
  · intro s sameRegistry
    rw [getSocket_throws_iff, sameRegistry]
    exact nullopt

end OpenSmsc.ConnectionRegistry
