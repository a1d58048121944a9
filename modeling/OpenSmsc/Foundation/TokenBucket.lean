/-
Token buckets over an ordered field.

A bucket holds at most `burst` tokens and gains `rate` of them per unit of
time.  A check takes one token if a whole one is there.  The bucket keeps a
single number, capped at every check; unfolded, that number is a bound for
every window of the past, and the results below are read off the unfolding.
-/

import Mathlib.Algebra.Order.Field.Basic
import Mathlib.Tactic.Linarith
import Mathlib.Tactic.Ring
import OpenSmsc.Foundation.Machine

namespace OpenSmsc.Foundation

structure TokenBucket (Number : Type) where
  tokens : Number
  lastRefill : Number

namespace TokenBucket

variable {Number : Type} [Field Number] [LinearOrder Number]

def full (burst begun : Number) : TokenBucket Number :=
  { tokens := burst
    lastRefill := begun }

/-- The content after the refill of a check at `now`. -/
def level (burst rate : Number) (bucket : TokenBucket Number)
    (now : Number) : Number :=
  min burst (bucket.tokens + rate * (now - bucket.lastRefill))

def check (burst rate : Number) :
    Machine (TokenBucket Number) Number Bool where
  step bucket now :=
    if 1 ≤ level burst rate bucket now then
      ({ tokens := level burst rate bucket now - 1
         lastRefill := now },
        [true])
    else
      ({ tokens := level burst rate bucket now
         lastRefill := now },
        [false])

def acceptedFrom (decisions : List Bool) (index : Nat) : Number :=
  ((decisions.drop index).count true : Nat)

omit [LinearOrder Number] in
theorem acceptedFrom_concat (decisions : List Bool) (accepted : Bool)
    (index : Nat) (inside : index ≤ decisions.length) :
    (acceptedFrom (decisions ++ [accepted]) index : Number) =
      acceptedFrom decisions index + if accepted then 1 else 0 := by
  unfold acceptedFrom
  rw [List.drop_append_of_le_length inside, List.count_append]
  cases accepted <;> simp

omit [LinearOrder Number] in
theorem acceptedFrom_length (decisions : List Bool) :
    (acceptedFrom decisions decisions.length : Number) = 0 := by
  simp [acceptedFrom]

theorem forall_getElem?_concat {Item : Type} (items : List Item)
    (last : Item) (holds : Nat → Item → Prop) :
    (∀ index item, (items ++ [last])[index]? = some item →
        holds index item) ↔
      holds items.length last ∧
        ∀ index item, items[index]? = some item → holds index item := by
  constructor
  · intro every
    refine ⟨every items.length last List.getElem?_concat_length, ?_⟩
    intro index item found
    refine every index item ?_
    have inside := (List.getElem?_eq_some_iff.mp found).1
    rw [List.getElem?_append_left inside]
    exact found
  · rintro ⟨atLast, earlier⟩ index item found
    rcases Nat.lt_trichotomy index items.length with inside | same | past
    · rw [List.getElem?_append_left inside] at found
      exact earlier index item found
    · subst same
      rw [List.getElem?_concat_length] at found
      cases found
      exact atLast
    · have outside : (items ++ [last]).length ≤ index := by
        rw [List.length_append, List.length_singleton]
        omega
      rw [List.getElem?_eq_none outside] at found
      contradiction

/-! ### Windows of time -/

def acceptedWithin (opens closes : Number) (times : List Number)
    (decisions : List Bool) : Nat :=
  (times.zip decisions).countP fun check =>
    check.2 && decide (opens ≤ check.1 ∧ check.1 ≤ closes)

theorem exists_first {Item : Type} (items : List Item)
    (holds : Item → Prop) (some_holds : ∃ item ∈ items, holds item) :
    ∃ index item, items[index]? = some item ∧ holds item ∧
      ∀ earlier ∈ items.take index, ¬holds earlier := by
  induction items with
  | nil => simp at some_holds
  | cons item rest ih =>
      by_cases here : holds item
      · exact ⟨0, item, rfl, here, by simp⟩
      · obtain ⟨found, member, later⟩ := some_holds
        have inRest : found ∈ rest := by
          rcases List.mem_cons.mp member with same | inRest
          · exact absurd (same ▸ later) here
          · exact inRest
        obtain ⟨index, first, isFirst, firstHolds, none_earlier⟩ :=
          ih ⟨found, inRest, later⟩
        refine ⟨index + 1, first, isFirst, firstHolds, ?_⟩
        rw [List.take_succ_cons, List.forall_mem_cons]
        exact ⟨here, none_earlier⟩

omit [Field Number] in
theorem acceptedWithin_le_count (opens closes : Number)
    (times : List Number) (decisions : List Bool) (index : Nat)
    (before : ∀ time ∈ times.take index, ¬opens ≤ time) :
    acceptedWithin opens closes times decisions ≤
      (decisions.drop index).count true := by
  induction times generalizing decisions index with
  | nil => simp [acceptedWithin]
  | cons time later ih =>
      cases decisions with
      | nil => simp [acceptedWithin]
      | cons accepted decisions =>
          unfold acceptedWithin at ih ⊢
          rw [List.zip_cons_cons, List.countP_cons]
          cases index with
          | zero =>
              have rest := ih decisions 0 (by simp)
              rw [List.drop_zero] at rest ⊢
              rw [List.count_cons]
              cases accepted
              · simpa using rest
              · dsimp only
                split
                · simpa using rest
                · simpa using Nat.le_succ_of_le rest
          | succ index =>
              rw [List.take_succ_cons, List.forall_mem_cons] at before
              have rest := ih decisions index before.2
              simpa [before.1] using rest

section Checks

variable (burst rate : Number)

theorem le_level {bucket : TokenBucket Number} {now value : Number} :
    value ≤ level burst rate bucket now ↔
      value ≤ burst ∧
        value ≤ bucket.tokens + rate * (now - bucket.lastRefill) :=
  le_min_iff

theorem step_eq (bucket : TokenBucket Number) (now : Number) :
    (check burst rate).step bucket now =
      ({ tokens := level burst rate bucket now -
           if decide (1 ≤ level burst rate bucket now) then 1 else 0
         lastRefill := now },
        [decide (1 ≤ level burst rate bucket now)]) := by
  unfold check
  dsimp only
  by_cases enough : 1 ≤ level burst rate bucket now
  · rw [if_pos enough, decide_eq_true enough, if_pos rfl]
  · rw [if_neg enough, decide_eq_false enough, if_neg Bool.false_ne_true,
      sub_zero]

theorem decisions_length (bucket : TokenBucket Number)
    (times : List Number) :
    ((check burst rate).emitted bucket times).length = times.length := by
  induction times using List.reverseRecOn with
  | nil => rfl
  | append_singleton earlier now ih =>
      rw [Machine.emitted_concat, step_eq, List.length_append,
        List.length_append, ih]
      rfl

variable [IsStrictOrderedRing Number]

/-- The content of a bucket that started full, unfolded over every earlier
check: it is the least of the cap and, for each check, of what a window
opening there still allows. -/
theorem le_level_iff (begun : Number) (notNegative : 0 ≤ rate)
    (times : List Number) (now value : Number)
    (starts : ∀ first ∈ (times ++ [now]).head?, begun ≤ first) :
    value ≤ level burst rate
        ((check burst rate).final (full burst begun) times) now ↔
      value ≤ burst ∧
        ∀ index time, times[index]? = some time →
          value + acceptedFrom
              ((check burst rate).emitted (full burst begun) times) index ≤
            burst + rate * (now - time) := by
  induction times using List.reverseRecOn generalizing now value with
  | nil =>
      have gained : 0 ≤ rate * (now - begun) :=
        mul_nonneg notNegative (sub_nonneg.mpr (starts now rfl))
      have isFull : level burst rate (full burst begun) now = burst := by
        unfold level full
        exact min_eq_left (le_add_of_nonneg_right gained)
      change value ≤ level burst rate (full burst begun) now ↔ _
      rw [isFull]
      simp
  | append_singleton earlier last ih =>
      have startsEarlier :
          ∀ first ∈ (earlier ++ [last]).head?, begun ≤ first := by
        intro first isFirst
        refine starts first ?_
        rw [List.head?_append, Option.mem_def.mp isFirst]
        rfl
      rw [Machine.final_concat, Machine.emitted_concat, step_eq]
      generalize decide (1 ≤ level burst rate ((check burst rate).final
        (full burst begun) earlier) last) = accepted
      have unfolded := ih last
        (value + (if accepted then 1 else 0) - rate * (now - last))
        startsEarlier
      have sameLength :=
        decisions_length burst rate (full burst begun) earlier
      rw [forall_getElem?_concat]
      rw [le_level]
      refine and_congr_right fun _ => ?_
      dsimp only
      rw [← sameLength,
        acceptedFrom_concat _ accepted _ (Nat.le_refl _),
        acceptedFrom_length]
      have shifted :
          value ≤ level burst rate ((check burst rate).final
                (full burst begun) earlier) last -
              (if accepted then 1 else 0) + rate * (now - last) ↔
            value + (if accepted then 1 else 0) - rate * (now - last) ≤
              level burst rate ((check burst rate).final
                (full burst begun) earlier) last := by
        constructor <;> intro bound <;> linarith
      rw [shifted, unfolded]
      refine and_congr ?_ ?_
      · constructor <;> intro bound <;> linarith
      · refine forall_congr' fun index => forall_congr' fun time =>
          forall_congr' fun found => ?_
        have inside := (List.getElem?_eq_some_iff.mp found).1
        rw [acceptedFrom_concat _ accepted index (by omega)]
        have split : rate * (now - time) =
            rate * (now - last) + rate * (last - time) := by ring
        rw [split]
        constructor <;> intro bound <;> linarith

theorem tokens_bounded (begun : Number) (notNegative : 0 ≤ rate)
    (room : 0 ≤ burst) (times : List Number)
    (rising : (begun :: times).Pairwise (· ≤ ·)) :
    let bucket := (check burst rate).final (full burst begun) times
    0 ≤ bucket.tokens ∧ bucket.tokens ≤ burst ∧
      bucket.lastRefill ∈ begun :: times := by
  induction times using List.reverseRecOn with
  | nil => exact ⟨room, le_rfl, List.mem_singleton_self begun⟩
  | append_singleton earlier now ih =>
      rw [← List.cons_append, List.pairwise_append] at rising
      obtain ⟨earlierRising, _, before⟩ := rising
      obtain ⟨enough, _, isTime⟩ := ih earlierRising
      have later := before _ isTime now (List.mem_singleton_self now)
      have gained := mul_nonneg notNegative (sub_nonneg.mpr later)
      have notEmpty : 0 ≤ level burst rate ((check burst rate).final
          (full burst begun) earlier) now :=
        (le_level burst rate).mpr ⟨room, add_nonneg enough gained⟩
      have capped : level burst rate ((check burst rate).final
          (full burst begun) earlier) now ≤ burst := min_le_left _ _
      rw [Machine.final_concat, step_eq]
      refine ⟨?_, ?_, ?_⟩
      · dsimp only
        split
        · rename_i accepted
          exact sub_nonneg.mpr (of_decide_eq_true accepted)
        · rw [sub_zero]
          exact notEmpty
      · dsimp only
        split
        · exact (sub_le_self _ zero_le_one).trans capped
        · rw [sub_zero]
          exact capped
      · simp

/-- A check succeeds exactly when no window that opens at an earlier check and
closes now would hold more than its share. -/
theorem check_iff (begun : Number) (notNegative : 0 ≤ rate)
    (room : 1 ≤ burst) (times : List Number) (now : Number)
    (starts : ∀ first ∈ (times ++ [now]).head?, begun ≤ first) :
    ((check burst rate).step
        ((check burst rate).final (full burst begun) times) now).2 =
        [true] ↔
      ∀ index time, times[index]? = some time →
        acceptedFrom ((check burst rate).emitted (full burst begun) times)
            index + 1 ≤
          burst + rate * (now - time) := by
  rw [step_eq, List.singleton_inj, decide_eq_true_iff,
    le_level_iff burst rate begun notNegative times now 1 starts]
  refine (and_iff_right room).trans ?_
  refine forall_congr' fun index => forall_congr' fun time =>
    forall_congr' fun _ => ?_
  rw [add_comm]

theorem acceptedFrom_le (begun : Number) (notNegative : 0 ≤ rate)
    (room : 0 ≤ burst) (earlier : List Number) (last : Number)
    (rising : (begun :: (earlier ++ [last])).Pairwise (· ≤ ·))
    (index : Nat) (time : Number)
    (found : (earlier ++ [last])[index]? = some time) :
    acceptedFrom ((check burst rate).emitted (full burst begun)
        (earlier ++ [last])) index ≤
      burst + rate * (last - time) := by
  have bounded := tokens_bounded burst rate begun notNegative room
    (earlier ++ [last]) rising
  -- A check at the time of the last one gains nothing and finds no debt.
  have isLast : ((check burst rate).final (full burst begun)
      (earlier ++ [last])).lastRefill = last := by
    rw [Machine.final_concat, step_eq]
  have notEmpty : 0 ≤ level burst rate ((check burst rate).final
      (full burst begun) (earlier ++ [last])) last := by
    refine (le_level burst rate).mpr ⟨room, ?_⟩
    rw [isLast, sub_self, mul_zero, add_zero]
    exact bounded.1
  have starts : ∀ first ∈ (earlier ++ [last] ++ [last]).head?,
      begun ≤ first := by
    intro first isFirst
    have member : first ∈ earlier ++ [last] := by
      have inAll := List.mem_of_mem_head? isFirst
      simpa using inAll
    exact (List.pairwise_cons.mp rising).1 first member
  have window := ((le_level_iff burst rate begun notNegative
    (earlier ++ [last]) last 0 starts).mp notEmpty).2 index time found
  rwa [zero_add] at window

/-- In every span of time no more checks succeed than the burst and what the
span gains. -/
theorem acceptedWithin_le (begun : Number) (notNegative : 0 ≤ rate)
    (room : 0 ≤ burst) (times : List Number)
    (rising : (begun :: times).Pairwise (· ≤ ·))
    (opens duration : Number) (forwards : 0 ≤ duration) :
    (acceptedWithin opens (opens + duration) times
        ((check burst rate).emitted (full burst begun) times) : Number) ≤
      burst + rate * duration := by
  induction times using List.reverseRecOn with
  | nil =>
      have gained := mul_nonneg notNegative forwards
      simpa [acceptedWithin] using add_nonneg room gained
  | append_singleton earlier last ih =>
      have earlierRising : (begun :: earlier).Pairwise (· ≤ ·) := by
        rw [← List.cons_append, List.pairwise_append] at rising
        exact rising.1
      by_cases inside : opens ≤ last ∧ last ≤ opens + duration
      · -- Count from the first check inside the window to this one.
        obtain ⟨index, time, found, isOpen, before⟩ :=
          exists_first (earlier ++ [last]) (opens ≤ ·)
            ⟨last, by simp, inside.1⟩
        have counted := acceptedWithin_le_count opens (opens + duration)
          (earlier ++ [last])
          ((check burst rate).emitted (full burst begun)
            (earlier ++ [last])) index before
        have window := acceptedFrom_le burst rate begun notNegative room
          earlier last rising index time found
        have span : rate * (last - time) ≤ rate * duration :=
          mul_le_mul_of_nonneg_left (by linarith [inside.2]) notNegative
        calc (acceptedWithin opens (opens + duration) (earlier ++ [last])
              ((check burst rate).emitted (full burst begun)
                (earlier ++ [last])) : Number)
            ≤ acceptedFrom ((check burst rate).emitted (full burst begun)
                (earlier ++ [last])) index := Nat.cast_le.mpr counted
          _ ≤ burst + rate * (last - time) := window
          _ ≤ burst + rate * duration := by linarith
      · have same : acceptedWithin opens (opens + duration)
            (earlier ++ [last])
            ((check burst rate).emitted (full burst begun)
              (earlier ++ [last])) =
            acceptedWithin opens (opens + duration) earlier
              ((check burst rate).emitted (full burst begun) earlier) := by
          have sameLength :=
            decisions_length burst rate (full burst begun) earlier
          unfold acceptedWithin
          rw [Machine.emitted_concat, step_eq,
            List.zip_append sameLength.symm, List.countP_append]
          simp [inside]
        rw [same]
        exact ih earlierRising

end Checks

end TokenBucket

end OpenSmsc.Foundation
