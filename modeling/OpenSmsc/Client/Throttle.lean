/-
The throttle of a session is a token bucket of rate and burst
`max_submit_per_sec`.

The source computes in `double`.  Here the same function runs over the
rationals, where every step is exact, and is related to the bucket of the
library; what the bucket guarantees then holds of `throttle_check`.
-/

import Mathlib.Algebra.Order.Field.Rat
import OpenSmsc.Client.Outputs
import OpenSmsc.Foundation.TokenBucket

namespace OpenSmsc.SmppSession

open Foundation Smpp

/-- Exact arithmetic with a nanosecond clock. -/
instance : TokenArith ℚ where
  ofUnsigned number := (number.toNat : ℚ)
  seconds ticks := (ticks : ℚ) / 1000000000
  one := 1
  add left right := left + right
  sub left right := left - right
  mul left right := left * right
  gt left right := decide (right < left)
  ge left right := decide (right ≤ left)

/-- `throttle_check`, at the clock reading that is its event. -/
def throttle {Number : Type} [TokenArith Number] :
    Machine (Session Number) Int Bool where
  step s now := ((throttleCheck now s).2, [(throttleCheck now s).1])

/-! ### The session's bucket -/

def bucketSize (maxSubmitPerSec : UInt32) : ℚ := (maxSubmitPerSec.toNat : ℚ)

def bucketOf (s : Session ℚ) : TokenBucket ℚ :=
  { tokens := s.tbTokens
    lastRefill := TokenArith.seconds s.tbLastRefill }

theorem seconds_sub (later earlier : Int) :
    (TokenArith.seconds (later - earlier) : ℚ) =
      TokenArith.seconds later - TokenArith.seconds earlier := by
  change ((later - earlier : Int) : ℚ) / 1000000000 =
    (later : ℚ) / 1000000000 - (earlier : ℚ) / 1000000000
  rw [Int.cast_sub, sub_div]

theorem seconds_le {earlier later : Int} (ordered : earlier ≤ later) :
    (TokenArith.seconds earlier : ℚ) ≤ TokenArith.seconds later := by
  change (earlier : ℚ) / 1000000000 ≤ (later : ℚ) / 1000000000
  exact div_le_div_of_nonneg_right (Int.cast_le.mpr ordered) (by norm_num)

theorem capped_eq_min (size tokens : ℚ) :
    (if TokenArith.gt tokens size then size else tokens) =
      min size tokens := by
  by_cases above : size < tokens
  · have isAbove : TokenArith.gt tokens size = true := decide_eq_true above
    rw [if_pos isAbove, min_eq_left above.le]
  · have isWithin : ¬TokenArith.gt tokens size = true :=
      fun contrary => above (of_decide_eq_true contrary)
    rw [if_neg isWithin, min_eq_right (not_lt.mp above)]

theorem refilledTokens_eq (now : Int) (s : Session ℚ) :
    refilledTokens now s =
      TokenBucket.level (bucketSize s.maxSubmitPerSec)
        (bucketSize s.maxSubmitPerSec) (bucketOf s)
        (TokenArith.seconds now) := by
  have gained :
      s.tbTokens + TokenArith.seconds (now - s.tbLastRefill) *
          bucketSize s.maxSubmitPerSec =
        (bucketOf s).tokens + bucketSize s.maxSubmitPerSec *
          (TokenArith.seconds now - (bucketOf s).lastRefill) := by
    rw [seconds_sub, mul_comm]
    rfl
  unfold TokenBucket.level
  rw [← gained]
  exact capped_eq_min _ _

structure Throttles (limit : UInt32) (s : Session ℚ)
    (bucket : TokenBucket ℚ) : Prop where
  sameLimit : s.maxSubmitPerSec = limit
  sameBucket : bucketOf s = bucket

theorem Throttles.step {limit : UInt32} (limited : limit ≠ 0)
    {s : Session ℚ} {bucket : TokenBucket ℚ}
    (throttles : Throttles limit s bucket) (now : Int) :
    let check := TokenBucket.check (bucketSize limit) (bucketSize limit)
    (throttle.step s now).2 =
        (check.step bucket (TokenArith.seconds now)).2 ∧
      Throttles limit (throttle.step s now).1
        (check.step bucket (TokenArith.seconds now)).1 := by
  obtain ⟨rfl, rfl⟩ := throttles
  have level := refilledTokens_eq now s
  unfold throttle throttleCheck TokenBucket.check
  dsimp only
  rw [if_neg limited, ← level]
  by_cases enough : 1 ≤ refilledTokens now s
  · have isEnough :
        TokenArith.ge (refilledTokens now s) TokenArith.one = true :=
      decide_eq_true enough
    rw [if_pos enough, if_pos isEnough]
    exact ⟨rfl, rfl, rfl⟩
  · have notEnough :
        ¬TokenArith.ge (refilledTokens now s) TokenArith.one = true := by
      change ¬decide (1 ≤ refilledTokens now s) = true
      rwa [decide_eq_true_eq]
    rw [if_neg enough, if_neg notEnough]
    exact ⟨rfl, rfl, rfl⟩

/-- A limited session answers a sequence of checks as a bucket does that was
full at construction. -/
theorem throttle_simulates (config : Config)
    (limited : config.maxSubmitPerSec ≠ 0) (times : List Int) :
    let size := bucketSize config.maxSubmitPerSec
    let check := TokenBucket.check size size
    let start := TokenBucket.full size
      (TokenArith.seconds config.constructedAt)
    throttle.emitted (create config : Session ℚ) times =
        check.emitted start (times.map TokenArith.seconds) ∧
      Throttles config.maxSubmitPerSec
        (throttle.final (create config : Session ℚ) times)
        (check.final start (times.map TokenArith.seconds)) :=
  throttle.simulation_rule _ (Throttles config.maxSubmitPerSec)
    TokenArith.seconds
    (fun _ _ now throttles => throttles.step limited now)
    (create config) _ ⟨rfl, rfl⟩ times

theorem throttleCheck_unlimited {Number : Type} [TokenArith Number]
    (now : Int) (s : Session Number) (unlimited : s.maxSubmitPerSec = 0) :
    throttleCheck now s = (true, s) := by
  unfold throttleCheck
  rw [if_pos unlimited]

theorem throttle_unlimited {Number : Type} [TokenArith Number]
    (s : Session Number) (unlimited : s.maxSubmitPerSec = 0)
    (times : List Int) : throttle.final s times = s := by
  refine throttle.invariant_rule (· = s) s rfl ?_ times
  rintro _ now rfl
  exact congrArg (·.2) (throttleCheck_unlimited now _ unlimited)

/-! ### What the bucket guarantees -/

theorem rising_seconds {times : List Int}
    (rising : times.Pairwise (· ≤ ·)) :
    (times.map (TokenArith.seconds : Int → ℚ)).Pairwise (· ≤ ·) :=
  rising.map TokenArith.seconds fun _ _ => seconds_le

theorem bucketSize_nonneg (limit : UInt32) : 0 ≤ bucketSize limit :=
  Nat.cast_nonneg _

theorem one_le_bucketSize {limit : UInt32} (limited : limit ≠ 0) :
    1 ≤ bucketSize limit := by
  have positive : limit.toNat ≠ 0 :=
    fun zero => limited (UInt32.toNat_inj.mp zero)
  exact Nat.one_le_cast.mpr (Nat.one_le_iff_ne_zero.mpr positive)

theorem throttle_tokens_bounded (config : Config) (times : List Int)
    (rising : (config.constructedAt :: times).Pairwise (· ≤ ·)) :
    let s : Session ℚ := throttle.final (create config) times
    0 ≤ s.tbTokens ∧ s.tbTokens ≤ bucketSize config.maxSubmitPerSec := by
  have size := bucketSize_nonneg config.maxSubmitPerSec
  by_cases unlimited : config.maxSubmitPerSec = 0
  · rw [throttle_unlimited (create config : Session ℚ) unlimited times]
    exact ⟨size, le_rfl⟩
  · have same := (throttle_simulates config unlimited times).2.sameBucket
    have bounded := TokenBucket.tokens_bounded
      (bucketSize config.maxSubmitPerSec)
      (bucketSize config.maxSubmitPerSec)
      (TokenArith.seconds config.constructedAt) size size
      (times.map TokenArith.seconds) (rising_seconds rising)
    rw [← same] at bounded
    exact ⟨bounded.1, bounded.2.1⟩

theorem throttleCheck_iff_windows (config : Config)
    (limited : config.maxSubmitPerSec ≠ 0) (earlier : List Int) (now : Int)
    (rising : (config.constructedAt :: (earlier ++ [now])).Pairwise
      (· ≤ ·)) :
    (throttleCheck now
        (throttle.final (create config : Session ℚ) earlier)).1 = true ↔
      ∀ j time, earlier[j]? = some time →
        TokenBucket.acceptedFrom
            (throttle.emitted (create config : Session ℚ) earlier) j + 1 ≤
          bucketSize config.maxSubmitPerSec *
            (1 + TokenArith.seconds (now - time)) := by
  obtain ⟨sameDecisions, atEnd⟩ := throttle_simulates config limited earlier
  have sameAnswer := (atEnd.step limited now).1
  have starts : ∀ first ∈
      ((earlier.map (TokenArith.seconds : Int → ℚ)) ++
        [TokenArith.seconds now]).head?,
      TokenArith.seconds config.constructedAt ≤ first := by
    have mapped := rising_seconds rising
    rw [List.map_cons, List.map_append, List.map_singleton] at mapped
    intro first isFirst
    exact (List.pairwise_cons.mp mapped).1 first
      (List.mem_of_mem_head? isFirst)
  have windows := TokenBucket.check_iff
    (bucketSize config.maxSubmitPerSec) (bucketSize config.maxSubmitPerSec)
    (TokenArith.seconds config.constructedAt)
    (bucketSize_nonneg _) (one_le_bucketSize limited)
    (earlier.map TokenArith.seconds) (TokenArith.seconds now) starts
  rw [← sameAnswer, ← sameDecisions] at windows
  refine List.singleton_inj.symm.trans (windows.trans ?_)
  constructor
  · intro bound j time found
    have mapped := bound j (TokenArith.seconds time) (by
      rw [List.getElem?_map, found]
      rfl)
    rwa [seconds_sub, mul_add, mul_one]
  · intro bound index mappedTime found
    rw [List.getElem?_map] at found
    obtain ⟨time, atIndex, rfl⟩ := Option.map_eq_some_iff.mp found
    have window := bound index time atIndex
    rwa [seconds_sub, mul_add, mul_one] at window

theorem throttle_span_le (config : Config)
    (limited : config.maxSubmitPerSec ≠ 0) (times : List Int)
    (rising : (config.constructedAt :: times).Pairwise (· ≤ ·))
    (opens duration : ℚ) (forwards : 0 ≤ duration) :
    (((times.zip (throttle.emitted (create config : Session ℚ)
        times)).countP fun check =>
          check.2 && decide (opens ≤ TokenArith.seconds check.1 ∧
            TokenArith.seconds check.1 ≤ opens + duration) : Nat) : ℚ) ≤
      bucketSize config.maxSubmitPerSec * (1 + duration) := by
  have sameDecisions := (throttle_simulates config limited times).1
  have spans := TokenBucket.acceptedWithin_le
    (bucketSize config.maxSubmitPerSec) (bucketSize config.maxSubmitPerSec)
    (TokenArith.seconds config.constructedAt)
    (bucketSize_nonneg _) (bucketSize_nonneg _)
    (times.map TokenArith.seconds) (rising_seconds rising) opens duration
    forwards
  rw [← sameDecisions] at spans
  unfold TokenBucket.acceptedWithin at spans
  rw [List.zip_map_left, List.countP_map] at spans
  rw [mul_add, mul_one]
  exact spans

/-- `throttle_check` is a token bucket of rate and burst `max_submit_per_sec`.
A check succeeds exactly when every window that it closes keeps its share, so
that no span of `duration` seconds has more than its share of successes; the
tokens stay in range; without a limit every check succeeds. -/
theorem throttleCheck_is_token_bucket (config : Config)
    (earlier : List Int) (now : Int)
    (rising : (config.constructedAt :: (earlier ++ [now])).Pairwise
      (· ≤ ·)) :
    let s : Session ℚ := throttle.final (create config) earlier
    let decisions := throttle.emitted (create config : Session ℚ) earlier
    let limit : ℚ := (config.maxSubmitPerSec.toNat : ℚ)
    (config.maxSubmitPerSec = 0 → (throttleCheck now s).1 = true) ∧
      (config.maxSubmitPerSec ≠ 0 →
        ((throttleCheck now s).1 = true ↔
          ∀ j time, earlier[j]? = some time →
            (((decisions.drop j).count true : Nat) : ℚ) + 1 ≤
              limit * (1 + TokenArith.seconds (now - time))) ∧
        ∀ opens duration : ℚ, 0 ≤ duration →
          (((earlier.zip decisions).countP fun check =>
              check.2 && decide (opens ≤ TokenArith.seconds check.1 ∧
                TokenArith.seconds check.1 ≤ opens + duration) : Nat) : ℚ) ≤
            limit * (1 + duration)) ∧
      0 ≤ s.tbTokens ∧ s.tbTokens ≤ limit := by
  intro s decisions limit
  have earlierRising :
      (config.constructedAt :: earlier).Pairwise (· ≤ ·) := by
    rw [← List.cons_append, List.pairwise_append] at rising
    exact rising.1
  refine ⟨?_, ?_, throttle_tokens_bounded config earlier earlierRising⟩
  · intro unlimited
    have untouched := throttle_unlimited (create config : Session ℚ)
      unlimited earlier
    have answer := throttleCheck_unlimited now
      (create config : Session ℚ) unlimited
    rw [← untouched] at answer
    exact congrArg (·.1) answer
  · intro limited
    exact ⟨throttleCheck_iff_windows config limited earlier now rising,
      throttle_span_le config limited earlier earlierRising⟩

/-- Two a second: two checks at once use the bucket up, and the third, half a
second later, is judged by the windows that open at each of them. -/
theorem throttleCheck_is_token_bucket_two :
    let config : Config :=
      { uuid := text "c1", clientIp := text "10.0.0.1"
        maxSubmitPerSec := 2 }
    let s : Session ℚ := throttle.final (create config) [0, 0]
    let decisions := throttle.emitted (create config : Session ℚ) [0, 0]
    (config.constructedAt :: ([0, 0] ++ [500000000])).Pairwise (· ≤ ·) ∧
      config.maxSubmitPerSec ≠ 0 ∧
      ((throttleCheck 500000000 s).1 = true ↔
        ∀ j time, [(0 : Int), 0][j]? = some time →
          (((decisions.drop j).count true : Nat) : ℚ) + 1 ≤
            2 * (1 + TokenArith.seconds (500000000 - time))) ∧
      0 ≤ s.tbTokens ∧ s.tbTokens ≤ 2 := by
  intro config s decisions
  have rising :
      (config.constructedAt :: ([0, 0] ++ [500000000])).Pairwise
        (· ≤ ·) := by decide
  have limited : config.maxSubmitPerSec ≠ 0 := by decide
  have bucket := throttleCheck_is_token_bucket config [0, 0] 500000000 rising
  exact ⟨rising, limited, (bucket.2.1 limited).1, bucket.2.2⟩

/-! ### The checks of a run -/

section Runs

variable {Number : Type} [TokenArith Number]

omit [TokenArith Number] in
def Session.bucket (s : Session Number) : Number × Int × UInt32 :=
  (s.tbTokens, s.tbLastRefill, s.maxSubmitPerSec)

/-- The clock reading of the check that a step makes.  The bucket is only
consulted for a submit in a transmitting state. -/
def checkTime (entry : Machine.Entry (Session Number) Event Effect) :
    Option Int :=
  match dispatched entry.event with
  | none => none
  | some (env, hdr, _) =>
      if hdr.commandId = submitSm ∧
          (entry.before.state = .boundTx ∨
            entry.before.state = .boundTrx) then
        some env.steadyClock
      else none

/-- The checks of a run: when, and whether a message was routed. -/
def checks (past : List (Machine.Entry (Session Number) Event Effect)) :
    List (Int × Bool) :=
  past.filterMap fun entry =>
    (checkTime entry).map fun now => (now, !(routed entry.outputs).isEmpty)

theorem throttleCheck_congr (now : Int) (s other : Session Number)
    (same : s.bucket = other.bucket) :
    (throttleCheck now s).1 = (throttleCheck now other).1 ∧
      (throttleCheck now s).2.bucket =
        (throttleCheck now other).2.bucket := by
  have sameTokens : s.tbTokens = other.tbTokens := congrArg (·.1) same
  have sameRefill : s.tbLastRefill = other.tbLastRefill :=
    congrArg (·.2.1) same
  have sameLimit : s.maxSubmitPerSec = other.maxSubmitPerSec :=
    congrArg (·.2.2) same
  have sameLevel : refilledTokens now s = refilledTokens now other := by
    unfold refilledTokens
    rw [sameTokens, sameRefill, sameLimit]
  unfold throttleCheck
  rw [sameLimit, sameLevel]
  split
  · exact ⟨rfl, same⟩
  · dsimp only
    split
    · exact ⟨rfl, rfl⟩
    · exact ⟨rfl, rfl⟩

theorem handleSubmitSm_checked (env : Env) (hdr : Header) (body : Octets)
    (s : Session Number)
    (mayTransmit : s.state = .boundTx ∨ s.state = .boundTrx) :
    (handleSubmitSm env hdr body s).1.bucket =
        (throttleCheck env.steadyClock s).2.bucket ∧
      (!(routed (handleSubmitSm env hdr body s).2).isEmpty) =
        (throttleCheck env.steadyClock s).1 := by
  unfold handleSubmitSm
  simp only [if_pos mayTransmit, if_true]
  cases allowed : (throttleCheck env.steadyClock s).1 with
  | true =>
      have nonempty := messageId_nonempty
        (throttleCheck env.steadyClock s).2.msgIdPrefix
        ((throttleCheck env.steadyClock s).2.msgSeq + 1)
      unfold messageId at nonempty
      simp only [if_true, nextMessageId, nonempty, Bool.false_eq_true,
        if_false]
      exact ⟨rfl, rfl⟩
  | false => exact ⟨rfl, rfl⟩

omit [TokenArith Number] in
theorem doDisconnect_bucket (reason : Octets) (s : Session Number) :
    (doDisconnect reason s).1.bucket = s.bucket := by
  unfold doDisconnect
  split <;> rfl

theorem dispatch_bucket (env : Env) (hdr : Header) (body : Octets)
    (s : Session Number)
    (unchecked : ¬(hdr.commandId = submitSm ∧
      (s.state = .boundTx ∨ s.state = .boundTrx))) :
    (dispatch env hdr body s).1.bucket = s.bucket := by
  cases dispatch_dispatchedTo env hdr body s with
  | bind isBind isResult =>
      rw [isResult]
      cases handleBind_answered env hdr body s with
      | alreadyBound notOpen isAnswer => rw [isAnswer]
      | refused code wasOpen answered isAnswer => rw [isAnswer]; rfl
      | accepted code wasOpen answered isAnswer => rw [isAnswer]; rfl
  | unbind isUnbind isResult =>
      rw [isResult]
      exact doDisconnect_bucket (text "unbind") s
  | enquireLink isEnquiry isResult => rw [isResult]; rfl
  | submitSm isSubmit isResult =>
      have mayNot : ¬(s.state = .boundTx ∨ s.state = .boundTrx) :=
        fun may => unchecked ⟨isSubmit, may⟩
      rw [isResult]
      unfold handleSubmitSm
      simp only [if_neg mayNot]
      rfl
  | enquireLinkResp isResponse isResult =>
      rw [isResult]
      unfold handleEnquireLinkResp
      split <;> rfl
  | deliverSmResp isResponse isResult => rw [isResult]
  | unknown _ _ _ _ _ _ isResult => rw [isResult]

theorem step_bucket_of_no_pdu (s : Session Number) (event : Event)
    (noPdu : dispatched event = none) :
    (step s event).1.bucket = s.bucket := by
  cases step_handled s event with
  | idle outputs quiet isResult => rw [isResult]
  | disconnects reason isResult =>
      rw [isResult]
      exact doDisconnect_bucket reason s
  | dispatches env hdr body pdu isResult =>
      rw [noPdu] at pdu
      contradiction
  | enquires elSeq live isResult => rw [isResult]; rfl
  | delivers srcAddr dstAddr shortMessage mayReceive isResult =>
      rw [isResult]
      rfl

theorem step_bucket (s : Session Number) (event : Event) :
    match checkTime (machine.entry s event) with
    | none => (step s event).1.bucket = s.bucket
    | some now =>
        (step s event).1.bucket = (throttleCheck now s).2.bucket ∧
          (!(routed (step s event).2).isEmpty) =
            (throttleCheck now s).1 := by
  cases pdu : dispatched (machine.entry s event).event with
  | none =>
      have noCheck : checkTime (machine.entry s event) = none := by
        unfold checkTime
        rw [pdu]
      rw [noCheck]
      exact step_bucket_of_no_pdu s event pdu
  | some dispatchedPdu =>
      rcases dispatchedPdu with ⟨env, hdr, body⟩
      have time : checkTime (machine.entry s event) =
          if hdr.commandId = submitSm ∧
              (s.state = .boundTx ∨ s.state = .boundTrx) then
            some env.steadyClock
          else none := by
        unfold checkTime
        rw [pdu]
        rfl
      rw [time, step_of_dispatched s event env hdr body pdu,
        dispatchAndRead_routed]
      by_cases checked : hdr.commandId = submitSm ∧
          (s.state = .boundTx ∨ s.state = .boundTrx)
      · rw [if_pos checked]
        unfold dispatchAndRead
        rw [dispatch_submit env hdr body s checked.1]
        exact handleSubmitSm_checked env hdr body s checked.2
      · rw [if_neg checked]
        exact dispatch_bucket env hdr body s checked

omit [TokenArith Number] in
theorem checks_concat
    (past : List (Machine.Entry (Session Number) Event Effect))
    (entry : Machine.Entry (Session Number) Event Effect) :
    checks (past ++ [entry]) =
      checks past ++ ((checkTime entry).map fun now =>
        (now, !(routed entry.outputs).isEmpty)).toList := by
  unfold checks
  rw [List.filterMap_append]
  cases time : checkTime entry <;> simp [time]

/-- The checks of a run are answered as the same checks made one after the
other, whatever else happens in between. -/
theorem checks_of_run (config : Config) (events : List Event) :
    let past := machine.history (create config : Session Number) events
    let times := (checks past).map (·.1)
    (machine.final (create config : Session Number) events).bucket =
        (throttle.final (create config : Session Number) times).bucket ∧
      (checks past).map (·.2) =
        throttle.emitted (create config : Session Number) times := by
  refine machine.history_rule
    (fun s past =>
      s.bucket = (throttle.final (create config : Session Number)
          ((checks past).map (·.1))).bucket ∧
        (checks past).map (·.2) = throttle.emitted
          (create config : Session Number) ((checks past).map (·.1)))
    (create config) ⟨rfl, rfl⟩ ?_ events
  rintro s past event ⟨sameBucket, sameAnswers⟩
  have made := step_bucket s event
  rw [checks_concat]
  cases time : checkTime (machine.entry s event) with
  | none =>
      rw [time] at made
      rw [Option.map_none, Option.toList_none, List.append_nil]
      exact ⟨made.trans sameBucket, sameAnswers⟩
  | some now =>
      rw [time] at made
      obtain ⟨sameCheck, sameAfter⟩ := throttleCheck_congr now s _ sameBucket
      rw [Option.map_some, Option.toList_some, List.map_append,
        List.map_append, List.map_singleton, List.map_singleton,
        Machine.final_concat, Machine.emitted_concat, sameAnswers]
      refine ⟨made.1.trans sameAfter, ?_⟩
      exact congrArg (_ ++ [·]) (made.2.trans sameCheck)

end Runs

/-- In a whole run, whatever the peer sends, no span of `duration` seconds has
more accepted submits than the limit allows. -/
theorem accepted_submits_le (config : Config) (events : List Event)
    (limited : config.maxSubmitPerSec ≠ 0)
    (rising : (config.constructedAt :: (checks (machine.history
      (create config : Session ℚ) events)).map (·.1)).Pairwise (· ≤ ·))
    (opens duration : ℚ) (forwards : 0 ≤ duration) :
    (((checks (machine.history (create config : Session ℚ) events)).countP
        fun check =>
          check.2 && decide (opens ≤ TokenArith.seconds check.1 ∧
            TokenArith.seconds check.1 ≤ opens + duration) : Nat) : ℚ) ≤
      bucketSize config.maxSubmitPerSec * (1 + duration) := by
  have answers := (@checks_of_run ℚ _ config events).2
  have span := throttle_span_le config limited _ rising opens duration
    forwards
  rw [← answers, List.zip_map', List.map_id'] at span
  exact span

end OpenSmsc.SmppSession
