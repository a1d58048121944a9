/-
Timers whose completions go through a queue of handlers.

A timer holds its outstanding waits.  When it expires or is cancelled, their
completions go to the back of the queue, with or without an error; what is
queued already is not taken back.  Every wait carries a tag that says what it
was started for.
-/

namespace OpenSmsc.Foundation

universe u v w

structure Wait (Timer : Type u) (Tag : Type v) where
  timer : Timer
  tag : Tag
  deriving DecidableEq

inductive Completion (Timer : Type u) (Tag : Type v) (Handler : Type w) where
  | wait (wait : Wait Timer Tag) (failed : Bool)
  | handler (handler : Handler)

structure TimerQueue (Timer : Type u) (Tag : Type v) (Handler : Type w) where
  outstanding : List (Wait Timer Tag) := []
  queue : List (Completion Timer Tag Handler) := []

variable {Timer : Type u} {Tag : Type v} {Handler : Type w}

def Completion.wait? : Completion Timer Tag Handler → Option (Wait Timer Tag)
  | .wait ended _ => some ended
  | .handler _ => none

def Completion.Avoids (timer : Timer)
    (completion : Completion Timer Tag Handler) : Prop :=
  ∀ wait failed, completion = .wait wait failed → wait.timer ≠ timer

def Completion.IsHandler (completion : Completion Timer Tag Handler) : Prop :=
  ∃ handler, completion = .handler handler

theorem Completion.IsHandler.avoids {timer : Timer}
    {completion : Completion Timer Tag Handler}
    (isHandler : completion.IsHandler) : completion.Avoids timer := by
  obtain ⟨handler, rfl⟩ := isHandler
  intro wait failed contrary
  cases contrary

namespace TimerQueue

def pop (q : TimerQueue Timer Tag Handler) : TimerQueue Timer Tag Handler :=
  { q with queue := q.queue.tail }

def post (handler : Handler) (q : TimerQueue Timer Tag Handler) :
    TimerQueue Timer Tag Handler :=
  { q with queue := q.queue ++ [.handler handler] }

/-- No queued completion of the timer carries an error. -/
def Intact (timer : Timer) (q : TimerQueue Timer Tag Handler) : Prop :=
  ∀ wait, .wait wait true ∈ q.queue → wait.timer ≠ timer

/-! ### One live wait -/

/-- The wait is the only one outstanding, or it has expired and nothing but
handlers was queued since.  What was queued before it is `earlier`. -/
inductive Live (earlier : Completion Timer Tag Handler → Prop)
    (wait : Wait Timer Tag) (q : TimerQueue Timer Tag Handler) : Prop
  | outstanding (only : q.outstanding = [wait])
      (before : ∀ completion ∈ q.queue, earlier completion)
  | queued (front back : List (Completion Timer Tag Handler))
      (none : q.outstanding = [])
      (isQueue : q.queue = front ++ .wait wait false :: back)
      (before : ∀ completion ∈ front, earlier completion)
      (behind : ∀ completion ∈ back, completion.IsHandler)

variable {earlier : Completion Timer Tag Handler → Prop}
  {wait : Wait Timer Tag} {q : TimerQueue Timer Tag Handler}

theorem Live.mem_queue (live : Live earlier wait q)
    {completion : Completion Timer Tag Handler}
    (member : completion ∈ q.queue) :
    earlier completion ∨ completion = .wait wait false ∨
      completion.IsHandler := by
  cases live with
  | outstanding only before => exact .inl (before completion member)
  | queued front back none isQueue before behind =>
      rw [isQueue] at member
      rcases List.mem_append.mp member with atFront | later
      · exact .inl (before completion atFront)
      · rcases List.mem_cons.mp later with own | atBack
        · exact .inr (.inl own)
        · exact .inr (.inr (behind completion atBack))

theorem Live.post (live : Live earlier wait q) (handler : Handler)
    (allowed : earlier (.handler handler)) :
    Live earlier wait (q.post handler) := by
  cases live with
  | outstanding only before =>
      refine .outstanding only ?_
      intro completion member
      rcases List.mem_append.mp member with old | new
      · exact before completion old
      · rw [List.mem_singleton.mp new]
        exact allowed
  | queued front back none isQueue before behind =>
      refine .queued front (back ++ [.handler handler]) none ?_ before ?_
      · change q.queue ++ _ = _
        rw [isQueue, List.append_assoc]
        rfl
      · intro completion member
        rcases List.mem_append.mp member with old | new
        · exact behind completion old
        · exact ⟨handler, List.mem_singleton.mp new⟩

theorem Live.pop (live : Live earlier wait q)
    {completion : Completion Timer Tag Handler}
    {rest : List (Completion Timer Tag Handler)}
    (isQueue : q.queue = completion :: rest) :
    (completion = .wait wait false ∧ q.outstanding = [] ∧
        ∀ later ∈ rest, later.IsHandler) ∨
      (earlier completion ∧ Live earlier wait q.pop) := by
  cases live with
  | outstanding only before =>
      rw [isQueue, List.forall_mem_cons] at before
      refine .inr ⟨before.1, .outstanding only ?_⟩
      change ∀ later ∈ q.queue.tail, _
      rw [isQueue]
      exact before.2
  | queued front back none isSplit before behind =>
      cases front with
      | nil =>
          obtain ⟨isWait, isBack⟩ :=
            List.cons.inj (isQueue.symm.trans isSplit)
          refine .inl ⟨isWait, none, ?_⟩
          rw [isBack]
          exact behind
      | cons first front =>
          obtain ⟨isFirst, isRest⟩ :=
            List.cons.inj (isQueue.symm.trans isSplit)
          rw [List.forall_mem_cons, ← isFirst] at before
          refine .inr ⟨before.1, .queued front back none ?_ before.2 behind⟩
          change q.queue.tail = _
          rw [isQueue]
          exact isRest

theorem Live.intact (live : Live earlier wait q)
    (avoids : ∀ completion, earlier completion →
      completion.Avoids wait.timer) : q.Intact wait.timer := by
  intro other member
  rcases live.mem_queue member with isEarlier | own | isHandler
  · exact avoids _ isEarlier other true rfl
  · cases own
  · exact isHandler.avoids other true rfl

/-! ### Expiry and cancel -/

variable [DecidableEq Timer]

/-- All outstanding waits of a timer complete. -/
def complete (timer : Timer) (failed : Bool)
    (q : TimerQueue Timer Tag Handler) : TimerQueue Timer Tag Handler :=
  { outstanding := q.outstanding.filter fun wait => wait.timer ≠ timer
    queue := q.queue ++
      (q.outstanding.filter fun wait => wait.timer = timer).map
        (.wait · failed) }

def expire (timer : Timer) (q : TimerQueue Timer Tag Handler) :
    TimerQueue Timer Tag Handler :=
  q.complete timer false

def cancel (timer : Timer) (q : TimerQueue Timer Tag Handler) :
    TimerQueue Timer Tag Handler :=
  q.complete timer true

/-- A new expiry time, which cancels the waits on the old one, and a wait. -/
def start (wait : Wait Timer Tag) (q : TimerQueue Timer Tag Handler) :
    TimerQueue Timer Tag Handler :=
  { q.cancel wait.timer with
    outstanding := (q.cancel wait.timer).outstanding ++ [wait] }

theorem complete_of_none (timer : Timer) (failed : Bool)
    (none : q.outstanding = []) : q.complete timer failed = q := by
  obtain ⟨outstanding, queue⟩ := q
  cases none
  exact congrArg (TimerQueue.mk []) (List.append_nil queue)

theorem complete_own (failed : Bool) (only : q.outstanding = [wait]) :
    q.complete wait.timer failed =
      { outstanding := [], queue := q.queue ++ [.wait wait failed] } := by
  unfold complete
  rw [only]
  simp

theorem complete_other {timer : Timer} (failed : Bool)
    (only : q.outstanding = [wait]) (other : wait.timer ≠ timer) :
    q.complete timer failed = q := by
  obtain ⟨outstanding, queue⟩ := q
  cases only
  simp [complete, other]

theorem start_of_none (wait : Wait Timer Tag) (none : q.outstanding = []) :
    q.start wait = { q with outstanding := [wait] } := by
  unfold start cancel
  rw [complete_of_none wait.timer true none, none]
  rfl

theorem Live.start (none : q.outstanding = [])
    (before : ∀ completion ∈ q.queue, earlier completion) :
    Live earlier wait (q.start wait) := by
  rw [start_of_none wait none]
  exact .outstanding rfl before

theorem Live.expire (live : Live earlier wait q) (timer : Timer) :
    Live earlier wait (q.expire timer) := by
  unfold TimerQueue.expire
  cases live with
  | outstanding only before =>
      by_cases own : wait.timer = timer
      · rw [← own, complete_own false only]
        exact .queued q.queue [] rfl rfl before nofun
      · rw [complete_other false only own]
        exact .outstanding only before
  | queued front back none isQueue before behind =>
      rw [complete_of_none timer false none]
      exact .queued front back none isQueue before behind

theorem Live.cancel (live : Live earlier wait q) :
    (q.cancel wait.timer).outstanding = [] ∧
      ∀ completion ∈ (q.cancel wait.timer).queue,
        earlier completion ∨ (∃ failed, completion = .wait wait failed) ∨
          completion.IsHandler := by
  unfold TimerQueue.cancel
  cases live with
  | outstanding only before =>
      rw [complete_own true only]
      refine ⟨rfl, ?_⟩
      intro completion member
      rcases List.mem_append.mp member with old | new
      · exact .inl (before completion old)
      · exact .inr (.inl ⟨true, List.mem_singleton.mp new⟩)
  | queued front back none isQueue before behind =>
      rw [complete_of_none wait.timer true none]
      refine ⟨none, ?_⟩
      intro completion member
      have live : Live earlier wait q :=
        .queued front back none isQueue before behind
      rcases live.mem_queue member with isEarlier | own | isHandler
      · exact .inl isEarlier
      · exact .inr (.inl ⟨false, own⟩)
      · exact .inr (.inr isHandler)

/-! ### Counting waits -/

def waitsOf (timer : Timer) (q : TimerQueue Timer Tag Handler) :
    List (Wait Timer Tag) :=
  (q.outstanding ++ q.queue.filterMap Completion.wait?).filter fun wait =>
    wait.timer = timer

theorem queued_filter_of_avoids {timer : Timer}
    {completions : List (Completion Timer Tag Handler)}
    (avoids : ∀ completion ∈ completions, completion.Avoids timer) :
    (completions.filterMap Completion.wait?).filter
        (fun wait => wait.timer = timer) = [] := by
  rw [List.filter_eq_nil_iff]
  intro wait member
  obtain ⟨completion, isIn, isWait⟩ := List.mem_filterMap.mp member
  rw [decide_eq_true_eq]
  cases completion with
  | handler handler => cases isWait
  | wait ended failed =>
      cases isWait
      exact avoids _ isIn wait failed rfl

theorem Live.waitsOf_other (live : Live earlier wait q) {timer : Timer}
    (other : wait.timer ≠ timer)
    (avoids : ∀ completion, earlier completion → completion.Avoids timer) :
    q.waitsOf timer = [] := by
  have noneQueued : ∀ completion ∈ q.queue, completion.Avoids timer := by
    intro completion member
    rcases live.mem_queue member with isEarlier | own | isHandler
    · exact avoids completion isEarlier
    · intro wait' failed same
      rw [own] at same
      cases same
      exact other
    · exact isHandler.avoids
  unfold waitsOf
  rw [List.filter_append, queued_filter_of_avoids noneQueued]
  cases live with
  | outstanding only before =>
      rw [only]
      simp [other]
  | queued front back none isQueue before behind =>
      rw [none]
      rfl

theorem Live.waitsOf_own (live : Live earlier wait q)
    (avoids : ∀ completion, earlier completion →
      completion.Avoids wait.timer) :
    q.waitsOf wait.timer = [wait] := by
  unfold waitsOf
  rw [List.filter_append]
  cases live with
  | outstanding only before =>
      rw [only, queued_filter_of_avoids fun completion member =>
        avoids completion (before completion member)]
      simp
  | queued front back none isQueue before behind =>
      have noneBefore := queued_filter_of_avoids fun completion member =>
        avoids completion (before completion member)
      have noneBehind : (back.filterMap Completion.wait?).filter
          (fun other => other.timer = wait.timer) = [] :=
        queued_filter_of_avoids fun completion member =>
          (behind completion member).avoids
      have ownFirst : (Completion.wait wait false :: back).filterMap
          Completion.wait? = wait :: back.filterMap Completion.wait? := rfl
      rw [none, isQueue, List.filterMap_append, List.filter_append,
        noneBefore, ownFirst, List.filter_cons, noneBehind]
      simp

end TimerQueue

end OpenSmsc.Foundation
