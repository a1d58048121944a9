/-
Deterministic machines with outputs.

A machine answers every event with a next state and the outputs of that step.
Environment choices belong to the event, and an event that is not enabled is
a step that changes nothing, so every list of events is a run.  The rules
below turn facts about one step into facts about whole runs.
-/

import Mathlib.Data.List.Induction

namespace OpenSmsc.Foundation

universe u v w

structure Machine (State : Type u) (Event : Type v) (Output : Type w) where
  step : State → Event → State × List Output

/-- Two parts of one step, the second from where the first ends. -/
def andThen {State : Type u} {Output : Type w} (first : State × List Output)
    (next : State → State × List Output) : State × List Output :=
  ((next first.1).1, first.2 ++ (next first.1).2)

namespace Machine

/-- One step of a run, with the state it was taken in. -/
structure Entry (State : Type u) (Event : Type v) (Output : Type w) where
  before : State
  event : Event
  outputs : List Output
  after : State

variable {State : Type u} {Event : Type v} {Output : Type w}

def entry (machine : Machine State Event Output)
    (state : State) (event : Event) : Entry State Event Output :=
  { before := state
    event := event
    outputs := (machine.step state event).2
    after := (machine.step state event).1 }

def final (machine : Machine State Event Output) :
    State → List Event → State
  | state, [] => state
  | state, event :: events =>
      machine.final (machine.step state event).1 events

def history (machine : Machine State Event Output) :
    State → List Event → List (Entry State Event Output)
  | _, [] => []
  | state, event :: events =>
      machine.entry state event ::
        machine.history (machine.step state event).1 events

variable (machine : Machine State Event Output)

theorem final_append (state : State) (first second : List Event) :
    machine.final state (first ++ second) =
      machine.final (machine.final state first) second := by
  induction first generalizing state with
  | nil => rfl
  | cons event rest ih =>
      simp only [List.cons_append, final]
      exact ih _

theorem history_append (state : State) (first second : List Event) :
    machine.history state (first ++ second) =
      machine.history state first ++
        machine.history (machine.final state first) second := by
  induction first generalizing state with
  | nil => rfl
  | cons event rest ih =>
      simp only [List.cons_append, history, final]
      rw [ih]

theorem final_concat (state : State) (events : List Event) (event : Event) :
    machine.final state (events ++ [event]) =
      (machine.step (machine.final state events) event).1 := by
  rw [final_append]
  rfl

theorem history_concat (state : State) (events : List Event)
    (event : Event) :
    machine.history state (events ++ [event]) =
      machine.history state events ++
        [machine.entry (machine.final state events) event] := by
  rw [history_append]
  rfl

def emitted (state : State) (events : List Event) : List Output :=
  (machine.history state events).flatMap (·.outputs)

theorem emitted_cons (state : State) (event : Event) (events : List Event) :
    machine.emitted state (event :: events) =
      (machine.step state event).2 ++
        machine.emitted (machine.step state event).1 events := rfl

theorem emitted_append (state : State) (first second : List Event) :
    machine.emitted state (first ++ second) =
      machine.emitted state first ++
        machine.emitted (machine.final state first) second := by
  unfold emitted
  rw [history_append, List.flatMap_append]

theorem emitted_concat (state : State) (events : List Event)
    (event : Event) :
    machine.emitted state (events ++ [event]) =
      machine.emitted state events ++
        (machine.step (machine.final state events) event).2 := by
  rw [emitted_append]
  exact congrArg (_ ++ ·) (List.append_nil _)

theorem history_events (state : State) (events : List Event) :
    (machine.history state events).map (·.event) = events := by
  induction events generalizing state with
  | nil => rfl
  | cons event rest ih => exact congrArg (event :: ·) (ih _)

theorem event_mem_of_history {state : State} {events : List Event}
    {entry : Entry State Event Output}
    (member : entry ∈ machine.history state events) :
    entry.event ∈ events := by
  rw [← machine.history_events state events]
  exact List.mem_map_of_mem member

/-- Whatever stands before an entry of a history is the history of the events
up to it. -/
theorem history_split (state : State) (events : List Event)
    {before after : List (Entry State Event Output)}
    {entry : Entry State Event Output}
    (split : machine.history state events = before ++ entry :: after) :
    ∃ earlier event later, events = earlier ++ event :: later ∧
      machine.history state earlier = before ∧
      machine.entry (machine.final state earlier) event = entry := by
  induction events generalizing state before with
  | nil =>
      have nonempty : before ++ entry :: after ≠ [] := by simp
      exact absurd split.symm nonempty
  | cons event rest ih =>
      cases before with
      | nil =>
          obtain ⟨isEntry, _⟩ := List.cons.inj split
          exact ⟨[], event, rest, rfl, rfl, isEntry⟩
      | cons first before =>
          obtain ⟨isFirst, isRest⟩ := List.cons.inj split
          obtain ⟨earlier, next, later, isEvents, isBefore, isEntry⟩ :=
            ih _ isRest
          refine ⟨event :: earlier, next, later, ?_, ?_, isEntry⟩
          · rw [isEvents]
            rfl
          · rw [← isFirst, ← isBefore]
            rfl

/-- A predicate on the state together with the steps taken so far holds after
every run when it holds at the start and each step extends it. -/
theorem history_rule
    (holds : State → List (Entry State Event Output) → Prop)
    (start : State) (initially : holds start [])
    (keeps : ∀ state past event, holds state past →
      holds (machine.step state event).1
        (past ++ [machine.entry state event]))
    (events : List Event) :
    holds (machine.final start events) (machine.history start events) := by
  induction events using List.reverseRecOn with
  | nil => exact initially
  | append_singleton earlier event ih =>
      rw [final_concat, history_concat]
      exact keeps _ _ event ih

/-- The same along the runs whose steps are all of an allowed kind. -/
theorem allowed_history_rule (allowed : Entry State Event Output → Prop)
    (holds : State → List (Entry State Event Output) → Prop)
    (start : State) (initially : holds start [])
    (keeps : ∀ state past event, holds state past →
      allowed (machine.entry state event) →
        holds (machine.step state event).1
          (past ++ [machine.entry state event]))
    (events : List Event)
    (all : ∀ entry ∈ machine.history start events, allowed entry) :
    holds (machine.final start events) (machine.history start events) := by
  have conditional := machine.history_rule
    (fun state past => (∀ entry ∈ past, allowed entry) → holds state past)
    start (fun _ => initially)
    (by
      intro state past event earlier allAllowed
      have before := earlier fun entry member =>
        allAllowed entry (List.mem_append_left _ member)
      have here := allAllowed _
        (List.mem_append_right past (List.mem_singleton_self _))
      exact keeps state past event before here)
    events
  exact conditional all

/-- A step-preserved predicate holds in the last state of every run. -/
theorem invariant_rule (holds : State → Prop) (start : State)
    (initially : holds start)
    (keeps : ∀ state event, holds state →
      holds (machine.step state event).1)
    (events : List Event) :
    holds (machine.final start events) :=
  machine.history_rule (fun state _ => holds state) start initially
    (fun state _ event => keeps state event) events

/-- What every step from an invariant state satisfies, every step of a run
satisfies. -/
theorem every_step_rule (holds : State → Prop)
    (asserts : Entry State Event Output → Prop) (start : State)
    (initially : holds start)
    (keeps : ∀ state event, holds state →
      holds (machine.step state event).1)
    (locally : ∀ state event, holds state →
      asserts (machine.entry state event))
    (events : List Event) :
    ∀ entry ∈ machine.history start events, asserts entry := by
  have both := machine.history_rule
    (fun state past => holds state ∧ ∀ entry ∈ past, asserts entry)
    start ⟨initially, by simp⟩
    (by
      intro state past event earlier
      refine ⟨keeps state event earlier.1, ?_⟩
      intro entry member
      rcases List.mem_append.mp member with old | new
      · exact earlier.2 entry old
      · rw [List.mem_singleton.mp new]
        exact locally state event earlier.1)
    events
  exact both.2

/-- What every step satisfies from any state, every step of a run satisfies. -/
theorem each_step_rule (asserts : Entry State Event Output → Prop)
    (locally : ∀ state event, asserts (machine.entry state event))
    (start : State) (events : List Event) :
    ∀ entry ∈ machine.history start events, asserts entry :=
  machine.every_step_rule (fun _ => True) asserts start True.intro
    (fun _ _ _ => True.intro) (fun state event _ => locally state event)
    events

/-! ### Simulation -/

/-- Two machines whose related states answer related events alike, and stay
related, put out the same in every run. -/
theorem simulation_rule {Abstract : Type*} {Request : Type*}
    (other : Machine Abstract Request Output)
    (related : State → Abstract → Prop) (translate : Event → Request)
    (locally : ∀ left right event, related left right →
      (machine.step left event).2 = (other.step right (translate event)).2 ∧
        related (machine.step left event).1
          (other.step right (translate event)).1)
    (left : State) (right : Abstract) (start : related left right)
    (events : List Event) :
    machine.emitted left events =
        other.emitted right (events.map translate) ∧
      related (machine.final left events)
        (other.final right (events.map translate)) := by
  induction events generalizing left right with
  | nil => exact ⟨rfl, start⟩
  | cons event rest ih =>
      obtain ⟨sameOutputs, stillRelated⟩ := locally left right event start
      obtain ⟨sameLater, atEnd⟩ := ih _ _ stillRelated
      refine ⟨?_, atEnd⟩
      rw [List.map_cons, emitted_cons, emitted_cons, sameOutputs, sameLater]

/-! ### States that answer alike -/

/-- No sequence of events tells the two states apart by its outputs. -/
def Indistinguishable (left right : State) : Prop :=
  ∀ events, machine.emitted left events = machine.emitted right events

theorem indistinguishable_rule (alike : State → State → Prop)
    (locally : ∀ left right event, alike left right →
      (machine.step left event).2 = (machine.step right event).2 ∧
        alike (machine.step left event).1 (machine.step right event).1)
    (left right : State) (related : alike left right) :
    machine.Indistinguishable left right := by
  intro events
  have same := (machine.simulation_rule machine alike id locally left right
    related events).1
  rwa [List.map_id] at same

/-! ### Events left out -/

/-- The events of a run, each with what it was answered. -/
def transcript (state : State) (events : List Event) :
    List (Event × List Output) :=
  (machine.history state events).map fun entry =>
    (entry.event, entry.outputs)

theorem transcript_cons (state : State) (event : Event)
    (events : List Event) :
    machine.transcript state (event :: events) =
      (event, (machine.step state event).2) ::
        machine.transcript (machine.step state event).1 events := rfl

/-- Events that no related state notices can be left out of a run: the others
are answered as before. -/
theorem omission_rule (kept : Event → Bool) (allowed : Event → Prop)
    (related : State → State → Prop)
    (keeps : ∀ left right event, allowed event → kept event = true →
      related left right →
        (machine.step left event).2 = (machine.step right event).2 ∧
          related (machine.step left event).1 (machine.step right event).1)
    (omits : ∀ left right event, allowed event → kept event = false →
      related left right → related (machine.step left event).1 right)
    (left right : State) (start : related left right) (events : List Event)
    (all : ∀ event ∈ events, allowed event) :
    (machine.transcript left events).filter (fun answered =>
        kept answered.1) =
      machine.transcript right (events.filter kept) := by
  induction events generalizing left right with
  | nil => rfl
  | cons event rest ih =>
      rw [List.forall_mem_cons] at all
      obtain ⟨isAllowed, restAllowed⟩ := all
      rw [transcript_cons]
      cases isKept : kept event with
      | true =>
          obtain ⟨sameAnswer, stillRelated⟩ :=
            keeps left right event isAllowed isKept start
          simp only [List.filter_cons, isKept, if_true]
          rw [transcript_cons, sameAnswer, ih _ _ stillRelated restAllowed]
      | false =>
          have stillRelated := omits left right event isAllowed isKept start
          simp only [List.filter_cons, isKept, Bool.false_eq_true, if_false]
          exact ih _ _ stillRelated restAllowed

/-! ### Runs that fall silent -/

/-- No run from here makes more than `bound` outputs. -/
def OutputsWithin (bound : Nat) (state : State) : Prop :=
  ∀ events, (machine.emitted state events).length ≤ bound

theorem outputsWithin_still (state : State)
    (still : ∀ event, machine.step state event = (state, [])) :
    machine.OutputsWithin 0 state := by
  intro events
  induction events with
  | nil => exact Nat.le_refl 0
  | cons event rest ih =>
      rw [emitted_cons, still event]
      exact ih

/-- A state is one output away from its bounded successors when every step
that does anything makes at most one output and leads to one of them. -/
theorem outputsWithin_succ (bound : Nat) (state : State)
    (steps : ∀ event, machine.step state event = (state, []) ∨
      (machine.step state event).2.length ≤ 1 ∧
        machine.OutputsWithin bound (machine.step state event).1) :
    machine.OutputsWithin (bound + 1) state := by
  intro events
  induction events with
  | nil => exact Nat.zero_le _
  | cons event rest ih =>
      rw [emitted_cons, List.length_append]
      rcases steps event with still | ⟨single, bounded⟩
      · rw [still, List.length_nil, Nat.zero_add]
        exact ih
      · have later := bounded rest
        omega

end Machine

end OpenSmsc.Foundation
