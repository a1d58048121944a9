/-
A machine as a part of another.

When every step of a machine moves one part of its state as some steps of a
second machine would, then so does every run, and the run of the part can be
read off that of the whole.
-/

import OpenSmsc.Foundation.Machine

namespace OpenSmsc.Foundation.Machine

universe u v w

variable {State : Type u} {Event : Type v} {Output : Type w}
  (machine : Machine State Event Output)

theorem transcript_concat (state : State) (events : List Event)
    (event : Event) :
    machine.transcript state (events ++ [event]) =
      machine.transcript state events ++
        [(event, (machine.step (machine.final state events) event).2)] := by
  unfold transcript
  rw [history_concat, List.map_append]
  rfl

theorem mem_transcript {state : State} {events : List Event} {event : Event}
    {outputs : List Output}
    (member : (event, outputs) ∈ machine.transcript state events) :
    ∃ earlier later, events = earlier ++ event :: later ∧
      outputs = (machine.step (machine.final state earlier) event).2 := by
  obtain ⟨entry, inHistory, isPair⟩ := List.mem_map.mp member
  obtain ⟨before, after, split⟩ := List.append_of_mem inHistory
  obtain ⟨earlier, taken, later, isEvents, _, isEntry⟩ :=
    machine.history_split state events split
  rw [← isEntry] at isPair
  cases isPair
  exact ⟨earlier, later, isEvents, rfl⟩

section Component

variable {Part : Type*} {Act : Type*} (acts : State → Event → List Act)

/-- The steps of the part during a run of the whole. -/
def actsOf (past : List (Entry State Event Output)) : List Act :=
  past.flatMap fun entry => acts entry.before entry.event

theorem actsOf_concat (past : List (Entry State Event Output))
    (entry : Entry State Event Output) :
    actsOf acts (past ++ [entry]) =
      actsOf acts past ++ acts entry.before entry.event := by
  unfold actsOf
  rw [List.flatMap_append, List.flatMap_singleton]

theorem component_final_rule {Seen : Type*} (part : Machine Part Act Seen)
    (view : State → Part)
    (locally : ∀ state event, view (machine.step state event).1 =
      part.final (view state) (acts state event))
    (start : State) (events : List Event) :
    view (machine.final start events) =
      part.final (view start)
        (actsOf acts (machine.history start events)) := by
  induction events using List.reverseRecOn with
  | nil => rfl
  | append_singleton earlier event ih =>
      rw [final_concat, history_concat, actsOf_concat, final_append, ← ih]
      exact locally _ event

theorem component_history_rule {Seen : Type*} (part : Machine Part Act Seen)
    (view : State → Part)
    (locally : ∀ state event, view (machine.step state event).1 =
      part.final (view state) (acts state event))
    (start : State) (events : List Event) :
    part.history (view start) (actsOf acts (machine.history start events)) =
      (machine.history start events).flatMap fun entry =>
        part.history (view entry.before) (acts entry.before entry.event) := by
  induction events using List.reverseRecOn with
  | nil => rfl
  | append_singleton earlier event ih =>
      rw [history_concat, actsOf_concat, history_append, ih,
        ← machine.component_final_rule acts part view locally,
        List.flatMap_append, List.flatMap_singleton]
      rfl

end Component

end OpenSmsc.Foundation.Machine
