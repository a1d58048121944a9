/-
Facts about the state that the history of a run determines.

A fact that some steps establish, some steps end and all others leave alone
holds in the last state exactly when a step that established it still stands.
-/

import OpenSmsc.Foundation.Machine
import OpenSmsc.Foundation.Standing

namespace OpenSmsc.Foundation

universe u v w

section Unique

variable {Item : Type u} {Key : Type v} {ends : Item → Prop}

/-- Where every good item ends the earlier ones and is good for one key only,
at most one key stands. -/
theorem Stands.unique (good : Key → Item → Prop)
    (decides : ∀ key item, good key item → ends item)
    (single : ∀ left right item, good left item → good right item →
      left = right)
    {items : List Item} {left right : Key}
    (leftStands : Stands (good left) ends items)
    (rightStands : Stands (good right) ends items) : left = right := by
  induction items using List.reverseRecOn with
  | nil => exact absurd leftStands not_stands_nil
  | append_singleton rest last ih =>
      rw [stands_concat] at leftStands rightStands
      rcases leftStands with isLeft | ⟨leftEarlier, unended⟩
      · rcases rightStands with isRight | ⟨_, unended⟩
        · exact single left right last isLeft isRight
        · exact absurd (decides left last isLeft) unended
      · rcases rightStands with isRight | ⟨rightEarlier, _⟩
        · exact absurd (decides right last isRight) unended
        · exact ih leftEarlier rightEarlier

end Unique

namespace Machine

variable {State : Type u} {Event : Type v} {Output : Type w}
  (machine : Machine State Event Output)

theorem stands_rule (holds : State → Prop)
    (good ends : Entry State Event Output → Prop) (start : State)
    (initially : ¬holds start)
    (locally : ∀ state event, holds (machine.step state event).1 ↔
      good (machine.entry state event) ∨
        (holds state ∧ ¬ends (machine.entry state event)))
    (events : List Event) :
    holds (machine.final start events) ↔
      Stands good ends (machine.history start events) := by
  refine machine.history_rule
    (fun state past => holds state ↔ Stands good ends past)
    start ?_ ?_ events
  · exact iff_of_false initially not_stands_nil
  · intro state past event earlier
    rw [stands_concat, ← earlier]
    exact locally state event

end Machine

end OpenSmsc.Foundation
