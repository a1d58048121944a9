/-
What still stands at the end of a list of events.

An item stands if no later item ended it.  A list grows at its end, so whether
something stands is decided item by item.
-/

import Mathlib.Data.List.Basic
import Mathlib.Data.List.Induction

namespace OpenSmsc.Foundation

universe u

variable {Item : Type u}

theorem concat_split {items before after : List Item} {last item : Item}
    (split : items ++ [last] = before ++ item :: after) :
    (items = before ∧ last = item) ∨
      ∃ rest, items = before ++ item :: rest ∧ after = rest ++ [last] := by
  rcases List.eq_nil_or_concat' after with none | ⟨rest, final, isAfter⟩
  · left
    rw [none] at split
    obtain ⟨sameItems, sameLast⟩ := List.append_inj' split rfl
    exact ⟨sameItems, List.singleton_inj.mp sameLast⟩
  · right
    rw [isAfter, ← List.cons_append, ← List.append_assoc] at split
    obtain ⟨sameItems, sameLast⟩ := List.append_inj' split rfl
    rw [List.singleton_inj.mp sameLast]
    exact ⟨rest, sameItems, isAfter⟩

/-- Some item is `good`, and none behind it `ends` it. -/
def Stands (good ends : Item → Prop) (items : List Item) : Prop :=
  ∃ earlier item later, items = earlier ++ item :: later ∧ good item ∧
    ∀ other ∈ later, ¬ends other

variable {good ends : Item → Prop}

theorem not_stands_nil : ¬Stands good ends [] := by
  rintro ⟨earlier, item, later, split, _⟩
  have nonempty : earlier ++ item :: later ≠ [] := by simp
  exact nonempty split.symm

/-- The last item settles the matter unless it neither is good nor ends
anything. -/
theorem stands_concat (items : List Item) (last : Item) :
    Stands good ends (items ++ [last]) ↔
      good last ∨ (Stands good ends items ∧ ¬ends last) := by
  constructor
  · rintro ⟨earlier, item, later, split, isGood, unended⟩
    rcases concat_split split with ⟨_, same⟩ | ⟨rest, isItems, isLater⟩
    · left
      rw [same]
      exact isGood
    · right
      rw [isLater] at unended
      refine ⟨⟨earlier, item, rest, isItems, isGood, ?_⟩, ?_⟩
      · intro other member
        exact unended other (List.mem_append_left _ member)
      · exact unended last (by simp)
  · rintro (isGood | ⟨⟨earlier, item, later, isItems, isGood, unended⟩,
      notEnded⟩)
    · exact ⟨items, last, [], rfl, isGood, nofun⟩
    · refine ⟨earlier, item, later ++ [last], ?_, isGood, ?_⟩
      · rw [isItems]
        simp
      · intro other member
        rcases List.mem_append.mp member with old | new
        · exact unended other old
        · rw [List.mem_singleton.mp new]
          exact notEnded

theorem Stands.behind {before after : List Item} {item : Item}
    (stands : Stands good ends (before ++ item :: after))
    (isEnd : ends item) (notGood : ¬good item) :
    ∃ other ∈ after, good other := by
  induction after using List.reverseRecOn with
  | nil =>
      rw [stands_concat] at stands
      rcases stands with isGood | ⟨_, notEnded⟩
      · exact absurd isGood notGood
      · exact absurd isEnd notEnded
  | append_singleton rest last ih =>
      have regrouped : before ++ item :: (rest ++ [last]) =
          before ++ item :: rest ++ [last] := by simp
      rw [regrouped, stands_concat] at stands
      rcases stands with isGood | ⟨standing, _⟩
      · exact ⟨last, by simp, isGood⟩
      · obtain ⟨other, member, isGood⟩ := ih standing
        exact ⟨other, List.mem_append_left _ member, isGood⟩

theorem exists_stands_iff {Key : Type*} {good : Key → Item → Prop}
    (items : List Item) :
    (∃ key, Stands (good key) (fun item => ∃ key, good key item) items) ↔
      ∃ item ∈ items, ∃ key, good key item := by
  constructor
  · rintro ⟨key, earlier, item, later, isItems, isGood, _⟩
    refine ⟨item, ?_, key, isGood⟩
    rw [isItems]
    simp
  · induction items using List.reverseRecOn with
    | nil => nofun
    | append_singleton rest last ih =>
        rintro ⟨item, member, isGood⟩
        by_cases lastGood : ∃ key, good key last
        · obtain ⟨key, lastGood⟩ := lastGood
          exact ⟨key, (stands_concat rest last).mpr (.inl lastGood)⟩
        · have inRest : item ∈ rest := by
            rcases List.mem_append.mp member with old | new
            · exact old
            · rw [List.mem_singleton.mp new] at isGood
              exact absurd isGood lastGood
          obtain ⟨key, standing⟩ := ih ⟨item, inRest, isGood⟩
          exact ⟨key, (stands_concat rest last).mpr
            (.inr ⟨standing, lastGood⟩)⟩

end OpenSmsc.Foundation
