/-
Two collections seen from outside.

Ordered maps as tables: one entry changes, the others stay, and the number of
entries with a property follows each change.  Lists of items under way: what a
filter shows after one item is taken out.
-/

import Mathlib.Data.List.Basic

namespace OpenSmsc.Foundation

universe u v

namespace Table

variable {Key : Type u} {Value : Type v} {cmp : Key → Key → Ordering}
  [Std.TransCmp cmp] [Std.LawfulEqCmp cmp]

theorem lookup_insert_self (table : Std.TreeMap Key Value cmp) (key : Key)
    (value : Value) : (table.insert key value)[key]? = some value := by
  rw [Std.TreeMap.getElem?_insert, if_pos Std.ReflCmp.compare_self]

theorem lookup_insert_ne (table : Std.TreeMap Key Value cmp)
    {key other : Key} (value : Value) (different : key ≠ other) :
    (table.insert key value)[other]? = table[other]? := by
  have notEq : cmp key other ≠ .eq := by
    rw [ne_eq, Std.LawfulEqCmp.compare_eq_iff_eq]
    exact different
  rw [Std.TreeMap.getElem?_insert, if_neg notEq]

theorem lookup_erase_self (table : Std.TreeMap Key Value cmp) (key : Key) :
    (table.erase key)[key]? = none := by
  rw [Std.TreeMap.getElem?_erase, if_pos Std.ReflCmp.compare_self]

theorem lookup_erase_ne (table : Std.TreeMap Key Value cmp)
    {key other : Key} (different : key ≠ other) :
    (table.erase key)[other]? = table[other]? := by
  have notEq : cmp key other ≠ .eq := by
    rw [ne_eq, Std.LawfulEqCmp.compare_eq_iff_eq]
    exact different
  rw [Std.TreeMap.getElem?_erase, if_neg notEq]

theorem lookup_of_erase {table : Std.TreeMap Key Value cmp}
    {key other : Key} {content : Value}
    (found : (table.erase key)[other]? = some content) :
    key ≠ other ∧ table[other]? = some content := by
  have different : key ≠ other := by
    rintro rfl
    rw [lookup_erase_self] at found
    contradiction
  rw [lookup_erase_ne table different] at found
  exact ⟨different, found⟩

theorem toList_insert_erase (table : Std.TreeMap Key Value cmp) (key : Key)
    (value : Value) (found : table[key]? = some value) :
    ((table.erase key).insert key value).toList = table.toList := by
  refine Std.TreeMap.Equiv.toList_eq
    (Std.TreeMap.Equiv.of_forall_constGet?_eq ?_)
  intro other
  by_cases same : key = other
  · subst same
    rw [lookup_insert_self, found]
  · rw [lookup_insert_ne _ value same, lookup_erase_ne table same]

theorem toList_erase_insert (table : Std.TreeMap Key Value cmp) (key : Key)
    (value : Value) (fresh : table[key]? = none) :
    ((table.insert key value).erase key).toList = table.toList := by
  refine Std.TreeMap.Equiv.toList_eq
    (Std.TreeMap.Equiv.of_forall_constGet?_eq ?_)
  intro other
  by_cases same : key = other
  · subst same
    rw [lookup_erase_self, fresh]
  · rw [lookup_erase_ne _ same, lookup_insert_ne table value same]

section Rows

variable [BEq Key] [Std.LawfulBEqCmp cmp]

theorem toList_perm_erase (table : Std.TreeMap Key Value cmp) (key : Key)
    (value : Value) (found : table[key]? = some value) :
    table.toList.Perm ((key, value) :: (table.erase key).toList) := by
  have inserted := Std.TreeMap.toList_insert_perm (t := table.erase key)
    (k := key) (v := value)
  rw [toList_insert_erase table key value found] at inserted
  have others :
      (table.erase key).toList.filter
          (fun row => decide ¬(key == row.1) = true) =
        (table.erase key).toList := by
    rw [List.filter_eq_self]
    rintro ⟨other, content⟩ member
    have present := Std.TreeMap.mem_toList_iff_getElem?_eq_some.mp member
    have different : ¬(key == other) = true := by
      intro equal
      have compared : cmp key other = .eq :=
        Std.LawfulBEqCmp.compare_eq_iff_beq.mpr equal
      exact (lookup_of_erase present).1
        (Std.LawfulEqCmp.eq_of_compare compared)
    exact decide_eq_true different
  rw [others] at inserted
  exact inserted

theorem toList_perm_insert (table : Std.TreeMap Key Value cmp) (key : Key)
    (value : Value) (fresh : table[key]? = none) :
    (table.insert key value).toList.Perm ((key, value) :: table.toList) := by
  have rows := toList_perm_erase (table.insert key value) key value
    (lookup_insert_self table key value)
  rw [toList_erase_insert table key value fresh] at rows
  exact rows

end Rows

/-! ### Counting -/

def countWhere (holds : Value → Bool) (table : Std.TreeMap Key Value cmp) :
    Nat :=
  table.toList.countP fun row => holds row.2

section Counting

variable [BEq Key] [Std.LawfulBEqCmp cmp]

theorem countWhere_insert (holds : Value → Bool)
    (table : Std.TreeMap Key Value cmp) (key : Key) (value : Value)
    (fresh : table[key]? = none) :
    countWhere holds (table.insert key value) =
      countWhere holds table + if holds value then 1 else 0 := by
  unfold countWhere
  rw [(toList_perm_insert table key value fresh).countP_eq,
    List.countP_cons]

theorem countWhere_erase (holds : Value → Bool)
    (table : Std.TreeMap Key Value cmp) (key : Key) (value : Value)
    (found : table[key]? = some value) :
    countWhere holds table =
      countWhere holds (table.erase key) + if holds value then 1 else 0 := by
  unfold countWhere
  rw [(toList_perm_erase table key value found).countP_eq, List.countP_cons]

end Counting

end Table

namespace InFlight

variable {Item : Type u} (selects : Item → Bool) (items : List Item)
  (index : Nat) (item : Item)

theorem split_at (found : items[index]? = some item) :
    ∃ before after,
      items = before ++ item :: after ∧
        items.eraseIdx index = before ++ after := by
  obtain ⟨bound, atIndex⟩ := List.getElem?_eq_some_iff.mp found
  refine ⟨items.take index, items.drop (index + 1), ?_, ?_⟩
  · rw [← atIndex, ← List.drop_eq_getElem_cons bound,
      List.take_append_drop]
  · exact List.eraseIdx_eq_take_drop_succ items index

theorem perm_eraseIdx (found : items[index]? = some item) :
    (item :: items.eraseIdx index).Perm items := by
  obtain ⟨before, after, whole, rest⟩ := split_at items index item found
  rw [rest, whole]
  exact List.perm_middle.symm

theorem filter_eraseIdx_of_not (found : items[index]? = some item)
    (fails : selects item = false) :
    (items.eraseIdx index).filter selects = items.filter selects := by
  obtain ⟨before, after, whole, rest⟩ := split_at items index item found
  rw [rest, whole, List.filter_append, List.filter_append,
    List.filter_cons_of_neg (by simp [fails])]

theorem filter_eraseIdx_of_single (found : items[index]? = some item)
    (passes : selects item = true) (only : Item)
    (single : items.filter selects = [only]) :
    item = only ∧ (items.eraseIdx index).filter selects = [] := by
  obtain ⟨before, after, whole, rest⟩ := split_at items index item found
  rw [whole, List.filter_append, List.filter_cons_of_pos passes] at single
  rw [rest, List.filter_append]
  cases selected : before.filter selects with
  | nil =>
      rw [selected, List.nil_append] at single
      obtain ⟨same, nothing⟩ := List.cons.inj single
      exact ⟨same, nothing⟩
  | cons first others =>
      rw [selected, List.cons_append] at single
      have impossible := (List.cons.inj single).2
      simp at impossible

end InFlight

end OpenSmsc.Foundation
