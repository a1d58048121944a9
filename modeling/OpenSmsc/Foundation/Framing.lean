/-
Streams of frames that announce their own length.

A frame is a head of fixed size and a body; the head says how long the whole
frame is.  Cutting a stream stops at a head that is incomplete or announces
less than itself, and at an incomplete body.
-/

import Mathlib.Data.List.Basic

namespace OpenSmsc.Foundation

universe u

structure Layout (Item : Type u) where
  headSize : Nat
  positive : 0 < headSize
  /-- The length of the frame with this head. -/
  total : List Item → Nat

namespace Layout

variable {Item : Type u} (layout : Layout Item)

/-- The first frame of a stream, as head and body. -/
def first? (stream : List Item) : Option (List Item × List Item) :=
  let head := stream.take layout.headSize
  if stream.length < layout.headSize then none
  else if layout.total head < layout.headSize then none
  else if stream.length < layout.total head then none
  else
    some (head, (stream.drop layout.headSize).take
      (layout.total head - layout.headSize))

def cut : Nat → List Item → List (List Item × List Item)
  | 0, _ => []
  | count + 1, stream =>
      match layout.first? stream with
      | none => []
      | some (head, body) =>
          (head, body) :: cut count (stream.drop (head ++ body).length)

/-- All frames: no stream has more of them than items. -/
def frames (stream : List Item) : List (List Item × List Item) :=
  layout.cut stream.length stream

def IsFrame (head body : List Item) : Prop :=
  head.length = layout.headSize ∧
    layout.total head = layout.headSize + body.length

theorem first?_append (head body rest : List Item)
    (isFrame : layout.IsFrame head body) :
    layout.first? (head ++ (body ++ rest)) = some (head, body) := by
  obtain ⟨headLength, total⟩ := isFrame
  have takeHead : (head ++ (body ++ rest)).take layout.headSize = head := by
    rw [← headLength, List.take_left]
  have dropHead : (head ++ (body ++ rest)).drop layout.headSize =
      body ++ rest := by
    rw [← headLength, List.drop_left]
  unfold first?
  dsimp only
  rw [takeHead, dropHead, if_neg (by simp; omega), if_neg (by omega),
    if_neg (by simp; omega), total, Nat.add_sub_cancel_left, List.take_left]

theorem first?_incomplete (head tail : List Item)
    (headLength : head.length = layout.headSize)
    (short : layout.headSize + tail.length < layout.total head) :
    layout.first? (head ++ tail) = none := by
  have takeHead : (head ++ tail).take layout.headSize = head := by
    rw [← headLength, List.take_left]
  unfold first?
  dsimp only
  rw [takeHead, List.length_append, headLength, if_pos short]
  split
  · rfl
  · exact ite_self _

theorem first?_sound (stream head body : List Item)
    (found : layout.first? stream = some (head, body)) :
    layout.IsFrame head body ∧
      stream = head ++ (body ++ stream.drop (head ++ body).length) := by
  unfold first? at found
  dsimp only at found
  split at found
  · contradiction
  · split at found
    · contradiction
    · split at found
      · contradiction
      · obtain ⟨headEq, bodyEq⟩ := Prod.mk.inj (Option.some.inj found)
        have headLength : head.length = layout.headSize := by
          rw [← headEq, List.length_take]
          omega
        rw [headEq] at bodyEq
        have bodyLength :
            body.length = layout.total head - layout.headSize := by
          rw [← bodyEq, List.length_take, List.length_drop]
          rename_i longEnough _ complete
          rw [headEq] at complete
          omega
        refine ⟨⟨headLength, ?_⟩, ?_⟩
        · rename_i announced _
          rw [headEq] at announced
          omega
        · have whole := List.take_append_drop layout.headSize stream
          have tail := List.take_append_drop body.length
            (stream.drop layout.headSize)
          rw [headEq] at whole
          rw [bodyLength, bodyEq, List.drop_drop, ← bodyLength,
            ← headLength] at tail
          rw [List.length_append, tail]
          rw [← headLength] at whole
          exact whole.symm

theorem IsFrame.length_pos {head body : List Item}
    (isFrame : layout.IsFrame head body) : 0 < (head ++ body).length := by
  rw [List.length_append, isFrame.1]
  exact Nat.lt_of_lt_of_le layout.positive (Nat.le_add_right _ _)

theorem first?_nil : layout.first? ([] : List Item) = none :=
  if_pos layout.positive

theorem cut_nil (count : Nat) : layout.cut count [] = [] := by
  cases count with
  | zero => rfl
  | succ count => simp only [cut, first?_nil]

theorem first?_shortens (stream head body : List Item)
    (found : layout.first? stream = some (head, body)) :
    (stream.drop (head ++ body).length).length < stream.length := by
  obtain ⟨isFrame, whole⟩ := layout.first?_sound stream head body found
  have positive := isFrame.length_pos
  have bound := congrArg List.length whole
  rw [List.length_drop]
  simp only [List.length_append] at bound positive ⊢
  omega

theorem cut_stable (count other : Nat) (stream : List Item)
    (enough : stream.length ≤ count) (otherEnough : stream.length ≤ other) :
    layout.cut count stream = layout.cut other stream := by
  induction count generalizing other stream with
  | zero =>
      have empty : stream = [] := List.eq_nil_of_length_eq_zero (by omega)
      rw [empty, cut_nil, cut_nil]
  | succ count ih =>
      cases other with
      | zero =>
          have empty : stream = [] := List.eq_nil_of_length_eq_zero (by omega)
          rw [empty, cut_nil, cut_nil]
      | succ other =>
          cases found : layout.first? stream with
          | none => simp only [cut, found]
          | some parts =>
              obtain ⟨head, body⟩ := parts
              have shorter := layout.first?_shortens stream head body found
              simp only [cut, found]
              rw [ih other _ (by omega) (by omega)]

theorem frames_of_none (stream : List Item)
    (missing : layout.first? stream = none) : layout.frames stream = [] := by
  unfold frames
  cases stream.length <;> simp [cut, missing]

theorem frames_append (head body rest : List Item)
    (isFrame : layout.IsFrame head body) :
    layout.frames (head ++ (body ++ rest)) =
      (head, body) :: layout.frames rest := by
  have found := layout.first?_append head body rest isFrame
  unfold frames
  rw [layout.cut_stable _ ((head ++ (body ++ rest)).length + 1) _
    (Nat.le_refl _) (Nat.le_succ _)]
  simp only [cut, found]
  rw [← List.append_assoc, List.drop_left]
  refine congrArg _ (layout.cut_stable _ _ _ ?_ (Nat.le_refl _))
  simp only [List.length_append]
  omega

theorem frames_flatMap_append (frames : List (List Item × List Item))
    (areFrames : ∀ frame ∈ frames, layout.IsFrame frame.1 frame.2)
    (rest : List Item) :
    layout.frames
        ((frames.flatMap fun frame => frame.1 ++ frame.2) ++ rest) =
      frames ++ layout.frames rest := by
  induction frames with
  | nil => rfl
  | cons frame others ih =>
      rw [List.flatMap_cons, List.append_assoc, List.append_assoc,
        layout.frames_append _ _ _ (areFrames frame List.mem_cons_self),
        ih fun later member => areFrames later (List.mem_cons_of_mem _ member)]
      rfl

theorem frames_flatMap (frames : List (List Item × List Item))
    (areFrames : ∀ frame ∈ frames, layout.IsFrame frame.1 frame.2) :
    layout.frames (frames.flatMap fun frame => frame.1 ++ frame.2) =
      frames := by
  have found := layout.frames_flatMap_append frames areFrames []
  rw [layout.frames_of_none [] layout.first?_nil] at found
  simpa only [List.append_nil] using found

/-- The frames use up the front of the stream: nothing is skipped, nothing is
used twice, and every body has the announced length. -/
theorem frames_spec (stream : List Item) :
    (∀ frame ∈ layout.frames stream, layout.IsFrame frame.1 frame.2) ∧
      ∃ rest, stream =
          (layout.frames stream).flatMap (fun frame => frame.1 ++ frame.2) ++
            rest ∧
        layout.first? rest = none := by
  induction length : stream.length using Nat.strongRecOn
    generalizing stream with
  | ind count ih =>
      cases found : layout.first? stream with
      | none =>
          rw [layout.frames_of_none stream found]
          exact ⟨by simp, stream, rfl, found⟩
      | some parts =>
          obtain ⟨head, body⟩ := parts
          obtain ⟨isFrame, whole⟩ := layout.first?_sound stream head body found
          have shorter := layout.first?_shortens stream head body found
          rw [length] at shorter
          obtain ⟨inner, rest, innerEq, stops⟩ := ih _ shorter
            (stream.drop (head ++ body).length) rfl
          have unfolded := layout.frames_append head body
            (stream.drop (head ++ body).length) isFrame
          rw [← whole] at unfolded
          rw [unfolded]
          refine ⟨?_, rest, ?_, stops⟩
          · intro frame member
            rcases List.mem_cons.mp member with same | later
            · rw [same]
              exact isFrame
            · exact inner frame later
          · rw [List.flatMap_cons, List.append_assoc, ← innerEq,
              List.append_assoc]
            exact whole

theorem frames_mono {stream whole : List Item} (front : stream <+: whole) :
    layout.frames stream <+: layout.frames whole := by
  obtain ⟨more, rfl⟩ := front
  obtain ⟨areFrames, rest, isStream, _⟩ := layout.frames_spec stream
  have found := layout.frames_flatMap_append (layout.frames stream) areFrames
    (rest ++ more)
  rw [← List.append_assoc, ← isStream] at found
  exact ⟨_, found.symm⟩

end Layout

end OpenSmsc.Foundation
