/-
Two threads over a divided state.

The left thread runs programs of atomic sections over its own part of the
state.  The right thread looks once at what the left part shows and then runs
a program over its own part.  The sections of both interleave in any order.
If every left program changes what it shows in at most one of its sections,
the interleaving cannot be told from a run that makes each call at once.
-/

import OpenSmsc.Foundation.Machine

namespace OpenSmsc.Foundation

universe u v

/-! ### Programs -/

/-- Atomic sections, one after the other.  What follows a section may depend
on the state it found. -/
inductive Program (State : Type u) (Output : Type v) where
  | done
  | atomic (act : State → State × List Output)
      (next : State → Program State Output)

namespace Program

variable {State : Type u} {Output : Type v} {View : Type*}

def run : Program State Output → State → State × List Output
  | .done, state => (state, [])
  | .atomic act next, state => andThen (act state) (next state).run

def append : Program State Output → Program State Output →
    Program State Output
  | .done, second => second
  | .atomic act next, second =>
      .atomic act fun state => (next state).append second

def emit (output : State → Output) : Program State Output :=
  .atomic (fun state => (state, [output state])) fun _ => .done

def update (change : State → State) : Program State Output :=
  .atomic (fun state => (change state, [])) fun _ => .done

def look (next : State → Program State Output) : Program State Output :=
  .atomic (fun state => (state, [])) next

@[simp] theorem run_done (state : State) :
    (done : Program State Output).run state = (state, []) := rfl

@[simp] theorem run_emit (output : State → Output) (state : State) :
    (emit output).run state = (state, [output state]) := rfl

@[simp] theorem run_update (change : State → State) (state : State) :
    (update change : Program State Output).run state =
      (change state, []) := rfl

@[simp] theorem run_look (next : State → Program State Output)
    (state : State) : (look next).run state = (next state).run state := rfl

@[simp] theorem run_append (first second : Program State Output)
    (state : State) :
    (first.append second).run state =
      ((second.run (first.run state).1).1,
        (first.run state).2 ++ (second.run (first.run state).1).2) := by
  induction first generalizing state with
  | done => rfl
  | atomic act next ih =>
      simp only [append, run, andThen]
      rw [ih state (act state).1]
      simp only [List.append_assoc]

/-! ### What a program shows -/

section Views

variable (view : State → View)

/-- No section of the program changes the view. -/
def Quiet : Program State Output → State → Prop
  | .done, _ => True
  | .atomic act next, state =>
      view (act state).1 = view state ∧
        (next state).Quiet (act state).1

/-- At most one section of the program changes the view. -/
def ShowsOnce : Program State Output → State → Prop
  | .done, _ => True
  | .atomic act next, state =>
      (view (act state).1 = view state ∧
          (next state).ShowsOnce (act state).1) ∨
        (next state).Quiet view (act state).1

variable {view}

theorem Quiet.view_run {program : Program State Output} {state : State}
    (quiet : program.Quiet view state) :
    view (program.run state).1 = view state := by
  induction program generalizing state with
  | done => rfl
  | atomic act next ih =>
      obtain ⟨here, later⟩ := quiet
      exact (ih state later).trans here

theorem Quiet.showsOnce {program : Program State Output} {state : State}
    (quiet : program.Quiet view state) : program.ShowsOnce view state := by
  cases program with
  | done => exact True.intro
  | atomic act next => exact Or.inr quiet.2

theorem Quiet.append {first second : Program State Output} {state : State}
    (quiet : first.Quiet view state)
    (later : second.Quiet view (first.run state).1) :
    (first.append second).Quiet view state := by
  induction first generalizing state with
  | done => exact later
  | atomic act next ih =>
      obtain ⟨here, rest⟩ := quiet
      exact ⟨here, ih state rest later⟩

theorem Quiet.append_showsOnce {first second : Program State Output}
    {state : State} (quiet : first.Quiet view state)
    (later : second.ShowsOnce view (first.run state).1) :
    (first.append second).ShowsOnce view state := by
  induction first generalizing state with
  | done => exact later
  | atomic act next ih =>
      obtain ⟨here, rest⟩ := quiet
      exact Or.inl ⟨here, ih state rest later⟩

theorem ShowsOnce.append {first second : Program State Output}
    {state : State} (once : first.ShowsOnce view state)
    (later : second.Quiet view (first.run state).1) :
    (first.append second).ShowsOnce view state := by
  induction first generalizing state with
  | done => exact later.showsOnce
  | atomic act next ih =>
      rcases once with ⟨here, rest⟩ | rest
      · exact Or.inl ⟨here, ih state rest later⟩
      · exact Or.inr (rest.append later)

theorem quiet_emit (output : State → Output) (state : State) :
    (emit output).Quiet view state := ⟨rfl, True.intro⟩

theorem quiet_look {next : State → Program State Output} {state : State}
    (quiet : (next state).Quiet view state) :
    (look next).Quiet view state := ⟨rfl, quiet⟩

theorem showsOnce_look {next : State → Program State Output} {state : State}
    (once : (next state).ShowsOnce view state) :
    (look next).ShowsOnce view state := Or.inl ⟨rfl, once⟩

end Views

end Program

/-! ### Two threads -/

structure Threads (Left Right LeftOutput RightOutput : Type*) where
  left : Left
  right : Right
  leftCode : Program Left LeftOutput := .done
  rightCode : Program Right RightOutput := .done

/-- A call is begun when its thread is idle; `stepLeft` and `stepRight` run
one section of the call under way. -/
inductive ThreadMove (LeftCall RightCall : Type*) where
  | beginLeft (call : LeftCall)
  | stepLeft
  | beginRight (call : RightCall)
  | stepRight

namespace Threads

variable {Left Right LeftOutput RightOutput LeftCall RightCall View : Type*}
  (leftProgram : LeftCall → Program Left LeftOutput) (view : Left → View)
  (rightProgram : RightCall → View → Program Right RightOutput)

/-- The section of a right call that looks at the left part is its first. -/
def machine : Machine (Threads Left Right LeftOutput RightOutput)
    (ThreadMove LeftCall RightCall) (LeftOutput ⊕ RightOutput) where
  step t
    | .beginLeft call =>
        match t.leftCode with
        | .done => ({ t with leftCode := leftProgram call }, [])
        | .atomic _ _ => (t, [])
    | .stepLeft =>
        match t.leftCode with
        | .done => (t, [])
        | .atomic act next =>
            ({ t with left := (act t.left).1, leftCode := next t.left },
              (act t.left).2.map .inl)
    | .beginRight call =>
        match t.rightCode with
        | .done =>
            ({ t with rightCode := rightProgram call (view t.left) }, [])
        | .atomic _ _ => (t, [])
    | .stepRight =>
        match t.rightCode with
        | .done => (t, [])
        | .atomic act next =>
            ({ t with right := (act t.right).1, rightCode := next t.right },
              (act t.right).2.map .inr)

/-- The machine that makes every call at once. -/
def atomically : Machine (Left × Right) (LeftCall ⊕ RightCall)
    (LeftOutput ⊕ RightOutput) where
  step s
    | .inl call =>
        let result := (leftProgram call).run s.1
        ((result.1, s.2), result.2.map .inl)
    | .inr call =>
        let result := (rightProgram call (view s.1)).run s.2
        ((s.1, result.1), result.2.map .inr)

def lefts {First Second : Type*} (mixed : List (First ⊕ Second)) :
    List First :=
  mixed.filterMap Sum.getLeft?

def rights {First Second : Type*} (mixed : List (First ⊕ Second)) :
    List Second :=
  mixed.filterMap Sum.getRight?

def begun (past : List (Machine.Entry
      (Threads Left Right LeftOutput RightOutput)
      (ThreadMove LeftCall RightCall) (LeftOutput ⊕ RightOutput))) :
    List (LeftCall ⊕ RightCall) :=
  past.filterMap fun entry =>
    match entry.event, entry.before.leftCode, entry.before.rightCode with
    | .beginLeft call, .done, _ => some (.inl call)
    | .beginRight call, _, .done => some (.inr call)
    | _, _, _ => none

section Projections

variable {First Second : Type*}

@[simp] theorem lefts_append (first second : List (First ⊕ Second)) :
    lefts (first ++ second) = lefts first ++ lefts second :=
  List.filterMap_append

@[simp] theorem rights_append (first second : List (First ⊕ Second)) :
    rights (first ++ second) = rights first ++ rights second :=
  List.filterMap_append

@[simp] theorem lefts_map_inl (items : List First) :
    lefts (items.map (Sum.inl : First → First ⊕ Second)) = items := by
  induction items with
  | nil => rfl
  | cons item rest ih => exact congrArg (item :: ·) ih

@[simp] theorem lefts_map_inr (items : List Second) :
    lefts (items.map (Sum.inr : Second → First ⊕ Second)) = [] := by
  induction items with
  | nil => rfl
  | cons item rest ih => exact ih

@[simp] theorem rights_map_inl (items : List First) :
    rights (items.map (Sum.inl : First → First ⊕ Second)) = [] := by
  induction items with
  | nil => rfl
  | cons item rest ih => exact ih

@[simp] theorem rights_map_inr (items : List Second) :
    rights (items.map (Sum.inr : Second → First ⊕ Second)) = items := by
  induction items with
  | nil => rfl
  | cons item rest ih => exact congrArg (item :: ·) ih

@[simp] theorem lefts_inl (item : First) :
    lefts [(Sum.inl item : First ⊕ Second)] = [item] := rfl

@[simp] theorem lefts_inr (item : Second) :
    lefts [(Sum.inr item : First ⊕ Second)] = [] := rfl

@[simp] theorem rights_inl (item : First) :
    rights [(Sum.inl item : First ⊕ Second)] = [] := rfl

@[simp] theorem rights_inr (item : Second) :
    rights [(Sum.inr item : First ⊕ Second)] = [item] := rfl

end Projections

/-! ### Accounts of a run -/

/-- Where a run has come to, and what each thread was called with and put out
on the way. -/
@[ext] structure Account (Left Right LeftOutput RightOutput LeftCall
    RightCall : Type*) where
  left : Left
  right : Right
  leftOutputs : List LeftOutput
  rightOutputs : List RightOutput
  leftCalls : List LeftCall
  rightCalls : List RightCall

def account (t : Threads Left Right LeftOutput RightOutput)
    (past : List (Machine.Entry
      (Threads Left Right LeftOutput RightOutput)
      (ThreadMove LeftCall RightCall) (LeftOutput ⊕ RightOutput))) :
    Account Left Right LeftOutput RightOutput LeftCall RightCall :=
  { left := t.left
    right := t.right
    leftOutputs := lefts (past.flatMap (·.outputs))
    rightOutputs := rights (past.flatMap (·.outputs))
    leftCalls := lefts (begun past)
    rightCalls := rights (begun past) }

def atomicAccount (start : Left × Right)
    (calls : List (LeftCall ⊕ RightCall)) :
    Account Left Right LeftOutput RightOutput LeftCall RightCall :=
  let atomic := atomically leftProgram view rightProgram
  { left := (atomic.final start calls).1
    right := (atomic.final start calls).2
    leftOutputs := lefts (atomic.emitted start calls)
    rightOutputs := rights (atomic.emitted start calls)
    leftCalls := lefts calls
    rightCalls := rights calls }

theorem atomically_left (s : Left × Right) (call : LeftCall) :
    (atomically leftProgram view rightProgram).step s (.inl call) =
      ((((leftProgram call).run s.1).1, s.2),
        ((leftProgram call).run s.1).2.map .inl) := rfl

theorem atomically_right (s : Left × Right) (call : RightCall) :
    (atomically leftProgram view rightProgram).step s (.inr call) =
      ((s.1, ((rightProgram call (view s.1)).run s.2).1),
        ((rightProgram call (view s.1)).run s.2).2.map .inr) := rfl

theorem atomicAccount_left (start : Left × Right)
    (calls : List (LeftCall ⊕ RightCall)) (call : LeftCall) :
    atomicAccount leftProgram view rightProgram start
        (calls ++ [.inl call]) =
      let before := atomicAccount leftProgram view rightProgram start calls
      let result := (leftProgram call).run before.left
      { before with
        left := result.1
        leftOutputs := before.leftOutputs ++ result.2
        leftCalls := before.leftCalls ++ [call] } := by
  simp only [atomicAccount, Machine.final_concat, Machine.emitted_concat,
    atomically_left, lefts_append, rights_append, lefts_map_inl,
    rights_map_inl, lefts_inl, rights_inl, List.append_nil]

theorem atomicAccount_right (start : Left × Right)
    (calls : List (LeftCall ⊕ RightCall)) (call : RightCall) :
    atomicAccount leftProgram view rightProgram start
        (calls ++ [.inr call]) =
      let before := atomicAccount leftProgram view rightProgram start calls
      let result := (rightProgram call (view before.left)).run before.right
      { before with
        right := result.1
        rightOutputs := before.rightOutputs ++ result.2
        rightCalls := before.rightCalls ++ [call] } := by
  simp only [atomicAccount, Machine.final_concat, Machine.emitted_concat,
    atomically_right, lefts_append, rights_append, lefts_map_inr,
    rights_map_inr, lefts_inr, rights_inr, List.append_nil]

/-! ### One move -/

inductive Moved :
    Program Left LeftOutput → Program Right RightOutput →
    Account Left Right LeftOutput RightOutput LeftCall RightCall →
    Program Left LeftOutput → Program Right RightOutput →
    Account Left Right LeftOutput RightOutput LeftCall RightCall → Prop where
  | still (leftCode rightCode here) :
      Moved leftCode rightCode here leftCode rightCode here
  | beginLeft (rightCode here) (call : LeftCall) :
      Moved .done rightCode here (leftProgram call) rightCode
        { here with leftCalls := here.leftCalls ++ [call] }
  | stepLeft (act next rightCode here) :
      Moved (.atomic act next) rightCode here (next here.left) rightCode
        { here with
          left := (act here.left).1
          leftOutputs := here.leftOutputs ++ (act here.left).2 }
  | beginRight (leftCode here) (call : RightCall) :
      Moved leftCode .done here leftCode
        (rightProgram call (view here.left))
        { here with rightCalls := here.rightCalls ++ [call] }
  | stepRight (leftCode act next here) :
      Moved leftCode (.atomic act next) here leftCode (next here.right)
        { here with
          right := (act here.right).1
          rightOutputs := here.rightOutputs ++ (act here.right).2 }

variable {leftProgram view rightProgram} in
theorem Moved.of_eq {leftCode leftAfter : Program Left LeftOutput}
    {rightCode rightAfter : Program Right RightOutput}
    {here after same : Account Left Right LeftOutput RightOutput LeftCall
      RightCall}
    (moved : Moved leftProgram view rightProgram leftCode rightCode here
      leftAfter rightAfter after) (equal : same = after) :
    Moved leftProgram view rightProgram leftCode rightCode here leftAfter
      rightAfter same := by
  rw [equal]
  exact moved

theorem step_moved (t : Threads Left Right LeftOutput RightOutput)
    (past : List (Machine.Entry
      (Threads Left Right LeftOutput RightOutput)
      (ThreadMove LeftCall RightCall) (LeftOutput ⊕ RightOutput)))
    (move : ThreadMove LeftCall RightCall) :
    Moved leftProgram view rightProgram t.leftCode t.rightCode
      (account t past)
      ((machine leftProgram view rightProgram).step t move).1.leftCode
      ((machine leftProgram view rightProgram).step t move).1.rightCode
      (account ((machine leftProgram view rightProgram).step t move).1
        (past ++ [(machine leftProgram view rightProgram).entry t move])) := by
  obtain ⟨left, right, leftCode, rightCode⟩ := t
  -- a move of a thread that is not ready for it changes nothing
  cases move with
  | beginLeft call =>
      cases leftCode with
      | done =>
          refine Moved.of_eq (.beginLeft rightCode _ call) ?_
          simp [account, begun, Machine.entry, machine]
      | atomic act next =>
          refine Moved.of_eq (.still _ rightCode _) ?_
          simp [account, begun, Machine.entry, machine]
  | stepLeft =>
      cases leftCode with
      | done =>
          refine Moved.of_eq (.still _ rightCode _) ?_
          simp [account, begun, Machine.entry, machine]
      | atomic act next =>
          refine Moved.of_eq (.stepLeft act next rightCode _) ?_
          simp [account, begun, Machine.entry, machine]
  | beginRight call =>
      cases rightCode with
      | done =>
          refine Moved.of_eq (.beginRight leftCode _ call) ?_
          simp [account, begun, Machine.entry, machine]
      | atomic act next =>
          refine Moved.of_eq (.still leftCode _ _) ?_
          simp [account, begun, Machine.entry, machine]
  | stepRight =>
      cases rightCode with
      | done =>
          refine Moved.of_eq (.still leftCode _ _) ?_
          simp [account, begun, Machine.entry, machine]
      | atomic act next =>
          refine Moved.of_eq (.stepRight leftCode act next _) ?_
          simp [account, begun, Machine.entry, machine]

/-! ### Interleavings are atomic runs -/

section Atomic

variable {leftProgram view rightProgram}
  {leftCode : Program Left LeftOutput}
  {rightCode : Program Right RightOutput}
  {here atomic : Account Left Right LeftOutput RightOutput LeftCall
    RightCall}

/-- The right thread of an interleaving against an atomic run, which has made
the right call under way already. -/
structure RightAgrees (rightCode : Program Right RightOutput)
    (here atomic : Account Left Right LeftOutput RightOutput LeftCall
      RightCall) : Prop where
  state : atomic.right = (rightCode.run here.right).1
  outputs : atomic.rightOutputs =
    here.rightOutputs ++ (rightCode.run here.right).2
  calls : atomic.rightCalls = here.rightCalls

/-- The atomic run has made the left call under way already. -/
structure Made (leftCode : Program Left LeftOutput)
    (here atomic : Account Left Right LeftOutput RightOutput LeftCall
      RightCall) : Prop where
  state : atomic.left = (leftCode.run here.left).1
  outputs : atomic.leftOutputs =
    here.leftOutputs ++ (leftCode.run here.left).2
  calls : atomic.leftCalls = here.leftCalls

variable (leftProgram) in
/-- The atomic run has still to make the left call under way. -/
structure Due (leftCode : Program Left LeftOutput)
    (here atomic : Account Left Right LeftOutput RightOutput LeftCall
      RightCall) (call : LeftCall) : Prop where
  state : ((leftProgram call).run atomic.left).1 =
    (leftCode.run here.left).1
  outputs : atomic.leftOutputs ++ ((leftProgram call).run atomic.left).2 =
    here.leftOutputs ++ (leftCode.run here.left).2
  calls : atomic.leftCalls ++ [call] = here.leftCalls

variable (leftProgram view) in
/-- A left call is made in the atomic run when it changes what it shows, or
at its end if it never does. -/
inductive LeftAgrees (leftCode : Program Left LeftOutput)
    (here atomic : Account Left Right LeftOutput RightOutput LeftCall
      RightCall) : Prop where
  | committed (quiet : leftCode.Quiet view here.left)
      (made : Made leftCode here atomic)
  | pending (call : LeftCall) (once : leftCode.ShowsOnce view here.left)
      (shown : view atomic.left = view here.left)
      (due : Due leftProgram leftCode here atomic call)

theorem LeftAgrees.shown
    (agrees : LeftAgrees leftProgram view leftCode here atomic) :
    view atomic.left = view here.left := by
  cases agrees with
  | committed quiet made =>
      rw [made.state]
      exact quiet.view_run
  | pending call once shown due => exact shown

variable (leftProgram view rightProgram) in
/-- Some atomic run accounts for the interleaving so far. -/
def Linearised (start : Left × Right) (leftCode : Program Left LeftOutput)
    (rightCode : Program Right RightOutput)
    (here : Account Left Right LeftOutput RightOutput LeftCall RightCall) :
    Prop :=
  ∃ calls,
    LeftAgrees leftProgram view leftCode here
        (atomicAccount leftProgram view rightProgram start calls) ∧
      RightAgrees rightCode here
        (atomicAccount leftProgram view rightProgram start calls)

theorem Due.make {start : Left × Right}
    {calls : List (LeftCall ⊕ RightCall)} {call : LeftCall}
    (due : Due leftProgram leftCode here
      (atomicAccount leftProgram view rightProgram start calls) call)
    (right : RightAgrees rightCode here
      (atomicAccount leftProgram view rightProgram start calls)) :
    Made leftCode here (atomicAccount leftProgram view rightProgram start
        (calls ++ [.inl call])) ∧
      RightAgrees rightCode here
        (atomicAccount leftProgram view rightProgram start
          (calls ++ [.inl call])) := by
  rw [atomicAccount_left]
  exact ⟨⟨due.state, due.outputs, due.calls⟩,
    ⟨right.state, right.outputs, right.calls⟩⟩

theorem Linearised.made {start : Left × Right}
    (linear : Linearised leftProgram view rightProgram start leftCode
      rightCode here) :
    ∃ calls,
      Made leftCode here
          (atomicAccount leftProgram view rightProgram start calls) ∧
        RightAgrees rightCode here
          (atomicAccount leftProgram view rightProgram start calls) := by
  obtain ⟨calls, left, right⟩ := linear
  cases left with
  | committed quiet made => exact ⟨calls, made, right⟩
  | pending call once shown due =>
      exact ⟨calls ++ [.inl call], due.make right⟩

theorem Linearised.beginLeft {start : Left × Right}
    (showsOnce : ∀ call left, (leftProgram call).ShowsOnce view left)
    (call : LeftCall)
    (linear : Linearised leftProgram view rightProgram start .done rightCode
      here) :
    Linearised leftProgram view rightProgram start (leftProgram call)
      rightCode { here with leftCalls := here.leftCalls ++ [call] } := by
  obtain ⟨calls, made, right⟩ := linear.made
  have same : (atomicAccount leftProgram view rightProgram start
      calls).left = here.left := made.state
  have sameOutputs : (atomicAccount leftProgram view rightProgram start
      calls).leftOutputs = here.leftOutputs := by
    rw [made.outputs]
    exact List.append_nil _
  refine ⟨calls, .pending call (showsOnce call _) (congrArg view same) ?_,
    ⟨right.state, right.outputs, right.calls⟩⟩
  refine ⟨?_, ?_, ?_⟩
  · rw [same]
  · rw [same, sameOutputs]
  · rw [made.calls]

theorem Linearised.stepLeft {start : Left × Right}
    {act : Left → Left × List LeftOutput}
    {next : Left → Program Left LeftOutput}
    (linear : Linearised leftProgram view rightProgram start
      (.atomic act next) rightCode here) :
    Linearised leftProgram view rightProgram start (next here.left)
      rightCode
      { here with
        left := (act here.left).1
        leftOutputs := here.leftOutputs ++ (act here.left).2 } := by
  obtain ⟨calls, left, right⟩ := linear
  have rightKept : RightAgrees rightCode
      { here with
        left := (act here.left).1
        leftOutputs := here.leftOutputs ++ (act here.left).2 }
      (atomicAccount leftProgram view rightProgram start calls) :=
    ⟨right.state, right.outputs, right.calls⟩
  cases left with
  | committed quiet made =>
      refine ⟨calls, .committed quiet.2 ⟨made.state, ?_, made.calls⟩,
        rightKept⟩
      rw [made.outputs]
      exact (List.append_assoc _ _ _).symm
  | pending call once shown due =>
      have dueNext : Due leftProgram (next here.left)
          { here with
            left := (act here.left).1
            leftOutputs := here.leftOutputs ++ (act here.left).2 }
          (atomicAccount leftProgram view rightProgram start calls)
          call := by
        refine ⟨due.state, ?_, due.calls⟩
        rw [due.outputs]
        exact (List.append_assoc _ _ _).symm
      rcases once with ⟨unchanged, once⟩ | quiet
      · exact ⟨calls,
          .pending call once (shown.trans unchanged.symm) dueNext,
          rightKept⟩
      · -- this section may have changed the view, so the call is made here
        obtain ⟨made, rightMade⟩ := dueNext.make rightKept
        exact ⟨calls ++ [.inl call], .committed quiet made, rightMade⟩

theorem Linearised.beginRight {start : Left × Right} (call : RightCall)
    (linear : Linearised leftProgram view rightProgram start leftCode .done
      here) :
    Linearised leftProgram view rightProgram start leftCode
      (rightProgram call (view here.left))
      { here with rightCalls := here.rightCalls ++ [call] } := by
  obtain ⟨calls, left, right⟩ := linear
  have shown := left.shown
  have same : (atomicAccount leftProgram view rightProgram start
      calls).right = here.right := right.state
  have sameOutputs : (atomicAccount leftProgram view rightProgram start
      calls).rightOutputs = here.rightOutputs := by
    rw [right.outputs]
    exact List.append_nil _
  refine ⟨calls ++ [.inr call], ?_, ?_⟩
  · rw [atomicAccount_right]
    cases left with
    | committed quiet made =>
        exact .committed quiet ⟨made.state, made.outputs, made.calls⟩
    | pending leftCall once shown due =>
        exact .pending leftCall once shown
          ⟨due.state, due.outputs, due.calls⟩
  · rw [atomicAccount_right]
    refine ⟨?_, ?_, ?_⟩
    · simp only [shown, same]
    · simp only [shown, same, sameOutputs]
    · simp only [right.calls]

theorem Linearised.stepRight {start : Left × Right}
    {act : Right → Right × List RightOutput}
    {next : Right → Program Right RightOutput}
    (linear : Linearised leftProgram view rightProgram start leftCode
      (.atomic act next) here) :
    Linearised leftProgram view rightProgram start leftCode
      (next here.right)
      { here with
        right := (act here.right).1
        rightOutputs := here.rightOutputs ++ (act here.right).2 } := by
  obtain ⟨calls, left, right⟩ := linear
  refine ⟨calls, ?_, ⟨right.state, ?_, right.calls⟩⟩
  · cases left with
    | committed quiet made =>
        exact .committed quiet ⟨made.state, made.outputs, made.calls⟩
    | pending call once shown due =>
        exact .pending call once shown ⟨due.state, due.outputs, due.calls⟩
  · rw [right.outputs]
    exact (List.append_assoc _ _ _).symm

theorem Linearised.moved {start : Left × Right}
    {leftAfter : Program Left LeftOutput}
    {rightAfter : Program Right RightOutput}
    {after : Account Left Right LeftOutput RightOutput LeftCall RightCall}
    (showsOnce : ∀ call left, (leftProgram call).ShowsOnce view left)
    (linear : Linearised leftProgram view rightProgram start leftCode
      rightCode here)
    (moved : Moved leftProgram view rightProgram leftCode rightCode here
      leftAfter rightAfter after) :
    Linearised leftProgram view rightProgram start leftAfter rightAfter
      after := by
  cases moved with
  | still => exact linear
  | beginLeft _ _ call => exact linear.beginLeft showsOnce call
  | stepLeft => exact linear.stepLeft
  | beginRight _ _ call => exact linear.beginRight call
  | stepRight => exact linear.stepRight

end Atomic

def idle (start : Left × Right) :
    Threads Left Right LeftOutput RightOutput :=
  { left := start.1, right := start.2 }

theorem linearised
    (showsOnce : ∀ call left, (leftProgram call).ShowsOnce view left)
    (start : Left × Right) (moves : List (ThreadMove LeftCall RightCall)) :
    let threads := machine leftProgram view rightProgram
    Linearised leftProgram view rightProgram start
      (threads.final (idle start) moves).leftCode
      (threads.final (idle start) moves).rightCode
      (account (threads.final (idle start) moves)
        (threads.history (idle start) moves)) := by
  intro threads
  refine threads.history_rule
    (fun t past => Linearised leftProgram view rightProgram start t.leftCode
      t.rightCode (account t past)) (idle start) ?_ ?_ moves
  · exact ⟨[], .committed True.intro ⟨rfl, rfl, rfl⟩, ⟨rfl, rfl, rfl⟩⟩
  · intro t past move linear
    have moved := step_moved leftProgram view rightProgram t past move
    exact linear.moved showsOnce moved

/-- The calls begun so far could have been made one at a time: some order of
them, each thread's own order kept, leads to the state that is reached when
both threads finish what they have begun, and makes each thread put out the
same. -/
theorem serialisable
    (showsOnce : ∀ call left, (leftProgram call).ShowsOnce view left)
    (start : Left × Right) (moves : List (ThreadMove LeftCall RightCall)) :
    let threads := machine leftProgram view rightProgram
    let t := threads.final (idle start) moves
    let here := account t (threads.history (idle start) moves)
    ∃ calls,
      Made t.leftCode here
          (atomicAccount leftProgram view rightProgram start calls) ∧
        RightAgrees t.rightCode here
          (atomicAccount leftProgram view rightProgram start calls) :=
  (linearised leftProgram view rightProgram showsOnce start moves).made

end Threads

end OpenSmsc.Foundation
