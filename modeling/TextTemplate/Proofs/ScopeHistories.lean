import Mathlib.Tactic.Common
import TextTemplate.Scope

/-!
The life of a scope. Frames are pushed and popped in any order, and a computation within a
frame may do so too and leave frames behind or remove more than it has pushed. How far a
sequence of operations rises above the frame that is on top at its start can be read off the
operations. As long as no pop removes that frame, all frames below it stay what they were, and
going back to their number brings the scope back that they make up.
-/
namespace TextTemplate

namespace Scope

/-- What can be done to a scope. The body of the last one runs within the given frame. -/
inductive Operation where
  | insert (name : String) (value : Value)
  | push
  | pushFrame (frame : Frame)
  | pop
  | within (frame : Frame) (body : List Operation)

namespace Operation

/-- Induction on operations, with the operations of the body at once. -/
@[elab_as_elim, induction_eliminator]
theorem induct {motive : Operation → Prop} (insert : ∀ name value, motive (.insert name value))
    (push : motive .push) (pushFrame : ∀ frame, motive (.pushFrame frame)) (pop : motive .pop)
    (within : ∀ frame body, (∀ op ∈ body, motive op) → motive (.within frame body))
    (op : Operation) : motive op :=
  @Operation.rec motive (fun ops => ∀ op ∈ ops, motive op) insert push pushFrame pop within
    (List.forall_mem_nil _) (fun _ _ hhead htail => List.forall_mem_cons.2 ⟨hhead, htail⟩) op

mutual

def run : Operation → Scope → Scope
  | .insert name value, scope => scope.insert name value
  | .push, scope => scope.push []
  | .pushFrame frame, scope => scope.push frame
  | .pop, scope => scope.pop.2
  | .within frame body, scope => (scope.within frame fun inner => ((), runAll body inner)).2

def runAll : List Operation → Scope → Scope
  | [], scope => scope
  | op :: ops, scope => runAll ops (run op scope)

end

mutual

/-- The number of frames above a certain one after an operation, from that number before it.
There is none if a pop removes the frame itself. -/
def level? : Operation → Nat → Option Nat
  | .insert _ _, level => some level
  | .push, level => some (level + 1)
  | .pushFrame _, level => some (level + 1)
  | .pop, 0 => none
  | .pop, level + 1 => some level
  | .within _ body, level => (levelAll? body (level + 1)).map (min level)

def levelAll? : List Operation → Nat → Option Nat
  | [], level => some level
  | op :: ops, level => (level? op level).bind (levelAll? ops)

end

/-- No pop removes the frame that is on top at the start. -/
def KeepTop (ops : List Operation) : Prop := levelAll? ops 0 ≠ none

def WellNested (ops : List Operation) : Prop := levelAll? ops 0 = some 0

instance (ops : List Operation) : Decidable (KeepTop ops) :=
  inferInstanceAs (Decidable (_ ≠ _))

instance (ops : List Operation) : Decidable (WellNested ops) :=
  inferInstanceAs (Decidable (_ = _))

end Operation

theorem lookup_insert (scope : Scope) (name other : String) (value : Value) :
    (scope.insert name value).lookup other =
      if name = other then some value else scope.lookup other := by
  unfold insert
  split
  · rename_i h
    simp only [lookup, h, List.findSome?_nil, Entries.get?_set]
  · rename_i frame rest h
    simp only [lookup, h, List.findSome?_cons, Entries.get?_set]
    by_cases hname : name = other
    · rw [if_pos hname, if_pos hname]
    · rw [if_neg hname, if_neg hname]

theorem pop_of_depth_eq_one {scope : Scope} (h : scope.depth = 1) : scope.pop = (none, scope) := by
  have hpushed : scope.pushed = [] := by
    rw [depth, scope.height_eq] at h
    exact List.length_eq_zero_iff.1 (by omega)
  unfold pop
  split
  · rfl
  · rename_i frame rest hcons
    rw [hpushed] at hcons
    simp at hcons

/-- A scope with a frame on top is a lower scope with that frame pushed. -/
theorem exists_eq_push {scope : Scope} {frame : Frame} {rest : List Frame}
    (h : scope.pushed = frame :: rest) :
    ∃ lower : Scope, scope = lower.push frame ∧ lower.pushed = rest :=
  ⟨{ scope with pushed := rest, height := rest.length, height_eq := rfl },
    eq_of_pushed h rfl rfl rfl, rfl⟩

/-- The scope has one frame and `level` more above all the frames of another. -/
structure RisesAbove (base : Scope) (level : Nat) (scope : Scope) : Prop where
  pushed : ∃ left : List Frame, left.length = level + 1 ∧ scope.pushed = left ++ base.pushed
  root : scope.root = base.root
  autoescape : scope.autoescape = base.autoescape
  strict : scope.strict = base.strict

namespace RisesAbove

variable {base scope : Scope} {level : Nat}

theorem start (base : Scope) (frame : Frame) : RisesAbove base 0 (base.push frame) :=
  ⟨⟨[frame], rfl, rfl⟩, rfl, rfl, rfl⟩

theorem insert (h : RisesAbove base level scope) (name : String) (value : Value) :
    RisesAbove base level (scope.insert name value) := by
  obtain ⟨⟨left, hlength, hpushed⟩, hroot, hautoescape, hstrict⟩ := h
  obtain ⟨top, left, rfl⟩ := List.exists_cons_of_length_eq_add_one hlength
  rw [List.cons_append] at hpushed
  obtain ⟨lower, rfl, hlower⟩ := exists_eq_push hpushed
  exact ⟨⟨Entries.set top name value :: left, hlength, congrArg (_ :: ·) hlower⟩, hroot,
    hautoescape, hstrict⟩

theorem push (h : RisesAbove base level scope) (frame : Frame) :
    RisesAbove base (level + 1) (scope.push frame) := by
  obtain ⟨⟨left, hlength, hpushed⟩, hroot, hautoescape, hstrict⟩ := h
  refine ⟨⟨frame :: left, ?_, ?_⟩, hroot, hautoescape, hstrict⟩
  · rw [List.length_cons, hlength]
  · rw [List.cons_append, ← hpushed]
    rfl

theorem pop (h : RisesAbove base (level + 1) scope) : RisesAbove base level scope.pop.2 := by
  obtain ⟨⟨left, hlength, hpushed⟩, hroot, hautoescape, hstrict⟩ := h
  obtain ⟨top, left, rfl⟩ := List.exists_cons_of_length_eq_add_one hlength
  rw [List.cons_append] at hpushed
  obtain ⟨lower, rfl, hlower⟩ := exists_eq_push hpushed
  exact ⟨⟨left, Nat.succ.inj hlength, hlower⟩, hroot, hautoescape, hstrict⟩

/-- Going back to the depth of a scope that rises less far leaves as many frames as that one
has, unless there are fewer. -/
theorem truncate {after : Scope} {level' : Nat} (h : RisesAbove base level scope)
    (hafter : RisesAbove base level' after) :
    RisesAbove base (min level level') (after.truncate scope.depth) := by
  obtain ⟨⟨left, hlength, hpushed⟩, _, _, _⟩ := h
  obtain ⟨⟨left', hlength', hpushed'⟩, hroot, hautoescape, hstrict⟩ := hafter
  have hdrop : after.depth - scope.depth = level' - level := by
    rw [depth, depth, after.height_eq, scope.height_eq, hpushed, hpushed', List.length_append,
      List.length_append]
    omega
  have hle : level' - level ≤ left'.length := by omega
  refine ⟨⟨left'.drop (level' - level), ?_, ?_⟩, hroot, hautoescape, hstrict⟩
  · rw [List.length_drop]
    omega
  · change after.pushed.drop (after.depth - scope.depth) = _
    rw [hdrop, hpushed', List.drop_append_of_le_length hle]

/-- Without the last of the frames above, the scope below is there again. -/
theorem pop_eq (h : RisesAbove base 0 scope) : scope.pop.2 = base := by
  obtain ⟨⟨left, hlength, hpushed⟩, hroot, hautoescape, hstrict⟩ := h
  obtain ⟨top, rfl⟩ := List.length_eq_one_iff.1 hlength
  rw [List.singleton_append] at hpushed
  obtain ⟨lower, rfl, hlower⟩ := exists_eq_push hpushed
  exact eq_of_pushed hlower hroot hautoescape hstrict

theorem truncate_eq (h : RisesAbove base level scope) : scope.truncate base.depth = base := by
  obtain ⟨⟨left, _, hpushed⟩, hroot, hautoescape, hstrict⟩ := h
  exact truncate_depth hpushed hroot hautoescape hstrict

theorem runAll_of_forall {ops : List Operation} (hops : ∀ op ∈ ops, ∀ {scope level level'},
      RisesAbove base level scope → op.level? level = some level' →
        RisesAbove base level' (op.run scope))
    {level' : Nat} (h : RisesAbove base level scope)
    (hlevel : Operation.levelAll? ops level = some level') :
    RisesAbove base level' (Operation.runAll ops scope) := by
  induction ops generalizing scope level with
  | nil =>
    obtain rfl := Option.some.inj hlevel
    exact h
  | cons op ops ih =>
    obtain ⟨hop, hrest⟩ := List.forall_mem_cons.1 hops
    obtain ⟨next, hnext, hlater⟩ := Option.bind_eq_some_iff.1 hlevel
    exact ih hrest (hop h hnext) hlater

/-- An operation that does not reach down to a scope leaves it alone. -/
theorem run (op : Operation) {level' : Nat} (h : RisesAbove base level scope)
    (hlevel : op.level? level = some level') : RisesAbove base level' (op.run scope) := by
  induction op generalizing scope level level' with
  | insert name value =>
    obtain rfl := Option.some.inj hlevel
    exact h.insert name value
  | push =>
    obtain rfl := Option.some.inj hlevel
    exact h.push []
  | pushFrame frame =>
    obtain rfl := Option.some.inj hlevel
    exact h.push frame
  | pop =>
    cases level with
    | zero => simp [Operation.level?] at hlevel
    | succ level =>
      obtain rfl := Option.some.inj hlevel
      exact h.pop
  | within frame body ih =>
    obtain ⟨inner, hinner, rfl⟩ := Option.map_eq_some_iff.1 hlevel
    exact h.truncate (runAll_of_forall ih (h.push frame) hinner)

theorem runAll {ops : List Operation} {level' : Nat} (h : RisesAbove base level scope)
    (hlevel : Operation.levelAll? ops level = some level') :
    RisesAbove base level' (Operation.runAll ops scope) :=
  runAll_of_forall (fun op _ _ _ _ hrises => run op hrises) h hlevel

end RisesAbove

namespace Operation

theorem runAll_append (first second : List Operation) (scope : Scope) :
    runAll (first ++ second) scope = runAll second (runAll first scope) := by
  induction first generalizing scope with
  | nil => rfl
  | cons op first ih => exact ih (op.run scope)

/-- Between a push and its pop, the frames below stay what they were. -/
theorem runAll_between (scope : Scope) (frame : Frame) {inner : List Operation}
    (h : WellNested inner) : runAll (.pushFrame frame :: inner ++ [.pop]) scope = scope := by
  rw [List.cons_append, runAll, runAll_append]
  exact ((RisesAbove.start scope frame).runAll h).pop_eq

/-- Frames that a body leaves behind are gone after it, together with its own. -/
theorem run_within (scope : Scope) (frame : Frame) {body : List Operation} (h : KeepTop body) :
    (within frame body).run scope = scope := by
  obtain ⟨level, hlevel⟩ := Option.ne_none_iff_exists'.1 h
  exact ((RisesAbove.start scope frame).runAll hlevel).truncate_eq

/-- After any operations on a scope a frame is left, so that what is inserted is found, and the
last frame cannot be removed. What is well nested between a push and its pop leaves the scope as
it was, and so does a computation within a frame that removes no more than it has pushed. -/
theorem runAll_keeps (start : Scope) (ops : List Operation) :
    let scope := runAll ops start
    scope.frames ≠ [] ∧ scope.depth = scope.frames.length ∧
      (∀ name value other, (run (.insert name value) scope).lookup other =
        if name = other then some value else scope.lookup other) ∧
      (scope.depth = 1 → scope.pop = (none, scope)) ∧
      (∀ frame inner, WellNested inner →
        runAll (.pushFrame frame :: inner ++ [.pop]) scope = scope) ∧
      ∀ frame body, KeepTop body → run (.within frame body) scope = scope := by
  intro scope
  have hframes : scope.frames ≠ [] := List.append_ne_nil_of_right_ne_nil _ (List.cons_ne_nil _ _)
  have hdepth : scope.depth = scope.frames.length := by
    rw [depth, frames, scope.height_eq, List.length_append, List.length_singleton]
  refine ⟨hframes, hdepth, ?_, pop_of_depth_eq_one, ?_, ?_⟩
  · intro name value other
    exact lookup_insert scope name other value
  · intro frame inner hinner
    exact runAll_between scope frame hinner
  · intro frame body hbody
    exact run_within scope frame hbody

/-- The body leaves two frames behind, and a computation within it removes its own frame and one
more. -/
theorem runAll_keeps_leaking :
    let body : List Operation :=
      [.insert "x" (.int 2), .push, .within [] [.pop, .pop, .push], .pushFrame [], .push]
    let scope := runAll [.pop, .insert "x" (.int 1)] {}
    KeepTop body ∧ run (.within [] body) scope = scope ∧ WellNested (body ++ [.pop, .pop, .pop]) ∧
      runAll (.pushFrame [] :: (body ++ [.pop, .pop, .pop]) ++ [.pop]) scope = scope ∧
      scope.depth = 1 ∧ scope.pop = (none, scope) ∧ scope.lookup "x" = some (.int 1) := by
  intro body scope
  obtain ⟨_, _, _, hpop, hbetween, hwithin⟩ :=
    runAll_keeps {} [.pop, .insert "x" (.int 1)]
  have hkeep : KeepTop body := by decide
  have hnested : WellNested (body ++ [.pop, .pop, .pop]) := by decide
  exact ⟨hkeep, hwithin [] body hkeep, hnested, hbetween [] _ hnested, rfl, hpop rfl, rfl⟩

end Operation

end Scope

end TextTemplate
