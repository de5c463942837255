import TextTemplate.Proofs.Nodes
import TextTemplate.Proofs.ReadingSteps

/-!
What each step of rendering does. A choice comes down to the body that it renders, and a
loop to the items that it goes through; both are told by the scope at its start.
-/
namespace TextTemplate

namespace Attempt

variable {σ α β : Type}

/-- A sequence ends where its second part ends, or where its first part fails. -/
theorem bind_run_cases (m : Attempt σ α) (f : α → Attempt σ β) (s : σ) :
    (∃ a s', m s = (.ok a, s') ∧ (m >>= f) s = f a s') ∨
      ∃ e s', m s = (.error e, s') ∧ (m >>= f) s = (.error e, s') := by
  rcases hm : m s with ⟨outcome, s'⟩
  cases outcome with
  | ok a => exact Or.inl ⟨a, s', rfl, bind_of_ok hm⟩
  | error e => exact Or.inr ⟨e, s', rfl, bind_of_error hm⟩

theorem bind_assoc {γ : Type} (m : Attempt σ α) (f : α → Attempt σ β)
    (g : β → Attempt σ γ) : (m >>= f) >>= g = m >>= fun a => f a >>= g := by
  funext s
  rcases hm : m s with ⟨outcome, s'⟩
  cases outcome with
  | ok a =>
    have hboth : (m >>= f) s = f a s' := bind_of_ok hm
    have hright : (m >>= fun a => f a >>= g) s = (f a >>= g) s' := bind_of_ok hm
    rw [hright]
    change Attempt.bind _ g s = Attempt.bind _ g s'
    rw [Attempt.bind, Attempt.bind, hboth]
  | error e =>
    have hboth : (m >>= f) s = (.error e, s') := bind_of_error hm
    rw [bind_of_error hboth, bind_of_error hm]

end Attempt

namespace Render

/-- Reading from the scope leaves the state alone and fails where the reading does. -/
theorem ofScope_bind_run {α β : Type} (f : Scope → Except Error α) (g : α → Render β)
    (s : RenderState) :
    (ofScope f >>= g) s =
      match f s.scope with
      | .error e => (.error e, s)
      | .ok a => g a s := by
  cases hf : f s.scope with
  | error e => exact Attempt.bind_of_error (by rw [ofScope, hf])
  | ok a => exact Attempt.bind_of_ok (by rw [ofScope, hf])

/-- Going back from a frame that was just pushed. -/
theorem truncate_push (scope : Scope) (frame : Frame) :
    (scope.push frame).truncate scope.depth = scope := by
  have hpushed : (scope.push frame).pushed = [frame] ++ scope.pushed := rfl
  exact Scope.truncate_depth hpushed rfl rfl rfl

/-- A computation that hands back the scope it runs in, within a frame, leaves the scope at the
start: the frame is the only one above it. -/
theorem scope_within {α : Type} {m : Render α} {frame : Frame} {s : RenderState}
    (h : (m { s with scope := s.scope.push frame }).2.scope = s.scope.push frame) :
    (within frame m s).2.scope = s.scope := by
  change Scope.truncate _ s.scope.depth = s.scope
  rw [h, truncate_push]

/-- What such a computation does within the frame. -/
theorem within_run {α : Type} {m : Render α} {frame : Frame} {s : RenderState}
    {outcome : Except Error α} {output : Output}
    (h : m { s with scope := s.scope.push frame } = (outcome, ⟨s.scope.push frame, output⟩)) :
    within frame m s = (outcome, ⟨s.scope, output⟩) := by
  rw [within]
  dsimp only
  rw [h, truncate_push]

end Render

namespace Node

def chosen (scope : Scope) :
    List (Condition × List Node) → Option (List Node) → Except Error (Option (List Node))
  | [], otherwise => .ok otherwise
  | (condition, body) :: rest, otherwise =>
    match condition.holds scope with
    | .error e => .error e
    | .ok true => .ok (some body)
    | .ok false => chosen scope rest otherwise

def orderedItems (targets : List String) (reversed : Bool) (v : Value) : List Value :=
  if reversed then (loopItems targets v).reverse else loopItems targets v

theorem chosen_mem {scope : Scope} {branches : List (Condition × List Node)}
    {otherwise : Option (List Node)} {body : List Node}
    (h : chosen scope branches otherwise = .ok (some body)) :
    (∃ condition, (condition, body) ∈ branches) ∨ body ∈ otherwise := by
  induction branches with
  | nil => exact Or.inr (Except.ok.inj h)
  | cons branch rest ih =>
    obtain ⟨condition, first⟩ := branch
    rw [chosen] at h
    split at h
    · simp at h
    · obtain rfl := Option.some.inj (Except.ok.inj h)
      exact Or.inl ⟨condition, List.mem_cons_self⟩
    · rcases ih h with ⟨condition', hmem⟩ | hother
      · exact Or.inl ⟨condition', List.mem_cons_of_mem _ hmem⟩
      · exact Or.inr hother

/-- What holds of all bodies of a choice holds of the one that is chosen, if any. -/
theorem forall_chosen {scope : Scope} {branches : List (Condition × List Node)}
    {otherwise body : Option (List Node)} {P : List Node → Prop}
    (h : chosen scope branches otherwise = .ok body) (hbranches : ∀ branch ∈ branches, P branch.2)
    (hotherwise : ∀ nodes ∈ otherwise, P nodes) : ∀ nodes ∈ body, P nodes := by
  intro nodes hnodes
  rw [Option.mem_def.1 hnodes] at h
  rcases chosen_mem h with ⟨condition, hmem⟩ | hmem
  · exact hbranches _ hmem
  · exact hotherwise nodes hmem

variable {fetch : String → Render Unit}

theorem renderChoice_run (branches : List (Condition × List Node))
    (otherwise : Option (List Node)) (s : RenderState) :
    renderChoice fetch branches (renderOptional fetch otherwise) s =
      match chosen s.scope branches otherwise with
      | .error e => (.error e, s)
      | .ok body => renderOptional fetch body s := by
  induction branches with
  | nil => rfl
  | cons branch rest ih =>
    obtain ⟨condition, body⟩ := branch
    refine (Render.ofScope_bind_run _ _ s).trans ?_
    rw [chosen]
    cases hholds : condition.holds s.scope with
    | error e => rfl
    | ok holds =>
      cases holds with
      | true => rfl
      | false => exact ih

theorem render_choice_run (branches : List (Condition × List Node))
    (otherwise : Option (List Node)) (s : RenderState) :
    render fetch (.choice branches otherwise) s =
      match chosen s.scope branches otherwise with
      | .error e => (.error e, s)
      | .ok body => renderOptional fetch body s :=
  renderChoice_run branches otherwise s

/-- A loop over no items renders what it has for that, and otherwise its passes. -/
theorem render_loop_run (targets : List String) (items : Expression) (reversed : Bool)
    (body : List Node) (empty : Option (List Node)) (s : RenderState) :
    render fetch (.loop targets items reversed body empty) s =
      match items.resolve s.scope with
      | .error e => (.error e, s)
      | .ok v =>
        if orderedItems targets reversed v = [] then renderOptional fetch empty s
        else
          iterate (renderAll fetch body) targets (orderedItems targets reversed v).length
            (Value.ofOption (s.scope.lookup "forloop")) 0 (orderedItems targets reversed v) s := by
  refine (Render.ofScope_bind_run _ _ s).trans ?_
  cases hitems : items.resolve s.scope with
  | error e => rfl
  | ok v =>
    change (if (orderedItems targets reversed v).isEmpty = true then _ else _ : Render Unit) s = _
    by_cases hempty : orderedItems targets reversed v = []
    · simp only [hempty, List.isEmpty_nil, if_true]
    · have hnot : ¬ (orderedItems targets reversed v).isEmpty = true := by
        rwa [List.isEmpty_iff]
      simp only [hempty, hnot, if_false]
      exact Render.ofScope_bind_run _ _ s

theorem render_binding_run (names : List (String × Expression)) (body : List Node)
    (s : RenderState) :
    render fetch (.binding names body) s =
      match resolveBindings s.scope [] names with
      | .error e => (.error e, s)
      | .ok frame => Render.within frame (renderAll fetch body) s := by
  refine (Render.ofScope_bind_run _ _ s).trans ?_
  cases resolveBindings s.scope [] names <;> rfl

theorem render_expression_run (e : Expression) (s : RenderState) :
    render fetch (.expression e) s =
      match e.resolve s.scope with
      | .error err => (.error err, s)
      | .ok v => Render.writeValue v s := by
  refine (Render.ofScope_bind_run _ _ s).trans ?_
  cases e.resolve s.scope <;> rfl

end Node

end TextTemplate
