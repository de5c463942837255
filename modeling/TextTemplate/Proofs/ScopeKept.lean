import TextTemplate.Proofs.RenderClosure

/-!
Rendering leaves the scope alone. Only a computation that runs within a frame changes the
scope, and it goes back to the depth that it started from whatever its outcome; hence no
computation of the standard nodes changes the scope.
-/
namespace TextTemplate

namespace Render

def KeepsScope {α : Type} (m : Render α) : Prop := ∀ s, (m s).2.scope = s.scope

variable {α β : Type}

theorem keepsScope_pure (a : α) : KeepsScope (pure a : Render α) := fun _ => rfl

theorem keepsScope_fail (e : Error) : KeepsScope (Attempt.fail e : Render α) := fun _ => rfl

theorem keepsScope_ofScope (f : Scope → Except Error α) : KeepsScope (ofScope f) := fun _ => rfl

theorem keepsScope_write (origin : Origin) (text : String) : KeepsScope (write origin text) := by
  intro s
  unfold write
  split <;> rfl

theorem keepsScope_writeValue (v : Value) : KeepsScope (writeValue v) := by
  intro s
  exact keepsScope_write _ _ s

/-- What is done after what keeps the scope keeps it if each part does. -/
theorem KeepsScope.bind {m : Render α} {f : α → Render β} (hm : KeepsScope m)
    (hf : ∀ a, KeepsScope (f a)) : KeepsScope (m >>= f) := by
  intro s
  have hfirst := hm s
  rcases Attempt.bind_run_cases m f s with ⟨a, s', hrun, heq⟩ | ⟨e, s', hrun, heq⟩
  · rw [hrun] at hfirst
    rw [heq, hf a s', hfirst]
  · rw [hrun] at hfirst
    rw [heq, hfirst]

theorem KeepsScope.within {m : Render α} (hm : KeepsScope m) (frame : Frame) :
    KeepsScope (within frame m) :=
  fun _ => scope_within (hm _)

/-- Within a frame, it does what it does there, and the frame is gone afterwards. -/
theorem KeepsScope.within_run {m : Render α} (hm : KeepsScope m) {frame : Frame}
    {s t : RenderState} {outcome : Except Error α}
    (h : m { s with scope := s.scope.push frame } = (outcome, t)) :
    Render.within frame m s = (outcome, ⟨s.scope, t.output⟩) := by
  have hscope : t.scope = s.scope.push frame := by
    have hkept := hm { s with scope := s.scope.push frame }
    rw [h] at hkept
    exact hkept
  refine Render.within_run ?_
  rw [h, ← hscope]

/-- No step of a rendering changes the scope. -/
theorem keepsScope_closed : Closed @KeepsScope where
  pure := keepsScope_pure
  fail := keepsScope_fail
  write := keepsScope_write
  writeValue := keepsScope_writeValue
  evaluate e := keepsScope_ofScope fun scope => e.resolve scope
  decide c := keepsScope_ofScope fun scope => c.holds scope
  valueOf name := keepsScope_ofScope fun scope => .ok (Value.ofOption (scope.lookup name))
  bindings names := keepsScope_ofScope fun scope => Node.resolveBindings scope [] names
  bind hm hf := hm.bind hf
  within frame _ hm := hm.within frame

end Render

namespace Node

open Render

/-- Apart from the bodies of a node, what it renders leaves the scope alone. -/
def KeepsScopeItself (fetch : String → Render Unit) : Node → Prop
  | .inclusion _ => ∀ name, KeepsScope (fetch name)
  | .host _ _ => False
  | _ => True

variable {fetch : String → Render Unit}

theorem KeepsScopeItself.includesOnly {node : Node} (h : node.KeepsScopeItself fetch) :
    node.IncludesOnly @KeepsScope fetch := by
  cases node with
  | host node bodies => exact h.elim
  | _ => exact h

theorem keepsScope_renderAll {nodes : List Node}
    (h : ∀ node ∈ nodes, KeepsScope (render fetch node)) : KeepsScope (renderAll fetch nodes) :=
  keepsScope_closed.renderAll h

/-- No node changes the scope if none does so by itself. -/
theorem keepsScope_render (node : Node) (hnode : node.Every (KeepsScopeItself fetch)) :
    KeepsScope (render fetch node) :=
  keepsScope_closed.render node (hnode.mono fun _ h => h.includesOnly)

/-- A standard node does not change the scope by itself if what it includes does not. -/
theorem keepsScopeItself_of_isStandard (hfetch : ∀ name, KeepsScope (fetch name)) (node : Node)
    (hnode : node.IsStandard) : node.KeepsScopeItself fetch := by
  cases node with
  | inclusion name => exact hfetch
  | host node bodies => exact hnode.elim
  | _ => trivial

end Node

end TextTemplate
