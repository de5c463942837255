import TextTemplate.Proofs.RenderClosure

/-!
A strict scope makes errors of missing names and does nothing else. A rendering in a strict
scope and one in the same scope made lenient go the same way, write the same pieces and end
alike, up to the first name that is missing; only there do they part, and the strict one
ends with that name's error.
-/
namespace TextTemplate

def Missed {α : Type} (outcome : Except Error α) : Prop :=
  ∃ path, outcome = .error (.missingVariable path)

namespace Scope

def withStrict (scope : Scope) (strict : Bool) : Scope := { scope with strict := strict }

/-- What is read from a scope is also read from it when missing names are left empty, unless
a name is missing. -/
def ReadsAlike {α : Type} (f : Scope → Except Error α) : Prop :=
  ∀ scope, Missed (f scope) ∨ f (scope.withStrict false) = f scope

variable {α β : Type} {f : Scope → Except Error α}

theorem readsAlike_of_eq (h : ∀ scope, f (scope.withStrict false) = f scope) : ReadsAlike f :=
  fun scope => .inr (h scope)

/-- Two readings in turn read alike if each does. -/
theorem ReadsAlike.bind (hf : ReadsAlike f) {g : α → Scope → Except Error β}
    (hg : ∀ a, ReadsAlike (g a)) : ReadsAlike fun scope => f scope >>= fun a => g a scope := by
  intro scope
  rcases hf scope with ⟨path, hmissed⟩ | hsame
  · exact .inl ⟨path, by simp only [hmissed]; rfl⟩
  · simp only [hsame]
    cases f scope with
    | error e => exact .inr rfl
    | ok a => exact hg a scope

theorem ReadsAlike.map (hf : ReadsAlike f) (g : α → β) :
    ReadsAlike fun scope => (f scope).map g := by
  intro scope
  rcases hf scope with ⟨path, hmissed⟩ | hsame
  · exact .inl ⟨path, by simp only [hmissed, Except.map]⟩
  · exact .inr (by simp only [hsame])

end Scope

open Scope

theorem Variable.readsAlike_resolve (v : Variable) : ReadsAlike fun scope => v.resolve scope := by
  intro scope
  have hsame : v.resolve? (scope.withStrict false) = v.resolve? scope := by
    rcases v with value | _ | _ <;> rfl
  simp only [resolve, hsame]
  cases v.resolve? scope with
  | some value => exact .inr rfl
  | none =>
    cases hstrict : scope.strict with
    | true => exact .inl ⟨v.text, rfl⟩
    | false => exact .inr rfl

namespace Expression

theorem readsAlike_resolveArgument (argument : Option Variable) :
    ReadsAlike fun scope => resolveArgument scope argument := by
  cases argument with
  | none => exact readsAlike_of_eq fun _ => rfl
  | some v => exact v.readsAlike_resolve.map some

/-- A filter sees the flag for escaping and not the one for missing names. -/
theorem readsAlike_applyCall (input : Value) (call : FilterCall) :
    ReadsAlike fun scope => applyCall scope input call := by
  have hbind : ∀ scope, applyCall scope input call =
      resolveArgument scope call.argument >>= fun argument =>
        call.filter.run call.name input argument scope.autoescape := by
    intro scope
    unfold applyCall
    cases resolveArgument scope call.argument <;> rfl
  simp only [hbind]
  exact (readsAlike_resolveArgument call.argument).bind fun _ => readsAlike_of_eq fun _ => rfl

theorem readsAlike_applyCalls (input : Value) (calls : List FilterCall) :
    ReadsAlike fun scope => applyCalls scope input calls := by
  induction calls generalizing input with
  | nil => exact readsAlike_of_eq fun _ => rfl
  | cons call calls ih =>
    have hbind : ∀ scope, applyCalls scope input (call :: calls) =
        applyCall scope input call >>= fun output => applyCalls scope output calls := by
      intro scope
      rw [applyCalls]
      cases applyCall scope input call <;> rfl
    simp only [hbind]
    exact (readsAlike_applyCall input call).bind ih

/-- An expression is the same with and without strictness, unless a name is missing. -/
theorem readsAlike_resolve (e : Expression) : ReadsAlike fun scope => e.resolve scope := by
  have hbind : ∀ scope, e.resolve scope =
      e.head.resolve scope >>= fun value => applyCalls scope value e.calls := by
    intro scope
    unfold resolve
    cases e.head.resolve scope <;> rfl
  simp only [hbind]
  exact e.head.readsAlike_resolve.bind fun value => readsAlike_applyCalls value e.calls

end Expression

/-- The same operands of a condition are looked at. -/
theorem Condition.readsAlike_holds (c : Condition) : ReadsAlike fun scope => c.holds scope := by
  induction c with
  | operand e => exact e.readsAlike_resolve.map Value.isTruthy
  | compare left op right =>
    simp only [holds_compare]
    exact left.readsAlike_resolve.bind fun l => right.readsAlike_resolve.map fun r => op.holds l r
  | not c ih => exact ih.map Bool.not
  | and left right ihLeft ihRight =>
    simp only [holds_and]
    refine ihLeft.bind ?_
    intro answer
    cases answer with
    | false => exact readsAlike_of_eq fun _ => rfl
    | true => exact ihRight
  | or left right ihLeft ihRight =>
    simp only [holds_or]
    refine ihLeft.bind ?_
    intro answer
    cases answer with
    | false => exact ihRight
    | true => exact readsAlike_of_eq fun _ => rfl

theorem Node.readsAlike_resolveBindings (frame : Frame) (names : List (String × Expression)) :
    ReadsAlike fun scope => resolveBindings scope frame names := by
  induction names generalizing frame with
  | nil => exact readsAlike_of_eq fun _ => rfl
  | cons binding names ih =>
    have hbind : ∀ scope, resolveBindings scope frame (binding :: names) =
        binding.2.resolve scope >>= fun v =>
          resolveBindings scope (Entries.set frame binding.1 v) names := by
      intro scope
      rw [resolveBindings]
      cases binding.2.resolve scope <;> rfl
    simp only [hbind]
    exact binding.2.readsAlike_resolve.bind fun v => ih (Entries.set frame binding.1 v)

namespace RenderState

def withStrict (s : RenderState) (strict : Bool) : RenderState :=
  { s with scope := s.scope.withStrict strict }

end RenderState

namespace Render

/-- From the same state made lenient a rendering has the same outcome and goes to the same
state made lenient, unless a name is missing. -/
def LockStep {α : Type} (m : Render α) : Prop :=
  ∀ s, Missed (m s).1 ∨ m (s.withStrict false) = ((m s).1, (m s).2.withStrict false)

variable {α β : Type}

theorem lockStep_ofScope {f : Scope → Except Error α} (hf : ReadsAlike f) :
    LockStep (ofScope f) := by
  intro s
  rcases hf s.scope with hmissed | hsame
  · exact .inl hmissed
  · exact .inr (Prod.ext hsame rfl)

theorem lockStep_write (origin : Origin) (text : String) : LockStep (write origin text) := by
  intro s
  refine .inr ?_
  simp only [write, RenderState.withStrict]
  cases s.output.add ⟨origin, text⟩ <;> rfl

/-- Two computations keep in step in turn if each of them does. -/
theorem LockStep.bind {m : Render α} {f : α → Render β} (hm : LockStep m)
    (hf : ∀ a, LockStep (f a)) : LockStep (m >>= f) := by
  intro s
  have hfirst := hm s
  rcases Attempt.bind_run_cases m f s with ⟨a, s', hrun, heq⟩ | ⟨e, s', hrun, heq⟩
  · rw [hrun] at hfirst
    rcases hfirst with ⟨path, hmissed⟩ | hsame
    · simp at hmissed
    · rw [heq, Attempt.bind_of_ok hsame]
      exact hf a s'
  · rw [hrun] at hfirst
    rw [heq]
    rcases hfirst with hmissed | hsame
    · obtain ⟨path, hpath⟩ := hmissed
      exact .inl ⟨path, congrArg Except.error (Except.error.inj hpath)⟩
    · exact .inr (Attempt.bind_of_error hsame)

/-- Both runs push the same frame and go back to the same depth. -/
theorem LockStep.within {m : Render α} (hm : LockStep m) (frame : Frame) :
    LockStep (within frame m) := by
  intro s
  have hpushed : (s.withStrict false).scope.push frame =
      (s.scope.push frame).withStrict false := rfl
  rcases hm { s with scope := s.scope.push frame } with hmissed | hsame
  · exact .inl hmissed
  · refine .inr ?_
    change (fun r => (r.1, { r.2 with scope := r.2.scope.truncate s.scope.depth }))
      (m (RenderState.withStrict { s with scope := s.scope.push frame } false)) = _
    rw [hsame]
    rfl

/-- Every step of a rendering goes alike. -/
theorem lockStep_closed : Closed @LockStep where
  pure _ _ := .inr rfl
  fail _ _ := .inr rfl
  write := lockStep_write
  writeValue _ s := lockStep_write _ _ s
  evaluate e := lockStep_ofScope e.readsAlike_resolve
  decide c := lockStep_ofScope c.readsAlike_holds
  valueOf _ := lockStep_ofScope (readsAlike_of_eq fun _ => rfl)
  bindings names := lockStep_ofScope (Node.readsAlike_resolveBindings [] names)
  bind hm hf := hm.bind hf
  within frame _ hm := hm.within frame

end Render

namespace Context

def withStrict (ctx : Context) (strict : Bool) : Context :=
  { ctx with scope := ctx.scope.withStrict strict }

variable {ctx : Context}

/-- Without a missing name, the flag for missing names makes no difference to the outcome of
a rendering, to what it writes and to the text that it gives. -/
theorem render_unless_missed
    (hengine : ∀ engine ∈ ctx.engine, engine.catalog.HasOnlyStandardTags)
    {catalog : Catalog} (hcatalog : catalog.HasOnlyStandardTags) {trim : Bool} {source : String}
    {nodes : List Node} (hcompile : catalog.compile trim source = .ok nodes) :
    (∀ depth output,
      ¬ Missed ((ctx.withStrict true).renderTo depth nodes output).1 →
        ((ctx.withStrict false).renderTo depth nodes output).1 =
            ((ctx.withStrict true).renderTo depth nodes output).1 ∧
          ((ctx.withStrict false).renderTo depth nodes output).2.1 =
            ((ctx.withStrict true).renderTo depth nodes output).2.1) ∧
      (¬ Missed ((ctx.withStrict true).render nodes).1 →
        ((ctx.withStrict false).render nodes).1 = ((ctx.withStrict true).render nodes).1) := by
  have hto : ∀ depth output,
      Missed ((ctx.withStrict true).renderTo depth nodes output).1 ∨
        ((ctx.withStrict false).renderTo depth nodes output).1 =
            ((ctx.withStrict true).renderTo depth nodes output).1 ∧
          ((ctx.withStrict false).renderTo depth nodes output).2.1 =
            ((ctx.withStrict true).renderTo depth nodes output).2.1 := by
    intro depth output
    have hfetch := Render.lockStep_closed.fetch hengine depth
    have hnodes := Render.lockStep_closed.renderAll_compile hcatalog hcompile hfetch
    rcases hnodes ⟨ctx.scope.withStrict true, output⟩ with hmissed | hsame
    · exact .inl hmissed
    · have houtcome := congrArg Prod.fst hsame
      have houtput := congrArg (fun run => run.2.output) hsame
      exact .inr ⟨houtcome, houtput⟩
  refine ⟨fun depth output hfound => (hto depth output).resolve_left hfound, ?_⟩
  intro hfound
  rcases hto Engine.includeDepth {} with ⟨path, hmissed⟩ | ⟨houtcome, houtput⟩
  · refine absurd ⟨path, ?_⟩ hfound
    simp only [render, hmissed, Except.map]
  · simp only [render, houtcome, houtput]

/-- Nothing is missing, neither here nor in the included template. -/
theorem render_unless_missed_included :
    let engine := Engine.withDefaults.addLoader (Loader.memory [("b", "{{ name|upper }}")])
    let ctx : Context := { scope := { root := [("name", .str "b")] }, engine := some engine }
    let source := "{{ name }}{% include name %}"
    ∃ nodes, Engine.withDefaults.catalog.compile false source = .ok nodes ∧
      ((ctx.withStrict true).render nodes).1 = .ok "bB" ∧
      ((ctx.withStrict false).render nodes).1 = .ok "bB" := by
  intro engine ctx source
  have hcatalog := Engine.withDefaults_hasStandardTags.only
  have hengine : ∀ engine ∈ ctx.engine, engine.catalog.HasOnlyStandardTags := by
    intro engine hsome
    obtain rfl := Option.mem_some_iff.1 hsome
    exact hcatalog
  let name : Expression := { source := "name", head := .path ["name"], calls := [] }
  have hcompile : Engine.withDefaults.catalog.compile false source =
      .ok [.expression name, .inclusion name] := by
    have htokens : Token.scan false source =
        [⟨.tag .expression, "name", 1⟩, ⟨.tag .block, "include name", 1⟩] := by
      decide +kernel
    rw [Catalog.compile, htokens]
    rfl
  have hstrict : ((ctx.withStrict true).render [.expression name, .inclusion name]).1 =
      .ok "bB" := by
    decide +kernel
  have hfound : ¬ Missed
      ((ctx.withStrict true).render [.expression name, .inclusion name]).1 := by
    rintro ⟨path, hmissed⟩
    rw [hstrict] at hmissed
    simp at hmissed
  have hsame := (render_unless_missed hengine hcatalog hcompile).2 hfound
  exact ⟨_, hcompile, hstrict, hsame.trans hstrict⟩

end Context

end TextTemplate
