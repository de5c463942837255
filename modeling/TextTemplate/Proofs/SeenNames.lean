import TextTemplate.Proofs.RenderClosure

/-!
What a rendering sees of a scope. It looks at the flags, at the names that paths start from
and, in loops, at the name of the loop record; how the frames are arranged and what else is in
them does not matter. Two scopes that agree on these names therefore give the same values,
the same branches and the same iterations, and the frames that are pushed on the way keep them
in agreement.
-/
namespace TextTemplate

def Variable.firstName? : Variable → Option String
  | .path (name :: _) => some name
  | _ => none

def Expression.firstNames (e : Expression) : List String :=
  (e.head :: e.calls.filterMap (·.argument)).filterMap Variable.firstName?

namespace Scope

/-- Two scopes have the same flags and give certain names the same meaning. -/
structure Agree (N : String → Prop) (a b : Scope) : Prop where
  autoescape : a.autoescape = b.autoescape
  strict : a.strict = b.strict
  lookup : ∀ name, N name → a.lookup name = b.lookup name

variable {N : String → Prop} {a b : Scope}

/-- A frame that is pushed on both hides the same names. -/
theorem Agree.push (h : Agree N a b) (frame : Frame) : Agree N (a.push frame) (b.push frame) := by
  refine ⟨h.autoescape, h.strict, ?_⟩
  intro name hname
  rw [lookup_push, lookup_push, h.lookup name hname]

theorem agree_push_nil (N : String → Prop) (scope : Scope) : Agree N (scope.push []) scope := by
  refine ⟨rfl, rfl, ?_⟩
  intro name _
  rw [lookup_push, Entries.get?, Option.none_or]

end Scope

section Values

variable {N : String → Prop} {a b : Scope}

theorem Variable.resolve_agree (h : a.Agree N b) {v : Variable}
    (hv : ∀ name ∈ v.firstName?, N name) : v.resolve a = v.resolve b := by
  have hfound : v.resolve? a = v.resolve? b := by
    cases v with
    | literal value => rfl
    | path names =>
      cases names with
      | nil => rfl
      | cons name rest =>
        have hlookup := h.lookup name (hv name rfl)
        rw [resolve?, resolve?, hlookup]
  rw [resolve, resolve, hfound, h.strict]

namespace Expression

theorem resolveArgument_agree (h : a.Agree N b) {argument : Option Variable}
    (hargument : ∀ v ∈ argument, ∀ name ∈ v.firstName?, N name) :
    resolveArgument a argument = resolveArgument b argument := by
  cases argument with
  | none => rfl
  | some v => rw [resolveArgument, resolveArgument, Variable.resolve_agree h (hargument v rfl)]

theorem applyCalls_agree (h : a.Agree N b) {calls : List FilterCall}
    (hcalls : ∀ call ∈ calls, ∀ v ∈ call.argument, ∀ name ∈ v.firstName?, N name)
    (input : Value) : applyCalls a input calls = applyCalls b input calls := by
  induction calls generalizing input with
  | nil => rfl
  | cons call rest ih =>
    obtain ⟨hcall, hrest⟩ := List.forall_mem_cons.1 hcalls
    have hfirst : applyCall a input call = applyCall b input call := by
      rw [applyCall, applyCall, resolveArgument_agree h hcall, h.autoescape]
    rw [applyCalls, applyCalls, hfirst]
    cases applyCall b input call with
    | error e => rfl
    | ok output => exact ih hrest output

/-- An expression has the same value in scopes that agree on the names it starts from. -/
theorem resolve_agree (h : a.Agree N b) {e : Expression} (he : ∀ name ∈ e.firstNames, N name) :
    e.resolve a = e.resolve b := by
  have hhead : ∀ name ∈ e.head.firstName?, N name := by
    intro name hname
    exact he name (List.mem_filterMap.2 ⟨e.head, List.mem_cons_self, hname⟩)
  have hcalls : ∀ call ∈ e.calls, ∀ v ∈ call.argument, ∀ name ∈ v.firstName?, N name := by
    intro call hcall v hv name hname
    have hmem : v ∈ e.calls.filterMap (·.argument) := List.mem_filterMap.2 ⟨call, hcall, hv⟩
    exact he name (List.mem_filterMap.2 ⟨v, List.mem_cons_of_mem _ hmem, hname⟩)
  rw [resolve, resolve, Variable.resolve_agree h hhead]
  cases e.head.resolve b with
  | error err => rfl
  | ok value => exact applyCalls_agree h hcalls value

end Expression

def Expression.NamesIn (N : String → Prop) (e : Expression) : Prop :=
  ∀ name ∈ e.firstNames, N name

/-- A condition has the same truth in them. -/
theorem Condition.holds_agree (h : a.Agree N b) {c : Condition}
    (hc : ∀ e ∈ c.operands, e.NamesIn N) : c.holds a = c.holds b := by
  induction c with
  | operand e => rw [holds, holds, Expression.resolve_agree h (hc e (List.mem_singleton_self e))]
  | compare left op right =>
    have hleft := Expression.resolve_agree h (hc left List.mem_cons_self)
    have hright := Expression.resolve_agree h
      (hc right (List.mem_cons_of_mem left (List.mem_singleton_self right)))
    rw [holds_compare, holds_compare, hleft, hright]
  | not c ih => rw [holds, holds, ih hc]
  | and left right ihLeft ihRight =>
    obtain ⟨hleft, hright⟩ := List.forall_mem_append.1 hc
    rw [holds_and, holds_and, ihLeft hleft, ihRight hright]
  | or left right ihLeft ihRight =>
    obtain ⟨hleft, hright⟩ := List.forall_mem_append.1 hc
    rw [holds_or, holds_or, ihLeft hleft, ihRight hright]

theorem Node.resolveBindings_agree (h : a.Agree N b) {names : List (String × Expression)}
    (hnames : ∀ binding ∈ names, binding.2.NamesIn N) (frame : Frame) :
    resolveBindings a frame names = resolveBindings b frame names := by
  induction names generalizing frame with
  | nil => rfl
  | cons binding rest ih =>
    obtain ⟨name, e⟩ := binding
    obtain ⟨hfirst, hrest⟩ := List.forall_mem_cons.1 hnames
    rw [resolveBindings, resolveBindings, Expression.resolve_agree h hfirst]
    cases e.resolve b with
    | error err => rfl
    | ok v => exact ih hrest (Entries.set frame name v)

end Values

namespace Render

/-- Two runs have the same outcome and output, and each leaves its scope alone. -/
structure EndAlike {α : Type} (m m' : Render α) (s s' : RenderState) : Prop where
  outcome : (m s).1 = (m' s').1
  output : (m s).2.output = (m' s').2.output
  scope : (m s).2.scope = s.scope
  scope' : (m' s').2.scope = s'.scope

/-- Of the scope, two computations see only the flags and certain names, and they do the same
with what they see. -/
def SeeOnly (N : String → Prop) {α : Type} (m m' : Render α) : Prop :=
  ∀ s s', s.output = s'.output → s.scope.Agree N s'.scope → EndAlike m m' s s'

variable {N : String → Prop} {α β : Type}

theorem seeOnly_ofScope {f : Scope → Except Error α} (hf : ∀ a b : Scope, a.Agree N b → f a = f b) :
    SeeOnly N (ofScope f) (ofScope f) :=
  fun s s' houtput hagree => ⟨hf s.scope s'.scope hagree, houtput, rfl, rfl⟩

theorem seeOnly_write (origin : Origin) (text : String) :
    SeeOnly N (write origin text) (write origin text) := by
  rintro ⟨scope, output⟩ ⟨scope', output'⟩ (rfl : output = output') _
  cases hadd : output.add ⟨origin, text⟩ <;> constructor <;> simp only [write, hadd]

theorem seeOnly_writeValue (v : Value) : SeeOnly N (writeValue v) (writeValue v) := by
  intro s s' houtput hagree
  have hwrite := seeOnly_write .value (shown s.scope.autoescape v) s s' houtput hagree
  rw [hagree.autoescape] at hwrite
  have hleft : writeValue v s = write .value (shown s'.scope.autoescape v) s := by
    rw [writeValue, hagree.autoescape]
  exact ⟨hleft ▸ hwrite.outcome, hleft ▸ hwrite.output, hleft ▸ hwrite.scope, hwrite.scope'⟩

/-- The second parts start from scopes that still agree. -/
theorem SeeOnly.bind {m m' : Render α} {f f' : α → Render β} (hm : SeeOnly N m m')
    (hf : ∀ a, SeeOnly N (f a) (f' a)) : SeeOnly N (m >>= f) (m' >>= f') := by
  intro s s' houtput hagree
  obtain ⟨hfirst, houtputs, hscope, hscope'⟩ := hm s s' houtput hagree
  rcases hrun : m s with ⟨outcome, t⟩
  rcases hrun' : m' s' with ⟨outcome', t'⟩
  rw [hrun, hrun'] at hfirst houtputs
  rw [hrun] at hscope
  rw [hrun'] at hscope'
  dsimp only at hfirst houtputs hscope hscope'
  subst hfirst
  cases outcome with
  | error e =>
    have hleft : (m >>= f) s = (.error e, t) := Attempt.bind_of_error hrun
    have hright : (m' >>= f') s' = (.error e, t') := Attempt.bind_of_error hrun'
    constructor <;> simp only [hleft, hright, houtputs, hscope, hscope']
  | ok a =>
    have hleft : (m >>= f) s = f a t := Attempt.bind_of_ok hrun
    have hright : (m' >>= f') s' = f' a t' := Attempt.bind_of_ok hrun'
    have hlater := hf a t t' houtputs (by rwa [hscope, hscope'])
    refine ⟨?_, ?_, ?_, ?_⟩
    · rw [hleft, hright, hlater.outcome]
    · rw [hleft, hright, hlater.output]
    · rw [hleft, hlater.scope, hscope]
    · rw [hright, hlater.scope', hscope']

/-- In a frame of its own, a body sees no more of the scope around it than before. -/
theorem SeeOnly.within {m m' : Render α} (hm : SeeOnly N m m') (frame : Frame) :
    SeeOnly N (within frame m) (within frame m') := by
  intro s s' houtput hagree
  have hinner := hm { s with scope := s.scope.push frame } { s' with scope := s'.scope.push frame }
    houtput (hagree.push frame)
  exact ⟨hinner.outcome, hinner.output, scope_within hinner.scope, scope_within hinner.scope'⟩

/-- Every step of a rendering sees only the names of its expressions and the loop record. -/
theorem seeOnly_parallel (hforloop : N "forloop") :
    Parallel (Expression.NamesIn N) fun _ m m' => SeeOnly N m m' where
  pure a s s' houtput _ := ⟨rfl, houtput, rfl, rfl⟩
  fail e s s' houtput _ := ⟨rfl, houtput, rfl, rfl⟩
  write := seeOnly_write
  writeValue := seeOnly_writeValue
  evaluate e he := seeOnly_ofScope fun _ _ h => Expression.resolve_agree h he
  decide c hc := seeOnly_ofScope fun _ _ h => Condition.holds_agree h hc
  parent := seeOnly_ofScope fun _ _ h => by rw [h.lookup "forloop" hforloop]
  bindings names hnames := seeOnly_ofScope fun _ _ h => Node.resolveBindings_agree h hnames []
  bind hm hf := hm.bind hf
  within frame _ _ hm := hm.within frame

end Render

end TextTemplate
