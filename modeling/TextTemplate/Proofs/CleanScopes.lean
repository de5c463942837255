import TextTemplate.Proofs.CleanValues
import TextTemplate.Proofs.ReadExpressions
import TextTemplate.Proofs.RenderSteps

/-!
Clean scopes. In a scope of clean values an expression has a clean value under escaping, as
long as it does without `safe`, has no markup in its literals and makes no `join` put a
separator with raw markup between items. Bindings and loops make frames of such values,
so that the scopes in them are clean as well.
-/
namespace TextTemplate

open Text

namespace Scope

def Clean (scope : Scope) : Prop := ∀ frame ∈ scope.frames, ∀ entry ∈ frame, entry.2.Clean

def HoldsNoSafe (scope : Scope) : Prop :=
  ∀ frame ∈ scope.frames, ∀ entry ∈ frame, ∀ s, ¬ entry.2.Reaches (.safe s)

/-- Without safe texts there is none with markup. -/
theorem HoldsNoSafe.clean {scope : Scope} (h : scope.HoldsNoSafe) : scope.Clean := by
  intro frame hframe entry hentry s hreaches
  exact absurd hreaches (h frame hframe entry hentry s)

theorem Clean.push {scope : Scope} (h : scope.Clean) {frame : Frame}
    (hframe : ∀ entry ∈ frame, entry.2.Clean) : (scope.push frame).Clean := by
  unfold Clean
  rw [frames_push, List.forall_mem_cons]
  exact ⟨hframe, h⟩

/-- What is found in a clean scope is clean. -/
theorem Clean.lookup {scope : Scope} (h : scope.Clean) {name : String} {v : Value}
    (hlookup : scope.lookup name = some v) : v.Clean := by
  rw [lookup_eq_findSome?] at hlookup
  obtain ⟨frame, hframe, hget⟩ := List.exists_of_findSome?_eq_some hlookup
  exact h frame hframe _ (Entries.mem_of_get? hget)

end Scope

namespace Variable

/-- Among clean values a variable has a clean value, if it is no literal with markup. -/
theorem clean_resolve {v : Variable} (hread : v.IsRead)
    (hliteral : ∀ s, v = .literal (.safe s) → FreeOfMarkup s.toList) {scope : Scope}
    (hscope : scope.Clean) {value : Value} (h : v.resolve scope = .ok value) : value.Clean := by
  unfold resolve at h
  split at h
  · rename_i found hfound
    obtain rfl := Except.ok.inj h
    cases v with
    | literal w =>
      obtain rfl := Option.some.inj hfound
      rcases hread.literal_cases with ⟨s, rfl⟩ | ⟨n, rfl⟩ | ⟨x, rfl⟩
      · exact Value.clean_safe_iff.2 (hliteral s rfl)
      · exact Value.clean_int n
      · exact Value.clean_float x
    | path names =>
      cases names with
      | nil => simp [resolve?] at hfound
      | cons name rest =>
        obtain ⟨w, hw, hfollow⟩ := Option.bind_eq_some_iff.1 hfound
        exact (hscope.lookup hw).follow hfollow
  · split at h
    · simp at h
    · obtain rfl := Except.ok.inj h
      exact Value.clean_null

end Variable

namespace Expression

/-- The expression does without the filter `safe` and has no markup in its literals. -/
structure Plain (e : Expression) : Prop where
  noSafe : ∀ call ∈ e.calls, call.name ≠ "safe"
  head : ∀ s, e.head = .literal (.safe s) → FreeOfMarkup s.toList
  argument : ∀ call ∈ e.calls, ∀ s, call.argument = some (.literal (.safe s)) →
    FreeOfMarkup s.toList

/-- None of the calls of `join`, starting from a value, puts raw markup between items. -/
def CallsJoinCleanly (scope : Scope) (input : Value) : List FilterCall → Prop
  | [] => True
  | call :: rest =>
    (call.name = "join" → ∀ argument, resolveArgument scope call.argument = .ok argument →
      ¬ Filters.PutsMarkup input argument) ∧
    ∀ output, applyCall scope input call = .ok output → CallsJoinCleanly scope output rest

def JoinsCleanly (e : Expression) (scope : Scope) : Prop :=
  ∀ v, e.head.resolve scope = .ok v → CallsJoinCleanly scope v e.calls

def CleanIn (e : Expression) (scope : Scope) : Prop :=
  scope.Clean → scope.autoescape = true → ∀ v, e.resolve scope = .ok v → v.Clean

theorem clean_resolveArgument {argument : Option Variable} (hread : ∀ v ∈ argument, v.IsRead)
    (hliteral : ∀ s, argument = some (.literal (.safe s)) → FreeOfMarkup s.toList)
    {scope : Scope} (hscope : scope.Clean) {value : Option Value}
    (h : resolveArgument scope argument = .ok value) : ∀ w ∈ value, w.Clean := by
  cases argument with
  | none =>
    obtain rfl := Except.ok.inj h
    simp
  | some v =>
    cases hv : v.resolve scope with
    | error e => simp [resolveArgument, hv, Except.map] at h
    | ok w =>
      simp only [resolveArgument, hv, Except.map, Except.ok.injEq] at h
      subst h
      intro w' hw'
      obtain rfl := Option.some.inj hw'
      refine Variable.clean_resolve (hread v rfl) ?_ hscope hv
      rintro s rfl
      exact hliteral s rfl

/-- A call of a standard filter other than `safe`, with an argument that was read and has no
markup if it is a literal. -/
structure IsHarmless (call : FilterCall) : Prop where
  filter : Entries.get? Filters.standard.filters call.name = some call.filter
  noSafe : call.name ≠ "safe"
  read : ∀ v ∈ call.argument, v.IsRead
  literal : ∀ s, call.argument = some (.literal (.safe s)) → FreeOfMarkup s.toList

/-- One harmless filter gives a clean value for a clean one. -/
theorem clean_applyCall {call : FilterCall} (hcall : IsHarmless call) {scope : Scope}
    (hscope : scope.Clean) (hescape : scope.autoescape = true) {input : Value}
    (hinput : input.Clean)
    (hjoin : call.name = "join" → ∀ argument,
      resolveArgument scope call.argument = .ok argument → ¬ Filters.PutsMarkup input argument)
    {output : Value} (h : applyCall scope input call = .ok output) : output.Clean := by
  obtain ⟨hstandard, hsafe, hread, hliteral⟩ := hcall
  unfold applyCall at h
  split at h
  · simp at h
  · rename_i argument hargument
    have hclean := clean_resolveArgument hread hliteral hscope hargument
    unfold Filter.run at h
    split at h
    · simp at h
    · rw [hescape] at h
      by_cases hname : call.name = "join"
      · rw [hname, Filters.get?_join] at hstandard
        have hfilter : call.filter.apply = Filters.join := by
          rw [← Option.some.inj hstandard]
        rw [hfilter] at h
        exact (Filters.join_clean_iff hinput hclean h).2 (hjoin hname argument hargument)
      · exact Filters.keepsClean_standard hstandard hsafe hname _ _ _ hinput hclean h

/-- So does a chain of them, as long as no `join` in it puts markup between items. -/
theorem clean_applyCalls {calls : List FilterCall} (hcalls : ∀ call ∈ calls, IsHarmless call)
    {scope : Scope} (hscope : scope.Clean) (hescape : scope.autoescape = true) {input : Value}
    (hinput : input.Clean) (hjoins : CallsJoinCleanly scope input calls) {output : Value}
    (h : applyCalls scope input calls = .ok output) : output.Clean := by
  induction calls generalizing input with
  | nil =>
    obtain rfl := Except.ok.inj h
    exact hinput
  | cons call rest ih =>
    obtain ⟨hcall, hrest⟩ := List.forall_mem_cons.1 hcalls
    obtain ⟨hjoin, hlater⟩ := hjoins
    rw [applyCalls] at h
    split at h
    · simp at h
    · rename_i next hnext
      have hclean := clean_applyCall hcall hscope hescape hinput hjoin hnext
      exact ih hrest hclean (hlater next hnext) h

/-- An expression that was read with standard filters. -/
theorem cleanIn_of_joinsCleanly {filters : FilterTable}
    (hfilters : ∀ name filter, filters name = some filter →
      Entries.get? Filters.standard.filters name = some filter)
    {e : Expression} (hread : e.IsRead filters) (hplain : e.Plain) {scope : Scope}
    (hjoins : e.JoinsCleanly scope) : e.CleanIn scope := by
  intro hscope hescape v h
  unfold resolve at h
  split at h
  · simp at h
  · rename_i value hvalue
    have hhead := Variable.clean_resolve hread.head hplain.head hscope hvalue
    refine clean_applyCalls ?_ hscope hescape hhead (hjoins value hvalue) h
    intro call hcall
    exact ⟨hfilters _ _ (hread.filter call hcall), hplain.noSafe call hcall,
      hread.argument call hcall, hplain.argument call hcall⟩

end Expression

namespace Node

theorem clean_resolveBindings {scope : Scope} (hscope : scope.Clean)
    (hescape : scope.autoescape = true) {names : List (String × Expression)}
    (hnames : ∀ binding ∈ names, binding.2.CleanIn scope) {frame frame' : Frame}
    (hframe : ∀ entry ∈ frame, entry.2.Clean)
    (h : resolveBindings scope frame names = .ok frame') :
    ∀ entry ∈ frame', entry.2.Clean := by
  induction names generalizing frame with
  | nil =>
    obtain rfl := Except.ok.inj h
    exact hframe
  | cons binding rest ih =>
    obtain ⟨name, e⟩ := binding
    obtain ⟨hfirst, hrest⟩ := List.forall_mem_cons.1 hnames
    rw [resolveBindings] at h
    split at h
    · simp at h
    · rename_i v hv
      exact ih hrest (Entries.forall_mem_set hframe (hfirst hscope hescape v hv)) h

theorem clean_bindParts {frame : Frame} (hframe : ∀ entry ∈ frame, entry.2.Clean)
    (targets : List String) {parts : List Value} (hparts : ∀ v ∈ parts, v.Clean) :
    ∀ entry ∈ bindParts frame targets parts, entry.2.Clean := by
  induction targets generalizing frame parts with
  | nil => exact hframe
  | cons target targets ih =>
    have hfirst : (Value.ofOption parts.head?).Clean :=
      Value.clean_ofOption fun v hv => hparts v (List.mem_of_mem_head? hv)
    exact ih (Entries.forall_mem_set hframe hfirst) fun v hv => hparts v (List.mem_of_mem_tail hv)

theorem clean_bindTargets {frame : Frame} (hframe : ∀ entry ∈ frame, entry.2.Clean)
    (targets : List String) {item : Value} (hitem : item.Clean) :
    ∀ entry ∈ bindTargets frame targets item, entry.2.Clean := by
  unfold bindTargets
  split
  · exact Entries.forall_mem_set hframe hitem
  · exact clean_bindParts hframe _ (Value.clean_list_iff.1 hitem)
  · exact clean_bindParts hframe _ (List.forall_mem_singleton.2 hitem)

/-- The record of a loop holds numbers, truths and the record around it. -/
theorem clean_loopRecord (index total : Nat) {parent : Value} (hparent : parent.Clean) :
    (loopRecord index total parent).Clean := by
  simp [loopRecord, Value.clean_map_iff, hparent]

/-- What a loop binds in one iteration is clean if its item is. -/
theorem clean_loopFrame (targets : List String) (index total : Nat) {parent item : Value}
    (hparent : parent.Clean) (hitem : item.Clean) :
    ∀ entry ∈ loopFrame targets index total parent item, entry.2.Clean := by
  refine clean_bindTargets ?_ targets hitem
  exact List.forall_mem_singleton.2 (clean_loopRecord index total hparent)

theorem clean_loopItems (targets : List String) {v : Value} (hv : v.Clean) :
    ∀ item ∈ loopItems targets v, item.Clean := by
  unfold loopItems
  split
  · exact Value.clean_list_iff.1 hv
  · have hentries := Value.clean_map_iff.1 hv
    split
    · rw [List.forall_mem_map]
      intro entry hentry
      simpa [Value.clean_list_iff] using hentries entry hentry
    · rw [List.forall_mem_map]
      exact fun entry _ => Value.clean_str _
  · rw [List.forall_mem_map]
    exact fun c _ => Value.clean_str _
  · rw [List.forall_mem_map]
    exact fun c _ => Value.clean_str _
  · exact List.forall_mem_nil _

theorem clean_orderedItems (targets : List String) (reversed : Bool) {v : Value}
    (hv : v.Clean) : ∀ item ∈ orderedItems targets reversed v, item.Clean := by
  have hitems := clean_loopItems targets hv
  unfold orderedItems
  split
  · exact fun item hitem => hitems item (List.mem_reverse.1 hitem)
  · exact hitems

end Node

end TextTemplate
