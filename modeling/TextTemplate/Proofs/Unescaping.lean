import TextTemplate.Proofs.LetBindings
import TextTemplate.Proofs.Markup
import TextTemplate.Proofs.StandardCatalog
import TextTemplate.Proofs.Substitutions

/-!
Escaping undone. In an escaped text an ampersand stands only where an entity starts, so reading
the text from left to right and replacing each entity by its character gives the text back that
was escaped. A text is escaped once: what the filter `escape` gives is safe, and neither the
filter nor the tag that shows it escapes it again.
-/
namespace TextTemplate

namespace Text

def entities : List (Char × List Char) :=
  [('&', ['&', 'a', 'm', 'p', ';']), ('<', ['&', 'l', 't', ';']), ('>', ['&', 'g', 't', ';']),
    ('"', ['&', 'q', 'u', 'o', 't', ';']), ('\x27', ['&', '#', '3', '9', ';'])]

def unescapeSkipping : Nat → List Char → List Char
  | _, [] => []
  | skip + 1, _ :: rest => unescapeSkipping skip rest
  | 0, c :: rest =>
    match entities.find? fun entity => entity.2.isPrefixOf (c :: rest) with
    | some entity => entity.1 :: unescapeSkipping (entity.2.length - 1) rest
    | none => c :: unescapeSkipping 0 rest

def unescape (cs : List Char) : List Char := unescapeSkipping 0 cs

def unescapeHtml (s : String) : String := String.ofList (unescape s.toList)

/-- A character is written as its entity, or as itself if it is not special. -/
theorem escapeChar_cases (c : Char) :
    (c, escapeChar c) ∈ entities ∨ escapeChar c = [c] ∧ c ≠ '&' := by
  fun_cases escapeChar c with
  | case1 => exact Or.inl (by decide)
  | case2 => exact Or.inl (by decide)
  | case3 => exact Or.inl (by decide)
  | case4 => exact Or.inl (by decide)
  | case5 => exact Or.inl (by decide)
  | case6 _ hamp => exact Or.inr ⟨rfl, hamp⟩

/-- An entity is told by its characters, whatever follows: it starts with an ampersand and goes
on in its own way. -/
theorem unescape_entity_append {entity : Char × List Char} (h : entity ∈ entities)
    (rest : List Char) : unescape (entity.2 ++ rest) = entity.1 :: unescape rest := by
  simp only [entities, List.mem_cons, List.not_mem_nil, or_false] at h
  rcases h with rfl | rfl | rfl | rfl | rfl <;> rfl

theorem unescape_cons {c : Char} (h : c ≠ '&') (rest : List Char) :
    unescape (c :: rest) = c :: unescape rest := by
  have hnone : (entities.find? fun entity => entity.2.isPrefixOf (c :: rest)) = none := by
    simp [entities, Ne.symm h]
  rw [unescape, unescapeSkipping, hnone, unescape]

theorem unescape_escape (cs : List Char) : unescape (escape cs) = cs := by
  induction cs with
  | nil => rfl
  | cons c cs ih =>
    have hcons : escape (c :: cs) = escapeChar c ++ escape cs := rfl
    rw [hcons]
    rcases escapeChar_cases c with hentity | ⟨hself, hamp⟩
    · rw [unescape_entity_append hentity, ih]
    · rw [hself, List.singleton_append, unescape_cons hamp, ih]

theorem unescapeHtml_escapeHtml (s : String) : unescapeHtml (escapeHtml s) = s := by
  rw [unescapeHtml, escapeHtml, String.toList_ofList, unescape_escape, String.ofList_toList]

theorem escapeHtml_append (s t : String) : escapeHtml (s ++ t) = escapeHtml s ++ escapeHtml t := by
  rw [escapeHtml, String.toList_append, escape_append, String.ofList_append]
  rfl

/-- No ampersand stands inside of an entity. -/
theorem ampersand_notMem_tail (c : Char) : '&' ∉ (escapeChar c).tail := by
  rcases escapeChar_cases c with hentity | ⟨hself, _⟩
  · have htails : ∀ entity ∈ entities, '&' ∉ entity.2.tail := by decide
    exact htails _ hentity
  · rw [hself]
    exact List.not_mem_nil

/-- Text that looks like an entity is not taken for one. -/
example : unescape (escape ['&', 'l', 't', ';']) = ['&', 'l', 't', ';'] := by decide

/-- Every ampersand of an escaped text starts an entity. -/
theorem exists_entity_prefix {cs before after : List Char}
    (h : escape cs = before ++ '&' :: after) :
    ∃ entity ∈ entities, entity.2 <+: '&' :: after := by
  induction cs generalizing before with
  | nil => simp [escape] at h
  | cons c cs ih =>
    have hcons : escapeChar c ++ escape cs = before ++ '&' :: after := h
    rcases List.append_eq_append_iff.1 hcons with ⟨between, rfl, hlater⟩ | ⟨between, hc, hlater⟩
    · exact ih hlater
    · cases between with
      | nil =>
        have hstart : escape cs = [] ++ '&' :: after := hlater.symm
        exact ih hstart
      | cons d between =>
        -- The ampersand is one of those that `c` is written with, and so the first of them.
        obtain ⟨rfl, rfl⟩ := List.cons.inj hlater
        cases before with
        | cons b before =>
          have hinside : '&' ∈ (escapeChar c).tail := by
            rw [hc]
            exact List.mem_append_right _ List.mem_cons_self
          exact absurd hinside (ampersand_notMem_tail c)
        | nil =>
          rcases escapeChar_cases c with hentity | ⟨hself, hamp⟩
          · refine ⟨_, hentity, ?_⟩
            rw [hc]
            exact ⟨escape cs, rfl⟩
          · rw [hself] at hc
            exact absurd (List.cons.inj hc).1 hamp

end Text

namespace Filters

def escapeCall : FilterCall := ⟨"escape", plain escape, none⟩

theorem escape_escape (v : Value) : escape (escape v) = escape v := by
  cases v <;> rfl

/-- An escaped value is shown as it would have been under escaping. -/
theorem shown_escape (autoescape : Bool) (v : Value) :
    Render.shown autoescape (escape v) = Render.shown true v := by
  cases v <;> cases autoescape <;> rfl

end Filters

namespace Expression

/-- An expression with `escape` behind it has the escaped value. -/
theorem exists_read_escape {filters : FilterTable}
    (hfilter : filters "escape" = some (Filters.plain Filters.escape)) {text : String}
    {e : Expression} (h : read filters text = .ok e) :
    ∃ escaped, read filters (text ++ "|escape") = .ok escaped ∧
      ∀ scope v, e.resolve scope = .ok v →
        escaped.resolve scope = .ok (Filters.escape v) := by
  have hchain : IsChain "|escape" := Or.inr ⟨"escape", by decide⟩
  have hpart : (Source.splitUnquoted '|' "|escape".toList).2 = ["escape".toList] := by decide
  have hsplit : splitCall "escape".toList = ("escape".toList, none) := by decide
  have hname : Text.isName "escape".toList = true := by decide
  have hcall : readCall filters [] "escape".toList = .ok Filters.escapeCall := by
    rw [readCall, hsplit]
    dsimp only
    rw [if_pos hname, String.ofList_toList, hfilter]
    rfl
  have hcalls : (Source.splitUnquoted '|' "|escape".toList).2.mapM (readCall filters []) =
      .ok [Filters.escapeCall] := by
    rw [hpart, List.mapM_cons, hcall]
    rfl
  refine ⟨_, (read_append_iff h hchain).2 ⟨_, hcalls, rfl⟩, ?_⟩
  intro scope v hvalue
  rw [resolve_append, hvalue]
  rfl

end Expression

namespace Context

def withAutoescape (ctx : Context) (on : Bool) : Context :=
  { ctx with scope := { ctx.scope with autoescape := on } }

/-- The tag that shows an expression writes its value, as the scope shows it, or fails with the
output and leaves it as it was. -/
theorem renderTo_expression {ctx : Context} {e : Expression} {v : Value}
    (h : e.resolve ctx.scope = .ok v) (depth : Nat) (output : Output) :
    ctx.renderTo depth [.expression e] output =
      match output.add ⟨.value, Render.shown ctx.scope.autoescape v⟩ with
      | some out => (.ok (), out, ctx)
      | none => (.error .output, output, ctx) := by
  rw [renderTo, Node.renderAll_singleton, Node.render_expression_run, h]
  dsimp only
  rw [Render.writeValue_run]
  cases output.add ⟨.value, Render.shown ctx.scope.autoescape v⟩ <;> rfl

/-- All tags whose expressions are shown by the same text do the same to an output. -/
theorem exists_renderTo_shown (depth : Nat) (output : Output) (text : String) :
    ∃ outcome out, (∀ (ctx : Context) (e : Expression) (v : Value),
        e.resolve ctx.scope = .ok v → Render.shown ctx.scope.autoescape v = text →
        ctx.renderTo depth [.expression e] output = (outcome, out, ctx)) ∧
      (output.TakesAll → outcome = .ok () ∧ out.text = output.text ++ text) := by
  have hall : output.TakesAll → ∃ out, output.add ⟨.value, text⟩ = some out ∧
      out.text = output.text ++ text := by
    intro hout
    obtain ⟨out, hwrite, _, htext⟩ :=
      Render.write_of_takesAll (s := ⟨Scope.empty, output⟩) hout .value text
    refine ⟨out, ?_, htext⟩
    cases hadd : output.add ⟨.value, text⟩ <;> simp_all [Render.write]
  cases hadd : output.add ⟨.value, text⟩ with
  | none =>
    refine ⟨.error .output, output, ?_, ?_⟩
    · intro ctx e v hvalue hshown
      rw [renderTo_expression hvalue, hshown, hadd]
    · intro hout
      obtain ⟨out, hadded, _⟩ := hall hout
      exact absurd (hadd.symm.trans hadded) (Option.some_ne_none out).symm
  | some out =>
    refine ⟨.ok (), out, ?_, ?_⟩
    · intro ctx e v hvalue hshown
      rw [renderTo_expression hvalue, hshown, hadd]
    · intro hout
      obtain ⟨out', hadded, htext⟩ := hall hout
      obtain rfl := Option.some.inj (hadd.symm.trans hadded)
      exact ⟨rfl, htext⟩

end Context

namespace Catalog

open Text

variable {catalog : Catalog}

/-- An escaped text has none of the characters that open or close a tag or a quotation, and each
ampersand in it starts an entity; replacing the entities gives back the text that was escaped, and
texts put together are escaped one by one. The tag that shows an expression under escaping, and
those that show it with `escape` behind it once or twice, whether under escaping or not, all write
the same: the value as it is shown under escaping. -/
theorem readAll_escaped (hcatalog : catalog.HasStandardTags)
    (hfilters : catalog.HasStandardFilters) :
    (∀ s : String, FreeOfMarkup (escapeHtml s).toList ∧
        (∀ before after, (escapeHtml s).toList = before ++ '&' :: after →
          ∃ entity ∈ entities, entity.2 <+: '&' :: after) ∧
        unescapeHtml (escapeHtml s) = s) ∧
      Function.Injective escapeHtml ∧
      (∀ s t : String, escapeHtml (s ++ t) = escapeHtml s ++ escapeHtml t) ∧
      ∀ {text : String} {e : Expression}, Expression.read catalog.filter? text = .ok e →
        ∃ once twice : Expression,
          (∀ line, (catalog.readAll { tokens := [⟨.tag .expression, text, line⟩] }).1 =
              .ok [.expression e] ∧
            (catalog.readAll { tokens := [⟨.tag .expression, text ++ "|escape", line⟩] }).1 =
              .ok [.expression once] ∧
            (catalog.readAll
                { tokens := [⟨.tag .expression, text ++ "|escape" ++ "|escape", line⟩] }).1 =
              .ok [.expression twice]) ∧
          ∀ (ctx : Context) (v : Value),
            (∀ on, e.resolve (ctx.withAutoescape on).scope = .ok v) →
            ∀ (depth : Nat) (output : Output), ∃ outcome out,
              (ctx.withAutoescape true).renderTo depth [.expression e] output =
                (outcome, out, ctx.withAutoescape true) ∧
              (∀ on, (ctx.withAutoescape on).renderTo depth [.expression once] output =
                  (outcome, out, ctx.withAutoescape on) ∧
                (ctx.withAutoescape on).renderTo depth [.expression twice] output =
                  (outcome, out, ctx.withAutoescape on)) ∧
              (output.TakesAll →
                outcome = .ok () ∧ out.text = output.text ++ Render.shown true v) := by
  refine ⟨?_, ?_, escapeHtml_append, ?_⟩
  · intro s
    refine ⟨freeOfMarkup_escapeHtml s, ?_, unescapeHtml_escapeHtml s⟩
    intro before after hsplit
    rw [escapeHtml, String.toList_ofList] at hsplit
    exact exists_entity_prefix hsplit
  · exact Function.LeftInverse.injective unescapeHtml_escapeHtml
  · intro text e hread
    have hfilter : catalog.filter? "escape" = some (Filters.plain Filters.escape) :=
      hfilters "escape"
    obtain ⟨once, honce, hvalueOnce⟩ := Expression.exists_read_escape hfilter hread
    obtain ⟨twice, htwice, hvalueTwice⟩ := Expression.exists_read_escape hfilter honce
    refine ⟨once, twice, ?_, ?_⟩
    · exact fun line => ⟨readAll_expression hcatalog hread line,
        readAll_expression hcatalog honce line, readAll_expression hcatalog htwice line⟩
    · intro ctx v hvalue depth output
      obtain ⟨outcome, out, hsame, htext⟩ :=
        Context.exists_renderTo_shown depth output (Render.shown true v)
      refine ⟨outcome, out, hsame _ e v (hvalue true) rfl, ?_, htext⟩
      intro on
      have hescaped := hvalueOnce _ v (hvalue on)
      have hagain := hvalueTwice _ _ hescaped
      rw [Filters.escape_escape] at hagain
      exact ⟨hsame _ _ _ hescaped (Filters.shown_escape on v),
        hsame _ _ _ hagain (Filters.shown_escape on v)⟩

/-- A list is escaped with the entities that are in it already. -/
theorem readAll_escaped_list :
    let catalog := Engine.withDefaults.catalog
    let ctx : Context :=
      { scope := { root := [("x", .list [.str "<b>", .safe "&lt;", .null])] } }
    ∃ plain once twice : Node,
      (catalog.readAll { tokens := [⟨.tag .expression, "x", 1⟩] }).1 = .ok [plain] ∧
      (catalog.readAll { tokens := [⟨.tag .expression, "x|escape", 1⟩] }).1 = .ok [once] ∧
      (catalog.readAll { tokens := [⟨.tag .expression, "x|escape|escape", 1⟩] }).1 =
        .ok [twice] ∧
      ∃ out : Output, out.text = "[&lt;b&gt;, &amp;lt;, ]" ∧
        (ctx.withAutoescape true).renderTo 0 [plain] {} =
          (.ok (), out, ctx.withAutoescape true) ∧
        ∀ on, (ctx.withAutoescape on).renderTo 0 [once] {} =
            (.ok (), out, ctx.withAutoescape on) ∧
          (ctx.withAutoescape on).renderTo 0 [twice] {} =
            (.ok (), out, ctx.withAutoescape on) := by
  intro catalog ctx
  have hread : Expression.read catalog.filter? "x" = .ok (.ofPath ["x"]) := by rfl
  obtain ⟨_, _, _, htags⟩ :=
    readAll_escaped Engine.withDefaults_hasStandardTags Engine.withDefaults_hasStandardFilters
  obtain ⟨once, twice, hreads, hrender⟩ := htags hread
  obtain ⟨hplain, honce, htwice⟩ := hreads 1
  obtain ⟨outcome, out, hshown, hescaped, htext⟩ := hrender ctx _ (fun _ => rfl) 0 {}
  obtain ⟨rfl, hout⟩ := htext ⟨rfl, fun _ _ => rfl⟩
  refine ⟨_, _, _, hplain, honce, htwice, out, ?_, hshown, hescaped⟩
  rw [hout]
  decide +kernel

end Catalog

end TextTemplate
