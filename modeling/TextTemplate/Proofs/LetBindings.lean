import TextTemplate.Proofs.Completeness
import TextTemplate.Proofs.FilterChains
import TextTemplate.Proofs.ScopeKept
import TextTemplate.Proofs.SeenNames
import TextTemplate.Proofs.Tables
import TextTemplate.Proofs.TagWords
import TextTemplate.Proofs.WrittenExpressions

/-!
Bindings as abbreviations. A name that is bound to the value of an expression stands for the
expression: with filters behind it that do not ask for the name themselves, it renders as the
expression does with the same filters. The expressions that are bound together do not see each
other's names, and what is rendered with them sees the last binding of a name.
-/
namespace TextTemplate

open Source Tags

namespace Node

/-- The values of expressions in one scope, each with its name. The first expression without a
value decides. -/
def boundValues (scope : Scope) (names : List (String × Expression)) :
    Except Error (List (String × Value)) :=
  names.mapM fun binding => (binding.2.resolve scope).map fun v => (binding.1, v)

/-- Names are bound in turn, to values of one and the same scope. -/
theorem resolveBindings_eq_setAll (scope : Scope) (frame : Frame)
    (names : List (String × Expression)) :
    resolveBindings scope frame names =
      (boundValues scope names).map fun values => Entries.setAll frame values := by
  induction names generalizing frame with
  | nil => rfl
  | cons binding names ih =>
    obtain ⟨name, e⟩ := binding
    rw [resolveBindings, boundValues, List.mapM_cons]
    dsimp only
    cases e.resolve scope with
    | error err => rfl
    | ok v =>
      have hrest := ih (Entries.set frame name v)
      rw [boundValues] at hrest
      dsimp only
      rw [hrest]
      cases List.mapM (fun binding => (binding.2.resolve scope).map fun v => (binding.1, v)) names
        with
      | error err => rfl
      | ok values => rfl

end Node

namespace Tags

theorem not_isSpace_of_isNameText {name : String} (h : isNameText name = true) :
    ∀ c ∈ name.toList, Text.isSpace c = false := by
  intro c hc
  have hword := Text.isWordChar_of_isName h c hc
  cases hspace : Text.isSpace c with
  | false => rfl
  | true =>
    rw [Text.isWordChar_of_isSpace hspace] at hword
    exact absurd hword Bool.false_ne_true

/-- A name is a word, without any quotations. -/
theorem isWord_of_isNameText {name : String} (h : isNameText name = true) :
    IsWord name.toList ∧ closesQuotes name.toList := by
  have hnonempty : name.toList ≠ [] := by
    intro hempty
    rw [isNameText, hempty] at h
    exact absurd h Bool.false_ne_true
  refine ⟨⟨hnonempty, ?_⟩, ?_⟩
  · intro i hi hspace
    rw [not_isSpace_of_isNameText h _ (List.getElem_mem hi)] at hspace
    exact absurd hspace Bool.false_ne_true
  · exact closesQuotes_of_forall fun c hc => (Expression.isBare_of_isName h c hc).1

/-- A name and the text of an expression, which are one word with an equals sign between them. -/
structure Assignment (filters : Expression.FilterTable) where
  name : String
  text : String
  value : Expression
  isName : isNameText name = true
  isRead : Expression.read filters text = .ok value
  isWord : words (name ++ "=" ++ text) = [name ++ "=" ++ text]

namespace Assignment

variable {filters : Expression.FilterTable}

def written (a : Assignment filters) : String := a.name ++ "=" ++ a.text

def binding (a : Assignment filters) : String × Expression := (a.name, a.value)

theorem toList_written (a : Assignment filters) :
    a.written.toList = a.name.toList ++ '=' :: a.text.toList := by
  rw [written]
  simp

theorem closesQuotes_written (a : Assignment filters) : closesQuotes a.written.toList := by
  have hequals : closesQuotes ['='] := rfl
  rw [toList_written]
  exact closesQuotes_append (isWord_of_isNameText a.isName).2
    (closesQuotes_append hequals (Expression.shields_of_read a.isRead).closed)

theorem splitEquals_written (a : Assignment filters) :
    splitEquals a.written = some (a.name, a.text) := by
  have hname : ∀ c ∈ a.name.toList, (c != '=') = true := by
    intro c hc
    have hword := Text.isWordChar_of_isName a.isName c hc
    rw [bne_iff_ne]
    rintro rfl
    exact absurd hword (by decide)
  have hbefore : a.written.toList.takeWhile (· != '=') = a.name.toList := by
    rw [toList_written, List.takeWhile_append_of_pos hname]
    exact List.append_nil _
  have hafter : a.written.toList.dropWhile (· != '=') = '=' :: a.text.toList := by
    rw [toList_written, List.dropWhile_append_of_pos hname]
    rfl
  rw [splitEquals, hafter, hbefore, String.ofList_toList]
  dsimp only
  rw [String.ofList_toList]

/-- An assignment is read as the name and the expression that it was written for. -/
theorem readAssignment_written (a : Assignment filters) :
    readAssignment filters a.written = .ok a.binding := by
  rw [readAssignment, splitEquals_written]
  dsimp only
  rw [readBinding, a.isName, if_pos rfl, a.isRead]
  rfl

theorem readAssignments_written (assignments : List (Assignment filters)) :
    readAssignments filters (assignments.map written) = .ok (assignments.map binding) := by
  induction assignments with
  | nil => rfl
  | cons a assignments ih =>
    rw [List.map_cons, readAssignments, readAssignment_written, ih]
    rfl

/-- Several assignments in one tag are read as they were written. -/
theorem readBindings_written {assignments : List (Assignment filters)} (h : assignments ≠ []) :
    readBindings filters (assignments.map written) = .ok (assignments.map binding) := by
  have hread := readAssignments_written assignments
  -- No assignment is the word that stands between an expression and its name.
  have hkeyword : "as" ∉ assignments.map written := by
    intro hmem
    obtain ⟨a, _, hword⟩ := List.mem_map.1 hmem
    have hequals : '=' ∈ a.written.toList := by simp [toList_written]
    rw [hword] at hequals
    exact absurd hequals (by decide)
  unfold readBindings
  split
  · rename_i hempty
    exact absurd (List.map_eq_nil_iff.1 hempty) h
  · rename_i value keyword name hwords
    rw [hwords] at hkeyword
    rw [if_neg fun has => hkeyword (by simp [has])]
    exact hwords ▸ hread
  · exact hread

end Assignment

end Tags

namespace Render

theorem within_congr {α : Type} {m m' : Render α} {frame : Frame} {s : RenderState}
    (h : m { s with scope := s.scope.push frame } = m' { s with scope := s.scope.push frame }) :
    within frame m s = within frame m' s := by
  rw [within, within, h]

theorem writeValue_run (v : Value) (scope : Scope) (output : Output) :
    writeValue v ⟨scope, output⟩ =
      match output.add ⟨.value, shown scope.autoescape v⟩ with
      | some out => (.ok (), ⟨scope, out⟩)
      | none => (.error .output, ⟨scope, output⟩) :=
  rfl

theorem within_writeValue (frame : Frame) (v : Value) (s : RenderState) :
    within frame (writeValue v) s = writeValue v s := by
  obtain ⟨scope, output⟩ := s
  have hinner := writeValue_run v (scope.push frame) output
  have hflag : (scope.push frame).autoescape = scope.autoescape := rfl
  rw [hflag] at hinner
  rw [writeValue_run]
  cases hadd : output.add ⟨.value, shown scope.autoescape v⟩ with
  | none =>
    rw [hadd] at hinner
    exact within_run hinner
  | some out =>
    rw [hadd] at hinner
    exact within_run hinner

end Render

namespace Node

variable (fetch : String → Render Unit)

/-- The value of a name in the frame that binds it, with filters that do not ask for the name. -/
theorem resolve_bound (scope : Scope) (name : String) (v : Value) {later : List FilterCall}
    (hlater : ∀ call ∈ later, ∀ argument ∈ call.argument, argument.firstName? ≠ some name)
    (source : String) :
    (⟨source, .path [name], later⟩ : Expression).resolve (scope.push [(name, v)]) =
      Expression.applyCalls scope v later := by
  have hlookup : (scope.push [(name, v)]).lookup name = some v := by
    rw [Scope.lookup_push, Entries.get?, if_pos rfl, Option.some_or]
  have hagree : (scope.push [(name, v)]).Agree (· ≠ name) scope := by
    refine ⟨rfl, rfl, ?_⟩
    intro other hother
    rw [Scope.lookup_push, Entries.get?, if_neg (Ne.symm hother), Entries.get?, Option.none_or]
  have hhead : (Variable.path [name]).resolve (scope.push [(name, v)]) = .ok v := by
    rw [Variable.resolve, Variable.resolve?, hlookup]
    rfl
  rw [Expression.resolve, hhead]
  refine Expression.applyCalls_agree hagree ?_ v
  intro call hcall argument hargument other hother heq
  exact hlater call hcall argument hargument (heq ▸ hother)

theorem renderAll_singleton (node : Node) (s : RenderState) :
    renderAll fetch [node] s = render fetch node s := by
  have hall : renderAll fetch [node] s = (render fetch node >>= fun _ => pure ()) s := rfl
  rcases Attempt.bind_run_cases (render fetch node) (fun _ => pure ()) s with
    ⟨_, after, hrun, hboth⟩ | ⟨err, after, hrun, hboth⟩
  · rw [hall, hboth, hrun]
    rfl
  · rw [hall, hboth, hrun]

/-- A name bound to an expression, with filters behind it, against the expression with the same
filters. -/
theorem render_bound {name : String} (e : Expression) {later : List FilterCall}
    (hlater : ∀ call ∈ later, ∀ argument ∈ call.argument, argument.firstName? ≠ some name)
    (source source' : String) (s : RenderState) :
    render fetch (.binding [(name, e)] [.expression ⟨source, .path [name], later⟩]) s =
      render fetch (.expression ⟨source', e.head, e.calls ++ later⟩) s := by
  rw [render_binding_run, render_expression_run, Expression.resolve_append, resolveBindings]
  cases e.resolve s.scope with
  | error err => rfl
  | ok v =>
    have hframe : resolveBindings s.scope (Entries.set [] name v) [] = .ok [(name, v)] := rfl
    have hinner := resolve_bound s.scope name v hlater source
    dsimp only
    rw [hframe]
    dsimp only
    cases hvalue : Expression.applyCalls s.scope v later with
    | error err =>
      refine Render.within_run ?_
      rw [renderAll_singleton, render_expression_run, hinner, hvalue]
    | ok w =>
      refine Eq.trans ?_ (Render.within_writeValue [(name, v)] w s)
      refine Render.within_congr ?_
      rw [renderAll_singleton, render_expression_run, hinner, hvalue]

end Node

namespace Context

/-- Several bindings: the expressions are resolved in the scope outside, and the body is rendered
with a frame in which the last binding of a name counts. -/
theorem renderTo_bindings (ctx : Context) (names : List (String × Expression)) (body : List Node)
    (depth : Nat) (output : Output) :
    (∀ err, Node.boundValues ctx.scope names = .error err →
      ctx.renderTo depth [.binding names body] output = (.error err, output, ctx)) ∧
    ∀ values, Node.boundValues ctx.scope names = .ok values →
      let inner : Context := { ctx with scope := ctx.scope.push (Entries.ofList values) }
      (∀ name, inner.scope.lookup name =
        (Entries.get? values.reverse name).or (ctx.scope.lookup name)) ∧
      ctx.renderTo depth [.binding names body] output =
        let (outcome, out, after) := inner.renderTo depth body output
        (outcome, out, { after with scope := after.scope.truncate ctx.scope.depth }) := by
  have hrun := @Node.render_binding_run (ctx.fetch depth) names body ⟨ctx.scope, output⟩
  rw [Node.resolveBindings_eq_setAll] at hrun
  refine ⟨?_, ?_⟩
  · intro err herr
    rw [herr] at hrun
    rw [renderTo, Node.renderAll_singleton, hrun]
    rfl
  · intro values hvalues
    rw [hvalues] at hrun
    intro inner
    refine ⟨?_, ?_⟩
    · intro name
      have hframe := Entries.get?_setAll [] values name
      rw [Entries.get?, Option.or_none] at hframe
      change (ctx.scope.push (Entries.ofList values)).lookup name = _
      rw [Scope.lookup_push, Entries.ofList, hframe]
    · rw [renderTo, Node.renderAll_singleton, hrun]
      rfl

end Context

namespace Catalog

variable {catalog : Catalog}

theorem opening_with {found : List String}
    (hfound : ∀ word ∈ found, IsWord word.toList ∧ closesQuotes word.toList) (line : Nat) :
    let opening : Token := ⟨.tag .block, "with " ++ String.intercalate " " found, line⟩
    opening.tagName? = some "with" ∧ words opening.splitTag.2 = found := by
  intro opening
  obtain ⟨hwords, hclosed⟩ := words_intercalate hfound
  have hname : isNameText "with" = true := by decide
  have hcontent : opening.content = "with" ++ " " ++ String.intercalate " " found :=
    congrArg (fun s => s ++ String.intercalate " " found) (show "with " = "with" ++ " " by decide)
  obtain ⟨hfirst, hargs⟩ :=
    Token.splitTag_words (.tag .block) line (not_isSpace_of_isNameText hname) hclosed
  rw [← hcontent] at hfirst hargs
  exact ⟨Token.tagName?_eq_some_iff.2 ⟨rfl, hfirst⟩, hargs.trans hwords⟩

theorem closing_with (line : Nat) :
    (⟨.tag .block, "endwith", line⟩ : Token).tagName? = some "endwith" := by
  refine Token.tagName?_eq_some_iff.2 ⟨rfl, ?_⟩
  change String.ofList ("endwith".toList.takeWhile fun c => !Text.isSpace c) = "endwith"
  decide +kernel

/-- A block, a body and the end of the block are read as one node. -/
theorem readAll_binding (hcatalog : catalog.HasStandardTags) {opening closing : Token}
    {names : List (String × Expression)} {body : List Item}
    (hopening : opening.tagName? = some "with")
    (hnames : readBindings catalog.filter? (words opening.splitTag.2) = .ok names)
    (hbody : Item.AllWellFormed catalog.filter? body)
    (hclosing : closing.tagName? = some "endwith") :
    (catalog.readAll { tokens := opening :: (Item.allTokens body ++ [closing]) }).1 =
      .ok [.binding names (Item.nodes body)] := by
  have hitem : Item.WellFormed catalog.filter? (.binding opening names body closing) :=
    ⟨hopening, hnames, hbody, hclosing⟩
  have hderives : Item.Derives catalog.filter? [.binding opening names body closing]
      (opening :: (Item.allTokens body ++ [closing])) := by
    refine ⟨⟨hitem, trivial⟩, ?_⟩
    rw [Item.allTokens, Item.tokens, Item.allTokens, List.append_nil]
  exact readAll_of_derives hcatalog hderives

theorem readAll_expression (hcatalog : catalog.HasStandardTags) {text : String} {e : Expression}
    (hread : Expression.read catalog.filter? text = .ok e) (line : Nat) :
    (catalog.readAll { tokens := [⟨.tag .expression, text, line⟩] }).1 = .ok [.expression e] := by
  have hitem : Item.WellFormed catalog.filter? (.expression ⟨.tag .expression, text, line⟩ e) :=
    ⟨rfl, hread⟩
  have hderives : Item.Derives catalog.filter? [.expression ⟨.tag .expression, text, line⟩ e]
      [⟨.tag .expression, text, line⟩] := ⟨⟨hitem, trivial⟩, rfl⟩
  exact readAll_of_derives hcatalog hderives

/-- A block that binds a name to an expression, which is a single word. -/
theorem readAll_binding_as (hcatalog : catalog.HasStandardTags) {value name : String}
    {e : Expression} (hword : words value = [value])
    (hvalue : Expression.read catalog.filter? value = .ok e) (hname : isNameText name = true)
    {inner : String} {f : Expression} (hinner : Expression.read catalog.filter? inner = .ok f)
    (line line' line'' : Nat) :
    (catalog.readAll { tokens :=
      [⟨.tag .block, "with " ++ value ++ " as " ++ name, line⟩,
        ⟨.tag .expression, inner, line'⟩, ⟨.tag .block, "endwith", line''⟩] }).1 =
      .ok [.binding [(name, e)] [.expression f]] := by
  have hwords : ∀ word ∈ [value, "as", name], IsWord word.toList ∧ closesQuotes word.toList := by
    refine List.forall_mem_cons.2 ⟨⟨isWord_of_words hword, ?_⟩, List.forall_mem_cons.2 ⟨?_, ?_⟩⟩
    · exact (Expression.shields_of_read hvalue).closed
    · exact ⟨⟨by decide, by decide⟩, by decide⟩
    · exact List.forall_mem_singleton.2 (isWord_of_isNameText hname)
  have hcontent : "with " ++ value ++ " as " ++ name =
      "with " ++ String.intercalate " " [value, "as", name] := by
    rw [← String.toList_inj]
    simp [String.intercalate_cons_cons]
  obtain ⟨hopening, hargs⟩ := opening_with hwords line
  rw [← hcontent] at hopening hargs
  have hnames : readBindings catalog.filter? [value, "as", name] = .ok [(name, e)] := by
    rw [readBindings, if_pos rfl, readBinding, hname, if_pos rfl, hvalue]
    rfl
  rw [← hargs] at hnames
  have hbody : Item.AllWellFormed catalog.filter?
      [.expression ⟨.tag .expression, inner, line'⟩ f] := ⟨⟨rfl, hinner⟩, trivial⟩
  have hread := readAll_binding hcatalog hopening hnames hbody (closing_with line'')
  exact hread

/-- A name that is bound to an expression stands for it: the tag that shows the name with some
filters can be read if the tag can that shows the expression with these filters, and renders to
the same outcome and output, unless a filter asks for the name. If one tag binds several names,
then each expression is resolved in the scope outside of the tag, and its body sees the last
binding of a name. -/
theorem readAll_bindings (hcatalog : catalog.HasStandardTags) :
    (∀ {value name chain : String} {e : Expression}, words value = [value] →
      Expression.read catalog.filter? value = .ok e → isNameText name = true →
      Expression.IsChain chain →
      ((∃ f, Expression.read catalog.filter? (name ++ chain) = .ok f) ↔
        ∃ g, Expression.read catalog.filter? (value ++ chain) = .ok g) ∧
      ∀ f g, Expression.read catalog.filter? (name ++ chain) = .ok f →
        Expression.read catalog.filter? (value ++ chain) = .ok g →
        (∀ call ∈ f.calls, ∀ argument ∈ call.argument, argument.firstName? ≠ some name) →
        ∀ line line' line'' : Nat,
          (catalog.readAll { tokens :=
            [⟨.tag .block, "with " ++ value ++ " as " ++ name, line⟩,
              ⟨.tag .expression, name ++ chain, line'⟩, ⟨.tag .block, "endwith", line''⟩] }).1 =
            .ok [.binding [(name, e)] [.expression f]] ∧
          (catalog.readAll { tokens := [⟨.tag .expression, value ++ chain, line⟩] }).1 =
            .ok [.expression g] ∧
          ∀ (ctx : Context) (depth : Nat) (output : Output),
            ctx.renderTo depth [.binding [(name, e)] [.expression f]] output =
              ctx.renderTo depth [.expression g] output) ∧
    ∀ (assignments : List (Assignment catalog.filter?)), assignments ≠ [] →
      ∀ body, Item.AllWellFormed catalog.filter? body → ∀ line line' : Nat,
        let names := assignments.map Assignment.binding
        let nodes := Item.nodes body
        (catalog.readAll { tokens :=
          ⟨.tag .block, "with " ++ String.intercalate " " (assignments.map Assignment.written),
            line⟩ :: (Item.allTokens body ++ [⟨.tag .block, "endwith", line'⟩]) }).1 =
          .ok [.binding names nodes] ∧
        ∀ (ctx : Context) (depth : Nat) (output : Output),
          (∀ err, Node.boundValues ctx.scope names = .error err →
            ctx.renderTo depth [.binding names nodes] output = (.error err, output, ctx)) ∧
          ∀ values, Node.boundValues ctx.scope names = .ok values →
            let inner : Context := { ctx with scope := ctx.scope.push (Entries.ofList values) }
            (∀ name, inner.scope.lookup name =
              (Entries.get? values.reverse name).or (ctx.scope.lookup name)) ∧
            ctx.renderTo depth [.binding names nodes] output =
              let (outcome, out, after) := inner.renderTo depth nodes output
              (outcome, out, { after with scope := after.scope.truncate ctx.scope.depth }) := by
  refine ⟨?_, ?_⟩
  · intro value name chain e hword hvalue hname hchain
    have hself := Expression.read_name catalog.filter? hname
    have hnamed := fun f => @Expression.read_append_iff _ name chain _ f hself hchain
    have hdirect := fun g => @Expression.read_append_iff _ value chain _ g hvalue hchain
    refine ⟨?_, ?_⟩
    · constructor
      · rintro ⟨f, hf⟩
        obtain ⟨later, hlater, _⟩ := (hnamed f).1 hf
        exact ⟨_, (hdirect _).2 ⟨later, hlater, rfl⟩⟩
      · rintro ⟨g, hg⟩
        obtain ⟨later, hlater, _⟩ := (hdirect g).1 hg
        exact ⟨_, (hnamed _).2 ⟨later, hlater, rfl⟩⟩
    · intro f g hf hg hargs line line' line''
      refine ⟨readAll_binding_as hcatalog hword hvalue hname hf line line' line'',
        readAll_expression hcatalog hg line, ?_⟩
      obtain ⟨later, hlater, rfl⟩ := (hnamed f).1 hf
      obtain ⟨later', hlater', rfl⟩ := (hdirect g).1 hg
      obtain rfl := Except.ok.inj (hlater.symm.trans hlater')
      intro ctx depth output
      have hrender := Node.render_bound (ctx.fetch depth) e hargs
        (String.ofList (Text.trim (name ++ chain).toList))
        (String.ofList (Text.trim (value ++ chain).toList)) ⟨ctx.scope, output⟩
      rw [Context.renderTo, Context.renderTo, Node.renderAll_singleton, Node.renderAll_singleton]
      exact congrArg (fun run => (run.1, run.2.output, { ctx with scope := run.2.scope })) hrender
  · intro assignments hne body hbody line line' names nodes
    have hwords : ∀ word ∈ assignments.map Assignment.written,
        IsWord word.toList ∧ closesQuotes word.toList := by
      intro word hmem
      obtain ⟨a, _, rfl⟩ := List.mem_map.1 hmem
      exact ⟨isWord_of_words a.isWord, a.closesQuotes_written⟩
    obtain ⟨hopening, hargs⟩ := opening_with hwords line
    have hread := Assignment.readBindings_written hne
    refine ⟨readAll_binding hcatalog hopening (hargs.symm ▸ hread) hbody (closing_with line'),
      ?_⟩
    intro ctx depth output
    exact ctx.renderTo_bindings names nodes depth output

def fallback : FilterCall :=
  ⟨"default", Filters.withArgument Filters.default, some (.literal (.safe "a b"))⟩

def shouted : List FilterCall :=
  [⟨"upper", Filters.ofText Text.upper, none⟩,
    ⟨"add", Filters.withArgument Filters.add, some (.path ["a"])⟩]

theorem read_fallback :
    let filters := Engine.withDefaults.catalog.filter?
    Expression.read filters "x|default:'a b'" =
        .ok ⟨"x|default:'a b'", .path ["x"], [fallback]⟩ ∧
      Expression.read filters "x|upper|add:a" = .ok ⟨"x|upper|add:a", .path ["x"], shouted⟩ ∧
      Expression.read filters "x|default:'a b'|upper|add:a" =
        .ok ⟨"x|default:'a b'|upper|add:a", .path ["x"], fallback :: shouted⟩ := by
  intro filters
  let bare : Spaces := ⟨[], nofun⟩
  let call : WrittenCall filters :=
    ⟨"default", _, bare, bare, some ⟨bare, .quoted '\x27' rfl "a b", bare⟩, by decide, rfl⟩
  have hshouted : ∀ text, ["upper".toList, "add:a".toList].mapM
      (Expression.readCall filters text) = .ok shouted := fun _ => rfl
  refine ⟨?_, by rfl, ?_⟩
  · have hparts : splitUnquoted '|' "x|default:'a b'".toList = (['x'], [call.written]) := by
      decide +kernel
    rw [Expression.read_eq_ok_iff, hparts, List.mapM_cons, call.readCall_written]
    exact ⟨rfl, rfl, by decide +kernel⟩
  · have hparts : splitUnquoted '|' "x|default:'a b'|upper|add:a".toList =
        (['x'], [call.written, "upper".toList, "add:a".toList]) := by
      decide +kernel
    rw [Expression.read_eq_ok_iff, hparts, List.mapM_cons, call.readCall_written, hshouted]
    exact ⟨rfl, rfl, by decide +kernel⟩

def rebindings : List (Assignment Engine.withDefaults.catalog.filter?) :=
  [⟨"a", "'1 2'", ⟨"'1 2'", .literal (.safe "1 2"), []⟩, by decide, by rfl, by decide +kernel⟩,
    ⟨"x", "a", ⟨"a", .path ["a"], []⟩, by decide, by rfl, by decide +kernel⟩,
    ⟨"a", "x", ⟨"x", .path ["x"], []⟩, by decide, by rfl, by decide +kernel⟩]

/-- The name hides a variable of its own expression, and a filter asks for another one. In the
other tag a name is bound again, and two names are bound to what the other one is outside. -/
theorem readAll_bindings_hiding :
    let catalog := Engine.withDefaults.catalog
    let ctx : Context := { scope := { root := [("a", .str "1"), ("x", .str "<i>")] } }
    (∃ bound direct,
      (catalog.readAll { tokens := [⟨.tag .block, "with x|default:'a b' as x", 1⟩,
        ⟨.tag .expression, "x|upper|add:a", 2⟩, ⟨.tag .block, "endwith", 3⟩] }).1 = .ok [bound] ∧
      (catalog.readAll { tokens := [⟨.tag .expression, "x|default:'a b'|upper|add:a", 1⟩] }).1 =
        .ok [direct] ∧
      ctx.renderTo 0 [bound] {} = ctx.renderTo 0 [direct] {} ∧
      (ctx.renderTo 0 [direct] {}).2.1.text = "&lt;I&gt;1") ∧
    ∃ (names : List (String × Expression)) (inner : Context),
      (catalog.readAll { tokens :=
        [⟨.tag .block, "with a='1 2' x=a a=x", 1⟩, ⟨.tag .block, "endwith", 2⟩] }).1 =
        .ok [.binding names []] ∧
      inner.scope.lookup "a" = some (.str "<i>") ∧ inner.scope.lookup "x" = some (.str "1") ∧
      ctx.renderTo 0 [.binding names []] {} = (.ok (), {}, ctx) := by
  intro catalog ctx
  have hcatalog : catalog.HasStandardTags := Engine.withDefaults_hasStandardTags
  obtain ⟨hvalue, hbound, hdirect⟩ := read_fallback
  have hword : words "x|default:'a b'" = ["x|default:'a b'"] := by decide +kernel
  have hname : isNameText "x" = true := by decide
  have hchain : Expression.IsChain "|upper|add:a" := Or.inr ⟨"upper|add:a", rfl⟩
  have hargs : ∀ call ∈ shouted, ∀ argument ∈ call.argument, argument.firstName? ≠ some "x" := by
    have hnone : ∀ argument ∈ (none : Option Variable), argument.firstName? ≠ some "x" :=
      fun _ hmem => nomatch hmem
    refine List.forall_mem_cons.2 ⟨hnone, List.forall_mem_singleton.2 ?_⟩
    intro argument hargument
    obtain rfl := Option.mem_some_iff.1 hargument
    decide
  have hvalues : Node.boundValues ctx.scope (rebindings.map Assignment.binding) =
      .ok [("a", .safe "1 2"), ("x", .str "1"), ("a", .str "<i>")] := rfl
  obtain ⟨hread, hplain, hsame⟩ :=
    ((readAll_bindings hcatalog).1 hword hvalue hname hchain).2 _ _ hbound hdirect hargs 1 2 3
  obtain ⟨hreadAll, hrender⟩ :=
    (readAll_bindings hcatalog).2 rebindings (List.cons_ne_nil _ _) [] trivial 1 2
  obtain ⟨hlookup, hrun⟩ := (hrender ctx 0 {}).2 _ hvalues
  refine ⟨⟨_, _, hread, hplain, hsame ctx 0 {}, ?_⟩, _, _, hreadAll, hlookup "a", hlookup "x", hrun⟩
  decide +kernel

end Catalog

end TextTemplate
