import TextTemplate.Engine.Context
import TextTemplate.Proofs.BoundedOutputs
import TextTemplate.Proofs.Derivations
import TextTemplate.Proofs.PrintedTokens

/-!
Templates without blocks. Such a template is its text with expressions and comments in it. It
compiles if its expressions can be read, and it is rendered span by span: an expression is
replaced by its value, a comment by nothing, and all other text stays where it is. If no opener
in a text is followed by its closer, then there is no tag, and nothing is replaced.
-/
namespace TextTemplate

open Source Text

namespace Source

/-- A span that neither is a block nor depends on one. -/
def Span.IsInline : Span → Prop
  | .tag .block _ => False
  | .lineBreak _ => False
  | _ => True

/-- No opener in the text is followed by the closer that belongs to it. -/
def LeavesOpen (cs : List Char) : Prop :=
  ∀ (kind : TagKind) (after : List Char), '\x7b' :: kind.openMark :: after <:+ cs →
    ¬ kind.closer <:+: after

theorem leavesOpen_iff {cs : List Char} :
    LeavesOpen cs ↔ ∀ tail ∈ cs.tails, ∀ kind ∈ [TagKind.expression, .block, .comment],
      ['\x7b', kind.openMark] <+: tail → ¬ kind.closer <:+: tail.drop 2 := by
  constructor
  · rintro h tail htail kind _ ⟨after, rfl⟩
    exact h kind after ((List.mem_tails _ _).1 htail)
  · intro h kind after hopener
    have hkind : kind ∈ [TagKind.expression, .block, .comment] := by cases kind <;> decide
    exact h _ ((List.mem_tails _ _).2 hopener) kind hkind ⟨after, rfl⟩

instance (cs : List Char) : Decidable (LeavesOpen cs) := decidable_of_iff _ leavesOpen_iff.symm

theorem isInline_of_laid {trimBlocks : Bool} {spans : List Span} (h : Laid trimBlocks spans)
    (hfirst : ∀ nl, spans.head? ≠ some (.lineBreak nl))
    (hblock : ∀ body, .tag .block body ∉ spans) : ∀ span ∈ spans, span.IsInline := by
  induction spans with
  | nil => exact List.forall_mem_nil _
  | cons span spans ih =>
    obtain ⟨hfits, hlaid⟩ := h
    have hlater : ∀ body, .tag .block body ∉ spans :=
      fun body hmem => hblock body (List.mem_cons_of_mem _ hmem)
    cases span with
    | text cs =>
      refine List.forall_mem_cons.2 ⟨trivial, ih hlaid ?_ hlater⟩
      intro nl hhead
      obtain ⟨kind, body, htag⟩ := hfits.2 _ hhead
      simp at htag
    | tag kind body =>
      have hkind : kind ≠ .block := by
        rintro rfl
        exact hblock body List.mem_cons_self
      refine List.forall_mem_cons.2 ⟨?_, ih hlaid ?_ hlater⟩
      · cases kind with
        | block => exact absurd rfl hkind
        | expression => trivial
        | comment => trivial
      · intro nl hhead
        exact hkind ((hfits nl).1 hhead).2.1
    | lineBreak nl => exact absurd rfl (hfirst nl)

theorem isInline_spans {trimBlocks : Bool} {cs : List Char}
    (hblock : ∀ body, .tag .block body ∉ spans trimBlocks cs) :
    ∀ span ∈ spans trimBlocks cs, span.IsInline :=
  isInline_of_laid (spans_layout trimBlocks cs).laid (spans_layout trimBlocks cs).first hblock

/-- A tag is an opener in the text with its closer behind it. -/
theorem not_mem_spans_of_leavesOpen {cs : List Char} (h : LeavesOpen cs) (trimBlocks : Bool)
    (kind : TagKind) (body : List Char) : .tag kind body ∉ spans trimBlocks cs := by
  intro hmem
  obtain ⟨before, later, hspans⟩ := List.append_of_mem hmem
  have hwritten := (spans_layout trimBlocks cs).written
  rw [hspans, writtenAll, List.flatMap_append, List.flatMap_cons] at hwritten
  refine h kind (body ++ kind.closer ++ writtenAll later) ⟨writtenAll before, ?_⟩ ⟨body, _, rfl⟩
  rw [← hwritten]
  simp [writtenAll, Span.written, TagKind.closer]

end Source

namespace Token

/-- The contents of the tokens of a kind are the trimmed bodies of the tags. -/
theorem forall_ofSpans_iff {kind : TagKind} {P : String → Prop} (line : Nat)
    (spans : List Span) :
    (∀ t ∈ ofSpans line spans, t.kind = .tag kind → P t.content) ↔
      ∀ body, .tag kind body ∈ spans → P (String.ofList (trim body)) := by
  induction spans generalizing line with
  | nil => simp [ofSpans]
  | cons span spans ih =>
    cases span with
    | text cs => simp [ofSpans, ih]
    | tag kind' body' =>
      rw [ofSpans, List.forall_mem_cons, ih]
      constructor
      · rintro ⟨hfirst, hlater⟩ body hmem
        rcases List.mem_cons.1 hmem with heq | hmem
        · obtain ⟨rfl, rfl⟩ := Span.tag.inj heq
          exact hfirst rfl
        · exact hlater body hmem
      · intro h
        refine ⟨?_, fun body hmem => h body (List.mem_cons_of_mem _ hmem)⟩
        intro hkind
        obtain rfl := TokenKind.tag.inj hkind
        exact h body' List.mem_cons_self
    | lineBreak nl => simp [ofSpans, ih]

end Token

inductive ReadInline (filters : Expression.FilterTable) : List Span → List Node → Prop where
  | nil : ReadInline filters [] []
  | text {spans : List Span} {nodes : List Node} (cs : List Char)
      (hlater : ReadInline filters spans nodes) :
      ReadInline filters (.text cs :: spans) (.text (String.ofList cs) :: nodes)
  | comment {spans : List Span} {nodes : List Node} (body : List Char)
      (hlater : ReadInline filters spans nodes) :
      ReadInline filters (.tag .comment body :: spans) nodes
  | expression {spans : List Span} {nodes : List Node} {body : List Char} {e : Expression}
      (hread : Expression.read filters (String.ofList (trim body)) = .ok e)
      (hlater : ReadInline filters spans nodes) :
      ReadInline filters (.tag .expression body :: spans) (.expression e :: nodes)

/-- Spans without blocks are read if each expression among them can be. -/
theorem exists_readInline {filters : Expression.FilterTable} {spans : List Span}
    (hinline : ∀ span ∈ spans, span.IsInline)
    (hread : ∀ body, .tag .expression body ∈ spans →
      ∃ e, Expression.read filters (String.ofList (trim body)) = .ok e) :
    ∃ nodes, ReadInline filters spans nodes := by
  induction spans with
  | nil => exact ⟨[], .nil⟩
  | cons span spans ih =>
    obtain ⟨hspan, hspans⟩ := List.forall_mem_cons.1 hinline
    obtain ⟨nodes, hnodes⟩ := ih hspans fun body hmem => hread body (List.mem_cons_of_mem _ hmem)
    cases span with
    | text cs => exact ⟨_, .text cs hnodes⟩
    | tag kind body =>
      cases kind with
      | expression =>
        obtain ⟨e, he⟩ := hread body List.mem_cons_self
        exact ⟨_, .expression he hnodes⟩
      | block => exact hspan.elim
      | comment => exact ⟨_, .comment body hnodes⟩
    | lineBreak nl => exact hspan.elim

namespace Catalog

variable {catalog : Catalog} {budget : Nat} {stops : List String} {r : Reader}

theorem exists_budget_of_cons {t : Token} {rest : List Token} (htokens : r.tokens = t :: rest)
    (hbudget : r.tokens.length < budget) :
    ∃ later, budget = later + 1 ∧ (r.past t rest).tokens.length < later := by
  obtain ⟨later, rfl⟩ := Nat.exists_eq_add_one_of_ne_zero (Nat.ne_zero_of_lt hbudget)
  rw [htokens, List.length_cons] at hbudget
  exact ⟨later, rfl, Nat.lt_of_succ_lt_succ hbudget⟩

/-- The reader takes spans without blocks to their nodes. -/
theorem readItems_of_readInline {spans : List Span} {nodes : List Node}
    (h : ReadInline catalog.filter? spans nodes) {line : Nat}
    (htokens : r.tokens = Token.ofSpans line spans) (hbudget : r.tokens.length < budget) :
    ∃ r', catalog.readItems budget stops r = (.ok (nodes, none), r') := by
  induction h generalizing budget r line with
  | nil =>
    obtain ⟨budget, rfl⟩ := Nat.exists_eq_add_one_of_ne_zero (Nat.ne_zero_of_lt hbudget)
    exact ⟨r, readItems_of_nil htokens⟩
  | text cs hlater ih =>
    rw [Token.ofSpans] at htokens
    obtain ⟨budget, rfl, hless⟩ := exists_budget_of_cons htokens hbudget
    obtain ⟨r', hr'⟩ := ih (r := r.past _ _) rfl hless
    refine ⟨r', ?_⟩
    rw [readItems_of_text htokens rfl]
    exact addNode_eq_ok_iff.2 ⟨_, rfl, hr'⟩
  | comment body hlater ih =>
    rw [Token.ofSpans] at htokens
    obtain ⟨budget, rfl, hless⟩ := exists_budget_of_cons htokens hbudget
    obtain ⟨r', hr'⟩ := ih (r := r.past _ _) rfl hless
    exact ⟨r', (readItems_of_comment htokens rfl).trans hr'⟩
  | @expression spans nodes body e hread hlater ih =>
    rw [Token.ofSpans] at htokens
    obtain ⟨budget, rfl, hless⟩ := exists_budget_of_cons htokens hbudget
    obtain ⟨r', hr'⟩ := ih (r := r.past _ _) rfl hless
    have hnode : ∀ r : Reader, catalog.readExpression
        ⟨.tag .expression, String.ofList (trim body), line⟩ r = (.ok (.expression e), r) :=
      fun r => readExpression_eq_ok_iff.2 ⟨e, hread, rfl, rfl⟩
    refine ⟨r', ?_⟩
    rw [readItems_of_expression htokens rfl, Attempt.bind_of_ok (hnode _)]
    exact addNode_eq_ok_iff.2 ⟨nodes, rfl, hr'⟩

/-- Whatever is read from tokens without blocks, the expressions among them were read. -/
theorem forall_read_of_readItems (hblock : ∀ t ∈ r.tokens, t.kind ≠ .tag .block)
    {nodes : List Node} {stop : Option Token} {r' : Reader}
    (h : catalog.readItems budget stops r = (.ok (nodes, stop), r')) :
    ∀ t ∈ r.tokens, t.kind = .tag .expression →
      ∃ e, Expression.read catalog.filter? t.content = .ok e := by
  induction budget generalizing r nodes with
  | zero => simp [readItems, Reading.failAtTag] at h
  | succ budget ih =>
    cases htokens : r.tokens with
    | nil => exact List.forall_mem_nil _
    | cons t rest =>
      rw [htokens] at hblock
      obtain ⟨hfirst, hrest⟩ := List.forall_mem_cons.1 hblock
      cases hkind : t.kind with
      | text =>
        rw [readItems_of_text htokens hkind] at h
        obtain ⟨later, _, hlater⟩ := addNode_eq_ok_iff.1 h
        refine List.forall_mem_cons.2 ⟨?_, ih hrest hlater⟩
        intro hexpression
        simp [hkind] at hexpression
      | tag kind =>
        cases kind with
        | block => exact absurd hkind hfirst
        | comment =>
          rw [readItems_of_comment htokens hkind] at h
          refine List.forall_mem_cons.2 ⟨?_, ih hrest h⟩
          intro hexpression
          simp [hkind] at hexpression
        | expression =>
          rw [readItems_of_expression htokens hkind] at h
          obtain ⟨node, r₁, hnode, hlater⟩ := Attempt.bind_eq_ok_iff.1 h
          obtain ⟨e, hread, _, rfl⟩ := readExpression_eq_ok_iff.1 hnode
          obtain ⟨later, _, hlater⟩ := addNode_eq_ok_iff.1 hlater
          exact List.forall_mem_cons.2 ⟨fun _ => ⟨e, hread⟩, ih hrest hlater⟩

end Catalog

structure Output.TakesAll (out : Output) : Prop where
  room : out.room = none
  never : ∀ pieces piece, out.refuses pieces piece = false

namespace Render

theorem write_of_takesAll {s : RenderState} (h : s.output.TakesAll) (origin : Origin)
    (text : String) :
    ∃ out, write origin text s = (.ok (), { s with output := out }) ∧ out.TakesAll ∧
      out.text = s.output.text ++ text := by
  let out : Output := { s.output with pieces := ⟨origin, text⟩ :: s.output.pieces }
  have hadd : s.output.add ⟨origin, text⟩ = some out := by
    simp [out, Output.add, h.never, h.room]
  have htext : out.text = s.output.text ++ String.join [text] :=
    Output.text_of_append [⟨origin, text⟩] rfl
  refine ⟨out, ?_, ⟨h.room, h.never⟩, ?_⟩
  · rw [write, hadd]
  · rw [htext]
    simp

end Render

def Expression.shown (filters : Expression.FilterTable) (scope : Scope) (text : String) : String :=
  match Expression.read filters text with
  | .error _ => ""
  | .ok e =>
    match e.resolve scope with
    | .error _ => ""
    | .ok v => Render.shown scope.autoescape v

def Source.Span.substituted (filters : Expression.FilterTable) (scope : Scope) :
    Span → List Char
  | .tag .expression body =>
    (Expression.shown filters scope (String.ofList (trim body))).toList
  | .tag .comment _ => []
  | span => span.written

theorem Expression.shown_of_resolve {filters : Expression.FilterTable} {scope : Scope}
    {text : String} {e : Expression} {v : Value} (hread : Expression.read filters text = .ok e)
    (hresolve : e.resolve scope = .ok v) :
    Expression.shown filters scope text = Render.shown scope.autoescape v := by
  simp only [Expression.shown, hread, hresolve]

/-- Rendering adds to the output what it has in place of the spans, and leaves the scope. -/
theorem Node.renderAll_of_readInline {filters : Expression.FilterTable}
    {fetch : String → Render Unit} {spans : List Span} {nodes : List Node}
    (h : ReadInline filters spans nodes) {s : RenderState} (hout : s.output.TakesAll)
    (hresolve : ∀ body, .tag .expression body ∈ spans → ∃ e v,
      Expression.read filters (String.ofList (trim body)) = .ok e ∧ e.resolve s.scope = .ok v) :
    ∃ out, renderAll fetch nodes s = (.ok (), { s with output := out }) ∧
      out.text = s.output.text ++
        String.ofList (spans.flatMap (Span.substituted filters s.scope)) := by
  -- No span changes the scope, so the values are told by the scope at the start throughout.
  induction h generalizing s with
  | nil => exact ⟨s.output, rfl, by simp⟩
  | text cs hlater ih =>
    obtain ⟨out, hwrite, hout', htext⟩ :=
      Render.write_of_takesAll hout .template (String.ofList cs)
    obtain ⟨out', hrender, htext'⟩ := ih (s := { s with output := out }) hout'
      fun body hmem => hresolve body (List.mem_cons_of_mem _ hmem)
    refine ⟨out', (Attempt.bind_of_ok hwrite).trans hrender, ?_⟩
    rw [htext', htext, List.flatMap_cons, String.ofList_append, String.append_assoc]
    rfl
  | comment body hlater ih =>
    exact ih hout fun body hmem => hresolve body (List.mem_cons_of_mem _ hmem)
  | @expression spans nodes body e hread hlater ih =>
    obtain ⟨e', v, hread', hvalue⟩ := hresolve body List.mem_cons_self
    obtain rfl : e = e' := Except.ok.inj (hread.symm.trans hread')
    obtain ⟨out, hwrite, hout', htext⟩ :=
      Render.write_of_takesAll hout .value (Render.shown s.scope.autoescape v)
    have hnode : render fetch (.expression e) s = (.ok (), { s with output := out }) := by
      rw [render_expression_run, hvalue]
      exact hwrite
    obtain ⟨out', hrender, htext'⟩ := ih (s := { s with output := out }) hout'
      fun body hmem => hresolve body (List.mem_cons_of_mem _ hmem)
    refine ⟨out', (Attempt.bind_of_ok hnode).trans hrender, ?_⟩
    rw [htext', htext, List.flatMap_cons, String.ofList_append, String.append_assoc,
      Span.substituted, Expression.shown_of_resolve hread hvalue, String.ofList_toList]

namespace Catalog

variable {catalog : Catalog} {trimBlocks : Bool} {source : String}

theorem compile_of_readInline {nodes : List Node}
    (h : ReadInline catalog.filter? (spans trimBlocks source.toList) nodes) :
    catalog.compile trimBlocks source = .ok nodes := by
  let r : Reader := { tokens := Token.scan trimBlocks source }
  have hread : ∃ r', catalog.readItems r.budget [] r = (.ok (nodes, none), r') :=
    readItems_of_readInline h rfl r.length_lt_budget
  exact compile_eq_ok_iff_readItems.2 ⟨none, hread⟩

theorem render_of_readInline {nodes : List Node} {ctx : Context}
    (h : ReadInline catalog.filter? (spans trimBlocks source.toList) nodes)
    (hresolve : ∀ body, .tag .expression body ∈ spans trimBlocks source.toList → ∃ e v,
      Expression.read catalog.filter? (String.ofList (trim body)) = .ok e ∧
        e.resolve ctx.scope = .ok v) :
    ctx.render nodes = (.ok (String.ofList ((spans trimBlocks source.toList).flatMap
      (Span.substituted catalog.filter? ctx.scope))), ctx) := by
  have hout : Output.TakesAll {} := ⟨rfl, fun _ _ => rfl⟩
  have hrendered : ∃ out, Node.renderAll (ctx.fetch Engine.includeDepth) nodes ⟨ctx.scope, {}⟩ =
      (.ok (), ⟨ctx.scope, out⟩) ∧ out.text = "" ++ String.ofList
        ((spans trimBlocks source.toList).flatMap (Span.substituted catalog.filter? ctx.scope)) :=
    Node.renderAll_of_readInline h hout hresolve
  obtain ⟨out, hrender, htext⟩ := hrendered
  rw [Context.render, Context.renderTo, hrender]
  dsimp only
  rw [htext, String.empty_append]
  rfl

section Inline

variable (hblock : ∀ t ∈ Token.scan trimBlocks source, t.kind ≠ .tag .block)

include hblock

theorem isInline_of_scan : ∀ span ∈ spans trimBlocks source.toList, span.IsInline :=
  isInline_spans ((Token.forall_ofSpans_iff (P := fun _ => False) 1 _).1 hblock)

/-- Without blocks, a source can be read if and only if each of its expressions can be. -/
theorem compile_iff_of_scan :
    (∃ nodes, catalog.compile trimBlocks source = .ok nodes) ↔
      ∀ t ∈ Token.scan trimBlocks source, t.kind = .tag .expression →
        ∃ e, Expression.read catalog.filter? t.content = .ok e := by
  constructor
  · rintro ⟨nodes, hcompile⟩
    obtain ⟨stop, r', hread⟩ := compile_eq_ok_iff_readItems.1 hcompile
    exact forall_read_of_readItems hblock hread
  · intro hread
    have hbodies := (Token.forall_ofSpans_iff (P := fun content => ∃ e,
      Expression.read catalog.filter? content = .ok e) 1 _).1 hread
    obtain ⟨nodes, hnodes⟩ := exists_readInline (isInline_of_scan hblock) hbodies
    exact ⟨nodes, compile_of_readInline hnodes⟩

/-- If all expressions have values, the output is the source with their texts in place of them. -/
theorem render_of_scan {ctx : Context}
    (hvalues : ∀ t ∈ Token.scan trimBlocks source, t.kind = .tag .expression → ∃ e v,
      Expression.read catalog.filter? t.content = .ok e ∧ e.resolve ctx.scope = .ok v) :
    ∃ nodes, catalog.compile trimBlocks source = .ok nodes ∧
      ctx.render nodes = (.ok (String.ofList ((spans trimBlocks source.toList).flatMap
        (Span.substituted catalog.filter? ctx.scope))), ctx) := by
  have hresolve := (Token.forall_ofSpans_iff (P := fun content => ∃ e v,
    Expression.read catalog.filter? content = .ok e ∧ e.resolve ctx.scope = .ok v) 1 _).1 hvalues
  have hread : ∀ body, .tag .expression body ∈ spans trimBlocks source.toList →
      ∃ e, Expression.read catalog.filter? (String.ofList (trim body)) = .ok e := by
    intro body hmem
    obtain ⟨e, _, he, _⟩ := hresolve body hmem
    exact ⟨e, he⟩
  obtain ⟨nodes, hnodes⟩ := exists_readInline (isInline_of_scan hblock) hread
  exact ⟨nodes, compile_of_readInline hnodes, render_of_readInline hnodes hresolve⟩

end Inline

/-- Without a tag nothing is replaced. -/
theorem render_of_leavesOpen (hopen : LeavesOpen source.toList) (ctx : Context) :
    ∃ nodes, catalog.compile trimBlocks source = .ok nodes ∧
      ctx.render nodes = (.ok source, ctx) := by
  have htag := not_mem_spans_of_leavesOpen hopen trimBlocks
  have hblock : ∀ t ∈ Token.scan trimBlocks source, t.kind ≠ .tag .block :=
    (Token.forall_ofSpans_iff (P := fun _ => False) 1 _).2 (htag .block)
  have hvalues : ∀ t ∈ Token.scan trimBlocks source, t.kind = .tag .expression → ∃ e v,
      Expression.read catalog.filter? t.content = .ok e ∧ e.resolve ctx.scope = .ok v :=
    (Token.forall_ofSpans_iff (P := fun content => ∃ e v, Expression.read catalog.filter? content =
      .ok e ∧ e.resolve ctx.scope = .ok v) 1 _).2 fun body hmem => absurd hmem (htag _ body)
  have hsame : ∀ span ∈ spans trimBlocks source.toList,
      Span.substituted catalog.filter? ctx.scope span = span.written := by
    intro span hmem
    cases span with
    | text cs => rfl
    | tag kind body => exact absurd hmem (htag kind body)
    | lineBreak nl => rfl
  have htext : (spans trimBlocks source.toList).flatMap
      (Span.substituted catalog.filter? ctx.scope) = source.toList :=
    (List.flatMap_congr hsame).trans (spans_layout trimBlocks source.toList).written
  have hrender := render_of_scan hblock hvalues
  rwa [htext, String.ofList_toList] at hrender

/-- A template without blocks compiles exactly if its expressions can be read. If their values
can be told as well, then it renders to its text with the values in place of the expressions and
without the comments. A text in which no opener is followed by its closer renders to itself. -/
theorem compile_inline (catalog : Catalog) (trimBlocks : Bool) (source : String) :
    writtenAll (spans trimBlocks source.toList) = source.toList ∧
    ((∀ t ∈ Token.scan trimBlocks source, t.kind ≠ .tag .block) →
      ((∃ nodes, catalog.compile trimBlocks source = .ok nodes) ↔
        ∀ t ∈ Token.scan trimBlocks source, t.kind = .tag .expression →
          ∃ e, Expression.read catalog.filter? t.content = .ok e) ∧
      ∀ ctx : Context,
        (∀ t ∈ Token.scan trimBlocks source, t.kind = .tag .expression → ∃ e v,
          Expression.read catalog.filter? t.content = .ok e ∧ e.resolve ctx.scope = .ok v) →
        ∃ nodes, catalog.compile trimBlocks source = .ok nodes ∧
          ctx.render nodes = (.ok (String.ofList ((spans trimBlocks source.toList).flatMap
            (Span.substituted catalog.filter? ctx.scope))), ctx)) ∧
    (LeavesOpen source.toList → ∀ ctx : Context,
      ∃ nodes, catalog.compile trimBlocks source = .ok nodes ∧
        ctx.render nodes = (.ok source, ctx)) := by
  refine ⟨(spans_layout trimBlocks source.toList).written, ?_, ?_⟩
  · intro hblock
    exact ⟨compile_iff_of_scan hblock, fun ctx hvalues => render_of_scan hblock hvalues⟩
  · intro hopen ctx
    exact render_of_leavesOpen hopen ctx

/-- A comment, an escaped value, a safe text with a closer in it, and stray halves of tags. -/
theorem compile_inline_stray :
    let keep : Filter := ⟨.none, fun v _ _ => .ok v⟩
    let catalog : Catalog := { filters := [("keep", keep)] }
    let source :=
      "a\x7b# b #\x7d\x7b\x7b x|keep \x7d\x7d\n%\x7d\x7b\x7b '\x7d\x7d<'\x7d\x7d\x7b% it's"
    let stray := "\x7b\x7b it's %\x7d \x7b#"
    let ctx : Context := { scope := { root := [("x", .str "<b>")] } }
    (∃ nodes, catalog.compile true source = .ok nodes ∧
      ctx.render nodes = (.ok "a&lt;b&gt;\n%\x7d\x7d\x7d<\x7b% it's", ctx)) ∧
    LeavesOpen stray.toList ∧ ∃ nodes, catalog.compile true stray = .ok nodes ∧
      ctx.render nodes = (.ok stray, ctx) := by
  intro keep catalog source stray ctx
  have htokens : Token.scan true source = [⟨.text, "a", 1⟩, ⟨.tag .comment, "b", 1⟩,
      ⟨.tag .expression, "x|keep", 1⟩, ⟨.text, "\n%\x7d", 1⟩,
      ⟨.tag .expression, "'\x7d\x7d<'", 2⟩, ⟨.text, "\x7b% it's", 2⟩] := by
    decide +kernel
  have hblock : ∀ t ∈ Token.scan true source, t.kind ≠ .tag .block := by
    rw [htokens]
    decide
  have hpath : ∃ e v, Expression.read catalog.filter? "x|keep" = .ok e ∧
      e.resolve ctx.scope = .ok v :=
    ⟨⟨"x|keep", .path ["x"], [⟨"keep", keep, none⟩]⟩, .str "<b>", by rfl, by rfl⟩
  have hliteral : ∃ e v, Expression.read catalog.filter? "'\x7d\x7d<'" = .ok e ∧
      e.resolve ctx.scope = .ok v :=
    ⟨⟨"'\x7d\x7d<'", .literal (.safe "\x7d\x7d<"), []⟩, .safe "\x7d\x7d<", by rfl, by rfl⟩
  have hcontent : ∀ t ∈ Token.scan true source, t.kind = .tag .expression →
      t.content = "x|keep" ∨ t.content = "'\x7d\x7d<'" := by
    rw [htokens]
    decide
  have hvalues : ∀ t ∈ Token.scan true source, t.kind = .tag .expression → ∃ e v,
      Expression.read catalog.filter? t.content = .ok e ∧ e.resolve ctx.scope = .ok v := by
    intro t ht hkind
    rcases hcontent t ht hkind with heq | heq
    · rw [heq]
      exact hpath
    · rw [heq]
      exact hliteral
  have htext : String.ofList ((spans true source.toList).flatMap
      (Span.substituted catalog.filter? ctx.scope)) =
        "a&lt;b&gt;\n%\x7d\x7d\x7d<\x7b% it's" := by
    decide +kernel
  have hopen : LeavesOpen stray.toList := by decide
  obtain ⟨nodes, hcompile, hrender⟩ :=
    ((compile_inline catalog true source).2.1 hblock).2 ctx hvalues
  rw [htext] at hrender
  exact ⟨⟨nodes, hcompile, hrender⟩, hopen, (compile_inline catalog true stray).2.2 hopen ctx⟩

end Catalog

end TextTemplate
