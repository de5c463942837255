import TextTemplate.Engine.Context
import TextTemplate.Proofs.CleanScopes
import TextTemplate.Proofs.ScopeKept

/-!
Escaping keeps raw markup out of what values write. The expressions that a rendering comes
to, each with the scope it is resolved in, are told by rules that follow the rendering. If
all of them have clean values then all scopes on the way are clean, and every piece that a
value contributes is free of raw markup.
-/
namespace TextTemplate

open Text

namespace Node

def IsSelfContained : Node → Prop
  | .inclusion _ => False
  | .host _ _ => False
  | _ => True

theorem IsSelfContained.keepsScopeItself {fetch : String → Render Unit} {node : Node}
    (h : node.IsSelfContained) : node.KeepsScopeItself fetch := by
  cases node <;> first | exact h.elim | trivial

/-- Rendering the nodes from a state comes to write, bind or go through the value of an
expression, which is resolved in a scope. -/
inductive Resolves (fetch : String → Render Unit) :
    List Node → RenderState → Expression → Scope → Prop where
  | written {e : Expression} {rest : List Node} {s : RenderState} :
      Resolves fetch (.expression e :: rest) s e s.scope
  | bound {names : List (String × Expression)} {body rest : List Node} {s : RenderState}
      {frame : Frame} {binding : String × Expression}
      (hnames : resolveBindings s.scope [] names = .ok frame) (hmem : binding ∈ names) :
      Resolves fetch (.binding names body :: rest) s binding.2 s.scope
  | inBinding {names : List (String × Expression)} {body rest : List Node} {s : RenderState}
      {frame : Frame} {e : Expression} {scope : Scope}
      (hnames : resolveBindings s.scope [] names = .ok frame)
      (hbody : Resolves fetch body { s with scope := s.scope.push frame } e scope) :
      Resolves fetch (.binding names body :: rest) s e scope
  | inChoice {branches : List (Condition × List Node)} {otherwise : Option (List Node)}
      {body rest : List Node} {s : RenderState} {e : Expression} {scope : Scope}
      (hchosen : chosen s.scope branches otherwise = .ok (some body))
      (hbody : Resolves fetch body s e scope) :
      Resolves fetch (.choice branches otherwise :: rest) s e scope
  | items {targets : List String} {items : Expression} {reversed : Bool}
      {body rest : List Node} {empty : Option (List Node)} {s : RenderState} :
      Resolves fetch (.loop targets items reversed body empty :: rest) s items s.scope
  | inEmpty {targets : List String} {items : Expression} {reversed : Bool}
      {body nodes rest : List Node} {s : RenderState} {v : Value} {e : Expression}
      {scope : Scope} (hitems : items.resolve s.scope = .ok v)
      (hnone : orderedItems targets reversed v = []) (hbody : Resolves fetch nodes s e scope) :
      Resolves fetch (.loop targets items reversed body (some nodes) :: rest) s e scope
  | inLoop {targets : List String} {items : Expression} {reversed : Bool}
      {body rest : List Node} {empty : Option (List Node)} {s s' : RenderState}
      {v parent item : Value} {before after : List Value} {total : Nat} {e : Expression}
      {scope : Scope} (hitems : items.resolve s.scope = .ok v)
      (hsplit : orderedItems targets reversed v = before ++ item :: after)
      (htotal : total = (orderedItems targets reversed v).length)
      (hparent : parent = Value.ofOption (s.scope.lookup "forloop"))
      (hbefore : iterate (renderAll fetch body) targets total parent 0 before s = (.ok (), s'))
      (hbody : Resolves fetch body
        { s' with
          scope := s'.scope.push (loopFrame targets before.length total parent item) } e scope) :
      Resolves fetch (.loop targets items reversed body empty :: rest) s e scope
  | later {node : Node} {rest : List Node} {s s' : RenderState} {e : Expression}
      {scope : Scope} (hnode : render fetch node s = (.ok (), s'))
      (hrest : Resolves fetch rest s' e scope) : Resolves fetch (node :: rest) s e scope

variable {fetch : String → Render Unit}

/-- What a node resolves by itself it resolves in front of others. -/
theorem Resolves.before {node : Node} {s : RenderState} {e : Expression} {scope : Scope}
    (h : Resolves fetch [node] s e scope) (rest : List Node) :
    Resolves fetch (node :: rest) s e scope := by
  cases h with
  | written => exact .written
  | bound hnames hmem => exact .bound hnames hmem
  | inBinding hnames hbody => exact .inBinding hnames hbody
  | inChoice hchosen hbody => exact .inChoice hchosen hbody
  | items => exact .items
  | inEmpty hitems hnone hbody => exact .inEmpty hitems hnone hbody
  | inLoop hitems hsplit htotal hparent hbefore hbody =>
    exact .inLoop hitems hsplit htotal hparent hbefore hbody
  | later _ hrest => cases hrest

/-- Only expressions of the nodes are resolved, at whatever depth. -/
theorem Resolves.of_every {Q : Expression → Prop} {nodes : List Node} {s : RenderState}
    {e : Expression} {scope : Scope} (h : Resolves fetch nodes s e scope)
    (hnodes : ∀ node ∈ nodes, node.Every fun node => ∀ e ∈ node.valued, Q e) : Q e := by
  induction h with
  | written =>
    have hnode := hnodes _ List.mem_cons_self
    exact hnode.here _ List.mem_cons_self
  | bound _ hmem =>
    have hnode := hnodes _ List.mem_cons_self
    exact hnode.here _ (List.mem_map_of_mem (f := Prod.snd) hmem)
  | inBinding _ _ ih =>
    have hnode := hnodes _ List.mem_cons_self
    exact ih hnode.binding_body
  | inChoice hchosen _ ih =>
    have hnode := hnodes _ List.mem_cons_self
    rcases chosen_mem hchosen with ⟨condition, hbranch⟩ | hother
    · exact ih (hnode.choice_branch _ hbranch)
    · exact ih (hnode.choice_otherwise _ hother)
  | items =>
    have hnode := hnodes _ List.mem_cons_self
    exact hnode.here _ List.mem_cons_self
  | inEmpty _ _ _ ih =>
    have hnode := hnodes _ List.mem_cons_self
    exact ih (hnode.loop_empty _ rfl)
  | inLoop _ _ _ _ _ _ ih =>
    have hnode := hnodes _ List.mem_cons_self
    exact ih hnode.loop_body
  | later _ _ ih => exact ih fun node hmem => hnodes node (List.mem_cons_of_mem _ hmem)

def AddsCleanly (before after : Output) : Prop :=
  ∃ added, after.pieces = added ++ before.pieces ∧
    ∀ piece ∈ added, piece.origin = .value → FreeOfMarkup piece.text.toList

theorem addsCleanly_refl (out : Output) : AddsCleanly out out :=
  ⟨[], rfl, List.forall_mem_nil _⟩

theorem AddsCleanly.trans {a b c : Output} (hab : AddsCleanly a b) (hbc : AddsCleanly b c) :
    AddsCleanly a c := by
  obtain ⟨first, hfirst, hcleanFirst⟩ := hab
  obtain ⟨second, hsecond, hcleanSecond⟩ := hbc
  refine ⟨second ++ first, by rw [hsecond, hfirst, List.append_assoc], ?_⟩
  exact List.forall_mem_append.2 ⟨hcleanSecond, hcleanFirst⟩

theorem pieces_of_add {out out' : Output} {piece : Piece} (h : out.add piece = some out') :
    out'.pieces = piece :: out.pieces := by
  unfold Output.add at h
  split at h
  · simp at h
  · split at h
    · obtain rfl := Option.some.inj h
      rfl
    · split at h
      · obtain rfl := Option.some.inj h
        rfl
      · simp at h

/-- One write adds one piece, which is clean unless it comes from a value with markup. -/
theorem addsCleanly_write {origin : Origin} {text : String}
    (h : origin = .value → FreeOfMarkup text.toList) (s : RenderState) :
    AddsCleanly s.output (Render.write origin text s).2.output := by
  unfold Render.write
  split
  · rename_i out hadd
    exact ⟨[⟨origin, text⟩], pieces_of_add hadd, List.forall_mem_singleton.2 h⟩
  · exact addsCleanly_refl _

/-- If the first part adds cleanly and the second one does after a success, both do. -/
theorem addsCleanly_bind {m : Render Unit} {f : Unit → Render Unit} {s : RenderState}
    (hm : AddsCleanly s.output (m s).2.output)
    (hf : ∀ s', m s = (.ok (), s') → AddsCleanly s'.output (f () s').2.output) :
    AddsCleanly s.output ((m >>= f) s).2.output := by
  rcases Attempt.bind_run_cases m f s with ⟨a, s', hrun, heq⟩ | ⟨e, s', hrun, heq⟩
  · rw [hrun] at hm
    rw [heq]
    exact hm.trans (hf s' hrun)
  · rw [hrun] at hm
    rwa [heq]

theorem addsCleanly_within {frame : Frame} {m : Render Unit} {s : RenderState}
    (h : AddsCleanly s.output (m { s with scope := s.scope.push frame }).2.output) :
    AddsCleanly s.output (Render.within frame m s).2.output :=
  h

/-- A state that rendering may start from: clean values, and output is escaped. -/
structure IsGuarded (s : RenderState) : Prop where
  clean : s.scope.Clean
  escape : s.scope.autoescape = true

theorem IsGuarded.push {s : RenderState} (h : IsGuarded s) {frame : Frame}
    (hframe : ∀ entry ∈ frame, entry.2.Clean) :
    IsGuarded { s with scope := s.scope.push frame } :=
  ⟨h.clean.push hframe, h.escape⟩

theorem IsGuarded.of_scope {s s' : RenderState} (h : IsGuarded s) (hscope : s'.scope = s.scope) :
    IsGuarded s' := by
  obtain ⟨hclean, hescape⟩ := h
  exact ⟨hscope ▸ hclean, hscope ▸ hescape⟩

def WritesCleanly (fetch : String → Render Unit) (node : Node) : Prop :=
  ∀ s, IsGuarded s → (∀ e scope, Resolves fetch [node] s e scope → e.CleanIn scope) →
    AddsCleanly s.output (render fetch node s).2.output

/-- Nodes without inclusions and host nodes leave the scope as they found it. -/
theorem keepsScope_of_isSelfContained {node : Node} (h : node.Every IsSelfContained) :
    Render.KeepsScope (render fetch node) :=
  keepsScope_render node (h.mono fun _ hself => hself.keepsScopeItself)

/-- A node after others starts in the scope of the first one. -/
theorem addsCleanly_renderAll {nodes : List Node}
    (hself : ∀ node ∈ nodes, node.Every IsSelfContained)
    (hnodes : ∀ node ∈ nodes, WritesCleanly fetch node) {s : RenderState} (hs : IsGuarded s)
    (hclean : ∀ e scope, Resolves fetch nodes s e scope → e.CleanIn scope) :
    AddsCleanly s.output (renderAll fetch nodes s).2.output := by
  induction nodes generalizing s with
  | nil => exact addsCleanly_refl _
  | cons node rest ih =>
    obtain ⟨hselfNode, hselfRest⟩ := List.forall_mem_cons.1 hself
    obtain ⟨hnode, hrest⟩ := List.forall_mem_cons.1 hnodes
    refine addsCleanly_bind ?_ ?_
    · exact hnode s hs fun e scope hresolves => hclean e scope (hresolves.before rest)
    · intro s' hrun
      have hscope : s'.scope = s.scope := by
        have hkeeps : (render fetch node s).2.scope = s.scope :=
          keepsScope_of_isSelfContained hselfNode s
        rwa [hrun] at hkeeps
      exact ih hselfRest hrest (hs.of_scope hscope) fun e scope hresolves =>
        hclean e scope (.later hrun hresolves)

/-- An iteration starts in the scope of the first one, with a frame for its own item. -/
theorem addsCleanly_iterate {body : Render Unit} (hkeeps : Render.KeepsScope body)
    {targets : List String} {total : Nat} {parent : Value} (hparent : parent.Clean)
    {items : List Value} (hitems : ∀ item ∈ items, item.Clean) {index : Nat} {s : RenderState}
    (hs : IsGuarded s)
    (hbody : ∀ before item after s', items = before ++ item :: after →
      iterate body targets total parent index before s = (.ok (), s') →
      IsGuarded { s' with
        scope := s'.scope.push (loopFrame targets (index + before.length) total parent item) } →
      AddsCleanly s'.output (body { s' with
        scope := s'.scope.push
          (loopFrame targets (index + before.length) total parent item) }).2.output) :
    AddsCleanly s.output (iterate body targets total parent index items s).2.output := by
  induction items generalizing index s with
  | nil => exact addsCleanly_refl _
  | cons item rest ih =>
    obtain ⟨hitem, hrest⟩ := List.forall_mem_cons.1 hitems
    have hframe := clean_loopFrame targets index total hparent hitem
    refine addsCleanly_bind ?_ ?_
    · exact addsCleanly_within (hbody [] item rest s rfl rfl (hs.push hframe))
    · -- The frame is gone again, so the next item starts where the first one did.
      intro s₁ hrun
      have hscope : s₁.scope = s.scope := by
        have hwithin := hkeeps.within (loopFrame targets index total parent item) s
        rwa [hrun] at hwithin
      refine ih hrest (hs.of_scope hscope) ?_
      intro before item' after s' hsplit hbefore hguarded
      have hlength : index + 1 + before.length = index + (item :: before).length := by
        rw [List.length_cons]
        omega
      rw [hlength] at hguarded ⊢
      refine hbody (item :: before) item' after s' (by rw [hsplit, List.cons_append]) ?_ hguarded
      exact (Attempt.bind_of_ok hrun).trans hbefore

theorem writesCleanly_text (text : String) : WritesCleanly fetch (.text text) := by
  intro s _ _
  exact addsCleanly_write (fun horigin => by simp at horigin) s

/-- A clean value is escaped when it is shown, or has no markup left to escape. -/
theorem writesCleanly_expression (e : Expression) : WritesCleanly fetch (.expression e) := by
  intro s hs hclean
  rw [render_expression_run]
  split
  · exact addsCleanly_refl _
  · rename_i v hv
    -- What is not safe gets escaped here; what is safe has no markup, being clean.
    have hvalue := hclean e s.scope .written hs.clean hs.escape v hv
    refine addsCleanly_write ?_ s
    rw [hs.escape]
    exact fun _ => hvalue.shown

theorem writesCleanly_binding {names : List (String × Expression)} {body : List Node}
    (hself : ∀ child ∈ body, child.Every IsSelfContained)
    (hbody : ∀ child ∈ body, WritesCleanly fetch child) :
    WritesCleanly fetch (.binding names body) := by
  intro s hs hclean
  rw [render_binding_run]
  split
  · exact addsCleanly_refl _
  · rename_i frame hnames
    have hvalues : ∀ binding ∈ names, binding.2.CleanIn s.scope :=
      fun binding hmem => hclean _ _ (.bound hnames hmem)
    have hframe := clean_resolveBindings hs.clean hs.escape hvalues (List.forall_mem_nil _) hnames
    refine addsCleanly_within (addsCleanly_renderAll hself hbody (hs.push hframe) ?_)
    exact fun e scope hresolves => hclean e scope (.inBinding hnames hresolves)

theorem writesCleanly_choice {branches : List (Condition × List Node)}
    {otherwise : Option (List Node)}
    (hself : (Node.choice branches otherwise).Every IsSelfContained)
    (hbranches : ∀ branch ∈ branches, ∀ child ∈ branch.2, WritesCleanly fetch child)
    (hotherwise : ∀ body ∈ otherwise, ∀ child ∈ body, WritesCleanly fetch child) :
    WritesCleanly fetch (.choice branches otherwise) := by
  intro s hs hclean
  rw [render_choice_run]
  rcases hchosen : chosen s.scope branches otherwise with e | _ | body
  · exact addsCleanly_refl _
  · exact addsCleanly_refl _
  · have hresolves : ∀ e scope, Resolves fetch body s e scope → e.CleanIn scope :=
      fun e scope hresolves => hclean e scope (.inChoice hchosen hresolves)
    rcases chosen_mem hchosen with ⟨condition, hbranch⟩ | hother
    · exact addsCleanly_renderAll (hself.choice_branch _ hbranch) (hbranches _ hbranch) hs
        hresolves
    · exact addsCleanly_renderAll (hself.choice_otherwise _ hother) (hotherwise _ hother) hs
        hresolves

/-- Every item of a clean value is clean, and so is the frame of each iteration. -/
theorem writesCleanly_loop {targets : List String} {items : Expression} {reversed : Bool}
    {body : List Node} {empty : Option (List Node)}
    (hself : (Node.loop targets items reversed body empty).Every IsSelfContained)
    (hbody : ∀ child ∈ body, WritesCleanly fetch child)
    (hempty : ∀ nodes ∈ empty, ∀ child ∈ nodes, WritesCleanly fetch child) :
    WritesCleanly fetch (.loop targets items reversed body empty) := by
  intro s hs hclean
  rw [render_loop_run]
  split
  · exact addsCleanly_refl _
  · rename_i v hv
    split
    · rename_i hnone
      cases empty with
      | none => exact addsCleanly_refl _
      | some nodes =>
        refine addsCleanly_renderAll (hself.loop_empty nodes rfl) (hempty nodes rfl) hs ?_
        exact fun e scope hresolves => hclean e scope (.inEmpty hv hnone hresolves)
    · have hkeeps : Render.KeepsScope (renderAll fetch body) :=
        keepsScope_renderAll fun child hmem =>
          keepsScope_of_isSelfContained (hself.loop_body child hmem)
      have hvalue := hclean items s.scope .items hs.clean hs.escape v hv
      have hparent : (Value.ofOption (s.scope.lookup "forloop")).Clean :=
        Value.clean_ofOption fun w hw => hs.clean.lookup hw
      refine addsCleanly_iterate hkeeps hparent (clean_orderedItems targets reversed hvalue)
        hs ?_
      intro before item after s' hsplit hbefore hguarded
      rw [Nat.zero_add] at hguarded ⊢
      refine addsCleanly_renderAll hself.loop_body hbody hguarded ?_
      exact fun e scope hresolves =>
        hclean e scope (.inLoop hv hsplit rfl rfl hbefore hresolves)

/-- By induction on the node: what it writes from values has no raw markup. -/
theorem writesCleanly (node : Node) (hself : node.Every IsSelfContained) :
    WritesCleanly fetch node := by
  induction node with
  | text text => exact writesCleanly_text text
  | expression e => exact writesCleanly_expression e
  | binding names body ih =>
    have hbody := hself.binding_body
    exact writesCleanly_binding hbody fun child hmem => ih child hmem (hbody child hmem)
  | choice branches otherwise ihBranches ihOtherwise =>
    refine writesCleanly_choice hself ?_ ?_
    · intro branch hbranch child hmem
      exact ihBranches branch hbranch child hmem (hself.choice_branch branch hbranch child hmem)
    · intro body hbody child hmem
      exact ihOtherwise body hbody child hmem (hself.choice_otherwise body hbody child hmem)
  | loop targets items reversed body empty ihBody ihEmpty =>
    refine writesCleanly_loop hself ?_ ?_
    · exact fun child hmem => ihBody child hmem (hself.loop_body child hmem)
    · intro nodes hnodes child hmem
      exact ihEmpty nodes hnodes child hmem (hself.loop_empty nodes hnodes child hmem)
  | comment =>
    intro s _ _
    exact addsCleanly_refl _
  | inclusion name => exact hself.here.elim
  | host node bodies => exact hself.here.elim

/-- The node includes nothing, and its values come from plain expressions. -/
def IsPlain : Node → Prop
  | .inclusion _ => False
  | node => ∀ e ∈ node.valued, e.Plain

theorem IsPlain.isSelfContained {node : Node} (h : node.IsPlain) (hnode : node.IsStandard) :
    node.IsSelfContained := by
  cases node with
  | inclusion name => exact h.elim
  | host node bodies => exact hnode.elim
  | _ => trivial

theorem IsPlain.plain {node : Node} (h : node.IsPlain) : ∀ e ∈ node.valued, e.Plain := by
  cases node with
  | inclusion name => exact h.elim
  | _ => exact h

end Node

namespace Context

/-- With escaping on, a plain template without inclusions writes no value with raw markup in a
context without safe texts, as long as no `join` puts a separator with raw markup that is
not safe between items. -/
theorem renderTo_escapes {ctx : Context} {catalog : Catalog}
    (htags : catalog.HasOnlyStandardTags) (hfilters : catalog.HasStandardFilters) {trim : Bool}
    {source : String} {nodes : List Node} (hcompile : catalog.compile trim source = .ok nodes)
    (hplain : ∀ node ∈ nodes, node.Every Node.IsPlain)
    (hescape : ctx.scope.autoescape = true) (hsafe : ctx.scope.HoldsNoSafe) (depth : Nat)
    (output : Output)
    (hjoins : ∀ e scope, Node.Resolves (ctx.fetch depth) nodes ⟨ctx.scope, output⟩ e scope →
      e.JoinsCleanly scope) :
    Node.AddsCleanly output (ctx.renderTo depth nodes output).2.1 := by
  have hself : ∀ node ∈ nodes, node.Every Node.IsSelfContained := by
    intro node hnode
    have hstandard := Catalog.isStandard_of_compile htags hcompile node hnode
    exact ((hplain node hnode).and hstandard).mono fun _ h => h.1.isSelfContained h.2
  have hread := Catalog.valued_isRead_of_compile htags hcompile
  have hguarded : Node.IsGuarded ⟨ctx.scope, output⟩ := ⟨hsafe.clean, hescape⟩
  refine Node.addsCleanly_renderAll hself
    (fun node hnode => Node.writesCleanly node (hself node hnode)) hguarded ?_
  intro e scope hresolves
  have he : e.IsRead catalog.filter? := hresolves.of_every hread
  have heplain : e.Plain := hresolves.of_every fun node hnode =>
    (hplain node hnode).mono fun _ h => h.plain
  refine Expression.cleanIn_of_joinsCleanly ?_ he heplain (hjoins e scope hresolves)
  intro name filter hfilter
  rw [← hfilters name, hfilter]

def joinedItems : Expression where
  source := "items|join:sep"
  head := .path ["items"]
  calls :=
    [{ name := "join"
       filter := { arity := .required, apply := Filters.join }
       argument := some (.path ["sep"]) }]

theorem compile_joinedItems :
    Engine.withDefaults.catalog.compile false "{{ items|join:sep }}" =
      .ok [.expression joinedItems] := by
  have htokens : Token.scan false "{{ items|join:sep }}" =
      [⟨.tag .expression, "items|join:sep", 1⟩] := by
    decide +kernel
  rw [Catalog.compile, htokens]
  rfl

theorem isPlain_joinedItems :
    ∀ node ∈ [Node.expression joinedItems], node.Every Node.IsPlain := by
  refine List.forall_mem_singleton.2 (.leaf (List.forall_mem_singleton.2 ?_) rfl)
  exact ⟨by simp [joinedItems], by simp [joinedItems],
    List.forall_mem_singleton.2 (by simp)⟩

def itemsContext (item sep : String) : Context where
  scope :=
    { Scope.empty with root := [("items", .list [.str item, .str item]), ("sep", .str sep)] }

theorem holdsNoSafe_itemsContext (item sep : String) :
    (itemsContext item sep).scope.HoldsNoSafe := by
  refine List.forall_mem_singleton.2 (List.forall_mem_cons.2
    ⟨?_, List.forall_mem_singleton.2 ?_⟩)
  · simp [Value.reaches_list_iff, Value.not_reaches_str]
  · exact Value.not_reaches_str sep

/-- Items with markup, joined by a text that has none. -/
theorem renderTo_escapes_items :
    let ctx := itemsContext "<b>" ", "
    ∃ nodes, Engine.withDefaults.catalog.compile false "{{ items|join:sep }}" = .ok nodes ∧
      (∀ node ∈ nodes, node.Every Node.IsPlain) ∧ ctx.scope.HoldsNoSafe ∧
      (∀ e scope, Node.Resolves (ctx.fetch 0) nodes ⟨ctx.scope, {}⟩ e scope →
        e.JoinsCleanly scope) ∧
      Node.AddsCleanly {} (ctx.renderTo 0 nodes {}).2.1 := by
  intro ctx
  have hsafe := holdsNoSafe_itemsContext "<b>" ", "
  have hjoins : ∀ e scope,
      Node.Resolves (ctx.fetch 0) [.expression joinedItems] ⟨ctx.scope, {}⟩ e scope →
      e.JoinsCleanly scope := by
    intro e scope hresolves
    cases hresolves with
    | written =>
      intro v _
      refine ⟨?_, fun _ _ => trivial⟩
      rintro _ argument hargument ⟨_, s, _, _, rfl, hmarkup⟩
      obtain rfl : ", " = s := by
        have hsep : ctx.scope.lookup "sep" = some (.str ", ") := rfl
        simpa [Expression.resolveArgument, Variable.resolve, Variable.resolve?, Except.map,
          Value.follow, hsep] using hargument
      exact hmarkup (by decide)
    | later _ hrest => cases hrest
  exact ⟨_, compile_joinedItems, isPlain_joinedItems, hsafe, hjoins,
    renderTo_escapes Engine.withDefaults_hasStandardTags.only
      Engine.withDefaults_hasStandardFilters compile_joinedItems isPlain_joinedItems rfl hsafe
      0 {} hjoins⟩

/-- A separator with markup is written as it is. -/
theorem renderTo_markup_separator :
    let ctx := itemsContext "a" "<br>"
    ∃ nodes, Engine.withDefaults.catalog.compile false "{{ items|join:sep }}" = .ok nodes ∧
      (∀ node ∈ nodes, node.Every Node.IsPlain) ∧ ctx.scope.autoescape = true ∧
      ctx.scope.HoldsNoSafe ∧ ¬ Node.AddsCleanly {} (ctx.renderTo 0 nodes {}).2.1 := by
  intro ctx
  have hpieces : (ctx.renderTo 0 [.expression joinedItems] {}).2.1.pieces =
      [⟨.value, "a<br>a"⟩] := by
    rfl
  refine ⟨_, compile_joinedItems, isPlain_joinedItems, rfl, holdsNoSafe_itemsContext _ _, ?_⟩
  rintro ⟨added, hadded, hclean⟩
  rw [hpieces, List.append_nil] at hadded
  have hfree := hclean ⟨.value, "a<br>a"⟩ (by simp [← hadded]) rfl
  exact absurd hfree (by decide)

end Context

end TextTemplate
