import TextTemplate.Proofs.Derivations

/-!
Trees of nodes. Properties of a tree are properties of each of its nodes, so that one
induction serves all of them. The nodes of a template that was read with the standard tags
come from items; what items say about their own nodes therefore holds throughout the tree.
-/
namespace TextTemplate

namespace Node

/-- Induction on nodes, with the nodes of all bodies at once. -/
@[elab_as_elim, induction_eliminator]
theorem induct {motive : Node → Prop} (text : ∀ s, motive (.text s))
    (expression : ∀ e, motive (.expression e))
    (binding : ∀ names body, (∀ node ∈ body, motive node) → motive (.binding names body))
    (choice : ∀ branches otherwise, (∀ branch ∈ branches, ∀ node ∈ branch.2, motive node) →
      (∀ body ∈ otherwise, ∀ node ∈ body, motive node) → motive (.choice branches otherwise))
    (loop : ∀ targets items reversed body empty, (∀ node ∈ body, motive node) →
      (∀ body ∈ empty, ∀ node ∈ body, motive node) →
      motive (.loop targets items reversed body empty))
    (comment : motive .comment) (inclusion : ∀ name, motive (.inclusion name))
    (host : ∀ node bodies, (∀ body ∈ bodies, ∀ node ∈ body, motive node) →
      motive (.host node bodies)) (node : Node) : motive node :=
  @Node.rec motive (fun nodes => ∀ node ∈ nodes, motive node)
    (fun branches => ∀ branch ∈ branches, ∀ node ∈ branch.2, motive node)
    (fun body => ∀ nodes ∈ body, ∀ node ∈ nodes, motive node)
    (fun bodies => ∀ body ∈ bodies, ∀ node ∈ body, motive node)
    (fun branch => ∀ node ∈ branch.2, motive node)
    text expression binding choice loop comment inclusion host (List.forall_mem_nil _)
    (fun _ _ hhead htail => List.forall_mem_cons.2 ⟨hhead, htail⟩) (List.forall_mem_nil _)
    (fun _ _ hhead htail => List.forall_mem_cons.2 ⟨hhead, htail⟩)
    (fun _ hmem => nomatch hmem) (fun _ hval _ hmem => Option.mem_some_iff.1 hmem ▸ hval)
    (List.forall_mem_nil _) (fun _ _ hhead htail => List.forall_mem_cons.2 ⟨hhead, htail⟩)
    (fun _ _ hbody => hbody) node

def bodies : Node → List (List Node)
  | .binding _ body => [body]
  | .choice branches otherwise => branches.map (·.2) ++ otherwise.toList
  | .loop _ _ _ body empty => body :: empty.toList
  | .host _ bodies => bodies
  | _ => []

/-- A node and all nodes below it have a property. -/
inductive Every (P : Node → Prop) : Node → Prop where
  | intro (node : Node) (hnode : P node)
      (hbodies : ∀ body ∈ node.bodies, ∀ child ∈ body, Every P child) : Every P node

variable {P Q : Node → Prop}

theorem Every.here {node : Node} (h : Every P node) : P node := by
  cases h
  assumption

theorem Every.inBody {node : Node} (h : Every P node) {body : List Node}
    (hbody : body ∈ node.bodies) : ∀ child ∈ body, Every P child := by
  cases h with
  | intro _ _ hbodies => exact hbodies body hbody

theorem Every.binding_body {names : List (String × Expression)} {body : List Node}
    (h : Every P (.binding names body)) : ∀ child ∈ body, Every P child :=
  h.inBody (List.mem_singleton_self body)

theorem Every.choice_branch {branches : List (Condition × List Node)}
    {otherwise : Option (List Node)} (h : Every P (.choice branches otherwise)) :
    ∀ branch ∈ branches, ∀ child ∈ branch.2, Every P child := by
  intro branch hbranch
  exact h.inBody (List.mem_append_left _ (List.mem_map_of_mem hbranch))

theorem Every.choice_otherwise {branches : List (Condition × List Node)}
    {otherwise : Option (List Node)} (h : Every P (.choice branches otherwise)) :
    ∀ body ∈ otherwise, ∀ child ∈ body, Every P child := by
  intro body hbody
  exact h.inBody (List.mem_append_right _ (Option.mem_toList.2 hbody))

section Loop

variable {targets : List String} {items : Expression} {reversed : Bool} {body : List Node}
  {empty : Option (List Node)}

theorem Every.loop_body (h : Every P (.loop targets items reversed body empty)) :
    ∀ child ∈ body, Every P child :=
  h.inBody List.mem_cons_self

theorem Every.loop_empty (h : Every P (.loop targets items reversed body empty)) :
    ∀ nodes ∈ empty, ∀ child ∈ nodes, Every P child := by
  intro nodes hnodes
  exact h.inBody (List.mem_cons_of_mem body (Option.mem_toList.2 hnodes))

end Loop

theorem Every.leaf {node : Node} (hnode : P node) (hbodies : node.bodies = []) :
    Every P node :=
  .intro node hnode (by simp [hbodies])

/-- A weaker property holds as well, by induction on the node. -/
theorem Every.mono {node : Node} (h : Every P node) (himp : ∀ node, P node → Q node) :
    Every Q node := by
  induction h with
  | intro node hnode _ ih => exact .intro node (himp node hnode) ih

theorem Every.and {node : Node} (hp : Every P node) (hq : Every Q node) :
    Every (fun node => P node ∧ Q node) node := by
  induction hp with
  | intro node hnode _ ih =>
    exact .intro node ⟨hnode, hq.here⟩ fun body hbody child hchild =>
      ih body hbody child hchild (hq.inBody hbody child hchild)

def IsStandard : Node → Prop
  | .host _ _ => False
  | _ => True

end Node

namespace Item

variable {filters : Expression.FilterTable} {P : Node → Prop}

/-- Items are well-formed if each of them is. -/
theorem allWellFormed_iff {items : List Item} :
    AllWellFormed filters items ↔ ∀ item ∈ items, WellFormed filters item := by
  induction items with
  | nil => simp [AllWellFormed]
  | cons item items ih => rw [AllWellFormed, ih, List.forall_mem_cons]

theorem mem_nodes_iff {items : List Item} {node : Node} :
    node ∈ nodes items ↔ ∃ item ∈ items, item.node? = some node := by
  induction items with
  | nil => simp [nodes]
  | cons item items ih => simp [nodes, ih]

/-- Nodes below a node come from the items of a body, whose nodes have the property. -/
theorem every_nodes {items : List Item} (hitems : AllWellFormed filters items)
    (ih : ∀ item ∈ items, WellFormed filters item → ∀ node ∈ item.node?, node.Every P) :
    ∀ node ∈ nodes items, node.Every P := by
  intro node hnode
  obtain ⟨item, hmem, hitem⟩ := mem_nodes_iff.1 hnode
  exact ih item hmem (allWellFormed_iff.1 hitems item hmem) node hitem

theorem every_branchNodes {branches : List (Token × Condition × List Item)}
    (hbranches : BranchesWellFormed filters branches)
    (ih : ∀ branch ∈ branches, ∀ item ∈ branch.2.2, WellFormed filters item →
      ∀ node ∈ item.node?, node.Every P) :
    ∀ branch ∈ branchNodes branches, ∀ node ∈ branch.2, node.Every P := by
  induction branches with
  | nil => simp [branchNodes]
  | cons branch branches ihBranches =>
    obtain ⟨opening, condition, body⟩ := branch
    obtain ⟨⟨_, _, hbody⟩, hrest⟩ := hbranches
    obtain ⟨hfirst, hlater⟩ := List.forall_mem_cons.1 ih
    rw [branchNodes, List.forall_mem_cons]
    exact ⟨every_nodes hbody hfirst, ihBranches hrest hlater⟩

theorem every_clauseNodes {name : String} {clause : Option (Token × List Item)}
    (hclause : ClauseWellFormed filters name clause)
    (ih : ∀ entry ∈ clause, ∀ item ∈ entry.2, WellFormed filters item →
      ∀ node ∈ item.node?, node.Every P) :
    ∀ body ∈ clauseNodes clause, ∀ node ∈ body, node.Every P := by
  intro body hbody
  cases clause with
  | none => simp [clauseNodes] at hbody
  | some entry =>
    obtain ⟨opening, items⟩ := entry
    obtain rfl := Option.mem_some_iff.1 hbody
    exact every_nodes hclause.2 (ih _ rfl)

/-- A property that items give their own nodes holds in all of the tree. -/
theorem every_node (h : ∀ item, WellFormed filters item → ∀ node ∈ item.node?, P node)
    (item : Item) (hwell : WellFormed filters item) : ∀ node ∈ item.node?, node.Every P := by
  induction item with
  | text t =>
    intro node hnode
    obtain rfl := Option.mem_some_iff.1 hnode
    exact .leaf (h _ hwell _ rfl) rfl
  | comment t => simp [node?]
  | expression t e =>
    intro node hnode
    obtain rfl := Option.mem_some_iff.1 hnode
    exact .leaf (h _ hwell _ rfl) rfl
  | inclusion t name =>
    intro node hnode
    obtain rfl := Option.mem_some_iff.1 hnode
    exact .leaf (h _ hwell _ rfl) rfl
  | binding opening names body closing ih =>
    intro node hnode
    obtain rfl := Option.mem_some_iff.1 hnode
    refine .intro _ (h _ hwell _ rfl) ?_
    rw [Node.bodies, List.forall_mem_singleton]
    exact every_nodes hwell.2.2.1 ih
  | choice opening condition body others otherwise closing ihBody ihOthers ihOtherwise =>
    intro node hnode
    obtain rfl := Option.mem_some_iff.1 hnode
    refine .intro _ (h _ hwell _ rfl) ?_
    obtain ⟨_, _, hbody, hothers, hotherwise, _⟩ := hwell
    have hbranches := every_branchNodes hothers ihOthers
    have hclause := every_clauseNodes hotherwise ihOtherwise
    intro nodes hnodes
    simp only [Node.bodies, List.map_cons, List.cons_append, List.mem_cons, List.mem_append,
      List.mem_map, Option.mem_toList] at hnodes
    rcases hnodes with rfl | ⟨branch, hbranch, rfl⟩ | hmem
    · exact every_nodes hbody ihBody
    · exact hbranches branch hbranch
    · exact hclause nodes hmem
  | loop opening head items body empty closing ihBody ihEmpty =>
    intro node hnode
    obtain rfl := Option.mem_some_iff.1 hnode
    refine .intro _ (h _ hwell _ rfl) ?_
    obtain ⟨_, _, hbody, hempty, _⟩ := hwell
    have hclause := every_clauseNodes hempty ihEmpty
    intro nodes hnodes
    simp only [Node.bodies, List.mem_cons, Option.mem_toList] at hnodes
    rcases hnodes with rfl | hmem
    · exact every_nodes hbody ihBody
    · exact hclause nodes hmem
  | skipped opening inner closing =>
    intro node hnode
    obtain rfl := Option.mem_some_iff.1 hnode
    exact .leaf (h _ hwell _ rfl) rfl

end Item

namespace Catalog

variable {catalog : Catalog}

/-- What well-formed items give their own nodes holds in every template that compiles. -/
theorem every_of_compile (hcatalog : catalog.HasOnlyStandardTags) {P : Node → Prop}
    (h : ∀ item : Item, item.WellFormed catalog.filter? → ∀ node ∈ item.node?, P node)
    {trim : Bool} {source : String} {nodes : List Node}
    (hcompile : catalog.compile trim source = .ok nodes) : ∀ node ∈ nodes, node.Every P := by
  obtain ⟨items, hitems, rfl⟩ := derives_of_compile hcatalog hcompile
  exact Item.every_nodes hitems.1 fun item _ => Item.every_node h item

/-- The standard tags make no nodes of the host program. -/
theorem isStandard_of_compile (hcatalog : catalog.HasOnlyStandardTags) {trim : Bool}
    {source : String} {nodes : List Node} (hcompile : catalog.compile trim source = .ok nodes) :
    ∀ node ∈ nodes, node.Every Node.IsStandard := by
  refine every_of_compile hcatalog ?_ hcompile
  intro item _ node hnode
  cases item <;> simp only [Item.node?, Option.mem_def, Option.some.injEq, reduceCtorEq] at hnode
  all_goals
    subst hnode
    trivial

end Catalog

end TextTemplate
