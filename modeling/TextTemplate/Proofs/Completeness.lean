import TextTemplate.Proofs.Derivations

/-!
All that follows the grammar is read. The reader of a catalog with the standard tags takes
every well-formed item off its tokens, by induction on the item, for as long as none of the
names that it waits for starts an item. A budget that exceeds the number of tokens suffices.
Together with soundness and uniqueness, reading a template is finding its derivation.
-/
namespace TextTemplate

open Item Tags

namespace Catalog

variable {catalog : Catalog}

def addNodes (nodes : List Node) (rest : Reading (List Node × Option Token)) :
    Reading (List Node × Option Token) :=
  nodes.foldr addNode rest

theorem addNodes_append (nodes more : List Node) (rest : Reading (List Node × Option Token)) :
    addNodes (nodes ++ more) rest = addNodes nodes (addNodes more rest) :=
  List.foldr_append

theorem addNodes_congr_run {nodes : List Node} {m m' : Reading (List Node × Option Token)}
    {r r' : Reader} (h : m r = m' r') : addNodes nodes m r = addNodes nodes m' r' := by
  induction nodes with
  | nil => exact h
  | cons node nodes ih => exact Attempt.bind_congr_run ih

theorem addNodes_eq_ok {nodes later : List Node} {stop : Option Token}
    {rest : Reading (List Node × Option Token)} {r r' : Reader}
    (h : rest r = (.ok (later, stop), r')) :
    addNodes nodes rest r = (.ok (nodes ++ later, stop), r') := by
  induction nodes with
  | nil => exact h
  | cons node nodes ih => exact addNode_eq_ok_iff.2 ⟨nodes ++ later, rfl, ih⟩

def OnlyEnds (stops : List String) : Prop :=
  ∀ name ∈ stops, Entries.get? blockForms name = none

variable (catalog) in
/-- The reader takes a well-formed item off its tokens and goes on with the others. -/
def Accepts (item : Item) : Prop :=
  WellFormed catalog.filter? item → ∀ budget stops r rest, OnlyEnds stops →
    r.tokens = item.tokens ++ rest → r.tokens.length ≤ budget →
    ∃ r', r'.tokens = rest ∧ catalog.readItems (budget + 1) stops r =
      addNodes item.node?.toList (catalog.readItems budget stops) r'

variable (catalog) in
def AcceptsAll (items : List Item) : Prop :=
  AllWellFormed catalog.filter? items → ∀ budget stops r rest, OnlyEnds stops →
    r.tokens = allTokens items ++ rest → r.tokens.length < budget →
    ∃ budget' r', rest.length < budget' ∧ r'.tokens = rest ∧
      catalog.readItems budget stops r =
        addNodes (Item.nodes items) (catalog.readItems budget' stops) r'

/-- Items one after another are accepted if each of them is. -/
theorem acceptsAll {items : List Item} (h : ∀ item ∈ items, catalog.Accepts item) :
    catalog.AcceptsAll items := by
  induction items with
  | nil =>
    intro _ budget stops r rest _ htokens hbudget
    rw [allTokens, List.nil_append] at htokens
    exact ⟨budget, r, htokens ▸ hbudget, htokens, rfl⟩
  | cons item items ih =>
    obtain ⟨hitem, hitems⟩ := List.forall_mem_cons.1 h
    intro hwell budget stops r rest hends htokens hbudget
    rw [allTokens, List.append_assoc] at htokens
    obtain ⟨budget, rfl⟩ := Nat.exists_eq_add_one_of_ne_zero (Nat.ne_zero_of_lt hbudget)
    obtain ⟨r₁, hr₁, hread⟩ :=
      hitem hwell.1 budget stops r _ hends htokens (Nat.le_of_lt_succ hbudget)
    -- The item has at least one token, so what is left of the budget is enough for the rest.
    have hlength : r₁.tokens.length < budget := by
      obtain ⟨t, ts, hitemTokens⟩ := tokens_eq_cons item
      rw [htokens, hitemTokens, ← hr₁] at hbudget
      simp only [List.cons_append, List.length_cons, List.length_append] at hbudget
      omega
    obtain ⟨budget', r', hbudget', hr', hmore⟩ :=
      ih hitems hwell.2 budget stops r₁ rest hends hr₁ hlength
    refine ⟨budget', r', hbudget', hr', ?_⟩
    rw [hread, Item.nodes, addNodes_append]
    exact addNodes_congr_run hmore

/-- A body that is followed by a block that ends it. -/
theorem body_complete {items : List Item} (hitems : catalog.AcceptsAll items)
    (hwell : AllWellFormed catalog.filter? items) {budget : Nat} {stops : List String}
    {r : Reader} {stop : Token} {name : String} {rest : List Token} (hends : OnlyEnds stops)
    (hname : stop.tagName? = some name) (hne : name ≠ "") (hmem : name ∈ stops)
    (htokens : r.tokens = allTokens items ++ stop :: rest) (hbudget : r.tokens.length < budget) :
    ∃ r', r'.tokens = rest ∧
      (catalog.reader budget).body stops r = (.ok (Item.nodes items, stop), r') := by
  obtain ⟨budget', r₁, hbudget', hr₁, hread⟩ :=
    hitems hwell budget stops r (stop :: rest) hends htokens hbudget
  obtain ⟨budget', rfl⟩ := Nat.exists_eq_add_one_of_ne_zero (Nat.ne_zero_of_lt hbudget')
  have hstop : catalog.readItems (budget' + 1) stops r₁ = (.ok ([], some stop), _) :=
    readItems_of_stop hr₁ hname hne hmem
  refine ⟨r₁.past stop rest, rfl, TagReader.body_eq_ok_iff.2 ?_⟩
  change catalog.readItems budget stops r = _
  rw [hread, addNodes_eq_ok hstop, List.append_nil]

theorem accepts_text (t : Token) : catalog.Accepts (.text t) := by
  intro hwell budget stops r rest _ htokens _
  exact ⟨r.past t rest, rfl, readItems_of_text htokens hwell⟩

theorem accepts_comment (t : Token) : catalog.Accepts (.comment t) := by
  intro hwell budget stops r rest _ htokens _
  exact ⟨r.past t rest, rfl, readItems_of_comment htokens hwell⟩

theorem accepts_expression (t : Token) (e : Expression) :
    catalog.Accepts (.expression t e) := by
  intro hwell budget stops r rest _ htokens _
  refine ⟨r.past t rest, rfl, ?_⟩
  rw [readItems_of_expression htokens hwell.1]
  exact Attempt.bind_of_ok (readExpression_eq_ok_iff.2 ⟨e, hwell.2, rfl, rfl⟩)

/-- A block whose tag succeeds is taken off the tokens together with all that the tag reads. -/
theorem readItems_of_opening {opening : Token} {name : String} {tag : Tag} {budget : Nat}
    {stops : List String} {r : Reader} {ts rest : List Token} {node : Node}
    (hname : opening.tagName? = some name) (hne : name ≠ "") (hstop : name ∉ stops)
    (htag : catalog.tag? name = some tag) (htokens : r.tokens = opening :: ts)
    (hbudget : r.tokens.length ≤ budget)
    (hread : ∀ r₁ : Reader, r₁.tokens = ts → r₁.tokens.length < budget →
      ∃ r₂, r₂.tokens = rest ∧
        tag.read (catalog.reader budget) opening.splitTag.2 r₁ = (.ok node, r₂)) :
    ∃ r', r'.tokens = rest ∧ catalog.readItems (budget + 1) stops r =
      addNodes [node] (catalog.readItems budget stops) r' := by
  -- The tag reads with itself among the open tags, and leaves them as they were.
  let inner : Reader :=
    { r.past opening ts with openTags := (name, opening.line) :: r.openTags }
  have hlength : inner.tokens.length < budget := by
    rw [htokens] at hbudget
    exact hbudget
  obtain ⟨r₂, hr₂, hnode⟩ := hread inner rfl hlength
  refine ⟨{ r₂ with openTags := r.openTags }, hr₂, ?_⟩
  rw [readItems_of_tag htokens hname hne hstop htag]
  exact Attempt.bind_of_ok (Reading.inTag_eq_ok_iff.2 ⟨r₂, hnode, rfl⟩)

theorem OnlyEnds.not_mem {stops : List String} (h : OnlyEnds stops) {name : String}
    {form : Form} (hname : Entries.get? blockForms name = some form) : name ∉ stops := by
  intro hmem
  rw [h name hmem] at hname
  simp at hname

theorem onlyEnds_of_decide {stops : List String}
    (h : stops.all fun name => (Entries.get? blockForms name).isNone) : OnlyEnds stops := by
  intro name hmem
  exact Option.isNone_iff_eq_none.1 (List.all_eq_true.1 h name hmem)

/-- The body after `empty`, or the end of the loop at once. -/
theorem readEmpty_complete {clause : Option (Token × List Item)}
    (hclause : ∀ entry ∈ clause, catalog.AcceptsAll entry.2)
    (hwell : ClauseWellFormed catalog.filter? "empty" clause) {budget : Nat} {closing : Token}
    (hclosing : closing.tagName? = some "endfor") {stop : Token} {ts rest : List Token}
    {r : Reader} (htokens : clauseTokens clause ++ closing :: rest = stop :: ts)
    (hr : r.tokens = ts) (hbudget : r.tokens.length < budget) :
    ∃ r', r'.tokens = rest ∧
      readEmpty (catalog.reader budget) stop r = (.ok (clauseNodes clause), r') := by
  cases clause with
  | none =>
    obtain ⟨rfl, rfl⟩ := List.cons.inj htokens
    refine ⟨r, hr, ?_⟩
    rw [readEmpty, hclosing, if_neg (by decide)]
    rfl
  | some entry =>
    obtain ⟨opening, body⟩ := entry
    simp only [clauseTokens, List.cons_append] at htokens
    obtain ⟨rfl, rfl⟩ := List.cons.inj htokens
    obtain ⟨r', hr', hread⟩ := body_complete (hclause _ rfl) hwell.2
      (onlyEnds_of_decide (by decide)) hclosing (by decide) (List.mem_singleton_self _) hr hbudget
    refine ⟨r', hr', ?_⟩
    rw [readEmpty, hwell.1, if_pos rfl]
    exact Attempt.bind_of_ok hread

/-- The branches that are left, each with its body, and then the clause after `else`. -/
theorem readBranches_complete {others : List (Token × Condition × List Item)}
    {otherwise : Option (Token × List Item)} {closing : Token} {budget n : Nat}
    (hclosing : closing.tagName? = some "endif")
    (hothers : ∀ branch ∈ others, catalog.AcceptsAll branch.2.2)
    (hotherwise : ∀ clause ∈ otherwise, catalog.AcceptsAll clause.2)
    (hbranches : BranchesWellFormed catalog.filter? others)
    (hclause : ClauseWellFormed catalog.filter? "else" otherwise)
    (hbare : ∀ clause ∈ otherwise, clause.1.splitTag.2 = "") {body : List Item}
    (hbody : catalog.AcceptsAll body) (hitems : AllWellFormed catalog.filter? body)
    (before : List (Condition × List Node)) (condition : Condition) {rest : List Token}
    {r : Reader} (hn : others.length < n) (hbudget : r.tokens.length < budget)
    (htokens : r.tokens = allTokens body ++
      (branchTokens others ++ (clauseTokens otherwise ++ closing :: rest))) :
    ∃ r', r'.tokens = rest ∧
      readBranches (catalog.reader budget) n before condition r =
        (.ok (.choice (before ++ (condition, Item.nodes body) :: branchNodes others)
          (clauseNodes otherwise)), r') := by
  induction others generalizing n before condition body r with
  | nil =>
    obtain ⟨n, rfl⟩ := Nat.exists_eq_add_one_of_ne_zero (Nat.ne_zero_of_lt hn)
    rw [branchTokens, List.nil_append] at htokens
    cases otherwise with
    | none =>
      rw [clauseTokens, List.nil_append] at htokens
      have hmem : "endif" ∈ ["elif", "else", "endif"] := by simp
      obtain ⟨r₁, hr₁, hread⟩ := body_complete hbody hitems (onlyEnds_of_decide (by decide))
        hclosing (by decide) hmem htokens hbudget
      have hfirst : closing.splitTag.1 = "endif" := (Token.tagName?_eq_some_iff.1 hclosing).2
      refine ⟨r₁, hr₁, (Attempt.bind_of_ok hread).trans ?_⟩
      simp only [hfirst, branchNodes, clauseNodes]
      rfl
    | some clause =>
      obtain ⟨opening, items⟩ := clause
      rw [clauseTokens, List.cons_append] at htokens
      have hmem : "else" ∈ ["elif", "else", "endif"] := by simp
      obtain ⟨r₁, hr₁, hread⟩ := body_complete hbody hitems (onlyEnds_of_decide (by decide))
        hclause.1 (by decide) hmem htokens hbudget
      have hlength : r₁.tokens.length < budget := by
        rw [htokens] at hbudget
        simp only [List.length_append, List.length_cons] at hbudget
        rw [hr₁, List.length_append, List.length_cons]
        omega
      obtain ⟨r₂, hr₂, hlast⟩ := body_complete (hotherwise _ rfl) hclause.2
        (onlyEnds_of_decide (by decide)) hclosing (by decide) (List.mem_singleton_self _) hr₁
        hlength
      have hfirst : opening.splitTag.1 = "else" := (Token.tagName?_eq_some_iff.1 hclause.1).2
      have hargs : opening.splitTag.2 = "" := hbare (opening, items) rfl
      refine ⟨r₂, hr₂, (Attempt.bind_of_ok hread).trans ?_⟩
      simp only [hfirst, hargs, branchNodes, clauseNodes]
      exact Attempt.bind_of_ok hlast
  | cons branch others ih =>
    -- The body ends at the next branch, from which on the induction hypothesis reads.
    obtain ⟨opening, next, items⟩ := branch
    obtain ⟨n, rfl⟩ := Nat.exists_eq_add_one_of_ne_zero (Nat.ne_zero_of_lt hn)
    obtain ⟨⟨hname, hcondition, hnext⟩, hmore⟩ := hbranches
    rw [branchTokens, List.cons_append, List.append_assoc] at htokens
    have hmem : "elif" ∈ ["elif", "else", "endif"] := by simp
    obtain ⟨r₁, hr₁, hread⟩ := body_complete hbody hitems (onlyEnds_of_decide (by decide))
      hname (by decide) hmem htokens hbudget
    have hlength : r₁.tokens.length < budget := by
      rw [htokens, ← hr₁] at hbudget
      simp only [List.length_append, List.length_cons] at hbudget
      omega
    obtain ⟨r₂, hr₂, hlater⟩ := ih
      (fun branch hmem => hothers branch (List.mem_cons_of_mem _ hmem)) hmore
      (hothers _ List.mem_cons_self) hnext (before ++ [(condition, Item.nodes body)]) next
      (Nat.lt_of_succ_lt_succ hn) hlength hr₁
    have hfirst : opening.splitTag.1 = "elif" := (Token.tagName?_eq_some_iff.1 hname).2
    refine ⟨r₂, hr₂, (Attempt.bind_of_ok hread).trans ?_⟩
    simp only [hfirst, if_true]
    refine (Attempt.bind_of_ok (Reading.atTag_eq_ok_iff.2 ⟨hcondition, rfl⟩)).trans ?_
    rw [hlater, List.append_assoc]
    rfl

theorem length_le_branchTokens (others : List (Token × Condition × List Item)) :
    others.length ≤ (branchTokens others).length := by
  induction others with
  | nil => exact Nat.le_refl 0
  | cons branch others ih =>
    obtain ⟨opening, condition, body⟩ := branch
    simp only [branchTokens, List.length_cons, List.length_append]
    omega

section Standard

variable (hcatalog : catalog.HasStandardTags)
include hcatalog

theorem accepts_inclusion (t : Token) (name : Expression) :
    catalog.Accepts (.inclusion t name) := by
  intro hwell budget stops r rest hends htokens hbudget
  obtain ⟨hopening, word, hwords, hname⟩ := hwell
  refine readItems_of_opening hopening (by decide) (hends.not_mem rfl)
    (hcatalog "include") htokens hbudget ?_
  intro r₁ hr₁ _
  refine ⟨r₁, hr₁, ?_⟩
  simp only [includeTag, hwords]
  exact Attempt.bind_of_ok (TagReader.expression_eq_ok_iff.2 ⟨hname, rfl⟩)

/-- A binding is accepted with its body and the block that ends it. -/
theorem accepts_binding {opening closing : Token} {names : List (String × Expression)}
    {body : List Item} (hbody : catalog.AcceptsAll body) :
    catalog.Accepts (.binding opening names body closing) := by
  intro hwell budget stops r rest hends htokens hbudget
  obtain ⟨hopening, hnames, hitems, hclosing⟩ := hwell
  simp only [tokens, List.cons_append, List.append_assoc, List.nil_append] at htokens
  refine readItems_of_opening hopening (by decide) (hends.not_mem rfl)
    (hcatalog "with") htokens hbudget ?_
  intro r₁ hr₁ hlength
  obtain ⟨r₂, hr₂, hread⟩ := body_complete hbody hitems
    (onlyEnds_of_decide (by decide)) hclosing (by decide) (List.mem_singleton_self _) hr₁ hlength
  refine ⟨r₂, hr₂, ?_⟩
  refine (Attempt.bind_of_ok (Reading.atTag_eq_ok_iff.2 ⟨hnames, rfl⟩)).trans ?_
  exact Attempt.bind_of_ok hread

theorem accepts_skipped (opening closing : Token) (inner : List Token) :
    catalog.Accepts (.skipped opening inner closing) := by
  intro hwell budget stops r rest hends htokens hbudget
  obtain ⟨hopening, hinner, hclosing⟩ := hwell
  simp only [tokens, List.cons_append, List.append_assoc, List.nil_append] at htokens
  refine readItems_of_opening hopening (by decide) (hends.not_mem rfl)
    (hcatalog "comment") htokens hbudget ?_
  intro r₁ hr₁ _
  have hskip : Reading.skipPast "endcomment" r₁ = (.ok (), r₁.past closing rest) :=
    Reading.skipPast_eq_ok_iff.2 ⟨inner, closing, hr₁, hinner, hclosing, rfl⟩
  exact ⟨r₁.past closing rest, rfl, Attempt.bind_of_ok hskip⟩

theorem accepts_loop {opening closing : Token} {head : LoopHead} {items : Expression}
    {body : List Item} {clause : Option (Token × List Item)} (hbody : catalog.AcceptsAll body)
    (hclause : ∀ entry ∈ clause, catalog.AcceptsAll entry.2) :
    catalog.Accepts (.loop opening head items body clause closing) := by
  intro hwell budget stops r rest hends htokens hbudget
  obtain ⟨hopening, ⟨hhead, hexpr⟩, hitems, hempty, hclosing⟩ := hwell
  simp only [tokens, List.cons_append, List.append_assoc, List.nil_append] at htokens
  refine readItems_of_opening hopening (by decide) (hends.not_mem rfl)
    (hcatalog "for") htokens hbudget ?_
  intro r₁ hr₁ hlength
  obtain ⟨stop, ts, name, hts, hname, hmem⟩ :=
    stopsAt_clause hempty (stopsAt_closing hclosing rest)
  rw [hts] at hr₁
  obtain ⟨r₂, hr₂, hread⟩ := body_complete hbody hitems
    (onlyEnds_of_decide (by decide)) hname (by rintro rfl; simp at hmem) hmem hr₁ hlength
  have hlength₂ : r₂.tokens.length < budget := by
    rw [hr₁] at hlength
    simp only [List.length_append, List.length_cons] at hlength
    rw [hr₂]
    omega
  obtain ⟨r₃, hr₃, hreadEmpty⟩ := readEmpty_complete hclause hempty hclosing hts hr₂ hlength₂
  refine ⟨r₃, hr₃, ?_⟩
  refine (Attempt.bind_of_ok (Reading.atTag_eq_ok_iff.2 ⟨hhead, rfl⟩)).trans ?_
  refine (Attempt.bind_of_ok (TagReader.expression_eq_ok_iff.2 ⟨hexpr, rfl⟩)).trans ?_
  refine (Attempt.bind_of_ok hread).trans ?_
  exact Attempt.bind_of_ok hreadEmpty

/-- A choice is accepted with all its branches. -/
theorem accepts_choice {opening closing : Token} {condition : Condition} {body : List Item}
    {others : List (Token × Condition × List Item)} {otherwise : Option (Token × List Item)}
    (hbody : catalog.AcceptsAll body)
    (hothers : ∀ branch ∈ others, catalog.AcceptsAll branch.2.2)
    (hotherwise : ∀ clause ∈ otherwise, catalog.AcceptsAll clause.2) :
    catalog.Accepts (.choice opening condition body others otherwise closing) := by
  intro hwell budget stops r rest hends htokens hbudget
  obtain ⟨hopening, hcondition, hitems, hbranches, hclause, hbare, hclosing⟩ := hwell
  simp only [tokens, List.cons_append, List.append_assoc, List.nil_append] at htokens
  refine readItems_of_opening hopening (by decide) (hends.not_mem rfl)
    (hcatalog "if") htokens hbudget ?_
  intro r₁ hr₁ hlength
  have hcount : others.length < budget + 1 := by
    have hle := length_le_branchTokens others
    rw [hr₁] at hlength
    simp only [List.length_append] at hlength
    omega
  obtain ⟨r₂, hr₂, hread⟩ := readBranches_complete hclosing hothers hotherwise hbranches
    hclause hbare hbody hitems [] condition hcount hlength hr₁
  refine ⟨r₂, hr₂, ?_⟩
  exact (Attempt.bind_of_ok (Reading.atTag_eq_ok_iff.2 ⟨hcondition, rfl⟩)).trans hread

/-- The reader accepts every well-formed item, by induction on the item. -/
theorem accepts (item : Item) : catalog.Accepts item := by
  induction item with
  | text t => exact accepts_text t
  | comment t => exact accepts_comment t
  | expression t e => exact accepts_expression t e
  | inclusion t name => exact accepts_inclusion hcatalog t name
  | binding opening names body closing hbody =>
    exact accepts_binding hcatalog (acceptsAll hbody)
  | choice opening condition body others otherwise closing hbody hothers hotherwise =>
    exact accepts_choice hcatalog (acceptsAll hbody)
      (fun branch hmem => acceptsAll (hothers branch hmem))
      (fun clause hmem => acceptsAll (hotherwise clause hmem))
  | loop opening head items body empty closing hbody hempty =>
    exact accepts_loop hcatalog (acceptsAll hbody)
      (fun clause hmem => acceptsAll (hempty clause hmem))
  | skipped opening inner closing => exact accepts_skipped hcatalog opening closing inner

end Standard

/-- Tokens that have a derivation are read to its nodes. -/
theorem readAll_of_derives (hcatalog : catalog.HasStandardTags) {ts : List Token}
    {items : List Item} (h : Derives catalog.filter? items ts) :
    (catalog.readAll { tokens := ts }).1 = .ok (Item.nodes items) := by
  let r : Reader := { tokens := ts }
  have htokens : r.tokens = allTokens items ++ [] := by rw [h.2, List.append_nil]
  have haccepts : catalog.AcceptsAll items := acceptsAll fun item _ => accepts hcatalog item
  have hends : OnlyEnds [] := fun name hmem => by simp at hmem
  obtain ⟨budget, r', hbudget, hr', hread⟩ :=
    haccepts h.1 r.budget [] r [] hends htokens (Reader.length_lt_budget r)
  obtain ⟨budget, rfl⟩ := Nat.exists_eq_add_one_of_ne_zero (Nat.ne_zero_of_lt hbudget)
  have hall : catalog.readItems r.budget [] r = (.ok (Item.nodes items, none), r') := by
    rw [hread, addNodes_eq_ok (readItems_of_nil hr'), List.append_nil]
  change (catalog.readAll r).1 = _
  rw [readAll, Attempt.bind_of_ok hall]
  rfl

/-- A template compiles to the nodes of any derivation of its tokens. -/
theorem compile_of_derives (hcatalog : catalog.HasStandardTags) {trim : Bool}
    {source : String} {items : List Item}
    (h : Derives catalog.filter? items (Token.scan trim source)) :
    catalog.compile trim source = .ok (Item.nodes items) :=
  readAll_of_derives hcatalog h

/-- A template with the standard tags compiles exactly if its tokens have a derivation, to the
nodes of that derivation, and there is at most one. -/
theorem compile_iff_derives (hcatalog : catalog.HasStandardTags) (trim : Bool)
    (source : String) :
    (∀ nodes, catalog.compile trim source = .ok nodes ↔
      ∃ items, Derives catalog.filter? items (Token.scan trim source) ∧
        Item.nodes items = nodes) ∧
    ∀ items items', Derives catalog.filter? items (Token.scan trim source) →
      Derives catalog.filter? items' (Token.scan trim source) → items = items' := by
  refine ⟨?_, fun items items' h h' => derives_unique h h'⟩
  intro nodes
  constructor
  · exact derives_of_compile hcatalog.only
  · rintro ⟨items, hitems, rfl⟩
    exact compile_of_derives hcatalog hitems

/-- With the default libraries, a choice between a text and nothing has its derivation. -/
theorem compile_iff_derives_choice :
    Engine.withDefaults.catalog.HasStandardTags ∧
      ∃ items, Derives Engine.withDefaults.catalog.filter? items
          (Token.scan false "a{% if x %}b{% endif %}") ∧
        Item.nodes items = [.text "a",
          .choice [(.operand { source := "x", head := .path ["x"], calls := [] }, [.text "b"])]
            none] := by
  have hcatalog := Engine.withDefaults_hasStandardTags
  refine ⟨hcatalog, ((compile_iff_derives hcatalog false "a{% if x %}b{% endif %}").1 _).1 ?_⟩
  have htokens : Token.scan false "a{% if x %}b{% endif %}" = [⟨.text, "a", 1⟩,
      ⟨.tag .block, "if x", 1⟩, ⟨.text, "b", 1⟩, ⟨.tag .block, "endif", 1⟩] := by
    decide +kernel
  rw [Catalog.compile, htokens]
  with_unfolding_all rfl

end Catalog

end TextTemplate
