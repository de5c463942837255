import TextTemplate.Proofs.Items
import TextTemplate.Proofs.ReadingSteps
import TextTemplate.Proofs.StandardCatalog

/-!
Reading follows the grammar. Whatever the reader of a standard catalog accepts has a
derivation, by induction on the budget; each standard tag contributes one form of item, as
long as the bodies that it asks for are derivations.
-/
namespace TextTemplate

open Item Tags

/-- The tokens between two readers are a derivation of the nodes, up to a block with one of
the given names or else up to the end. -/
def DerivedUpTo (filters : Expression.FilterTable) (stops : List String) (r : Reader)
    (nodes : List Node) (stop : Option Token) (r' : Reader) : Prop :=
  ∃ items, AllWellFormed filters items ∧ Item.nodes items = nodes ∧
    r.tokens = allTokens items ++ (stop.toList ++ r'.tokens) ∧ (stop = none → r'.tokens = []) ∧
    ∀ t ∈ stop, ∃ name ∈ stops, t.tagName? = some name

def ReadsDerivations (filters : Expression.FilterTable)
    (read : List String → Reading (List Node × Option Token)) : Prop :=
  ∀ stops r nodes stop r', read stops r = (.ok (nodes, stop), r') →
    DerivedUpTo filters stops r nodes stop r'

def Tag.ReadsItem (tag : Tag) (name : String) : Prop :=
  ∀ reader opening r node r', ReadsDerivations reader.filters reader.items →
    opening.tagName? = some name → tag.read reader opening.splitTag.2 r = (.ok node, r') →
    ∃ item, WellFormed reader.filters item ∧ item.node? = some node ∧
      opening :: r.tokens = item.tokens ++ r'.tokens

section Sound

variable {reader : TagReader}

/-- The body of a tag is read as items, up to a block that ends it. -/
theorem body_sound (hreads : ReadsDerivations reader.filters reader.items)
    {stops : List String} {nodes : List Node} {stop : Token} {r r' : Reader}
    (h : reader.body stops r = (.ok (nodes, stop), r')) :
    ∃ items name, AllWellFormed reader.filters items ∧ Item.nodes items = nodes ∧
      r.tokens = allTokens items ++ stop :: r'.tokens ∧ name ∈ stops ∧
      stop.tagName? = some name := by
  obtain ⟨items, hitems, hnodes, htokens, _, hstop⟩ :=
    hreads _ _ _ _ _ (TagReader.body_eq_ok_iff.1 h)
  obtain ⟨name, hmem, hname⟩ := hstop stop rfl
  exact ⟨items, name, hitems, hnodes, htokens, hmem, hname⟩

theorem body_sound_single (hreads : ReadsDerivations reader.filters reader.items)
    {name : String} {nodes : List Node} {stop : Token} {r r' : Reader}
    (h : reader.body [name] r = (.ok (nodes, stop), r')) :
    ∃ items, AllWellFormed reader.filters items ∧ Item.nodes items = nodes ∧
      r.tokens = allTokens items ++ stop :: r'.tokens ∧ stop.tagName? = some name := by
  obtain ⟨items, name', hitems, hnodes, htokens, hmem, hname⟩ := body_sound hreads h
  rw [List.mem_singleton.1 hmem] at hname
  exact ⟨items, hitems, hnodes, htokens, hname⟩

theorem withTag_readsItem : withTag.ReadsItem "with" := by
  intro reader opening r node r' hreads hopening hread
  obtain ⟨names, r₁, hargs, hrest⟩ := Attempt.bind_eq_ok_iff.1 hread
  obtain ⟨hnames, rfl⟩ := Reading.atTag_eq_ok_iff.1 hargs
  obtain ⟨⟨nodes, closing⟩, r₂, hbody, hnode⟩ := Attempt.bind_eq_ok_iff.1 hrest
  obtain ⟨rfl, rfl⟩ := Attempt.pure_eq_ok_iff.1 hnode
  obtain ⟨items, hitems, rfl, htokens, hclosing⟩ := body_sound_single hreads hbody
  refine ⟨.binding opening names items closing, ?_, rfl, ?_⟩
  · exact ⟨hopening, hnames, hitems, hclosing⟩
  · simp [tokens, htokens]

theorem includeTag_readsItem : includeTag.ReadsItem "include" := by
  intro reader opening r node r' _ hopening hread
  rcases hwords : Source.words opening.splitTag.2 with _ | ⟨word, _ | ⟨second, more⟩⟩
  · simp [includeTag, hwords, Reading.failAtTag] at hread
  · simp only [includeTag, hwords] at hread
    obtain ⟨name, r₁, hargs, hnode⟩ := Attempt.bind_eq_ok_iff.1 hread
    obtain ⟨hname, rfl⟩ := TagReader.expression_eq_ok_iff.1 hargs
    obtain ⟨rfl, rfl⟩ := Attempt.pure_eq_ok_iff.1 hnode
    exact ⟨.inclusion opening name, ⟨hopening, word, hwords, hname⟩, rfl, rfl⟩
  · simp [includeTag, hwords, Reading.failAtTag] at hread

theorem commentTag_readsItem : commentTag.ReadsItem "comment" := by
  intro reader opening r node r' _ hopening hread
  obtain ⟨_, r₁, hskip, hnode⟩ := Attempt.bind_eq_ok_iff.1 hread
  obtain ⟨rfl, rfl⟩ := Attempt.pure_eq_ok_iff.1 hnode
  obtain ⟨inner, closing, htokens, hinner, hclosing, _⟩ := Reading.skipPast_eq_ok_iff.1 hskip
  refine ⟨.skipped opening inner closing, ⟨hopening, hinner, hclosing⟩, rfl, ?_⟩
  simp [tokens, htokens]

/-- What comes after the body of a loop: its end, or `empty` with a body of its own. -/
theorem readEmpty_sound (hreads : ReadsDerivations reader.filters reader.items)
    {name : String} {stop : Token} {empty : Option (List Node)} {r r' : Reader}
    (hmem : name ∈ ["empty", "endfor"]) (hname : stop.tagName? = some name)
    (hread : readEmpty reader stop r = (.ok empty, r')) :
    ∃ clause closing, ClauseWellFormed reader.filters "empty" clause ∧
      clauseNodes clause = empty ∧ closing.tagName? = some "endfor" ∧
      stop :: r.tokens = clauseTokens clause ++ closing :: r'.tokens := by
  unfold readEmpty at hread
  split at hread
  · rename_i hstop
    obtain ⟨⟨nodes, closing⟩, r₁, hbody, hempty⟩ := Attempt.bind_eq_ok_iff.1 hread
    obtain ⟨rfl, rfl⟩ := Attempt.pure_eq_ok_iff.1 hempty
    obtain ⟨items, hitems, rfl, htokens, hclosing⟩ := body_sound_single hreads hbody
    refine ⟨some (stop, items), closing, ⟨hstop, hitems⟩, rfl, hclosing, ?_⟩
    simp [clauseTokens, htokens]
  · rename_i hstop
    obtain ⟨rfl, rfl⟩ := Attempt.pure_eq_ok_iff.1 hread
    have hend : name = "endfor" := by
      rcases List.mem_cons.1 hmem with rfl | hrest
      · exact absurd hname hstop
      · exact List.mem_singleton.1 hrest
    exact ⟨none, stop, trivial, rfl, hend ▸ hname, rfl⟩

theorem forTag_readsItem : forTag.ReadsItem "for" := by
  intro reader opening r node r' hreads hopening hread
  obtain ⟨head, r₁, hargs, hrest⟩ := Attempt.bind_eq_ok_iff.1 hread
  obtain ⟨hhead, rfl⟩ := Reading.atTag_eq_ok_iff.1 hargs
  obtain ⟨e, r₂, hexpr, hbodies⟩ := Attempt.bind_eq_ok_iff.1 hrest
  obtain ⟨he, rfl⟩ := TagReader.expression_eq_ok_iff.1 hexpr
  obtain ⟨⟨nodes, stop⟩, r₃, hbody, hafter⟩ := Attempt.bind_eq_ok_iff.1 hbodies
  obtain ⟨empty, r₄, hempty, hnode⟩ := Attempt.bind_eq_ok_iff.1 hafter
  obtain ⟨rfl, rfl⟩ := Attempt.pure_eq_ok_iff.1 hnode
  obtain ⟨items, name, hitems, rfl, htokens, hmem, hname⟩ := body_sound hreads hbody
  obtain ⟨clause, closing, hclause, rfl, hclosing, hrest'⟩ :=
    readEmpty_sound hreads hmem hname hempty
  refine ⟨.loop opening head e items clause closing, ?_, rfl, ?_⟩
  · exact ⟨hopening, ⟨hhead, he⟩, hitems, hclause, hclosing⟩
  · simp [tokens, htokens, hrest']

/-- What comes after the condition of a choice's branch: its body, further branches, perhaps
an `else`, and the end. -/
theorem readBranches_sound (hreads : ReadsDerivations reader.filters reader.items)
    {budget : Nat} {before : List (Condition × List Node)} {condition : Condition} {node : Node}
    {r r' : Reader} (hread : readBranches reader budget before condition r = (.ok node, r')) :
    ∃ body others otherwise closing, AllWellFormed reader.filters body ∧
      BranchesWellFormed reader.filters others ∧
      ClauseWellFormed reader.filters "else" otherwise ∧
      (∀ clause ∈ otherwise, clause.1.splitTag.2 = "") ∧ closing.tagName? = some "endif" ∧
      node = .choice (before ++ (condition, Item.nodes body) :: branchNodes others)
        (clauseNodes otherwise) ∧
      r.tokens = allTokens body ++ (branchTokens others ++
        (clauseTokens otherwise ++ closing :: r'.tokens)) := by
  induction budget generalizing before condition r with
  | zero => simp [readBranches, Reading.failAtTag] at hread
  | succ budget ih =>
    obtain ⟨⟨nodes, stop⟩, r₁, hbody, hrest⟩ := Attempt.bind_eq_ok_iff.1 hread
    obtain ⟨items, name, hitems, rfl, htokens, hmem, hname⟩ := body_sound hreads hbody
    have hfirst : stop.splitTag.1 = name := (Token.tagName?_eq_some_iff.1 hname).2
    simp only [hfirst] at hrest
    split at hrest
    · rename_i helif
      subst helif
      obtain ⟨next, r₂, hargs, hbranches⟩ := Attempt.bind_eq_ok_iff.1 hrest
      obtain ⟨hcond, rfl⟩ := Reading.atTag_eq_ok_iff.1 hargs
      obtain ⟨body, others, otherwise, closing, hbody', hothers, hother, hbare, hclosing, rfl,
        hafter⟩ := ih hbranches
      refine ⟨items, (stop, next, body) :: others, otherwise, closing, hitems,
        ⟨⟨hname, hcond, hbody'⟩, hothers⟩, hother, hbare, hclosing, ?_, ?_⟩
      · simp [branchNodes]
      · simp [htokens, hafter, branchTokens]
    · rename_i hnotElif
      split at hrest
      · rename_i helse
        subst helse
        split at hrest
        · rename_i hbare
          obtain ⟨⟨nodes', closing⟩, r₂, hbody', hnode⟩ := Attempt.bind_eq_ok_iff.1 hrest
          obtain ⟨rfl, rfl⟩ := Attempt.pure_eq_ok_iff.1 hnode
          obtain ⟨body, hbody, rfl, hafter, hclosing⟩ := body_sound_single hreads hbody'
          refine ⟨items, [], some (stop, body), closing, hitems, trivial, ⟨hname, hbody⟩, ?_,
            hclosing, ?_, ?_⟩
          · intro clause hclause
            obtain rfl := Option.mem_some_iff.1 hclause
            exact String.isEmpty_iff.1 hbare
          · simp [branchNodes, clauseNodes]
          · simp [htokens, hafter, branchTokens, clauseTokens]
        · simp [Reading.failAtTag] at hrest
      · rename_i hnotElse
        obtain ⟨rfl, rfl⟩ := Attempt.pure_eq_ok_iff.1 hrest
        have hend : name = "endif" := by
          simpa [hnotElif, hnotElse] using hmem
        refine ⟨items, [], none, stop, hitems, trivial, trivial, ?_, hend ▸ hname, ?_, ?_⟩
        · intro clause hclause
          simp at hclause
        · simp [branchNodes, clauseNodes]
        · simp [htokens, branchTokens, clauseTokens]

theorem ifTag_readsItem : ifTag.ReadsItem "if" := by
  intro reader opening r node r' hreads hopening hread
  obtain ⟨condition, r₁, hargs, hrest⟩ := Attempt.bind_eq_ok_iff.1 hread
  obtain ⟨hcond, rfl⟩ := Reading.atTag_eq_ok_iff.1 hargs
  obtain ⟨body, others, otherwise, closing, hbody, hothers, hother, hbare, hclosing, rfl,
    htokens⟩ := readBranches_sound hreads hrest
  refine ⟨.choice opening condition body others otherwise closing, ?_, rfl, ?_⟩
  · exact ⟨hopening, hcond, hbody, hothers, hother, hbare, hclosing⟩
  · simp [tokens, htokens]

end Sound

/-- Each standard tag reads an item of its own form. -/
theorem Tags.readsItem_of_get?_all {name : String} {tag : Tag}
    (h : Entries.get? Tags.all name = some tag) : tag.ReadsItem name := by
  rcases get?_all_cases h with ⟨rfl, rfl⟩ | ⟨rfl, rfl⟩ | ⟨rfl, rfl⟩ | ⟨rfl, rfl⟩ | ⟨rfl, rfl⟩
  · exact withTag_readsItem
  · exact ifTag_readsItem
  · exact forTag_readsItem
  · exact commentTag_readsItem
  · exact includeTag_readsItem

/-- An item in front of what has been derived. -/
theorem DerivedUpTo.cons {filters : Expression.FilterTable} {stops : List String}
    {r r₁ r' : Reader} {nodes : List Node} {stop : Option Token}
    (h : DerivedUpTo filters stops r₁ nodes stop r') {item : Item}
    (hitem : WellFormed filters item) (htokens : r.tokens = item.tokens ++ r₁.tokens) :
    DerivedUpTo filters stops r (item.node?.toList ++ nodes) stop r' := by
  obtain ⟨items, hitems, rfl, hrest, hend, hstop⟩ := h
  refine ⟨item :: items, ⟨hitem, hitems⟩, rfl, ?_, hend, hstop⟩
  rw [htokens, hrest, allTokens, List.append_assoc]

namespace Catalog

variable {catalog : Catalog}

/-- What a reading of items that succeeds begins with: it is done, or it comes to a stop, or it
reads an item of a single token or a tag and goes on. -/
inductive ReadsFirst (catalog : Catalog) (budget : Nat) (stops : List String) (r : Reader) :
    List Node → Option Token → Reader → Prop where
  | done (htokens : r.tokens = []) : ReadsFirst catalog budget stops r [] none r
  | stop {t : Token} {rest : List Token} {name : String} (htokens : r.tokens = t :: rest)
      (hname : t.tagName? = some name) (hstop : name ∈ stops) :
      ReadsFirst catalog budget stops r [] (some t) (r.past t rest)
  | single {t : Token} {rest : List Token} {item : Item} {nodes : List Node}
      {stop : Option Token} {r' : Reader} (htokens : r.tokens = t :: rest)
      (hitem : WellFormed catalog.filter? item) (hsingle : item.tokens = [t])
      (hlater : catalog.readItems budget stops (r.past t rest) = (.ok (nodes, stop), r')) :
      ReadsFirst catalog budget stops r (item.node?.toList ++ nodes) stop r'
  | tag {t : Token} {rest : List Token} {name : String} {tag : Tag} {node : Node}
      {nodes : List Node} {stop : Option Token} {after r' : Reader} (htokens : r.tokens = t :: rest)
      (hname : t.tagName? = some name) (htag : catalog.tag? name = some tag)
      (hread : tag.read (catalog.reader budget) t.splitTag.2
        { r.past t rest with openTags := (name, t.line) :: r.openTags } = (.ok node, after))
      (hlater : catalog.readItems budget stops { after with openTags := r.openTags } =
        (.ok (nodes, stop), r')) :
      ReadsFirst catalog budget stops r (node :: nodes) stop r'

/-- Every reading of items that succeeds begins in one of these ways. -/
theorem readsFirst_of_readItems {budget : Nat} {stops : List String} {nodes : List Node}
    {stop : Option Token} {r r' : Reader}
    (h : catalog.readItems (budget + 1) stops r = (.ok (nodes, stop), r')) :
    ReadsFirst catalog budget stops r nodes stop r' := by
  cases htokens : r.tokens with
  | nil =>
    rw [readItems_of_nil htokens] at h
    obtain ⟨houtcome, rfl⟩ := Prod.mk.inj h
    obtain ⟨rfl, rfl⟩ := Prod.mk.inj (Except.ok.inj houtcome)
    exact .done htokens
  | cons t rest =>
    cases hkind : t.kind with
    | text =>
      rw [readItems_of_text htokens hkind] at h
      obtain ⟨later, rfl, hlater⟩ := addNode_eq_ok_iff.1 h
      have hitem : WellFormed catalog.filter? (.text t) := hkind
      exact .single htokens hitem rfl hlater
    | tag kind =>
      cases kind with
      | comment =>
        rw [readItems_of_comment htokens hkind] at h
        have hitem : WellFormed catalog.filter? (.comment t) := hkind
        exact .single htokens hitem rfl h
      | expression =>
        rw [readItems_of_expression htokens hkind] at h
        obtain ⟨node, r₁, hnode, hlater⟩ := Attempt.bind_eq_ok_iff.1 h
        obtain ⟨e, hexpr, rfl, rfl⟩ := readExpression_eq_ok_iff.1 hnode
        obtain ⟨later, rfl, hrest⟩ := addNode_eq_ok_iff.1 hlater
        have hitem : WellFormed catalog.filter? (.expression t e) := ⟨hkind, hexpr⟩
        exact .single htokens hitem rfl hrest
      | block =>
        obtain ⟨name, hname, hne, hcase⟩ := block_cases htokens hkind h
        rcases hcase with hstop | ⟨hstop, tag, htag⟩
        · rw [readItems_of_stop htokens hname hne hstop] at h
          obtain ⟨houtcome, rfl⟩ := Prod.mk.inj h
          obtain ⟨rfl, rfl⟩ := Prod.mk.inj (Except.ok.inj houtcome)
          exact .stop htokens hname hstop
        · rw [readItems_of_tag htokens hname hne hstop htag] at h
          obtain ⟨node, r₁, htagged, hlater⟩ := Attempt.bind_eq_ok_iff.1 h
          obtain ⟨after, hread, rfl⟩ := Reading.inTag_eq_ok_iff.1 htagged
          obtain ⟨later, rfl, hrest⟩ := addNode_eq_ok_iff.1 hlater
          exact .tag htokens hname htag hread hrest

/-- All that a standard catalog reads is a derivation. -/
theorem readItems_sound (hcatalog : catalog.HasOnlyStandardTags) (budget : Nat) :
    ReadsDerivations catalog.filter? (catalog.readItems budget) := by
  induction budget with
  | zero =>
    intro stops r nodes stop r' hread
    simp [readItems, Reading.failAtTag] at hread
  | succ budget ih =>
    intro stops r nodes stop r' hread
    cases readsFirst_of_readItems hread with
    | done htokens =>
      exact ⟨[], trivial, rfl, by simp [htokens, allTokens], fun _ => htokens, by simp⟩
    | @stop t rest name htokens hname hstop =>
      refine ⟨[], trivial, rfl, by simp [htokens, allTokens], by simp, ?_⟩
      intro t' ht'
      obtain rfl := Option.mem_some_iff.1 ht'
      exact ⟨name, hstop, hname⟩
    | single htokens hitem hsingle hlater =>
      refine (ih _ _ _ _ _ hlater).cons hitem ?_
      rw [htokens, hsingle]
      rfl
    | @tag t rest name tag node nodes stop after r' htokens hname htag hnode hlater =>
      have hreads : tag.ReadsItem name := readsItem_of_get?_all (hcatalog name tag htag)
      obtain ⟨item, hitem, hnode?, hitemTokens⟩ := hreads _ _ _ _ _ ih hname hnode
      have hderived := (ih _ _ _ _ _ hlater).cons hitem (htokens.trans hitemTokens)
      rwa [hnode?] at hderived

/-- Reading items leaves the tags around them open. -/
theorem readItems_openTags {budget : Nat} {stops : List String} {nodes : List Node}
    {stop : Option Token} {r r' : Reader}
    (h : catalog.readItems budget stops r = (.ok (nodes, stop), r')) :
    r'.openTags = r.openTags := by
  induction budget generalizing nodes stop r with
  | zero => simp [readItems, Reading.failAtTag] at h
  | succ budget ih =>
    cases readsFirst_of_readItems h with
    | done => rfl
    | stop => rfl
    | single htokens hitem hsingle hlater =>
      have hkept := ih hlater
      exact hkept
    | tag htokens hname htag hread hlater =>
      have hkept := ih hlater
      exact hkept

theorem compile_eq_ok_iff_readItems {trim : Bool} {source : String} {nodes : List Node} :
    catalog.compile trim source = .ok nodes ↔
      ∃ stop r', let r : Reader := { tokens := Token.scan trim source }
        catalog.readItems r.budget [] r = (.ok (nodes, stop), r') := by
  unfold compile readAll
  generalize ({ tokens := Token.scan trim source } : Reader) = r
  constructor
  · intro h
    obtain ⟨⟨nodes', stop⟩, r₁, hread, hpure⟩ := Attempt.bind_eq_ok_iff.1 (Prod.ext h rfl)
    obtain ⟨rfl, _⟩ := Attempt.pure_eq_ok_iff.1 hpure
    exact ⟨stop, r₁, hread⟩
  · rintro ⟨stop, r₁, hread⟩
    rw [Attempt.bind_of_ok hread]
    rfl

/-- Whatever compiles has a derivation, also if some of the standard tags are missing. -/
theorem derives_of_compile (hcatalog : catalog.HasOnlyStandardTags) {trim : Bool}
    {source : String} {nodes : List Node} (h : catalog.compile trim source = .ok nodes) :
    ∃ items, Derives catalog.filter? items (Token.scan trim source) ∧
      Item.nodes items = nodes := by
  obtain ⟨stop, r', hread⟩ := compile_eq_ok_iff_readItems.1 h
  obtain ⟨items, hitems, hnodes, htokens, hend, hstop⟩ :=
    readItems_sound hcatalog _ _ _ _ _ _ hread
  cases stop with
  | some t =>
    obtain ⟨name, hmem, _⟩ := hstop t rfl
    simp at hmem
  | none =>
    rw [hend rfl, Option.toList_none, List.append_nil, List.append_nil] at htokens
    exact ⟨items, ⟨hitems, htokens.symm⟩, hnodes⟩

end Catalog

end TextTemplate
