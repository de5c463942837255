import TextTemplate.Proofs.BlamedReadings

/-!
Where faults are blamed. A template that cannot be read has a fault on the line of one of its
expressions or blocks. If the fault is that a block is not closed, then it is the innermost
block that is open where a pass over the tokens ends. Each standard tag blames the faults of
its arguments and bodies so, as long as the items that it asks for are read so; the rest is an
induction on the budget.
-/
namespace TextTemplate

open Item Tags

def Tag.Blames (tag : Tag) (name : String) : Prop :=
  ∀ (reader : TagReader) (opening : Token) (stack : List OpenBlock) (r : Reader), reader.Blames →
    HoldsItems stack → opening.tagName? = some name →
    r.openTags = (name, opening.line) :: stack.map (fun block => (block.name, block.line)) →
    r.tokens.length < reader.budget →
    Blaming stack (opening :: r.tokens) (tag.read reader opening.splitTag.2) r

section Tags

variable {reader : TagReader} {stack : List OpenBlock} {r : Reader} {line : Nat}

theorem includeTag_blames : includeTag.Blames "include" := by
  intro reader opening stack r _ _ hopening htags _
  have hline : StartsOn stack (opening :: r.tokens) opening.line := startsOn_block hopening
  rcases hwords : Source.words opening.splitTag.2 with _ | ⟨word, _ | ⟨second, more⟩⟩
  · simp only [includeTag, hwords]
    exact .failAtTag htags hline trivial
  · simp only [includeTag, hwords]
    refine (Blaming.atTag htags hline (Expression.read_failsLocally _ _)).bind ?_
    intro name r₁ _
    exact .of_eq_ok rfl
  · simp only [includeTag, hwords]
    exact .failAtTag htags hline trivial

theorem withTag_blames : withTag.Blames "with" := by
  intro reader opening stack r hreader hstack hopening htags hlt
  have hline : StartsOn stack (opening :: r.tokens) opening.line := startsOn_block hopening
  have hinner : r.Inside (⟨"with", opening.line, ["endwith"]⟩ :: stack) :=
    ⟨holdsItems_cons (by decide) (by decide), htags⟩
  refine (Blaming.atTag htags hline (readBindings_failsLocally _ _)).bind ?_
  intro bindings r₁ hargs
  obtain ⟨_, rfl⟩ := Reading.atTag_eq_ok_iff.1 hargs
  have hbody := (hreader.body_blaming hinner hlt).mono (leads_opener hstack hopening rfl rfl)
  exact hbody.bind fun _ _ _ => .of_eq_ok rfl

theorem tokensPast_eq_false {name : String} {line last : Nat} {ts rest : List Token}
    (h : Reader.tokensPast name line ts = (false, last, rest)) :
    ∀ t ∈ ts, t.tagName? ≠ some name := by
  induction ts generalizing line with
  | nil => simp
  | cons t ts ih =>
    rw [Reader.tokensPast] at h
    split at h
    · simp at h
    · rename_i hname
      exact List.forall_mem_cons.2 ⟨hname, ih h⟩

theorem commentTag_blames : commentTag.Blames "comment" := by
  intro reader opening stack r _ hstack hopening htags _
  let block : OpenBlock := ⟨"comment", opening.line, ["endcomment"]⟩
  have hskip : Blaming (block :: stack) r.tokens (Reading.skipPast "endcomment") r := by
    rcases hpast : Reader.tokensPast "endcomment" r.lastLine r.tokens with ⟨found, last, rest⟩
    cases found with
    | true => exact .of_eq_ok (by rw [Reading.skipPast, hpast]; rfl)
    | false =>
      have hinner : ∀ t ∈ r.tokens, ∀ name ∈ t.tagName?, name ∉ awaited (block :: stack) := by
        intro t ht name hname hmem
        obtain rfl := List.mem_singleton.1 hmem
        exact tokensPast_eq_false hpast t ht hname
      have hscan : openBlocks (block :: stack) (r.tokens ++ []) = block :: stack :=
        openBlocks_discards rfl hinner
      rw [List.append_nil] at hscan
      have hrun : (Reading.skipPast "endcomment" r).1 =
          .error (.tagSyntax block.line (.unclosed block.name block.awaits)) := by
        rw [Reading.skipPast, hpast]
        exact congrArg Except.error (unclosedError_of_openTags htags _)
      refine .of_run hrun (blames_unclosed ?_ (by rw [hscan]; rfl))
      exact Or.inl ⟨block, List.mem_cons_self, rfl⟩
  have hskipped := hskip.mono (leads_opener hstack hopening rfl rfl)
  exact hskipped.bind fun _ _ _ => .of_eq_ok rfl

theorem readEmpty_blaming (h : reader.Blames) (stop : Token)
    (hr : r.Inside (⟨"for", line, ["empty", "endfor"]⟩ :: stack))
    (hlt : r.tokens.length < reader.budget) :
    Blaming (⟨"for", line, ["empty", "endfor"]⟩ :: stack) (stop :: r.tokens)
      (readEmpty reader stop) r := by
  unfold readEmpty
  split
  · rename_i hempty
    have hlast : r.Inside (⟨"for", line, ["endfor"]⟩ :: stack) :=
      ⟨holdsItems_cons (by decide) (by decide), hr.tags⟩
    have hleads : Leads (⟨"for", line, ["empty", "endfor"]⟩ :: stack) (stop :: r.tokens)
        (⟨"for", line, ["endfor"]⟩ :: stack) r.tokens :=
      leads_divider hempty List.mem_cons_self rfl
    exact ((h.body_blaming hlast hlt).mono hleads).bind fun _ _ _ => .of_eq_ok rfl
  · exact .of_eq_ok rfl

/-- What is wrong in a loop is in its head, its body or its empty part. -/
theorem forTag_blames : forTag.Blames "for" := by
  intro reader opening stack r hreader hstack hopening htags hlt
  have hline : StartsOn stack (opening :: r.tokens) opening.line := startsOn_block hopening
  have hinner : r.Inside (⟨"for", opening.line, ["empty", "endfor"]⟩ :: stack) :=
    ⟨holdsItems_cons (by decide) (by decide), htags⟩
  have hleads : Leads stack (opening :: r.tokens)
      (⟨"for", opening.line, ["empty", "endfor"]⟩ :: stack) r.tokens :=
    leads_opener hstack hopening rfl rfl
  refine (Blaming.atTag htags hline (readLoopHead_failsLocally _)).bind ?_
  intro head r₁ hargs
  obtain ⟨_, rfl⟩ := Reading.atTag_eq_ok_iff.1 hargs
  refine (Blaming.atTag htags hline (Expression.read_failsLocally _ _)).bind ?_
  intro items r₂ hitems
  obtain ⟨_, rfl⟩ := TagReader.expression_eq_ok_iff.1 hitems
  refine ((hreader.body_blaming hinner hlt).mono hleads).bind ?_
  rintro ⟨nodes, stop⟩ r₃ hbody
  obtain ⟨name, hends⟩ := hreader.body_ends hinner hbody
  have hshorter := hends.shorter
  have hempty := readEmpty_blaming hreader stop ⟨hinner.holds, hends.tags.trans htags⟩ (by omega)
  exact (hempty.mono (hleads.trans hends.leads)).bind fun _ _ _ => .of_eq_ok rfl

/-- A branch that another one follows has the choice go on; after `else`, the choice awaits
only its end. -/
theorem readBranches_blaming (h : reader.Blames) {budget : Nat}
    {before : List (Condition × List Node)} {condition : Condition}
    (hr : r.Inside (⟨"if", line, ["elif", "else", "endif"]⟩ :: stack))
    (hlt : r.tokens.length < reader.budget) (hbudget : r.tokens.length < budget) :
    Blaming (⟨"if", line, ["elif", "else", "endif"]⟩ :: stack) r.tokens
      (readBranches reader budget before condition) r := by
  induction budget generalizing before condition r with
  | zero => omega
  | succ budget ih =>
    have hline : StartsOn (⟨"if", line, ["elif", "else", "endif"]⟩ :: stack) r.tokens line :=
      Or.inl ⟨_, List.mem_cons_self, rfl⟩
    refine (h.body_blaming hr hlt).bind ?_
    rintro ⟨nodes, stop⟩ r₁ hbody
    obtain ⟨name, hends⟩ := h.body_ends hr hbody
    have hshorter := hends.shorter
    have hr₁ : r₁.Inside (⟨"if", line, ["elif", "else", "endif"]⟩ :: stack) :=
      ⟨hr.holds, hends.tags.trans hr.tags⟩
    have hfirst : stop.splitTag.1 = name := (Token.tagName?_eq_some_iff.1 hends.named).2
    simp only [hfirst]
    split
    · rename_i helif
      subst helif
      have hleads := hends.leads.trans (leads_divider hends.named hends.awaited rfl)
      refine (Blaming.atTag hr₁.tags hline (Condition.read_failsLocally _ _)).bind ?_
      intro next r₂ hargs
      obtain ⟨_, rfl⟩ := Reading.atTag_eq_ok_iff.1 hargs
      exact (ih hr₁ (by omega) (by omega)).mono hleads
    · split
      · rename_i helse
        subst helse
        split
        · have hleads := hends.leads.trans (leads_divider hends.named hends.awaited rfl)
          have hlast : r₁.Inside (⟨"if", line, ["endif"]⟩ :: stack) :=
            ⟨holdsItems_cons (by decide) (by decide), hr₁.tags⟩
          have hotherwise := (h.body_blaming hlast (by omega)).mono hleads
          exact hotherwise.bind fun _ _ _ => .of_eq_ok rfl
        · exact .failAtTag hr₁.tags hline trivial
      · exact .of_eq_ok rfl

/-- What is wrong in a choice is in a condition or in the body of a branch. -/
theorem ifTag_blames : ifTag.Blames "if" := by
  intro reader opening stack r hreader hstack hopening htags hlt
  have hline : StartsOn stack (opening :: r.tokens) opening.line := startsOn_block hopening
  have hinner : r.Inside (⟨"if", opening.line, ["elif", "else", "endif"]⟩ :: stack) :=
    ⟨holdsItems_cons (by decide) (by decide), htags⟩
  refine (Blaming.atTag htags hline (Condition.read_failsLocally _ _)).bind ?_
  intro condition r₁ hargs
  obtain ⟨_, rfl⟩ := Reading.atTag_eq_ok_iff.1 hargs
  refine Blaming.mono ?_ (leads_opener hstack hopening rfl rfl)
  exact readBranches_blaming hreader hinner hlt (Nat.lt_succ_of_lt hlt)

end Tags

/-- Each standard tag is blamed as it should be. -/
theorem Tags.blames_of_get?_all {name : String} {tag : Tag}
    (h : Entries.get? Tags.all name = some tag) : tag.Blames name := by
  rcases get?_all_cases h with ⟨rfl, rfl⟩ | ⟨rfl, rfl⟩ | ⟨rfl, rfl⟩ | ⟨rfl, rfl⟩ | ⟨rfl, rfl⟩
  · exact withTag_blames
  · exact ifTag_blames
  · exact forTag_blames
  · exact commentTag_blames
  · exact includeTag_blames

namespace Catalog

variable {catalog : Catalog} {stack : List OpenBlock} {ts : List Token} {r : Reader} {t : Token}
  {rest : List Token}

theorem addNode_blaming {node : Node} {m : Reading (List Node × Option Token)}
    (h : Blaming stack ts m r) : Blaming stack ts (addNode node m) r :=
  h.bind fun _ _ _ => .of_eq_ok rfl

theorem readExpression_blaming (hkind : t.kind = .tag .expression) :
    Blaming stack (t :: rest) (catalog.readExpression t) r := by
  have hline : StartsOn stack (t :: rest) t.line := startsOn_token (Or.inl hkind)
  unfold readExpression
  split
  · exact .failAt hline trivial
  · exact (Blaming.atLine hline (Expression.read_failsLocally _ _)).bind fun _ _ _ => .of_eq_ok rfl

theorem get?_openers_eq_none (hcatalog : catalog.HasStandardTags) {name : String}
    (h : catalog.tag? name = none) : Entries.get? OpenBlock.openers name = none := by
  rw [hcatalog] at h
  simp only [Entries.get?, all, standard, loading, OpenBlock.openers, List.cons_append] at h ⊢
  grind

/-- A block that no tag is registered for is itself at fault, unless it looks like the end of
something while a body is being read. -/
theorem failUnknown_blaming (hcatalog : catalog.HasStandardTags) {name : String}
    (hr : r.Inside stack) (hname : t.tagName? = some name) (hstop : name ∉ awaited stack)
    (htag : catalog.tag? name = none) :
    Blaming stack (t :: rest) (failUnknown name t.line (awaited stack)) r := by
  by_cases hend : (namesEnd name && !r.openTags.isEmpty) = true
  · cases stack with
    | nil => simp [hr.tags] at hend
    | cons top stack =>
      have hnames : namesEnd name = true := (Bool.and_eq_true_iff.1 hend).1
      have hscan : openBlocks (top :: stack) (t :: rest) = top :: stack := by
        rw [openBlocks_other hr.holds hname hstop (get?_openers_eq_none hcatalog htag),
          if_pos hnames]
      have hrun : (failUnknown name t.line top.awaits r).1 =
          .error (.tagSyntax top.line (.unclosed top.name top.awaits)) := by
        rw [failUnknown, if_pos hend]
        exact congrArg Except.error (unclosedError_of_openTags hr.tags top.awaits)
      refine .of_run hrun (blames_unclosed ?_ (by rw [hscan]; rfl))
      exact Or.inl ⟨top, List.mem_cons_self, rfl⟩
  · have hrun : (failUnknown name t.line (awaited stack) r).1 =
        .error (.tagSyntax t.line (.unknownTag name)) := by
      rw [failUnknown, if_neg hend]
      rfl
    exact .of_run hrun (blames_of_isLocal (startsOn_block hname) trivial)

/-- A tag and the items after it, on what is left of the budget. -/
theorem tag_blaming (hcatalog : catalog.HasStandardTags) {budget : Nat}
    (ih : ∀ stack r, r.Inside stack → r.tokens.length < budget →
      Blaming stack r.tokens (catalog.readItems budget (awaited stack)) r)
    (hr : r.Inside stack) (hlt : r.tokens.length < budget) {name : String} {tag : Tag}
    (hname : t.tagName? = some name) (htag : catalog.tag? name = some tag) :
    Blaming stack (t :: r.tokens)
      (do
        let node ← Reading.inTag name t.line (tag.read (catalog.reader budget) t.splitTag.2)
        addNode node (catalog.readItems budget (awaited stack))) r := by
  have hstandard := hcatalog.only name tag htag
  have hreader : (catalog.reader budget).Blames :=
    ⟨readItems_sound hcatalog.only budget, fun _ _ _ _ _ => readItems_openTags, ih⟩
  refine (Blaming.inTag ?_).bind ?_
  · have htags := congrArg ((name, t.line) :: ·) hr.tags
    exact blames_of_get?_all hstandard (catalog.reader budget) t stack _ hreader hr.holds hname
      htags hlt
  · intro node r₁ hnode
    obtain ⟨after, hread, rfl⟩ := Reading.inTag_eq_ok_iff.1 hnode
    obtain ⟨item, hitem, _, htokens⟩ :=
      readsItem_of_get?_all hstandard _ _ _ _ _ hreader.derives hname hread
    have hitems : t :: r.tokens = item.tokens ++ after.tokens := htokens
    have hless : after.tokens.length < budget := by
      obtain ⟨first, others, hcons⟩ := tokens_eq_cons item
      have hlength := congrArg List.length hitems
      rw [hcons, List.length_append, List.length_cons, List.length_cons] at hlength
      omega
    have hnext := ih stack { after with openTags := r.openTags } ⟨hr.holds, hr.tags⟩ hless
    rw [hitems]
    exact addNode_blaming (hnext.mono (leads_item hitem hr.holds))

/-- On a sufficient budget, whatever is wrong with items is blamed as it should be. -/
theorem readItems_blaming (hcatalog : catalog.HasStandardTags) (budget : Nat)
    (stack : List OpenBlock) (r : Reader) (hr : r.Inside stack) (hlt : r.tokens.length < budget) :
    Blaming stack r.tokens (catalog.readItems budget (awaited stack)) r := by
  induction budget generalizing stack r with
  | zero => omega
  | succ budget ih =>
    cases htokens : r.tokens with
    | nil => exact .of_eq_ok (readItems_of_nil htokens)
    | cons t rest =>
      rw [htokens, List.length_cons] at hlt
      have hpast := hr.past t rest
      have hshorter : rest.length < budget := by omega
      -- A token that is no block leads on to the same blocks and fewer tokens.
      have hnext : t.kind ≠ .tag .block →
          Blaming stack (t :: rest) (catalog.readItems budget (awaited stack)) (r.past t rest) :=
        fun hkind => (ih stack (r.past t rest) hpast hshorter).mono (leads_of_kind hkind)
      cases hkind : t.kind with
      | text =>
        have hlater := hnext (by simp [hkind])
        exact (addNode_blaming hlater).congr_run (readItems_of_text htokens hkind)
      | tag kind =>
        cases kind with
        | comment =>
          have hlater := hnext (by simp [hkind])
          exact hlater.congr_run (readItems_of_comment htokens hkind)
        | expression =>
          have hlater := hnext (by simp [hkind])
          refine Blaming.congr_run ?_ (readItems_of_expression htokens hkind)
          refine (readExpression_blaming hkind).bind ?_
          intro node r₁ hnode
          obtain ⟨_, _, _, rfl⟩ := readExpression_eq_ok_iff.1 hnode
          exact addNode_blaming hlater
        | block =>
          have hname : t.tagName? = some t.splitTag.1 := Token.tagName?_eq_some_iff.2 ⟨hkind, rfl⟩
          generalize t.splitTag.1 = name at hname
          by_cases hne : name = ""
          · subst hne
            refine Blaming.congr_run ?_ (readItems_of_unnamed htokens hname)
            exact .failAt (startsOn_block hname) trivial
          · by_cases hstop : name ∈ awaited stack
            · exact .of_eq_ok (readItems_of_stop htokens hname hne hstop)
            · cases htag : catalog.tag? name with
              | none =>
                exact (failUnknown_blaming hcatalog hpast hname hstop htag).congr_run
                  (readItems_of_unknown htokens hname hne hstop htag)
              | some tag =>
                exact (tag_blaming hcatalog ih hpast hshorter hname htag).congr_run
                  (readItems_of_tag htokens hname hne hstop htag)

/-- The error of a template that cannot be read is a syntax fault on the line of one of its
expressions or blocks, and never that the template ends unexpectedly. If it is that a block is
not closed, then the block is the innermost one that is open where a pass over the tokens
ends. -/
theorem compile_blames (hcatalog : catalog.HasStandardTags) {trim : Bool} {source : String}
    {e : Error} (h : catalog.compile trim source = .error e) :
    ∃ line fault, e = .tagSyntax line fault ∧
      (∃ t ∈ Token.scan trim source,
        (t.kind = .tag .expression ∨ t.kind = .tag .block) ∧ t.line = line) ∧
      fault ≠ .endless ∧ (∀ expected, fault ≠ .unexpectedEnd expected) ∧
      ∀ name expected, fault = .unclosed name expected →
        (openBlocks [] (Token.scan trim source)).head? = some ⟨name, line, expected⟩ := by
  let r : Reader := { tokens := Token.scan trim source }
  have hinside : r.Inside [] := ⟨⟨rfl, List.forall_mem_nil _⟩, rfl⟩
  have hblaming := readItems_blaming hcatalog r.budget [] r hinside r.length_lt_budget
  have hall : Blaming [] r.tokens catalog.readAll r :=
    Blaming.bind hblaming fun _ _ _ => .of_eq_ok rfl
  obtain ⟨line, fault, rfl, hblames⟩ := hall e (catalog.readAll r).2 (Prod.ext h rfl)
  refine ⟨line, fault, rfl, ?_, hblames.bounded, hblames.opened, hblames.innermost⟩
  rcases hblames.starts with ⟨block, hmem, _⟩ | htoken
  · cases hmem
  · exact htoken

/-- The end of a loop comes while a choice in it is open, which its `else` has left awaiting
only its own end. -/
theorem compile_blames_nested :
    let source := "{% for a in b %}\n{% if c %}{% else %}{% endfor %}"
    Engine.withDefaults.catalog.compile false source =
        .error (.tagSyntax 2 (.unclosed "if" ["endif"])) ∧
      (∃ t ∈ Token.scan false source,
        (t.kind = .tag .expression ∨ t.kind = .tag .block) ∧ t.line = 2) ∧
      (openBlocks [] (Token.scan false source)).head? = some ⟨"if", 2, ["endif"]⟩ := by
  intro source
  have hcompile : Engine.withDefaults.catalog.compile false source =
      .error (.tagSyntax 2 (.unclosed "if" ["endif"])) := by
    have htokens : Token.scan false source = [⟨.tag .block, "for a in b", 1⟩, ⟨.text, "\n", 1⟩,
        ⟨.tag .block, "if c", 2⟩, ⟨.tag .block, "else", 2⟩, ⟨.tag .block, "endfor", 2⟩] := by
      decide +kernel
    rw [Catalog.compile, htokens]
    with_unfolding_all rfl
  obtain ⟨line, fault, heq, htoken, _, _, hinnermost⟩ :=
    compile_blames Engine.withDefaults_hasStandardTags hcompile
  obtain ⟨rfl, rfl⟩ := Error.tagSyntax.inj heq
  exact ⟨hcompile, htoken, hinnermost "if" ["endif"] rfl⟩

end Catalog

end TextTemplate
