import TextTemplate.Proofs.AdvancingReadings
import TextTemplate.Proofs.Completeness
import TextTemplate.Proofs.FaultLines

/-!
When the tokens run out. A body is asked for with the names of the blocks that may end it.
Outside of all tags these names matter only where an item begins: if the block there has one
of them, the reading stops, and otherwise it does what it would do without any names. So it
comes to the end of the tokens exactly if they are complete items of which none begins with
such a block, and only then does it report that the template ends too early. Skipping does so
exactly if the block it looks for does not come.
-/
namespace TextTemplate

open Item Tags Reader

/-- The tokens are complete items, none of which begins with a block of one of the names. -/
def Item.RunsOut (filters : Expression.FilterTable) (stops : List String) (ts : List Token) :
    Prop :=
  ∃ items, Derives filters items ts ∧ ∀ item ∈ items, ¬ StopsAt stops item.tokens

theorem Item.stopsAt_append {stops : List String} {item : Item} (ts : List Token) :
    StopsAt stops (item.tokens ++ ts) ↔ StopsAt stops item.tokens := by
  obtain ⟨t, rest, htokens⟩ := tokens_eq_cons item
  rw [htokens]
  constructor
  · intro h
    obtain ⟨t', rest', name, heq, hname, hmem⟩ := h
    obtain ⟨rfl, _⟩ := List.cons.inj heq
    exact ⟨t, rest, name, rfl, hname, hmem⟩
  · intro h
    obtain ⟨t', rest', name, heq, hname, hmem⟩ := h
    obtain ⟨rfl, _⟩ := List.cons.inj heq
    exact ⟨t, rest ++ ts, name, rfl, hname, hmem⟩

theorem Item.length_lt_of_tokens {item : Item} {ts ts' : List Token}
    (h : ts = item.tokens ++ ts') : ts'.length < ts.length := by
  obtain ⟨t, rest, htokens⟩ := tokens_eq_cons item
  rw [h, htokens, List.length_append, List.length_cons]
  omega

section RunsOut

variable {filters : Expression.FilterTable} {stops : List String} {ts : List Token}

theorem Item.runsOut_nil : RunsOut filters stops [] :=
  ⟨[], ⟨trivial, rfl⟩, List.forall_mem_nil _⟩

/-- With an item in front, the tokens run out if they do so without it and it does not begin with
one of the blocks. -/
theorem Item.runsOut_append {item : Item} (hitem : WellFormed filters item) :
    RunsOut filters stops (item.tokens ++ ts) ↔
      ¬ StopsAt stops item.tokens ∧ RunsOut filters stops ts := by
  constructor
  · rintro ⟨items, ⟨hwell, htokens⟩, hnone⟩
    cases items with
    | nil =>
      obtain ⟨t, rest, hcons⟩ := tokens_eq_cons item
      rw [hcons] at htokens
      cases htokens
    | cons first items =>
      obtain ⟨hfirst, hitems⟩ := hwell
      obtain ⟨rfl, hrest⟩ := unique first item hfirst hitem _ _ htokens
      obtain ⟨hstops, hnone⟩ := List.forall_mem_cons.1 hnone
      exact ⟨hstops, items, ⟨hitems, hrest⟩, hnone⟩
  · rintro ⟨hstops, items, ⟨hwell, htokens⟩, hnone⟩
    exact ⟨item :: items, ⟨⟨hitem, hwell⟩, congrArg (item.tokens ++ ·) htokens⟩,
      List.forall_mem_cons.2 ⟨hstops, hnone⟩⟩

/-- A block that is waited for does not begin an item. -/
theorem Item.not_runsOut_of_stopsAt (h : StopsAt stops ts) : ¬ RunsOut filters stops ts := by
  rintro ⟨items, ⟨hwell, rfl⟩, hnone⟩
  cases items with
  | nil =>
    obtain ⟨t, rest, name, hnil, _⟩ := h
    cases hnil
  | cons item items =>
    exact hnone item List.mem_cons_self ((stopsAt_append (allTokens items)).1 h)

end RunsOut

namespace Catalog

variable {catalog : Catalog} {budget : Nat} {stops : List String} {r r' : Reader}

theorem addNodes_run (nodes : List Node) (m : Reading (List Node × Option Token)) (r : Reader) :
    addNodes nodes m r = ((m r).1.map fun found => (nodes ++ found.1, found.2), (m r).2) := by
  rcases hrun : m r with ⟨outcome, r₁⟩
  cases outcome with
  | ok found => exact addNodes_eq_ok hrun
  | error e =>
    induction nodes with
    | nil => exact hrun
    | cons node nodes ih => exact Attempt.bind_of_error ih

/-- What a reading of items does first when no tag is open, whatever names it waits for. -/
inductive Step (catalog : Catalog) (budget : Nat) (r : Reader) : Prop where
  | done (htokens : r.tokens = [])
  | fails (e : Error) (r' : Reader) (hread : ∀ stops, ¬ StopsAt stops r.tokens →
      catalog.readItems (budget + 1) stops r = (.error e, r'))
  | item (item : Item) (r' : Reader) (hitem : WellFormed catalog.filter? item)
      (htokens : r.tokens = item.tokens ++ r'.tokens) (hopen : r'.openTags = [])
      (hread : ∀ stops, ¬ StopsAt stops r.tokens → catalog.readItems (budget + 1) stops r =
        addNodes item.node?.toList (catalog.readItems budget stops) r')

/-- A block either is at fault or begins an item, as its tag reads the same bodies whatever the
reading that comes to it waits for. -/
theorem step_of_block (hcatalog : catalog.HasOnlyStandardTags) (budget : Nat)
    (hopen : r.openTags = []) {t : Token} {rest : List Token} {name : String}
    (htokens : r.tokens = t :: rest) (hname : t.tagName? = some name) : catalog.Step budget r := by
  have hpast : (r.past t rest).openTags = [] := hopen
  have hnot : ∀ stops, ¬ StopsAt stops r.tokens → name ∉ stops :=
    fun stops hstops hmem => hstops ⟨t, rest, name, htokens, hname, hmem⟩
  by_cases hne : name = ""
  · subst hne
    exact .fails _ _ fun stops _ => readItems_of_unnamed htokens hname
  cases htag : catalog.tag? name with
  | none =>
    refine .fails (.tagSyntax t.line (.unknownTag name)) (r.past t rest) fun stops hstops => ?_
    rw [readItems_of_unknown htokens hname hne (hnot stops hstops) htag, failUnknown, hpast,
      if_neg (by simp)]
    rfl
  | some tag =>
    have hblock := fun stops hstops => @readItems_of_tag catalog budget stops r t rest name tag
      htokens hname hne (hnot stops hstops) htag
    rcases hrun : Reading.inTag name t.line (tag.read (catalog.reader budget) t.splitTag.2)
      (r.past t rest) with ⟨outcome, r₁⟩
    cases outcome with
    | error e =>
      refine .fails e r₁ fun stops hstops => ?_
      rw [hblock stops hstops, Attempt.bind_of_error hrun]
    | ok node =>
      obtain ⟨after, hread, rfl⟩ := Reading.inTag_eq_ok_iff.1 hrun
      obtain ⟨item, hitem, hnode, hitemTokens⟩ := readsItem_of_get?_all (hcatalog name tag htag)
        _ _ _ _ _ (readItems_sound hcatalog budget) hname hread
      refine .item item { after with openTags := r.openTags } hitem (htokens.trans hitemTokens)
        hopen fun stops hstops => ?_
      rw [hblock stops hstops, Attempt.bind_of_ok hrun, hnode]
      rfl

/-- With only standard tags there is one first step, for all names that may be waited for. -/
theorem step (hcatalog : catalog.HasOnlyStandardTags) (budget : Nat) (hopen : r.openTags = []) :
    catalog.Step budget r := by
  cases htokens : r.tokens with
  | nil => exact .done htokens
  | cons t rest =>
    have hpast : (r.past t rest).openTags = [] := hopen
    cases hkind : t.kind with
    | text =>
      exact .item (.text t) (r.past t rest) hkind htokens hpast fun _ _ =>
        readItems_of_text htokens hkind
    | tag kind =>
      cases kind with
      | comment =>
        exact .item (.comment t) (r.past t rest) hkind htokens hpast fun _ _ =>
          readItems_of_comment htokens hkind
      | expression =>
        rcases hrun : catalog.readExpression t (r.past t rest) with ⟨outcome, r₁⟩
        cases outcome with
        | error e =>
          refine .fails e r₁ fun stops _ => ?_
          rw [readItems_of_expression htokens hkind, Attempt.bind_of_error hrun]
        | ok node =>
          obtain ⟨e, hread, rfl, rfl⟩ := readExpression_eq_ok_iff.1 hrun
          refine .item (.expression t e) (r.past t rest) ⟨hkind, hread⟩ htokens hpast
            fun stops _ => ?_
          rw [readItems_of_expression htokens hkind, Attempt.bind_of_ok hrun]
          rfl
      | block =>
        exact step_of_block hcatalog budget hopen htokens
          (Token.tagName?_eq_some_iff.2 ⟨hkind, rfl⟩)

theorem readItems_of_stopsAt (h : StopsAt stops r.tokens) :
    (∃ stop, (catalog.readItems (budget + 1) stops r).1 = .ok ([], some stop)) ∨
      ∃ line, (catalog.readItems (budget + 1) stops r).1 =
        .error (.tagSyntax line .emptyBlock) := by
  obtain ⟨t, rest, name, htokens, hname, hmem⟩ := h
  by_cases hne : name = ""
  · subst hne
    exact Or.inr ⟨t.line, congrArg Prod.fst (readItems_of_unnamed htokens hname)⟩
  · exact Or.inl ⟨t, congrArg Prod.fst (readItems_of_stop htokens hname hne hmem)⟩

section Standard

variable (hcatalog : catalog.HasStandardTags)
include hcatalog

/-- If nothing stops the reading of complete items, then no token is at fault. -/
theorem not_fails_of_runsOut (hruns : RunsOut catalog.filter? [] r.tokens)
    (hlt : r.tokens.length < budget) (e : Error) :
    (catalog.readItems budget [] r).1 ≠ .error e := by
  obtain ⟨items, ⟨hwell, htokens⟩, _⟩ := hruns
  have haccepts : catalog.AcceptsAll items := acceptsAll fun item _ => accepts hcatalog item
  have hends : OnlyEnds [] := List.forall_mem_nil _
  obtain ⟨left, r', hleft, hr', hread⟩ := haccepts hwell budget [] r [] hends
    (htokens.symm.trans (List.append_nil _).symm) hlt
  obtain ⟨left, rfl⟩ := Nat.exists_eq_add_one_of_ne_zero (Nat.ne_zero_of_lt hleft)
  rw [hread, addNodes_eq_ok (readItems_of_nil hr')]
  simp

/-- Outside of all tags a reading of items comes to the end of the tokens exactly if they are
complete items that nothing stops it at. -/
theorem readItems_ends_iff_runsOut (hopen : r.openTags = []) (hlt : r.tokens.length < budget) :
    (∃ nodes, (catalog.readItems budget stops r).1 = .ok (nodes, none)) ↔
      RunsOut catalog.filter? stops r.tokens := by
  induction budget generalizing r with
  | zero => omega
  | succ budget ih =>
    by_cases hstops : StopsAt stops r.tokens
    · refine iff_of_false ?_ (not_runsOut_of_stopsAt hstops)
      rintro ⟨nodes, hend⟩
      rcases readItems_of_stopsAt hstops with ⟨stop, hread⟩ | ⟨line, hread⟩
      · rw [hend] at hread
        cases hread
      · rw [hend] at hread
        cases hread
    · cases step hcatalog.only budget hopen with
      | done htokens =>
        rw [readItems_of_nil htokens, htokens]
        exact iff_of_true ⟨[], rfl⟩ runsOut_nil
      | fails e r' hread =>
        rw [hread stops hstops]
        refine iff_of_false (by simp) ?_
        rintro ⟨items, hderives, _⟩
        have hnone : ∀ ts, ¬ StopsAt [] ts := by simp [StopsAt]
        have hruns : RunsOut catalog.filter? [] r.tokens :=
          ⟨items, hderives, fun item _ => hnone item.tokens⟩
        exact not_fails_of_runsOut hcatalog hruns hlt e
          (congrArg Prod.fst (hread [] (hnone r.tokens)))
      | item item r' hitem htokens hopen' hread =>
        have hlt' : r'.tokens.length < budget := by
          have hfewer := length_lt_of_tokens htokens
          omega
        have hstops' : ¬ StopsAt stops item.tokens := by
          rwa [htokens, stopsAt_append] at hstops
        rw [hread stops hstops, htokens, runsOut_append hitem, ← ih hopen' hlt', addNodes_run]
        constructor
        · rintro ⟨nodes, hend⟩
          refine ⟨hstops', ?_⟩
          cases hlater : (catalog.readItems budget stops r').1 with
          | error e =>
            rw [hlater] at hend
            cases hend
          | ok found =>
            rw [hlater] at hend
            obtain ⟨later, stop⟩ := found
            obtain ⟨_, rfl⟩ := Prod.mk.inj (Except.ok.inj hend)
            exact ⟨later, rfl⟩
        · rintro ⟨_, later, hlater⟩
          exact ⟨item.node?.toList ++ later, by rw [hlater]; rfl⟩

/-- A reading of items never says itself that the template ends too early. -/
theorem readItems_opened (hopen : r.openTags = []) (hlt : r.tokens.length < budget) (line : Nat)
    (expected : List String) :
    (catalog.readItems budget stops r).1 ≠ .error (.tagSyntax line (.unexpectedEnd expected)) := by
  induction budget generalizing r with
  | zero => omega
  | succ budget ih =>
    intro hfails
    by_cases hstops : StopsAt stops r.tokens
    · rcases readItems_of_stopsAt hstops with ⟨stop, hread⟩ | ⟨line', hread⟩
      · rw [hfails] at hread
        cases hread
      · rw [hfails] at hread
        cases hread
    · cases step hcatalog.only budget hopen with
      | done htokens =>
        rw [readItems_of_nil htokens] at hfails
        cases hfails
      | fails e r' hread =>
        -- The fault is the same as when the names of no blocks are waited for.
        rw [hread stops hstops] at hfails
        obtain rfl := Except.error.inj hfails
        have hinside : r.Inside [] := ⟨⟨rfl, List.forall_mem_nil _⟩, hopen⟩
        have hnone : ¬ StopsAt [] r.tokens := by simp [StopsAt]
        obtain ⟨_, _, heq, hblames⟩ :=
          readItems_blaming hcatalog (budget + 1) [] r hinside hlt _ r' (hread [] hnone)
        obtain ⟨rfl, rfl⟩ := Error.tagSyntax.inj heq
        exact hblames.opened expected rfl
      | item item r' hitem htokens hopen' hread =>
        have hlt' : r'.tokens.length < budget := by
          have hfewer := length_lt_of_tokens htokens
          omega
        rw [hread stops hstops, addNodes_run] at hfails
        cases hlater : (catalog.readItems budget stops r').1 with
        | error e =>
          rw [hlater] at hfails
          exact ih hopen' hlt' (hlater.trans hfails)
        | ok found =>
          rw [hlater] at hfails
          cases hfails

/-- What is read up to a block that must come ends with the template exactly if the tokens run
out, and then on the line of the last of them. -/
theorem readUntil_unexpectedEnd_iff (hopen : r.openTags = []) (line : Nat)
    (expected : List String) :
    (catalog.readUntil stops r).1 = .error (.tagSyntax line (.unexpectedEnd expected)) ↔
      RunsOut catalog.filter? stops r.tokens ∧ expected = stops ∧
        line = lineAfter r.lastLine r.tokens := by
  have hlt := r.length_lt_budget
  rw [← readItems_ends_iff_runsOut hcatalog hopen hlt]
  have hopened : (catalog.readItems r.budget stops r).1 ≠
      .error (.tagSyntax line (.unexpectedEnd expected)) :=
    readItems_opened hcatalog hopen hlt line expected
  have hadvances := readItems_advances hcatalog.only.isMadeOfStandardTags r.budget stops r
  have hitems : (catalog.reader r.budget).items stops = catalog.readItems r.budget stops := rfl
  unfold readUntil TagReader.body
  rcases hrun : catalog.readItems r.budget stops r with ⟨outcome, r'⟩
  rw [hrun] at hopened hadvances
  rw [← hitems] at hrun
  cases outcome with
  | error e =>
    rw [Attempt.bind_of_error hrun]
    refine iff_of_false ?_ (by simp)
    intro hfails
    exact hopened (congrArg Except.error (Except.error.inj hfails))
  | ok found =>
    obtain ⟨nodes, stop⟩ := found
    rw [Attempt.bind_of_ok hrun]
    cases stop with
    | some stop => exact iff_of_false nofun (by simp)
    | none =>
      obtain ⟨_, _, _, _, hnone, _⟩ := readItems_sound hcatalog.only _ _ _ _ _ _ hrun
      obtain ⟨ts, htokens, hline, htags⟩ := hadvances
      have hlast : r'.lastLine = lineAfter r.lastLine r.tokens := by
        rw [hline, htokens, hnone rfl, List.append_nil]
      have herror : Reading.failUnclosed stops r' =
          ((.error (.tagSyntax r'.lastLine (.unexpectedEnd stops)) :
            Except Error (List Node × Token)), r') := by
        rw [Reading.failUnclosed, Reader.unclosedError, htags, hopen]
      simp only [herror, hlast, Except.error.injEq, Error.tagSyntax.injEq,
        SyntaxFault.unexpectedEnd.injEq]
      constructor
      · rintro ⟨rfl, rfl⟩
        exact ⟨⟨nodes, rfl⟩, rfl, rfl⟩
      · rintro ⟨_, rfl, rfl⟩
        exact ⟨rfl, rfl⟩

end Standard

end Catalog

theorem tokensPast_of_forall_ne {name : String} {ts : List Token}
    (h : ∀ t ∈ ts, t.tagName? ≠ some name) (line : Nat) :
    tokensPast name line ts = (false, lineAfter line ts, []) := by
  induction ts generalizing line with
  | nil => rfl
  | cons t ts ih =>
    obtain ⟨hfirst, hothers⟩ := List.forall_mem_cons.1 h
    rw [tokensPast, if_neg hfirst, ih hothers]
    exact congrArg (false, ·, []) (lineAfter_append line [t] ts).symm

/-- Skipping ends with the template exactly if the block does not come, and then on the line of
the last token. -/
theorem Reading.skipPast_unexpectedEnd_iff {r : Reader} {name : String} (hopen : r.openTags = [])
    (line : Nat) (expected : List String) :
    (Reading.skipPast name r).1 = .error (.tagSyntax line (.unexpectedEnd expected)) ↔
      (∀ t ∈ r.tokens, t.tagName? ≠ some name) ∧ expected = [name] ∧
        line = lineAfter r.lastLine r.tokens := by
  by_cases hnone : ∀ t ∈ r.tokens, t.tagName? ≠ some name
  · simp only [Reading.skipPast, tokensPast_of_forall_ne hnone, Bool.false_eq_true, if_false,
      Reader.unclosedError, hopen, Except.error.injEq, Error.tagSyntax.injEq,
      SyntaxFault.unexpectedEnd.injEq]
    constructor
    · rintro ⟨rfl, rfl⟩
      exact ⟨hnone, rfl, rfl⟩
    · rintro ⟨_, rfl, rfl⟩
      exact ⟨rfl, rfl⟩
  · refine iff_of_false ?_ fun h => hnone h.1
    unfold Reading.skipPast
    rcases hpast : tokensPast name r.lastLine r.tokens with ⟨found, last, rest⟩
    cases found with
    | true =>
      intro h
      cases h
    | false => exact absurd (tokensPast_eq_false hpast) hnone

end TextTemplate
