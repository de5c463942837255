import TextTemplate.Proofs.FaultLines
import TextTemplate.Proofs.ParallelReadings

/-!
Comments are not seen. Two readers are run side by side, the second one on the same tokens
without the comments. While the first one reads a comment, the second one waits; otherwise
both take the same step, and they differ in nothing but the line of the token read last. That
line is only asked for where no tag is open, and there no body is missing its end. The second
reader has a smaller budget, so the runs are compared up to the fault of a used up budget,
which does not arise.
-/
namespace TextTemplate

open Item Tags Reader

def Token.withoutComments (ts : List Token) : List Token :=
  ts.filter fun t => t.kind ≠ .tag .comment

theorem Token.withoutComments_of_comment {t : Token} (h : t.kind = .tag .comment)
    (ts : List Token) : withoutComments (t :: ts) = withoutComments ts :=
  List.filter_cons_of_neg (by simp [h])

theorem Token.withoutComments_of_ne {t : Token} (h : t.kind ≠ .tag .comment) (ts : List Token) :
    withoutComments (t :: ts) = t :: withoutComments ts :=
  List.filter_cons_of_pos (by simp [h])

open Token

namespace Reader

/-- The second reader has the tokens of the first one without the comments. -/
structure Uncommented (r r' : Reader) : Prop where
  tokens : r'.tokens = withoutComments r.tokens
  openTags : r'.openTags = r.openTags

variable {r r' : Reader}

/-- The line of the token read last does not matter where a tag is open. -/
theorem Uncommented.currentLine (h : r.Uncommented r') (hopen : r.openTags ≠ []) :
    r'.currentLine = r.currentLine := by
  cases htags : r.openTags with
  | nil => exact absurd htags hopen
  | cons top outer => rw [Reader.currentLine, Reader.currentLine, h.openTags, htags]

theorem Uncommented.unclosedError (h : r.Uncommented r') (hopen : r.openTags ≠ [])
    (expected : List String) : r'.unclosedError expected = r.unclosedError expected := by
  cases htags : r.openTags with
  | nil => exact absurd htags hopen
  | cons top outer => rw [Reader.unclosedError, Reader.unclosedError, h.openTags, htags]

/-- No comment has the name that is looked for. -/
theorem tokensPast_withoutComments (name : String) (ts : List Token) (line line' : Nat) :
    (tokensPast name line' (withoutComments ts)).1 = (tokensPast name line ts).1 ∧
      (tokensPast name line' (withoutComments ts)).2.2 =
        withoutComments (tokensPast name line ts).2.2 := by
  induction ts generalizing line line' with
  | nil => exact ⟨rfl, rfl⟩
  | cons t ts ih =>
    by_cases hcomment : t.kind = .tag .comment
    · have hname : t.tagName? ≠ some name := by
        rw [Token.tagName?, hcomment, if_neg (by simp)]
        simp
      rw [withoutComments_of_comment hcomment, tokensPast, if_neg hname]
      exact ih t.line line'
    · rw [withoutComments_of_ne hcomment, tokensPast, tokensPast]
      by_cases hname : t.tagName? = some name
      · rw [if_pos hname, if_pos hname]
        exact ⟨rfl, rfl⟩
      · rw [if_neg hname, if_neg hname]
        exact ih t.line t.line

end Reader

inductive AlikeRuns {α : Type} (tags : List (String × Nat)) :
    Except Error α × Reader → Except Error α × Reader → Prop where
  | endless (line : Nat) (r : Reader) (run' : Except Error α × Reader) :
      AlikeRuns tags (.error (.tagSyntax line .endless), r) run'
  | endless' (run : Except Error α × Reader) (line : Nat) (r' : Reader) :
      AlikeRuns tags run (.error (.tagSyntax line .endless), r')
  | same (outcome : Except Error α) {r r' : Reader} (h : r.Uncommented r')
      (hopen : r.openTags = tags) : AlikeRuns tags (outcome, r) (outcome, r')

def Reading.Alike {α : Type} (tags : List (String × Nat)) (m m' : Reading α) : Prop :=
  ∀ r r' : Reader, r.Uncommented r' → r.openTags = tags → AlikeRuns tags (m r) (m' r')

namespace Reading

variable {α β : Type} {tags : List (String × Nat)}

/-- Computations in turn run alike if each of them does. -/
theorem Alike.bind {m m' : Reading α} {f f' : α → Reading β} (hm : Reading.Alike tags m m')
    (hf : ∀ a, Reading.Alike tags (f a) (f' a)) : Reading.Alike tags (m >>= f) (m' >>= f') := by
  intro r r' h hopen
  have hfirst := hm r r' h hopen
  rcases hrun : m r with ⟨outcome, r₁⟩
  rcases hrun' : m' r' with ⟨outcome', r₁'⟩
  rw [hrun, hrun'] at hfirst
  cases hfirst with
  | endless line =>
    rw [Attempt.bind_of_error hrun]
    exact .endless line r₁ _
  | endless' _ line =>
    rw [Attempt.bind_of_error hrun']
    exact .endless' _ line r₁'
  | same _ h₁ hopen₁ =>
    cases outcome with
    | error e =>
      rw [Attempt.bind_of_error hrun, Attempt.bind_of_error hrun']
      exact .same _ h₁ hopen₁
    | ok a =>
      rw [Attempt.bind_of_ok hrun, Attempt.bind_of_ok hrun']
      exact hf a r₁ r₁' h₁ hopen₁

theorem alike_pure (a : α) : Reading.Alike tags (pure a : Reading α) (pure a) :=
  fun _ _ h hopen => .same (.ok a) h hopen

theorem alike_failAt (line : Nat) (fault : SyntaxFault) :
    Reading.Alike tags (Reading.failAt line fault : Reading α) (Reading.failAt line fault) :=
  fun _ _ h hopen => .same _ h hopen

theorem alike_atLine (line : Nat) (outcome : Except SyntaxFault α) :
    Reading.Alike tags (Reading.atLine line outcome) (Reading.atLine line outcome) := by
  cases outcome with
  | error fault => exact alike_failAt line fault
  | ok a => exact alike_pure a

theorem alike_atTag (htags : tags ≠ []) (outcome : Except SyntaxFault α) :
    Reading.Alike tags (Reading.atTag outcome) (Reading.atTag outcome) := by
  cases outcome with
  | error fault =>
    intro r r' h hopen
    have hline : r'.currentLine = r.currentLine := h.currentLine (hopen ▸ htags)
    rw [Reading.atTag, Reading.failAtTag, Reading.failAtTag, hline]
    exact .same _ h hopen
  | ok a => exact alike_pure a

theorem alike_failUnclosed (htags : tags ≠ []) (expected : List String) :
    Reading.Alike tags (Reading.failUnclosed expected : Reading α)
      (Reading.failUnclosed expected) := by
  intro r r' h hopen
  rw [Reading.failUnclosed, Reading.failUnclosed, h.unclosedError (hopen ▸ htags)]
  exact .same _ h hopen

/-- Skipping up to a block runs alike, with or without comments on the way. -/
theorem alike_skipPast (htags : tags ≠ []) (name : String) :
    Reading.Alike tags (Reading.skipPast name) (Reading.skipPast name) := by
  intro r r' h hopen
  obtain ⟨hfound, hrest⟩ :=
    tokensPast_withoutComments name r.tokens r.lastLine r'.lastLine
  unfold Reading.skipPast
  rw [h.tokens]
  rcases hpast : tokensPast name r.lastLine r.tokens with ⟨found, line, rest⟩
  rcases hpast' : tokensPast name r'.lastLine (withoutComments r.tokens) with
    ⟨found', line', rest'⟩
  rw [hpast, hpast'] at hfound hrest
  dsimp only at hfound hrest
  subst hfound hrest
  have hafter : ({ r with tokens := rest, lastLine := line } : Reader).Uncommented
      { r' with tokens := withoutComments rest, lastLine := line' } := ⟨rfl, h.openTags⟩
  cases found' with
  | true => exact .same (.ok ()) hafter hopen
  | false =>
    have herror := hafter.unclosedError (hopen ▸ htags) [name]
    simp only [Bool.false_eq_true, if_false, herror]
    exact .same _ hafter hopen

/-- What runs alike within a tag runs alike around it. -/
theorem Alike.inTag {m m' : Reading α} {name : String} {line : Nat}
    (h : Reading.Alike ((name, line) :: tags) m m') :
    Reading.Alike tags (Reading.inTag name line m) (Reading.inTag name line m') := by
  intro r r' hr hopen
  subst hopen
  have hinner := h { r with openTags := (name, line) :: r.openTags }
    { r' with openTags := (name, line) :: r'.openTags }
    ⟨hr.tokens, congrArg ((name, line) :: ·) hr.openTags⟩ rfl
  unfold Reading.inTag
  rcases hrun : m { r with openTags := (name, line) :: r.openTags } with ⟨outcome, after⟩
  rcases hrun' : m' { r' with openTags := (name, line) :: r'.openTags } with ⟨outcome', after'⟩
  rw [hrun, hrun'] at hinner
  cases hinner with
  | endless line' => exact .endless line' _ _
  | endless' _ line' => exact .endless' _ line' _
  | same _ hafter => exact .same outcome ⟨hafter.tokens, hr.openTags⟩ rfl

end Reading

open Reading

namespace Catalog

variable {catalog : Catalog} {tags : List (String × Nat)} {budget budget' : Nat}

theorem alike_readExpression (t : Token) :
    Reading.Alike tags (catalog.readExpression t) (catalog.readExpression t) := by
  unfold readExpression
  split
  · exact alike_failAt _ _
  · exact (alike_atLine _ _).bind fun e => alike_pure _

theorem alike_failUnknown (name : String) (line : Nat) (stops : List String) :
    Reading.Alike tags (failUnknown name line stops) (failUnknown name line stops) := by
  intro r r' h hopen
  unfold failUnknown
  rw [h.openTags, hopen]
  split
  · rename_i hunclosed
    have htags : tags ≠ [] := by
      rintro rfl
      simp at hunclosed
    exact alike_failUnclosed htags stops r r' h hopen
  · exact alike_failAt line _ r r' h hopen

/-- What a tag asks for while it is read runs alike. -/
theorem alike_parallel (htags : tags ≠ [])
    (hitems : ∀ stops, Reading.Alike tags (catalog.readItems budget stops)
      (catalog.readItems budget' stops)) :
    Reading.Parallel (catalog.reader budget) (catalog.reader budget')
      fun _ => Reading.Alike tags where
  bind hm hf := hm.bind hf
  atTag read _ := alike_atTag htags (read catalog.filter?)
  skipPast := alike_skipPast htags
  body stops := by
    refine (hitems stops).bind ?_
    rintro ⟨nodes, stop⟩
    cases stop with
    | some stop => exact alike_pure _
    | none => exact alike_failUnclosed htags stops
  uneven _ _ _ := ⟨fun r _ _ _ => .endless _ r _, fun _ r' _ _ => .endless' _ _ r'⟩

theorem alike_addNode {m m' : Reading (List Node × Option Token)}
    (h : Reading.Alike tags m m') (node : Node) :
    Reading.Alike tags (addNode node m) (addNode node m') :=
  h.bind fun _ => alike_pure _

section Steps

variable {stops : List String} {r r' : Reader} {t : Token} {rest rest' : List Token}

/-- The tag of a block reads alike if the items that it asks for are read alike, whatever tags
are open around them. -/
theorem alike_block (hcatalog : catalog.IsMadeOfStandardTags)
    (hitems : ∀ (tags : List (String × Nat)) (stops : List String),
      Reading.Alike tags (catalog.readItems budget stops) (catalog.readItems budget' stops))
    (htokens : r.tokens = t :: rest) (htokens' : r'.tokens = t :: rest')
    (h : (r.past t rest).Uncommented (r'.past t rest')) (hopen : r.openTags = tags)
    {name : String} (hname : t.tagName? = some name) :
    AlikeRuns tags (catalog.readItems (budget + 1) stops r)
      (catalog.readItems (budget' + 1) stops r') := by
  by_cases hne : name = ""
  · subst hne
    rw [readItems_of_unnamed htokens hname, readItems_of_unnamed htokens' hname]
    exact alike_failAt _ _ _ _ h hopen
  by_cases hstop : name ∈ stops
  · rw [readItems_of_stop htokens hname hne hstop, readItems_of_stop htokens' hname hne hstop]
    exact .same _ h hopen
  cases htag : catalog.tag? name with
  | none =>
    rw [readItems_of_unknown htokens hname hne hstop htag,
      readItems_of_unknown htokens' hname hne hstop htag]
    exact alike_failUnknown _ _ _ _ _ h hopen
  | some tag =>
    obtain ⟨standard, hstandard⟩ := hcatalog name tag htag
    have hparallel := alike_parallel (List.cons_ne_nil (name, t.line) tags) (hitems _)
    have hread := hparallel.standardTag hstandard t.splitTag.2
    rw [readItems_of_tag htokens hname hne hstop htag,
      readItems_of_tag htokens' hname hne hstop htag]
    exact hread.inTag.bind (alike_addNode (hitems tags stops)) _ _ h hopen

/-- A token that is no comment is read by both. -/
theorem alike_token (hcatalog : catalog.IsMadeOfStandardTags)
    (hitems : ∀ (tags : List (String × Nat)) (stops : List String),
      Reading.Alike tags (catalog.readItems budget stops) (catalog.readItems budget' stops))
    (htokens : r.tokens = t :: rest) (htokens' : r'.tokens = t :: rest')
    (h : (r.past t rest).Uncommented (r'.past t rest')) (hopen : r.openTags = tags)
    (hne : t.kind ≠ .tag .comment) :
    AlikeRuns tags (catalog.readItems (budget + 1) stops r)
      (catalog.readItems (budget' + 1) stops r') := by
  have hlater := alike_addNode (hitems tags stops)
  cases hkind : t.kind with
  | text =>
    rw [readItems_of_text htokens hkind, readItems_of_text htokens' hkind]
    exact hlater _ _ _ h hopen
  | tag kind =>
    cases kind with
    | comment => exact absurd hkind hne
    | expression =>
      rw [readItems_of_expression htokens hkind, readItems_of_expression htokens' hkind]
      exact (alike_readExpression t).bind hlater _ _ h hopen
    | block =>
      exact alike_block hcatalog hitems htokens htokens' h hopen
        (Token.tagName?_eq_some_iff.2 ⟨hkind, rfl⟩)

end Steps

/-- The first reader goes on alone past a comment, and otherwise both take the same step. -/
theorem alike_readItems (hcatalog : catalog.IsMadeOfStandardTags) (budget budget' : Nat)
    (tags : List (String × Nat)) (stops : List String) :
    Reading.Alike tags (catalog.readItems budget stops) (catalog.readItems budget' stops) := by
  induction budget generalizing budget' tags stops with
  | zero => exact fun r _ _ _ => .endless _ r _
  | succ budget ih =>
    intro r r' h hopen
    cases htokens : r.tokens with
    | nil =>
      have htokens' : r'.tokens = [] := by rw [h.tokens, htokens]; rfl
      cases budget' with
      | zero => exact .endless' _ _ r'
      | succ budget' =>
        rw [readItems_of_nil htokens, readItems_of_nil htokens']
        exact .same _ h hopen
    | cons t rest =>
      by_cases hcomment : t.kind = .tag .comment
      · have hrest : (r.past t rest).Uncommented r' := by
          refine ⟨?_, h.openTags⟩
          rw [h.tokens, htokens, withoutComments_of_comment hcomment]
          rfl
        rw [readItems_of_comment htokens hcomment]
        exact ih budget' tags stops (r.past t rest) r' hrest hopen
      · have htokens' : r'.tokens = t :: withoutComments rest := by
          rw [h.tokens, htokens, withoutComments_of_ne hcomment]
        cases budget' with
        | zero => exact .endless' _ _ r'
        | succ budget' =>
          exact alike_token hcatalog (ih budget') htokens htokens' ⟨rfl, h.openTags⟩ hopen hcomment

/-- On a sufficient budget, a reading of all items does not use it up. -/
theorem readItems_bounded (hcatalog : catalog.HasStandardTags) {r : Reader}
    (hopen : r.openTags = []) (hlt : r.tokens.length < budget) (line : Nat) :
    (catalog.readItems budget [] r).1 ≠ .error (.tagSyntax line .endless) := by
  intro hfails
  have hinside : r.Inside [] := ⟨⟨rfl, List.forall_mem_nil _⟩, hopen⟩
  obtain ⟨_, _, heq, hblames⟩ :=
    readItems_blaming hcatalog budget [] r hinside hlt _ _ (Prod.ext hfails rfl)
  obtain ⟨rfl, rfl⟩ := Error.tagSyntax.inj heq
  exact hblames.bounded rfl

theorem readAll_fst (r : Reader) :
    (catalog.readAll r).1 = (catalog.readItems r.budget [] r).1.map Prod.fst := by
  unfold readAll
  rcases hrun : catalog.readItems r.budget [] r with ⟨outcome, after⟩
  cases outcome with
  | error e =>
    rw [Attempt.bind_of_error hrun]
    rfl
  | ok found =>
    rw [Attempt.bind_of_ok hrun]
    rfl

/-- Tokens are read to the same nodes, or to the same fault on the same line, whether or not
there are comments among them. -/
theorem readAll_withoutComments (hcatalog : catalog.HasStandardTags) (ts : List Token) :
    (catalog.readAll { tokens := withoutComments ts }).1 =
      (catalog.readAll { tokens := ts }).1 := by
  let r : Reader := { tokens := ts }
  let r' : Reader := { tokens := withoutComments ts }
  have halike : AlikeRuns [] (catalog.readItems r.budget [] r)
      (catalog.readItems r'.budget [] r') :=
    alike_readItems hcatalog.only.isMadeOfStandardTags _ _ [] [] r r' ⟨rfl, rfl⟩ rfl
  have hbounded := readItems_bounded hcatalog (r := r) rfl r.length_lt_budget
  have hbounded' := readItems_bounded hcatalog (r := r') rfl r'.length_lt_budget
  have hitems : (catalog.readItems r'.budget [] r').1 = (catalog.readItems r.budget [] r).1 := by
    rcases hrun : catalog.readItems r.budget [] r with ⟨outcome, after⟩
    rcases hrun' : catalog.readItems r'.budget [] r' with ⟨outcome', after'⟩
    rw [hrun, hrun'] at halike
    rw [hrun] at hbounded
    rw [hrun'] at hbounded'
    cases halike with
    | endless line => exact absurd rfl (hbounded line)
    | endless' _ line => exact absurd rfl (hbounded' line)
    | same => rfl
  rw [readAll_fst r', readAll_fst r, hitems]

/-- The comments stand in front of a loop and in it; the loop is not closed, and the fault is on
the line of the loop. -/
theorem readAll_withoutComments_unclosed :
    Engine.withDefaults.catalog.HasStandardTags ∧
      ∃ ts : List Token,
        ts = Token.scan false "{% if x %}{# one #}\n{% for a in b %}{# two #}{{ a }}{% endif %}" ∧
        (withoutComments ts).length + 2 = ts.length ∧
        (Engine.withDefaults.catalog.readAll { tokens := withoutComments ts }).1 =
          .error (.tagSyntax 2 (.unclosed "for" ["empty", "endfor"])) := by
  have hcatalog := Engine.withDefaults_hasStandardTags
  obtain ⟨ts, hts⟩ : ∃ ts : List Token, ts = Token.scan false
    "{% if x %}{# one #}\n{% for a in b %}{# two #}{{ a }}{% endif %}" := ⟨_, rfl⟩
  have hlength : (withoutComments ts).length + 2 = ts.length := by
    rw [hts]
    decide +kernel
  have hread : (Engine.withDefaults.catalog.readAll { tokens := ts }).1 =
      .error (.tagSyntax 2 (.unclosed "for" ["empty", "endfor"])) := by
    have htokens : Token.scan false
        "{% if x %}{# one #}\n{% for a in b %}{# two #}{{ a }}{% endif %}" =
          [⟨.tag .block, "if x", 1⟩, ⟨.tag .comment, "one", 1⟩, ⟨.text, "\n", 1⟩,
            ⟨.tag .block, "for a in b", 2⟩, ⟨.tag .comment, "two", 2⟩, ⟨.tag .expression, "a", 2⟩,
            ⟨.tag .block, "endif", 2⟩] := by
      decide +kernel
    rw [hts, htokens]
    with_unfolding_all rfl
  exact ⟨hcatalog, ts, hts, hlength, (readAll_withoutComments hcatalog ts).trans hread⟩

end Catalog

end TextTemplate
