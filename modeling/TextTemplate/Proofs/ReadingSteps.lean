import TextTemplate.Tags.Standard
import TextTemplate.Tree.Reading

/-!
What each step of reading does. A sequence of two computations succeeds exactly when both
do; the reader's primitives and the reading of a body are described in the same way. One
equation for each kind of token says what reading items does with the first token.
-/
namespace TextTemplate

namespace Attempt

variable {σ α β : Type}

/-- A sequence that succeeds has a first part that succeeds, and goes on from there. -/
theorem bind_eq_ok_iff {m : Attempt σ α} {f : α → Attempt σ β} {s s'' : σ} {b : β} :
    (m >>= f) s = (.ok b, s'') ↔ ∃ a s', m s = (.ok a, s') ∧ f a s' = (.ok b, s'') := by
  constructor
  · intro h
    cases hm : m s with
    | mk outcome s' =>
      cases outcome with
      | error e =>
        rw [bind_of_error hm] at h
        simp at h
      | ok a => exact ⟨a, s', rfl, by rwa [bind_of_ok hm] at h⟩
  · rintro ⟨a, s', hm, hf⟩
    rw [bind_of_ok hm, hf]

/-- What follows a computation sees of it only its outcome and the state it leaves. -/
theorem bind_congr_run {m m' : Attempt σ α} {f : α → Attempt σ β} {s s' : σ}
    (h : m s = m' s') : (m >>= f) s = (m' >>= f) s' := by
  change Attempt.bind m f s = Attempt.bind m' f s'
  simp only [Attempt.bind, h]

theorem pure_eq_ok_iff {a b : α} {s s' : σ} :
    (Pure.pure a : Attempt σ α) s = (.ok b, s') ↔ b = a ∧ s' = s := by
  change ((Except.ok a : Except Error α), s) = (.ok b, s') ↔ _
  simp only [Prod.mk.injEq, Except.ok.injEq]
  exact and_congr eq_comm eq_comm

end Attempt

namespace Reader

def past (r : Reader) (t : Token) (rest : List Token) : Reader :=
  { r with tokens := rest, lastLine := t.line }

@[simp] theorem past_tokens (r : Reader) (t : Token) (rest : List Token) :
    (r.past t rest).tokens = rest := rfl

/-- Each token uses up at least one of the budget. -/
theorem length_lt_budget (r : Reader) : r.tokens.length < r.budget := by
  have hcost : ∀ ts : List Token, ts.length ≤ tokensCost ts := by
    intro ts
    induction ts with
    | nil => exact Nat.le_refl 0
    | cons t ts ih =>
      have hone : 1 ≤ tokenCost t := by
        unfold tokenCost
        split <;> omega
      simp only [List.length_cons, tokensCost]
      omega
  exact Nat.lt_succ_of_le (hcost r.tokens)

end Reader

namespace Token

/-- A token has a tag name exactly if it is a block, and then it is its first word. -/
theorem tagName?_eq_some_iff {t : Token} {name : String} :
    t.tagName? = some name ↔ t.kind = .tag .block ∧ t.splitTag.1 = name := by
  unfold tagName?
  split <;> simp_all

end Token

namespace Reading

theorem next_eq_of_nil {r : Reader} (h : r.tokens = []) : Reading.next r = (.ok none, r) := by
  simp only [Reading.next, h]

theorem next_eq_of_cons {r : Reader} {t : Token} {rest : List Token} (h : r.tokens = t :: rest) :
    Reading.next r = (.ok (some t), r.past t rest) := by
  simp only [Reading.next, h, Reader.past]

theorem atTag_eq_ok_iff {α : Type} {outcome : Except SyntaxFault α} {a : α} {r r' : Reader} :
    Reading.atTag outcome r = (.ok a, r') ↔ outcome = .ok a ∧ r' = r := by
  cases outcome with
  | error fault => simp [Reading.atTag, Reading.failAtTag]
  | ok b =>
    change (Pure.pure b : Attempt Reader α) r = _ ↔ _
    rw [Attempt.pure_eq_ok_iff, Except.ok.injEq, eq_comm]

theorem atLine_eq_ok_iff {α : Type} {line : Nat} {outcome : Except SyntaxFault α} {a : α}
    {r r' : Reader} :
    Reading.atLine line outcome r = (.ok a, r') ↔ outcome = .ok a ∧ r' = r := by
  cases outcome with
  | error fault => simp [Reading.atLine, Reading.failAt, Attempt.fail]
  | ok b =>
    change (Pure.pure b : Attempt Reader α) r = _ ↔ _
    rw [Attempt.pure_eq_ok_iff, Except.ok.injEq, eq_comm]

/-- A tag that has been read leaves the tags around it open. -/
theorem inTag_eq_ok_iff {α : Type} {name : String} {line : Nat} {m : Reading α} {a : α}
    {r r' : Reader} :
    Reading.inTag name line m r = (.ok a, r') ↔
      ∃ after, m { r with openTags := (name, line) :: r.openTags } = (.ok a, after) ∧
        r' = { after with openTags := r.openTags } := by
  unfold Reading.inTag
  generalize m { r with openTags := (name, line) :: r.openTags } = result
  obtain ⟨outcome, after⟩ := result
  constructor
  · intro h
    obtain ⟨rfl, rfl⟩ := Prod.mk.inj h
    exact ⟨after, rfl, rfl⟩
  · rintro ⟨after', hm, rfl⟩
    obtain ⟨rfl, rfl⟩ := Prod.mk.inj hm
    rfl

/-- Tokens are passed over up to the first block with the name. -/
theorem tokensPast_eq_true_iff {name : String} {line last : Nat} {ts rest : List Token} :
    Reader.tokensPast name line ts = (true, last, rest) ↔
      ∃ inner closing, ts = inner ++ closing :: rest ∧
        (∀ t ∈ inner, t.tagName? ≠ some name) ∧ closing.tagName? = some name ∧
        last = closing.line := by
  induction ts generalizing line with
  | nil => simp [Reader.tokensPast]
  | cons t ts ih =>
    by_cases hname : t.tagName? = some name
    · simp only [Reader.tokensPast, hname, if_true, Prod.mk.injEq, true_and]
      constructor
      · rintro ⟨rfl, rfl⟩
        exact ⟨[], t, rfl, by simp, hname, rfl⟩
      · rintro ⟨inner, closing, hts, hinner, _, rfl⟩
        cases inner with
        | nil =>
          obtain ⟨rfl, rfl⟩ := List.cons.inj hts
          exact ⟨rfl, rfl⟩
        | cons t' inner =>
          obtain ⟨rfl, _⟩ := List.cons.inj hts
          exact absurd hname (hinner t List.mem_cons_self)
    · simp only [Reader.tokensPast, hname, if_false, ih]
      constructor
      · rintro ⟨inner, closing, rfl, hinner, hclosing, hlast⟩
        refine ⟨t :: inner, closing, rfl, ?_, hclosing, hlast⟩
        intro t' ht'
        rcases List.mem_cons.1 ht' with rfl | hmem
        · exact hname
        · exact hinner t' hmem
      · rintro ⟨inner, closing, hts, hinner, hclosing, hlast⟩
        cases inner with
        | nil =>
          obtain ⟨rfl, _⟩ := List.cons.inj hts
          exact absurd hclosing hname
        | cons t' inner =>
          obtain ⟨rfl, hrest⟩ := List.cons.inj hts
          exact ⟨inner, closing, hrest, fun u hu => hinner u (List.mem_cons_of_mem t hu),
            hclosing, hlast⟩

/-- Skipping succeeds when the block comes, and stops at the first one of its name. -/
theorem skipPast_eq_ok_iff {name : String} {r r' : Reader} :
    Reading.skipPast name r = (.ok (), r') ↔
      ∃ inner closing, r.tokens = inner ++ closing :: r'.tokens ∧
        (∀ t ∈ inner, t.tagName? ≠ some name) ∧ closing.tagName? = some name ∧
        r' = r.past closing r'.tokens := by
  unfold Reading.skipPast
  constructor
  · intro h
    generalize hpast : Reader.tokensPast name r.lastLine r.tokens = result at h
    obtain ⟨found, last, rest⟩ := result
    cases found with
    | false => simp at h
    | true =>
      obtain ⟨_, rfl⟩ := Prod.mk.inj h
      obtain ⟨inner, closing, hts, hinner, hclosing, rfl⟩ := tokensPast_eq_true_iff.1 hpast
      exact ⟨inner, closing, hts, hinner, hclosing, rfl⟩
  · rintro ⟨inner, closing, hts, hinner, hclosing, hr'⟩
    have hpast : Reader.tokensPast name r.lastLine r.tokens =
        (true, closing.line, r'.tokens) :=
      tokensPast_eq_true_iff.2 ⟨inner, closing, hts, hinner, hclosing, rfl⟩
    rw [hpast, hr']
    rfl

end Reading

namespace TagReader

/-- A body has been read when its items were, up to a block that ends it. -/
theorem body_eq_ok_iff {reader : TagReader} {stops : List String} {nodes : List Node}
    {stop : Token} {r r' : Reader} :
    reader.body stops r = (.ok (nodes, stop), r') ↔
      reader.items stops r = (.ok (nodes, some stop), r') := by
  unfold TagReader.body
  rw [Attempt.bind_eq_ok_iff]
  constructor
  · rintro ⟨⟨nodes', found⟩, r₁, hitems, hbody⟩
    cases found with
    | none => simp [Reading.failUnclosed] at hbody
    | some stop' =>
      obtain ⟨heq, rfl⟩ := Attempt.pure_eq_ok_iff.1 hbody
      obtain ⟨rfl, rfl⟩ := Prod.mk.inj heq
      exact hitems
  · intro hitems
    exact ⟨(nodes, some stop), r', hitems, rfl⟩

theorem expression_eq_ok_iff {reader : TagReader} {text : String} {e : Expression}
    {r r' : Reader} :
    reader.expression text r = (.ok e, r') ↔
      Expression.read reader.filters text = .ok e ∧ r' = r :=
  Reading.atTag_eq_ok_iff

end TagReader

namespace Catalog

theorem addNode_eq_ok_iff {node : Node} {rest : Reading (List Node × Option Token)}
    {nodes : List Node} {stop : Option Token} {r r' : Reader} :
    addNode node rest r = (.ok (nodes, stop), r') ↔
      ∃ later, nodes = node :: later ∧ rest r = (.ok (later, stop), r') := by
  unfold addNode
  rw [Attempt.bind_eq_ok_iff]
  constructor
  · rintro ⟨⟨later, stop'⟩, r₁, hrest, hadd⟩
    obtain ⟨heq, rfl⟩ := Attempt.pure_eq_ok_iff.1 hadd
    obtain ⟨rfl, rfl⟩ := Prod.mk.inj heq
    exact ⟨later, rfl, hrest⟩
  · rintro ⟨later, rfl, hrest⟩
    exact ⟨(later, stop), r', hrest, rfl⟩

theorem failUnknown_ne_ok {name : String} {line : Nat} {stops : List String}
    {result : List Node × Option Token} {r r' : Reader} :
    failUnknown name line stops r ≠ (.ok result, r') := by
  unfold failUnknown
  split
  · simp [Reading.failUnclosed]
  · simp [Reading.failAt, Attempt.fail]

/-- Only a token whose content is an expression can be read as one. -/
theorem readExpression_eq_ok_iff {catalog : Catalog} {t : Token} {node : Node}
    {r r' : Reader} :
    catalog.readExpression t r = (.ok node, r') ↔
      ∃ e, Expression.read catalog.filter? t.content = .ok e ∧ node = .expression e ∧ r' = r := by
  unfold readExpression
  by_cases hempty : t.content.isEmpty
  · have hcontent : t.content = "" := String.isEmpty_iff.1 hempty
    have hread : Expression.read catalog.filter? "" = .error (.badVariable .empty) := rfl
    simp [hcontent, hread, Reading.failAt, Attempt.fail]
  · simp only [hempty, Bool.false_eq_true, if_false]
    rw [Attempt.bind_eq_ok_iff]
    constructor
    · rintro ⟨e, r₁, hread, hnode⟩
      obtain ⟨hexpr, rfl⟩ := Reading.atLine_eq_ok_iff.1 hread
      obtain ⟨rfl, rfl⟩ := Attempt.pure_eq_ok_iff.1 hnode
      exact ⟨e, hexpr, rfl, rfl⟩
    · rintro ⟨e, hread, rfl, rfl⟩
      exact ⟨e, r', Reading.atLine_eq_ok_iff.2 ⟨hread, rfl⟩, rfl⟩

variable {catalog : Catalog} {budget : Nat} {stops : List String} {r : Reader} {t : Token}
  {rest : List Token}

theorem readItems_of_nil (h : r.tokens = []) :
    catalog.readItems (budget + 1) stops r = (.ok ([], none), r) := by
  unfold readItems
  rw [Attempt.bind_of_ok (Reading.next_eq_of_nil h)]
  rfl

/-- Where there is a token, it is taken off, and it says how to go on. -/
theorem readItems_of_cons (h : r.tokens = t :: rest) :
    catalog.readItems (budget + 1) stops r =
      (match t.kind with
      | .text => addNode (.text t.content) (catalog.readItems budget stops)
      | .tag .comment => catalog.readItems budget stops
      | .tag .expression => do
        let node ← catalog.readExpression t
        addNode node (catalog.readItems budget stops)
      | .tag .block =>
        if t.splitTag.1.isEmpty then Reading.failAt t.line .emptyBlock
        else if t.splitTag.1 ∈ stops then pure ([], some t)
        else
          match catalog.tag? t.splitTag.1 with
          | none => failUnknown t.splitTag.1 t.line stops
          | some tag => do
            let node ← Reading.inTag t.splitTag.1 t.line
              (tag.read (catalog.reader budget) t.splitTag.2)
            addNode node (catalog.readItems budget stops)) (r.past t rest) := by
  rw [readItems, Attempt.bind_of_ok (Reading.next_eq_of_cons h)]
  rfl

theorem readItems_of_text (h : r.tokens = t :: rest) (hkind : t.kind = .text) :
    catalog.readItems (budget + 1) stops r =
      addNode (.text t.content) (catalog.readItems budget stops) (r.past t rest) := by
  rw [readItems_of_cons h]
  simp only [hkind]

theorem readItems_of_comment (h : r.tokens = t :: rest) (hkind : t.kind = .tag .comment) :
    catalog.readItems (budget + 1) stops r = catalog.readItems budget stops (r.past t rest) := by
  rw [readItems_of_cons h]
  simp only [hkind]

/-- An expression is read on its own, and then the items behind it. -/
theorem readItems_of_expression (h : r.tokens = t :: rest) (hkind : t.kind = .tag .expression) :
    catalog.readItems (budget + 1) stops r =
      (do
        let node ← catalog.readExpression t
        addNode node (catalog.readItems budget stops) : Reading _) (r.past t rest) := by
  rw [readItems_of_cons h]
  simp only [hkind]

/-- A block whose name is waited for ends the reading. Any other one is the tag of its name. -/
theorem readItems_of_named {name : String} (h : r.tokens = t :: rest)
    (hname : t.tagName? = some name) (hne : name ≠ "") :
    catalog.readItems (budget + 1) stops r =
      (if name ∈ stops then pure ([], some t)
      else
        match catalog.tag? name with
        | none => failUnknown name t.line stops
        | some tag => do
          let node ← Reading.inTag name t.line (tag.read (catalog.reader budget) t.splitTag.2)
          addNode node (catalog.readItems budget stops) : Reading _) (r.past t rest) := by
  obtain ⟨hkind, hfirst⟩ := Token.tagName?_eq_some_iff.1 hname
  have hempty : ¬ name.isEmpty := fun hempty => hne (String.isEmpty_iff.1 hempty)
  rw [readItems_of_cons h]
  simp only [hkind, hfirst, hempty, Bool.false_eq_true, if_false]

/-- A block that ends the body being read is handed back. -/
theorem readItems_of_stop {name : String} (h : r.tokens = t :: rest)
    (hname : t.tagName? = some name) (hne : name ≠ "") (hstop : name ∈ stops) :
    catalog.readItems (budget + 1) stops r = (.ok ([], some t), r.past t rest) := by
  rw [readItems_of_named h hname hne, if_pos hstop]
  rfl

/-- What a tag sees while it is read on a budget. -/
theorem readItems_of_tag {name : String} {tag : Tag} (h : r.tokens = t :: rest)
    (hname : t.tagName? = some name) (hne : name ≠ "") (hstop : name ∉ stops)
    (htag : catalog.tag? name = some tag) :
    catalog.readItems (budget + 1) stops r =
      (do
        let node ← Reading.inTag name t.line (tag.read (catalog.reader budget) t.splitTag.2)
        addNode node (catalog.readItems budget stops) : Reading _) (r.past t rest) := by
  rw [readItems_of_named h hname hne, if_neg hstop, htag]

theorem readItems_of_unnamed (h : r.tokens = t :: rest) (hname : t.tagName? = some "") :
    catalog.readItems (budget + 1) stops r =
      Reading.failAt t.line .emptyBlock (r.past t rest) := by
  obtain ⟨hkind, hfirst⟩ := Token.tagName?_eq_some_iff.1 hname
  rw [readItems_of_cons h]
  simp only [hkind, hfirst]
  rfl

/-- A block that no tag starts and that is not waited for is a fault. -/
theorem readItems_of_unknown {name : String} (h : r.tokens = t :: rest)
    (hname : t.tagName? = some name) (hne : name ≠ "") (hstop : name ∉ stops)
    (htag : catalog.tag? name = none) :
    catalog.readItems (budget + 1) stops r = failUnknown name t.line stops (r.past t rest) := by
  rw [readItems_of_named h hname hne, if_neg hstop, htag]

/-- A block that items are read past is either the end of the body or a known tag. -/
theorem block_cases {nodes : List Node} {stop : Option Token} {r' : Reader}
    (h : r.tokens = t :: rest) (hkind : t.kind = .tag .block)
    (hread : catalog.readItems (budget + 1) stops r = (.ok (nodes, stop), r')) :
    ∃ name, t.tagName? = some name ∧ name ≠ "" ∧
      (name ∈ stops ∨ name ∉ stops ∧ ∃ tag, catalog.tag? name = some tag) := by
  have hname : t.tagName? = some t.splitTag.1 := Token.tagName?_eq_some_iff.2 ⟨hkind, rfl⟩
  have hne : t.splitTag.1 ≠ "" := by
    intro hempty
    rw [readItems_of_unnamed h (hname.trans (congrArg some hempty))] at hread
    cases hread
  refine ⟨t.splitTag.1, hname, hne, ?_⟩
  by_cases hstop : t.splitTag.1 ∈ stops
  · exact Or.inl hstop
  · refine Or.inr ⟨hstop, ?_⟩
    cases htag : catalog.tag? t.splitTag.1 with
    | some tag => exact ⟨tag, rfl⟩
    | none =>
      rw [readItems_of_unknown h hname hne hstop htag] at hread
      exact absurd hread failUnknown_ne_ok

end Catalog

end TextTemplate
