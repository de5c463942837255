import TextTemplate.Tags.Standard

/-!
The grammar of templates. A template is a sequence of items: plain text, comments,
expressions, inclusions, and the four tags that have an end of their own. An item records
the tokens that it is written with and what its arguments say, so that it is a derivation;
its tokens and its node are read off it. The first token of an item decides its form, and a
body ends before a token that no item starts with, whence the items of a list of tokens are
unique.
-/
namespace TextTemplate

open Tags

/-- An item of a template. The branches of a choice after the first one, and what follows an
`else` or `empty`, come with the block that opens them. -/
inductive Item where
  | text (t : Token)
  | comment (t : Token)
  | expression (t : Token) (e : Expression)
  | inclusion (t : Token) (name : Expression)
  | binding (opening : Token) (names : List (String × Expression)) (body : List Item)
      (closing : Token)
  | choice (opening : Token) (condition : Condition) (body : List Item)
      (others : List (Token × Condition × List Item)) (otherwise : Option (Token × List Item))
      (closing : Token)
  | loop (opening : Token) (head : LoopHead) (items : Expression) (body : List Item)
      (empty : Option (Token × List Item)) (closing : Token)
  | skipped (opening : Token) (inner : List Token) (closing : Token)

namespace Item

/-- Induction on items, with the items of all bodies at once. -/
@[elab_as_elim, induction_eliminator]
theorem induct {motive : Item → Prop} (text : ∀ t, motive (.text t))
    (comment : ∀ t, motive (.comment t)) (expression : ∀ t e, motive (.expression t e))
    (inclusion : ∀ t name, motive (.inclusion t name))
    (binding : ∀ opening names body closing, (∀ item ∈ body, motive item) →
      motive (.binding opening names body closing))
    (choice : ∀ opening condition body others otherwise closing, (∀ item ∈ body, motive item) →
      (∀ branch ∈ others, ∀ item ∈ branch.2.2, motive item) →
      (∀ clause ∈ otherwise, ∀ item ∈ clause.2, motive item) →
      motive (.choice opening condition body others otherwise closing))
    (loop : ∀ opening head items body empty closing, (∀ item ∈ body, motive item) →
      (∀ clause ∈ empty, ∀ item ∈ clause.2, motive item) →
      motive (.loop opening head items body empty closing))
    (skipped : ∀ opening inner closing, motive (.skipped opening inner closing)) (item : Item) :
    motive item :=
  @Item.rec motive (fun items => ∀ item ∈ items, motive item)
    (fun branches => ∀ branch ∈ branches, ∀ item ∈ branch.2.2, motive item)
    (fun clause => ∀ entry ∈ clause, ∀ item ∈ entry.2, motive item)
    (fun branch => ∀ item ∈ branch.2.2, motive item)
    (fun clause => ∀ item ∈ clause.2, motive item)
    (fun branch => ∀ item ∈ branch.2, motive item)
    text comment expression inclusion binding choice loop skipped (List.forall_mem_nil _)
    (fun _ _ hhead htail => List.forall_mem_cons.2 ⟨hhead, htail⟩) (List.forall_mem_nil _)
    (fun _ _ hhead htail => List.forall_mem_cons.2 ⟨hhead, htail⟩)
    (fun _ hmem => nomatch hmem) (fun _ hval _ hmem => Option.mem_some_iff.1 hmem ▸ hval)
    (fun _ _ hbody => hbody) (fun _ _ hbody => hbody) (fun _ _ hbody => hbody) item

mutual

def tokens : Item → List Token
  | .text t => [t]
  | .comment t => [t]
  | .expression t _ => [t]
  | .inclusion t _ => [t]
  | .binding opening _ body closing => opening :: (allTokens body ++ [closing])
  | .choice opening _ body others otherwise closing =>
    opening :: (allTokens body ++ (branchTokens others ++ (clauseTokens otherwise ++ [closing])))
  | .loop opening _ _ body empty closing =>
    opening :: (allTokens body ++ (clauseTokens empty ++ [closing]))
  | .skipped opening inner closing => opening :: (inner ++ [closing])

def allTokens : List Item → List Token
  | [] => []
  | item :: rest => tokens item ++ allTokens rest

def branchTokens : List (Token × Condition × List Item) → List Token
  | [] => []
  | (opening, _, body) :: rest => opening :: (allTokens body ++ branchTokens rest)

def clauseTokens : Option (Token × List Item) → List Token
  | none => []
  | some (opening, body) => opening :: allTokens body

end

mutual

def node? : Item → Option Node
  | .text t => some (.text t.content)
  | .comment _ => none
  | .expression _ e => some (.expression e)
  | .inclusion _ name => some (.inclusion name)
  | .binding _ names body _ => some (.binding names (nodes body))
  | .choice _ condition body others otherwise _ =>
    some (.choice ((condition, nodes body) :: branchNodes others) (clauseNodes otherwise))
  | .loop _ head items body empty _ =>
    some (.loop head.targets items head.reversed (nodes body) (clauseNodes empty))
  | .skipped _ _ _ => some .comment

def nodes : List Item → List Node
  | [] => []
  | item :: rest => (node? item).toList ++ nodes rest

def branchNodes : List (Token × Condition × List Item) → List (Condition × List Node)
  | [] => []
  | (_, condition, body) :: rest => (condition, nodes body) :: branchNodes rest

def clauseNodes : Option (Token × List Item) → Option (List Node)
  | none => none
  | some (_, body) => some (nodes body)

end

def IsInclusion (filters : Expression.FilterTable) (args : String) (name : Expression) : Prop :=
  ∃ word, Source.words args = [word] ∧ Expression.read filters word = .ok name

def IsCondition (filters : Expression.FilterTable) (args : String) (c : Condition) : Prop :=
  Condition.read filters (Source.words args) = .ok c

def IsLoop (filters : Expression.FilterTable) (args : String) (head : LoopHead)
    (items : Expression) : Prop :=
  readLoopHead args = .ok head ∧ Expression.read filters head.items = .ok items

variable (filters : Expression.FilterTable)

mutual

/-- The tokens of an item are of the kinds and names that its form asks for, and their
arguments say what the item records. What follows the name of an end, of `empty` and of
`comment` is not looked at. -/
def WellFormed : Item → Prop
  | .text t => t.kind = .text
  | .comment t => t.kind = .tag .comment
  | .expression t e => t.kind = .tag .expression ∧ Expression.read filters t.content = .ok e
  | .inclusion t name =>
    t.tagName? = some "include" ∧ IsInclusion filters t.splitTag.2 name
  | .binding opening names body closing =>
    opening.tagName? = some "with" ∧
      readBindings filters (Source.words opening.splitTag.2) = .ok names ∧
      AllWellFormed body ∧ closing.tagName? = some "endwith"
  | .choice opening condition body others otherwise closing =>
    opening.tagName? = some "if" ∧ IsCondition filters opening.splitTag.2 condition ∧
      AllWellFormed body ∧ BranchesWellFormed others ∧ ClauseWellFormed "else" otherwise ∧
      (∀ clause ∈ otherwise, clause.1.splitTag.2 = "") ∧ closing.tagName? = some "endif"
  | .loop opening head items body empty closing =>
    opening.tagName? = some "for" ∧ IsLoop filters opening.splitTag.2 head items ∧
      AllWellFormed body ∧ ClauseWellFormed "empty" empty ∧ closing.tagName? = some "endfor"
  | .skipped opening inner closing =>
    opening.tagName? = some "comment" ∧ (∀ t ∈ inner, t.tagName? ≠ some "endcomment") ∧
      closing.tagName? = some "endcomment"

def AllWellFormed : List Item → Prop
  | [] => True
  | item :: rest => WellFormed item ∧ AllWellFormed rest

def BranchesWellFormed : List (Token × Condition × List Item) → Prop
  | [] => True
  | (opening, condition, body) :: rest =>
    (opening.tagName? = some "elif" ∧ IsCondition filters opening.splitTag.2 condition ∧
      AllWellFormed body) ∧ BranchesWellFormed rest

def ClauseWellFormed (name : String) : Option (Token × List Item) → Prop
  | none => True
  | some (opening, body) => opening.tagName? = some name ∧ AllWellFormed body

end

def Derives (items : List Item) (ts : List Token) : Prop :=
  AllWellFormed filters items ∧ allTokens items = ts

inductive Form where
  | text
  | comment
  | expression
  | inclusion
  | binding
  | choice
  | loop
  | skipped
deriving DecidableEq

def form : Item → Form
  | .text _ => .text
  | .comment _ => .comment
  | .expression _ _ => .expression
  | .inclusion _ _ => .inclusion
  | .binding _ _ _ _ => .binding
  | .choice _ _ _ _ _ _ => .choice
  | .loop _ _ _ _ _ _ => .loop
  | .skipped _ _ _ => .skipped

def blockForms : List (String × Form) :=
  [("include", .inclusion), ("with", .binding), ("if", .choice), ("for", .loop),
    ("comment", .skipped)]

def formOf (t : Token) : Option Form :=
  match t.kind with
  | .text => some .text
  | .tag .comment => some .comment
  | .tag .expression => some .expression
  | .tag .block => Entries.get? blockForms t.splitTag.1

theorem formOf_of_tagName? {t : Token} {name : String} (h : t.tagName? = some name) :
    formOf t = Entries.get? blockForms name := by
  unfold Token.tagName? at h
  split at h
  · rename_i hkind
    simp only [Option.some.injEq] at h
    simp only [formOf, hkind, h]
  · simp at h

variable {filters}

/-- The first token of a well-formed item tells its form. -/
theorem formOf_first {item : Item} (h : WellFormed filters item) {t : Token} {ts : List Token}
    (htokens : item.tokens = t :: ts) : formOf t = some item.form := by
  cases item <;> simp only [WellFormed, tokens, List.cons.injEq] at h htokens
  case text => simp only [← htokens.1, formOf, h, form]
  case comment => simp only [← htokens.1, formOf, h, form]
  case expression => simp only [← htokens.1, formOf, h.1, form]
  all_goals
    rw [← htokens.1, formOf_of_tagName? h.1]
    rfl

theorem tokens_eq_cons (item : Item) : ∃ t ts, item.tokens = t :: ts := by
  cases item <;> simp [tokens]

/-- No item starts with the first of the tokens, if there is one. -/
def EndsBody (ts : List Token) : Prop := ∀ t ∈ ts.head?, formOf t = none

def StopsAt (names : List String) (ts : List Token) : Prop :=
  ∃ t rest name, ts = t :: rest ∧ t.tagName? = some name ∧ name ∈ names

theorem StopsAt.mono {names more : List String} {ts : List Token} (h : StopsAt names ts)
    (hsub : ∀ name ∈ names, name ∈ more) : StopsAt more ts := by
  obtain ⟨t, rest, name, hts, hname, hmem⟩ := h
  exact ⟨t, rest, name, hts, hname, hsub name hmem⟩

/-- A block that starts no item ends a body. -/
theorem StopsAt.endsBody {names : List String} {ts : List Token} (h : StopsAt names ts)
    (hnames : ∀ name ∈ names, Entries.get? blockForms name = none) : EndsBody ts := by
  obtain ⟨t, rest, name, rfl, hname, hmem⟩ := h
  intro t' ht'
  simp only [List.head?_cons, Option.mem_def, Option.some.injEq] at ht'
  rw [← ht', formOf_of_tagName? hname, hnames name hmem]

theorem stopsAt_closing {t : Token} {name : String} (h : t.tagName? = some name)
    (rest : List Token) : StopsAt [name] (t :: rest) :=
  ⟨t, rest, name, rfl, h, List.mem_singleton_self name⟩

theorem stopsAt_clause {name : String} {clause : Option (Token × List Item)}
    (h : ClauseWellFormed filters name clause) {names : List String} {ts : List Token}
    (hts : StopsAt names ts) : StopsAt (name :: names) (clauseTokens clause ++ ts) := by
  cases clause with
  | none =>
    simp only [clauseTokens, List.nil_append]
    exact hts.mono fun _ hmem => List.mem_cons_of_mem name hmem
  | some clause =>
    obtain ⟨opening, body⟩ := clause
    simp only [ClauseWellFormed] at h
    exact ⟨opening, allTokens body ++ ts, name, by simp [clauseTokens], h.1,
      List.mem_cons_self⟩

theorem stopsAt_branches {branches : List (Token × Condition × List Item)}
    (h : BranchesWellFormed filters branches) {names : List String} {ts : List Token}
    (hts : StopsAt names ts) : StopsAt ("elif" :: names) (branchTokens branches ++ ts) := by
  cases branches with
  | nil =>
    simp only [branchTokens, List.nil_append]
    exact hts.mono fun _ hmem => List.mem_cons_of_mem "elif" hmem
  | cons branch rest =>
    obtain ⟨opening, condition, body⟩ := branch
    simp only [BranchesWellFormed] at h
    exact ⟨opening, allTokens body ++ (branchTokens rest ++ ts), "elif",
      by simp [branchTokens], h.1.1, List.mem_cons_self⟩

/-- A body that stops at the end of its tag. -/
theorem endsBody_closing {t : Token} {name : String} (h : t.tagName? = some name)
    (hname : Entries.get? blockForms name = none) (rest : List Token) :
    EndsBody (t :: rest) :=
  (stopsAt_closing h rest).endsBody fun other hmem => by
    rwa [List.mem_singleton.1 hmem]

theorem isInclusion_unique {args : String} {a b : Expression} (ha : IsInclusion filters args a)
    (hb : IsInclusion filters args b) : a = b := by
  obtain ⟨word, hwords, hread⟩ := ha
  obtain ⟨word', hwords', hread'⟩ := hb
  obtain rfl : word = word' := by simpa [hwords] using hwords'
  simpa [hread] using hread'

theorem isLoop_unique {args : String} {head head' : LoopHead} {a b : Expression}
    (ha : IsLoop filters args head a) (hb : IsLoop filters args head' b) :
    head = head' ∧ a = b := by
  obtain rfl : head = head' := by simpa [ha.1] using hb.1
  exact ⟨rfl, by simpa [ha.2] using hb.2⟩

/-- Where two divisions at blocks that satisfy a predicate agree, the blocks are the same. -/
theorem append_cons_unique {p : Token → Prop} {as bs : List Token} {a b : Token}
    {ts us : List Token} (has : ∀ t ∈ as, ¬ p t) (hbs : ∀ t ∈ bs, ¬ p t) (ha : p a) (hb : p b)
    (h : as ++ a :: ts = bs ++ b :: us) : as = bs ∧ a = b ∧ ts = us := by
  induction as generalizing bs with
  | nil =>
    cases bs with
    | nil =>
      obtain ⟨rfl, rfl⟩ := List.cons.inj h
      exact ⟨rfl, rfl, rfl⟩
    | cons b' bs =>
      obtain ⟨rfl, _⟩ := List.cons.inj h
      exact absurd ha (hbs a List.mem_cons_self)
  | cons a' as ih =>
    cases bs with
    | nil =>
      obtain ⟨rfl, _⟩ := List.cons.inj h
      exact absurd hb (has a' List.mem_cons_self)
    | cons b' bs =>
      obtain ⟨rfl, hrest⟩ := List.cons.inj h
      obtain ⟨rfl, heq⟩ := ih (fun t ht => has t (List.mem_cons_of_mem a' ht))
        (fun t ht => hbs t (List.mem_cons_of_mem a' ht)) hrest
      exact ⟨rfl, heq⟩

/-- Two well-formed items whose tokens begin alike have the same form. -/
theorem form_eq {a b : Item} (ha : WellFormed filters a) (hb : WellFormed filters b)
    {ts us : List Token} (h : a.tokens ++ ts = b.tokens ++ us) : a.form = b.form := by
  obtain ⟨t, rest, hta⟩ := tokens_eq_cons a
  obtain ⟨u, rest', htb⟩ := tokens_eq_cons b
  rw [hta, htb, List.cons_append, List.cons_append] at h
  obtain ⟨rfl, _⟩ := List.cons.inj h
  have hform := (formOf_first ha hta).symm.trans (formOf_first hb htb)
  exact Option.some.inj hform

theorem not_endsBody_item {item : Item} (h : WellFormed filters item) (ts : List Token) :
    ¬ EndsBody (item.tokens ++ ts) := by
  intro hends
  obtain ⟨t, rest, htokens⟩ := tokens_eq_cons item
  have hnone := hends t (by simp [htokens])
  rw [formOf_first h htokens] at hnone
  simp at hnone

/-- The tokens of an item determine it and what follows it. -/
def Unique (filters : Expression.FilterTable) (a : Item) : Prop :=
  ∀ b, WellFormed filters a → WellFormed filters b → ∀ ts us,
    a.tokens ++ ts = b.tokens ++ us → a = b ∧ ts = us

def AllUnique (filters : Expression.FilterTable) (as : List Item) : Prop :=
  ∀ bs, AllWellFormed filters as → AllWellFormed filters bs → ∀ ts us,
    EndsBody ts → EndsBody us → allTokens as ++ ts = allTokens bs ++ us → as = bs ∧ ts = us

def BranchesUnique (filters : Expression.FilterTable)
    (as : List (Token × Condition × List Item)) : Prop :=
  ∀ bs, BranchesWellFormed filters as → BranchesWellFormed filters bs → ∀ ts us,
    StopsAt ["else", "endif"] ts → StopsAt ["else", "endif"] us →
    branchTokens as ++ ts = branchTokens bs ++ us → as = bs ∧ ts = us

def ClauseUnique (filters : Expression.FilterTable) (a : Option (Token × List Item)) : Prop :=
  ∀ b name other, name ≠ other → Entries.get? blockForms other = none →
    ClauseWellFormed filters name a → ClauseWellFormed filters name b → ∀ ts us,
    StopsAt [other] ts → StopsAt [other] us →
    clauseTokens a ++ ts = clauseTokens b ++ us → a = b ∧ ts = us

theorem unique_text (t : Token) : Unique filters (.text t) := by
  intro b ha hb ts us h
  have hform := form_eq ha hb h
  cases b with
  | text t' =>
    obtain ⟨rfl, rfl⟩ := List.cons.inj h
    exact ⟨rfl, rfl⟩
  | _ => exact absurd hform (by simp [form])

theorem unique_comment (t : Token) : Unique filters (.comment t) := by
  intro b ha hb ts us h
  have hform := form_eq ha hb h
  cases b with
  | comment t' =>
    obtain ⟨rfl, rfl⟩ := List.cons.inj h
    exact ⟨rfl, rfl⟩
  | _ => exact absurd hform (by simp [form])

theorem unique_expression (t : Token) (e : Expression) : Unique filters (.expression t e) := by
  intro b ha hb ts us h
  have hform := form_eq ha hb h
  cases b with
  | expression t' e' =>
    obtain ⟨rfl, rfl⟩ := List.cons.inj h
    simp only [WellFormed] at ha hb
    obtain rfl : e = e' := by simpa [ha.2] using hb.2
    exact ⟨rfl, rfl⟩
  | _ => exact absurd hform (by simp [form])

theorem unique_inclusion (t : Token) (name : Expression) :
    Unique filters (.inclusion t name) := by
  intro b ha hb ts us h
  have hform := form_eq ha hb h
  cases b with
  | inclusion t' name' =>
    obtain ⟨rfl, rfl⟩ := List.cons.inj h
    simp only [WellFormed] at ha hb
    obtain rfl := isInclusion_unique ha.2 hb.2
    exact ⟨rfl, rfl⟩
  | _ => exact absurd hform (by simp [form])

theorem unique_binding {opening closing : Token} {names : List (String × Expression)}
    {body : List Item} (hall : AllUnique filters body) :
    Unique filters (.binding opening names body closing) := by
  intro b ha hb ts us h
  have hform := form_eq ha hb h
  cases b with
  | binding opening' names' body' closing' =>
    simp only [tokens, List.cons_append, List.append_assoc, List.nil_append,
      List.cons.injEq] at h
    simp only [WellFormed] at ha hb
    obtain ⟨rfl, h⟩ := h
    obtain ⟨_, hnames, hbody, hclose⟩ := ha
    obtain ⟨_, hnames', hbody', hclose'⟩ := hb
    obtain rfl : names = names' := by simpa [hnames] using hnames'
    obtain ⟨rfl, hend⟩ := hall body' hbody hbody' _ _ (endsBody_closing hclose rfl ts)
      (endsBody_closing hclose' rfl us) h
    obtain ⟨rfl, rfl⟩ := List.cons.inj hend
    exact ⟨rfl, rfl⟩
  | _ => exact absurd hform (by simp [form])

/-- Of two choices with the same tokens, condition, bodies and branches are the same. -/
theorem unique_choice {opening closing : Token} {condition : Condition} {body : List Item}
    {others : List (Token × Condition × List Item)} {otherwise : Option (Token × List Item)}
    (hall : AllUnique filters body) (hbranches : BranchesUnique filters others)
    (hclause : ClauseUnique filters otherwise) :
    Unique filters (.choice opening condition body others otherwise closing) := by
  intro b ha hb ts us h
  have hform := form_eq ha hb h
  cases b with
  | choice opening' condition' body' others' otherwise' closing' =>
    simp only [tokens, List.cons_append, List.append_assoc, List.nil_append,
      List.cons.injEq] at h
    simp only [WellFormed, IsCondition] at ha hb
    obtain ⟨rfl, h⟩ := h
    obtain ⟨_, hcond, hbody, hothers, hother, _, hclose⟩ := ha
    obtain ⟨_, hcond', hbody', hothers', hother', _, hclose'⟩ := hb
    obtain rfl : condition = condition' := by simpa [hcond] using hcond'
    -- Each part ends at a block that cannot belong to it, so the parts agree one by one.
    have hend := stopsAt_closing hclose ts
    have hend' := stopsAt_closing hclose' us
    have hstop := stopsAt_clause hother hend
    have hstop' := stopsAt_clause hother' hend'
    obtain ⟨rfl, hafter⟩ := hall body' hbody hbody' _ _
      ((stopsAt_branches hothers hstop).endsBody (by decide))
      ((stopsAt_branches hothers' hstop').endsBody (by decide)) h
    obtain ⟨rfl, helse⟩ := hbranches others' hothers hothers' _ _ hstop hstop' hafter
    obtain ⟨rfl, hlast⟩ := hclause otherwise' "else" "endif" (by decide) rfl hother hother' _ _
      hend hend' helse
    obtain ⟨rfl, rfl⟩ := List.cons.inj hlast
    exact ⟨rfl, rfl⟩
  | _ => exact absurd hform (by simp [form])

theorem unique_loop {opening closing : Token} {head : LoopHead} {items : Expression}
    {body : List Item} {empty : Option (Token × List Item)} (hall : AllUnique filters body)
    (hclause : ClauseUnique filters empty) :
    Unique filters (.loop opening head items body empty closing) := by
  intro b ha hb ts us h
  have hform := form_eq ha hb h
  cases b with
  | loop opening' head' items' body' empty' closing' =>
    simp only [tokens, List.cons_append, List.append_assoc, List.nil_append,
      List.cons.injEq] at h
    simp only [WellFormed] at ha hb
    obtain ⟨rfl, h⟩ := h
    obtain ⟨_, hloop, hbody, hempty, hclose⟩ := ha
    obtain ⟨_, hloop', hbody', hempty', hclose'⟩ := hb
    obtain ⟨rfl, rfl⟩ := isLoop_unique hloop hloop'
    have hend := stopsAt_closing hclose ts
    have hend' := stopsAt_closing hclose' us
    obtain ⟨rfl, hafter⟩ := hall body' hbody hbody' _ _
      ((stopsAt_clause hempty hend).endsBody (by decide))
      ((stopsAt_clause hempty' hend').endsBody (by decide)) h
    obtain ⟨rfl, hlast⟩ := hclause empty' "empty" "endfor" (by decide) rfl hempty hempty' _ _
      hend hend' hafter
    obtain ⟨rfl, rfl⟩ := List.cons.inj hlast
    exact ⟨rfl, rfl⟩
  | _ => exact absurd hform (by simp [form])

theorem unique_skipped (opening closing : Token) (inner : List Token) :
    Unique filters (.skipped opening inner closing) := by
  intro b ha hb ts us h
  have hform := form_eq ha hb h
  cases b with
  | skipped opening' inner' closing' =>
    simp only [tokens, List.cons_append, List.append_assoc, List.nil_append,
      List.cons.injEq] at h
    simp only [WellFormed] at ha hb
    obtain ⟨rfl, h⟩ := h
    obtain ⟨rfl, rfl, rfl⟩ := append_cons_unique (p := fun t => t.tagName? = some "endcomment")
      ha.2.1 hb.2.1 ha.2.2 hb.2.2 h
    exact ⟨rfl, rfl⟩
  | _ => exact absurd hform (by simp [form])

/-- Lists of items are unique if each item is, since its tokens tell where it ends. -/
theorem allUnique {as : List Item} (hitems : ∀ a ∈ as, Unique filters a) :
    AllUnique filters as := by
  induction as with
  | nil =>
    intro bs _ hb ts us hts _ h
    cases bs with
    | nil => exact ⟨rfl, h⟩
    | cons b bs =>
      simp only [AllWellFormed, allTokens, List.nil_append, List.append_assoc] at hb h
      exact absurd (h ▸ hts) (not_endsBody_item hb.1 _)
  | cons a as ih =>
    obtain ⟨hitem, hrest⟩ := List.forall_mem_cons.1 hitems
    intro bs ha hb ts us hts hus h
    cases bs with
    | nil =>
      simp only [AllWellFormed, allTokens, List.nil_append, List.append_assoc] at ha h
      exact absurd (h ▸ hus) (not_endsBody_item ha.1 _)
    | cons b bs =>
      simp only [AllWellFormed, allTokens, List.append_assoc] at ha hb h
      obtain ⟨rfl, hafter⟩ := hitem b ha.1 hb.1 _ _ h
      obtain ⟨rfl, rfl⟩ := ih hrest bs ha.2 hb.2 ts us hts hus hafter
      exact ⟨rfl, rfl⟩

/-- A block of one name does not stand where blocks of other names do. -/
theorem not_stopsAt {t : Token} {name : String} {names : List String} {rest ts : List Token}
    (hname : t.tagName? = some name) (hnot : name ∉ names) (h : ts = t :: rest) :
    ¬ StopsAt names ts := by
  rintro ⟨t', rest', name', hts, hname', hmem⟩
  obtain ⟨rfl, _⟩ := List.cons.inj (h.symm.trans hts)
  obtain rfl := Option.some.inj (hname.symm.trans hname')
  exact hnot hmem

theorem branchesUnique {as : List (Token × Condition × List Item)}
    (hbodies : ∀ branch ∈ as, AllUnique filters branch.2.2) : BranchesUnique filters as := by
  induction as with
  | nil =>
    intro bs _ hb ts us hts _ h
    cases bs with
    | nil => exact ⟨rfl, h⟩
    | cons branch bs =>
      obtain ⟨opening, condition, body⟩ := branch
      simp only [BranchesWellFormed, branchTokens, List.nil_append, List.cons_append] at hb h
      exact absurd hts (not_stopsAt hb.1.1 (by decide) h)
  | cons branch as ih =>
    obtain ⟨opening, condition, body⟩ := branch
    obtain ⟨hall, hbranches⟩ := List.forall_mem_cons.1 hbodies
    intro bs ha hb ts us hts hus h
    cases bs with
    | nil =>
      simp only [BranchesWellFormed, branchTokens, List.nil_append, List.cons_append] at ha h
      exact absurd hus (not_stopsAt ha.1.1 (by decide) h.symm)
    | cons branch bs =>
      obtain ⟨opening', condition', body'⟩ := branch
      simp only [BranchesWellFormed, IsCondition, branchTokens, List.cons_append,
        List.append_assoc, List.cons.injEq] at ha hb h
      obtain ⟨rfl, h⟩ := h
      obtain ⟨⟨_, hcond, hbody⟩, has⟩ := ha
      obtain ⟨⟨_, hcond', hbody'⟩, hbs⟩ := hb
      obtain rfl : condition = condition' := by simpa [hcond] using hcond'
      obtain ⟨rfl, hafter⟩ := hall body' hbody hbody' _ _
        ((stopsAt_branches has hts).endsBody (by decide))
        ((stopsAt_branches hbs hus).endsBody (by decide)) h
      obtain ⟨rfl, rfl⟩ := ih hbranches bs has hbs ts us hts hus hafter
      exact ⟨rfl, rfl⟩

theorem clauseUnique {a : Option (Token × List Item)}
    (hbody : ∀ clause ∈ a, AllUnique filters clause.2) : ClauseUnique filters a := by
  intro b name other hne hother ha hb ts us hts hus h
  cases a with
  | none =>
    cases b with
    | none => exact ⟨rfl, h⟩
    | some clause =>
      obtain ⟨opening, body⟩ := clause
      simp only [ClauseWellFormed, clauseTokens, List.nil_append, List.cons_append] at hb h
      exact absurd hts (not_stopsAt hb.1 (by simpa using hne) h)
  | some clause =>
    obtain ⟨opening, body⟩ := clause
    cases b with
    | none =>
      simp only [ClauseWellFormed, clauseTokens, List.nil_append, List.cons_append] at ha h
      exact absurd hus (not_stopsAt ha.1 (by simpa using hne) h.symm)
    | some clause =>
      obtain ⟨opening', body'⟩ := clause
      simp only [ClauseWellFormed, clauseTokens, List.cons_append, List.cons.injEq] at ha hb h
      obtain ⟨rfl, h⟩ := h
      have hnames : ∀ name' ∈ [other], Entries.get? blockForms name' = none := by
        simpa using hother
      obtain ⟨rfl, rfl⟩ := hbody _ rfl body' ha.2 hb.2 ts us (hts.endsBody hnames)
        (hus.endsBody hnames) h
      exact ⟨rfl, rfl⟩

/-- No other well-formed item has the tokens of this one, by induction on the item. -/
theorem unique (a : Item) : Unique filters a := by
  induction a with
  | text t => exact unique_text t
  | comment t => exact unique_comment t
  | expression t e => exact unique_expression t e
  | inclusion t name => exact unique_inclusion t name
  | binding opening names body closing hbody => exact unique_binding (allUnique hbody)
  | choice opening condition body others otherwise closing hbody hothers hotherwise =>
    exact unique_choice (allUnique hbody)
      (branchesUnique fun branch hmem => allUnique (hothers branch hmem))
      (clauseUnique fun clause hmem => allUnique (hotherwise clause hmem))
  | loop opening head items body empty closing hbody hempty =>
    exact unique_loop (allUnique hbody)
      (clauseUnique fun clause hmem => allUnique (hempty clause hmem))
  | skipped opening inner closing => exact unique_skipped opening closing inner

/-- A list of tokens has at most one derivation. -/
theorem derives_unique {items items' : List Item} {ts : List Token}
    (h : Derives filters items ts) (h' : Derives filters items' ts) : items = items' := by
  have hends : EndsBody [] := fun t ht => by simp at ht
  have hall : AllUnique filters items := allUnique fun item _ => unique item
  exact (hall items' h.1 h'.1 [] [] hends hends (by rw [h.2, h'.2])).1

end Item

end TextTemplate
