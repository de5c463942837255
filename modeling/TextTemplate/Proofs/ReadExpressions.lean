import TextTemplate.Proofs.Nodes

/-!
What reading says about expressions. A literal is a safe text or a number, since nothing
else can be written down, and the filters of an expression are those of the table that it
was read with. The expressions whose values a node writes, binds or goes through were all
read from text.
-/
namespace TextTemplate

section Several

variable {α β ε : Type} {f : α → Except ε β} {as : List α} {bs : List β}

/-- Of several things that are read, the first is read and so are the others. -/
theorem mapM_cons_eq_ok {a : α} (h : (a :: as).mapM f = .ok bs) :
    ∃ b rest, f a = .ok b ∧ as.mapM f = .ok rest ∧ bs = b :: rest := by
  rw [List.mapM_cons] at h
  cases hfirst : f a with
  | error e => simp [hfirst, bind, Except.bind] at h
  | ok b =>
    cases hrest : as.mapM f with
    | error e => simp [hfirst, hrest, bind, Except.bind] at h
    | ok rest =>
      simp only [hfirst, hrest, bind, Except.bind] at h
      exact ⟨b, rest, rfl, rfl, (Except.ok.inj h).symm⟩

theorem mem_of_mapM_eq_ok (h : as.mapM f = .ok bs) : ∀ b ∈ bs, ∃ a ∈ as, f a = .ok b := by
  induction as generalizing bs with
  | nil =>
    obtain rfl := Except.ok.inj h
    exact List.forall_mem_nil _
  | cons a as ih =>
    obtain ⟨b, rest, hfirst, hrest, rfl⟩ := mapM_cons_eq_ok h
    refine List.forall_mem_cons.2 ⟨⟨a, List.mem_cons_self, hfirst⟩, ?_⟩
    intro b' hb'
    obtain ⟨a', ha', hread⟩ := ih hrest b' hb'
    exact ⟨a', List.mem_cons_of_mem a ha', hread⟩

theorem exists_of_mapM_eq_ok (h : as.mapM f = .ok bs) : ∀ a ∈ as, ∃ b, f a = .ok b := by
  induction as generalizing bs with
  | nil => exact List.forall_mem_nil _
  | cons a as ih =>
    obtain ⟨b, rest, hfirst, hrest, rfl⟩ := mapM_cons_eq_ok h
    exact List.forall_mem_cons.2 ⟨⟨b, hfirst⟩, ih hrest⟩

/-- What one reader reads, another one reads that agrees with it where it succeeds. -/
theorem mapM_eq_ok_of_imp {g : α → Except ε β} (hg : ∀ a b, f a = .ok b → g a = .ok b)
    (h : as.mapM f = .ok bs) : as.mapM g = .ok bs := by
  induction as generalizing bs with
  | nil => exact h
  | cons a as ih =>
    obtain ⟨b, rest, hfirst, hrest, rfl⟩ := mapM_cons_eq_ok h
    rw [List.mapM_cons, hg a b hfirst, ih hrest]
    rfl

theorem mapM_append_eq_ok_iff {as' : List α} {found : List β} :
    (as ++ as').mapM f = .ok found ↔
      ∃ bs bs', as.mapM f = .ok bs ∧ as'.mapM f = .ok bs' ∧ found = bs ++ bs' := by
  rw [List.mapM_append]
  constructor
  · intro h
    cases hfirst : as.mapM f with
    | error e =>
      rw [hfirst] at h
      exact nomatch h
    | ok bs =>
      cases hlater : as'.mapM f with
      | error e =>
        rw [hfirst, hlater] at h
        exact nomatch h
      | ok bs' =>
        rw [hfirst, hlater] at h
        exact ⟨bs, bs', rfl, rfl, (Except.ok.inj h).symm⟩
  · rintro ⟨bs, bs', hfirst, hlater, rfl⟩
    rw [hfirst, hlater]
    rfl

end Several

namespace Variable

def IsRead (v : Variable) : Prop := ∃ cs, read cs = .ok v

/-- Only texts and numbers are literals, and the texts are safe. -/
theorem IsRead.literal_cases {value : Value} (h : IsRead (.literal value)) :
    (∃ s, value = .safe s) ∨ (∃ n, value = .int n) ∨ ∃ x, value = .float x := by
  obtain ⟨cs, hread⟩ := h
  unfold read readTrimmed at hread
  split at hread
  · simp at hread
  · split at hread
    · unfold readText at hread
      split at hread
      · simp at hread
      · split at hread
        · simp only [Except.ok.injEq, literal.injEq] at hread
          exact Or.inl ⟨_, hread.symm⟩
        · simp at hread
    · split at hread
      · rename_i v hnumber
        simp only [Except.ok.injEq, literal.injEq] at hread
        subst hread
        unfold readNumber at hnumber
        split at hnumber
        · simp at hnumber
        · split at hnumber
          · split at hnumber
            · simp only [Option.some.injEq] at hnumber
              exact Or.inr (Or.inl ⟨_, hnumber.symm⟩)
            · obtain ⟨x, _, hx⟩ := Option.map_eq_some_iff.1 hnumber
              exact Or.inr (Or.inr ⟨x, hx.symm⟩)
          · simp at hnumber
      · unfold readPath at hread
        cases hnames : (Text.splitOnChar '.' (Text.trim cs)).mapM (readName (Text.trim cs)) with
        | error fault => simp [hnames, Except.map] at hread
        | ok names => simp [hnames, Except.map] at hread

end Variable

namespace Expression

variable {filters : FilterTable}

structure IsRead (filters : FilterTable) (e : Expression) : Prop where
  head : e.head.IsRead
  filter : ∀ call ∈ e.calls, filters call.name = some call.filter
  argument : ∀ call ∈ e.calls, ∀ v ∈ call.argument, v.IsRead

theorem readArgument_isRead {name : String} {text : Option (List Char)} {v : Variable}
    (h : readArgument name text = .ok (some v)) : v.IsRead := by
  unfold readArgument at h
  split at h
  · simp at h
  · rename_i cs
    split at h
    · rename_i v' hread
      obtain rfl := Option.some.inj (Except.ok.inj h)
      exact ⟨cs, hread⟩
    · simp at h

theorem readCall_isRead {text part : List Char} {call : FilterCall}
    (h : readCall filters text part = .ok call) :
    filters call.name = some call.filter ∧ ∀ v ∈ call.argument, v.IsRead := by
  unfold readCall at h
  generalize splitCall part = split at h
  obtain ⟨nameChars, argumentChars⟩ := split
  dsimp only at h
  split at h
  · split at h
    · simp at h
    · rename_i filter hfilter
      obtain ⟨argument, hargument, hcall⟩ := Condition.eq_ok_of_map_eq_ok h
      subst hcall
      refine ⟨hfilter, ?_⟩
      rintro v hv
      exact readArgument_isRead (hargument.trans (congrArg Except.ok hv))
  · simp at h

theorem readHead_eq_ok_iff {cs : List Char} {v : Variable} :
    readHead cs = .ok v ↔ Variable.read cs = .ok v := by
  unfold readHead
  cases Variable.read cs with
  | ok v' => simp
  | error fault => simp

/-- A variable and filters, each between bars, make up an expression. -/
theorem read_eq_ok_iff {text : String} {e : Expression} :
    read filters text = .ok e ↔
      Variable.read (Source.splitUnquoted '|' text.toList).1 = .ok e.head ∧
      (Source.splitUnquoted '|' text.toList).2.mapM (readCall filters text.toList) =
        .ok e.calls ∧
      e.source = String.ofList (Text.trim text.toList) := by
  rw [← readHead_eq_ok_iff]
  unfold read readChars
  generalize Source.splitUnquoted '|' text.toList = pieces
  obtain ⟨head, parts⟩ := pieces
  dsimp only
  constructor
  · intro h
    split at h
    · simp at h
    · rename_i v hhead
      split at h
      · simp at h
      · rename_i calls hcalls
        obtain rfl := Except.ok.inj h
        exact ⟨hhead, hcalls, rfl⟩
  · rintro ⟨hhead, hcalls, hsource⟩
    rw [hhead, hcalls, ← hsource]

/-- What a text is read as is made of what can be read. -/
theorem isRead_of_read {text : String} {e : Expression} (h : read filters text = .ok e) :
    e.IsRead filters := by
  obtain ⟨hhead, hcalls, _⟩ := read_eq_ok_iff.1 h
  refine ⟨⟨_, hhead⟩, ?_, ?_⟩
  · intro call hcall
    obtain ⟨part, _, hread⟩ := mem_of_mapM_eq_ok hcalls call hcall
    exact (readCall_isRead hread).1
  · intro call hcall
    obtain ⟨part, _, hread⟩ := mem_of_mapM_eq_ok hcalls call hcall
    exact (readCall_isRead hread).2

end Expression

namespace Tags

variable {filters : Expression.FilterTable}

theorem readBinding_isRead {name text : String} {binding : String × Expression}
    (h : readBinding filters name text = .ok binding) : binding.2.IsRead filters := by
  unfold readBinding at h
  split at h
  · obtain ⟨e, hread, rfl⟩ := Condition.eq_ok_of_map_eq_ok h
    exact Expression.isRead_of_read hread
  · simp at h

theorem readAssignments_isRead {words : List String} {names : List (String × Expression)}
    (h : readAssignments filters words = .ok names) :
    ∀ binding ∈ names, binding.2.IsRead filters := by
  induction words generalizing names with
  | nil =>
    obtain rfl := Except.ok.inj h
    exact List.forall_mem_nil _
  | cons word words ih =>
    rw [readAssignments] at h
    split at h
    · simp at h
    · rename_i binding hbinding
      obtain ⟨rest, hrest, rfl⟩ := Condition.eq_ok_of_map_eq_ok h
      refine List.forall_mem_cons.2 ⟨?_, ih hrest⟩
      unfold readAssignment at hbinding
      split at hbinding
      · simp at hbinding
      · exact readBinding_isRead hbinding

/-- The expressions of a tag that binds names are made of what can be read. -/
theorem readBindings_isRead {words : List String} {names : List (String × Expression)}
    (h : readBindings filters words = .ok names) :
    ∀ binding ∈ names, binding.2.IsRead filters := by
  unfold readBindings at h
  split at h
  · simp at h
  · split at h
    · obtain ⟨binding, hread, rfl⟩ := Condition.eq_ok_of_map_eq_ok h
      exact List.forall_mem_singleton.2 (readBinding_isRead hread)
    · exact readAssignments_isRead h
  · exact readAssignments_isRead h

end Tags

namespace Node

def valued : Node → List Expression
  | .expression e => [e]
  | .binding names _ => names.map (·.2)
  | .loop _ items _ _ _ => [items]
  | _ => []

end Node

/-- The values of an item are those of expressions that were read, by induction on the item. -/
theorem Item.valued_isRead {filters : Expression.FilterTable} (item : Item)
    (hwell : item.WellFormed filters) :
    ∀ node ∈ item.node?, ∀ e ∈ node.valued, e.IsRead filters := by
  cases item with
  | expression t e =>
    intro node hnode
    obtain rfl := Option.mem_some_iff.1 hnode
    exact List.forall_mem_singleton.2 (Expression.isRead_of_read hwell.2)
  | binding opening names body closing =>
    intro node hnode
    obtain rfl := Option.mem_some_iff.1 hnode
    rw [Node.valued, List.forall_mem_map]
    exact Tags.readBindings_isRead hwell.2.1
  | loop opening head items body empty closing =>
    intro node hnode
    obtain rfl := Option.mem_some_iff.1 hnode
    exact List.forall_mem_singleton.2 (Expression.isRead_of_read hwell.2.1.2)
  | comment t =>
    intro node hnode
    simp [Item.node?] at hnode
  | _ =>
    intro node hnode
    obtain rfl := Option.mem_some_iff.1 hnode
    exact List.forall_mem_nil _

/-- The expressions of a template that compiles, at all depths, were read with the catalog's
filters. -/
theorem Catalog.valued_isRead_of_compile {catalog : Catalog}
    (hcatalog : catalog.HasOnlyStandardTags) {trim : Bool} {source : String} {nodes : List Node}
    (hcompile : catalog.compile trim source = .ok nodes) :
    ∀ node ∈ nodes, node.Every fun node => ∀ e ∈ node.valued, e.IsRead catalog.filter? :=
  every_of_compile hcatalog Item.valued_isRead hcompile

end TextTemplate
