import TextTemplate.Proofs.MoreFilters
import TextTemplate.Proofs.StandardCatalog

/-!
Two readings side by side. A standard tag reads its arguments with the filters it is given,
asks for bodies, skips to the end of a comment and stops at what is wrong; it does nothing
else to the reader. A relation between computations that holds of these steps and passes on
to sequences therefore holds between two readings of the tag, whatever it is that the two are
given to read bodies with. If it also holds of the steps in between tags, then it holds
between the items that two catalogs read.
-/
namespace TextTemplate

open Expression Tags

/-- The steps that a standard tag is read in are related, and the relation passes on to
sequences. If the budgets differ, then what has used up its own is related to everything. -/
structure Reading.Parallel (reader reader' : TagReader)
    (R : (α : Type) → Reading α → Reading α → Prop) : Prop where
  bind : ∀ {α β : Type} {m m' : Reading α} {f f' : α → Reading β}, R α m m' →
    (∀ a, R β (f a) (f' a)) → R β (m >>= f) (m' >>= f')
  atTag : ∀ {α : Type} (read : FilterTable → Except SyntaxFault α), IsMonotone read →
    R α (Reading.atTag (read reader.filters)) (Reading.atTag (read reader'.filters))
  skipPast : ∀ name : String, R Unit (Reading.skipPast name) (Reading.skipPast name)
  body : ∀ stops : List String,
    R (List Node × Token) (reader.body stops) (reader'.body stops)
  uneven : reader.budget ≠ reader'.budget → ∀ {α : Type} (m : Reading α),
    R α (Reading.failAtTag .endless) m ∧ R α m (Reading.failAtTag .endless)

namespace Reading.Parallel

variable {reader reader' : TagReader} {R : (α : Type) → Reading α → Reading α → Prop}
  (h : Reading.Parallel reader reader' R)
include h

theorem pure {α : Type} (a : α) : R α (Pure.pure a) (Pure.pure a) :=
  h.atTag (fun _ => .ok a) (isMonotone_const (.ok a))

theorem failAtTag {α : Type} (fault : SyntaxFault) :
    R α (Reading.failAtTag fault) (Reading.failAtTag fault) :=
  h.atTag (fun _ => .error fault) (isMonotone_const (.error fault))

/-- A tag with one body is read in related steps. -/
theorem withTag (args : String) :
    R Node (withTag.read reader args) (withTag.read reader' args) := by
  refine h.bind (h.atTag _ (isMonotone_readBindings _)) ?_
  intro bindings
  exact h.bind (h.body ["endwith"]) fun _ => h.pure _

theorem includeTag (args : String) :
    R Node (includeTag.read reader args) (includeTag.read reader' args) := by
  rcases hwords : Source.words args with _ | ⟨word, _ | ⟨second, more⟩⟩
  · simp only [Tags.includeTag, hwords]
    exact h.failAtTag _
  · simp only [Tags.includeTag, hwords]
    exact h.bind (h.atTag _ (isMonotone_read word)) fun name => h.pure _
  · simp only [Tags.includeTag, hwords]
    exact h.failAtTag _

theorem commentTag (args : String) :
    R Node (commentTag.read reader args) (commentTag.read reader' args) :=
  h.bind (h.skipPast "endcomment") fun _ => h.pure _

theorem readEmpty (stop : Token) :
    R (Option (List Node)) (readEmpty reader stop) (readEmpty reader' stop) := by
  unfold Tags.readEmpty
  split
  · exact h.bind (h.body ["endfor"]) fun _ => h.pure _
  · exact h.pure none

/-- A loop is read in related steps, with or without a body for no items. -/
theorem forTag (args : String) : R Node (forTag.read reader args) (forTag.read reader' args) := by
  refine h.bind (h.atTag _ (isMonotone_const (readLoopHead args))) ?_
  intro head
  refine h.bind (h.atTag _ (isMonotone_read head.items)) ?_
  intro items
  refine h.bind (h.body ["empty", "endfor"]) ?_
  intro ended
  exact h.bind (h.readEmpty ended.2) fun empty => h.pure _

/-- The branches that are left may be read on different budgets. -/
theorem readBranches (n n' : Nat) (hbudget : reader.budget = reader'.budget → n = n')
    (before : List (Condition × List Node)) (condition : Condition) :
    R Node (readBranches reader n before condition) (readBranches reader' n' before condition) := by
  induction n generalizing n' before condition with
  | zero =>
    cases n' with
    | zero => exact h.failAtTag _
    | succ n' => exact (h.uneven (fun heq => Nat.succ_ne_zero n' (hbudget heq).symm) _).1
  | succ n ih =>
    cases n' with
    | zero => exact (h.uneven (fun heq => Nat.succ_ne_zero n (hbudget heq)) _).2
    | succ n' =>
      refine h.bind (h.body ["elif", "else", "endif"]) ?_
      intro ended
      obtain ⟨body, stop⟩ := ended
      dsimp only
      generalize stop.splitTag = parts
      obtain ⟨name, args⟩ := parts
      by_cases helif : name = "elif"
      · simp only [if_pos helif]
        refine h.bind (h.atTag _ (Condition.isMonotone_read _)) ?_
        intro next
        exact ih n' (fun heq => Nat.succ.inj (hbudget heq)) _ next
      · by_cases helse : name = "else"
        · simp only [if_neg helif, if_pos helse]
          by_cases hbare : args.isEmpty
          · simp only [if_pos hbare]
            exact h.bind (h.body ["endif"]) fun _ => h.pure _
          · simp only [if_neg hbare]
            exact h.failAtTag _
        · simp only [if_neg helif, if_neg helse]
          exact h.pure _

/-- A choice is read in related steps. -/
theorem ifTag (args : String) : R Node (ifTag.read reader args) (ifTag.read reader' args) := by
  refine h.bind (h.atTag _ (Condition.isMonotone_read _)) ?_
  intro condition
  exact h.readBranches _ _ (fun heq => congrArg Nat.succ heq) [] condition

/-- Two readings of a standard tag are related. -/
theorem standardTag {name : String} {tag : Tag} (htag : Entries.get? Tags.all name = some tag)
    (args : String) : R Node (tag.read reader args) (tag.read reader' args) := by
  rcases get?_all_cases htag with ⟨_, rfl⟩ | ⟨_, rfl⟩ | ⟨_, rfl⟩ | ⟨_, rfl⟩ | ⟨_, rfl⟩
  · exact h.withTag args
  · exact h.ifTag args
  · exact h.forTag args
  · exact h.commentTag args
  · exact h.includeTag args

end Reading.Parallel

namespace Catalog

def IsMadeOfStandardTags (catalog : Catalog) : Prop :=
  ∀ name tag, catalog.tag? name = some tag → ∃ standard, Entries.get? Tags.all standard = some tag

theorem HasOnlyStandardTags.isMadeOfStandardTags {catalog : Catalog}
    (h : catalog.HasOnlyStandardTags) : catalog.IsMadeOfStandardTags :=
  fun name tag htag => ⟨name, h name tag htag⟩

/-- The steps that items are read in are related, and the relation passes on to sequences and
to what runs within a tag. The second catalog knows the tags of the first one; what the first
one does with an unknown tag is related to everything. -/
structure Parallel (catalog more : Catalog) (R : (α : Type) → Reading α → Reading α → Prop) :
    Prop where
  bind : ∀ {α β : Type} {m m' : Reading α} {f f' : α → Reading β}, R α m m' →
    (∀ a, R β (f a) (f' a)) → R β (m >>= f) (m' >>= f')
  atTag : ∀ {α : Type} (read : FilterTable → Except SyntaxFault α), IsMonotone read →
    R α (Reading.atTag (read catalog.filter?)) (Reading.atTag (read more.filter?))
  atLine : ∀ {α : Type} (line : Nat) (read : FilterTable → Except SyntaxFault α),
    IsMonotone read →
    R α (Reading.atLine line (read catalog.filter?)) (Reading.atLine line (read more.filter?))
  next : R (Option Token) Reading.next Reading.next
  skipPast : ∀ name : String, R Unit (Reading.skipPast name) (Reading.skipPast name)
  unclosed : ∀ {α : Type} (stops : List String),
    R α (Reading.failUnclosed stops) (Reading.failUnclosed stops)
  inTag : ∀ {α : Type} {m m' : Reading α} (name : String) (line : Nat), R α m m' →
    R α (Reading.inTag name line m) (Reading.inTag name line m')
  tags : ∀ name tag, catalog.tag? name = some tag → more.tag? name = some tag
  unknown : ∀ (name : String) (line : Nat) (stops : List String)
    (m : Reading (List Node × Option Token)),
    R (List Node × Option Token) (failUnknown name line stops) m

namespace Parallel

variable {catalog more : Catalog} {R : (α : Type) → Reading α → Reading α → Prop}
  (h : Catalog.Parallel catalog more R)
include h

theorem pure {α : Type} (a : α) : R α (Pure.pure a) (Pure.pure a) :=
  h.atTag (fun _ => .ok a) (isMonotone_const (.ok a))

theorem failAt {α : Type} (line : Nat) (fault : SyntaxFault) :
    R α (Reading.failAt line fault) (Reading.failAt line fault) :=
  h.atLine line (fun _ => .error fault) (isMonotone_const (.error fault))

theorem readExpression (t : Token) :
    R Node (catalog.readExpression t) (more.readExpression t) := by
  unfold Catalog.readExpression
  split
  · exact h.failAt _ _
  · exact h.bind (h.atLine t.line _ (isMonotone_read t.content)) fun e => h.pure _

/-- The bodies that a tag asks for. -/
theorem reader {budget : Nat}
    (hitems : ∀ stops, R (List Node × Option Token) (catalog.readItems budget stops)
      (more.readItems budget stops)) :
    Reading.Parallel (catalog.reader budget) (more.reader budget) R where
  bind := h.bind
  atTag := h.atTag
  skipPast := h.skipPast
  body stops := by
    refine h.bind (hitems stops) ?_
    intro ended
    obtain ⟨nodes, stop⟩ := ended
    cases stop with
    | some stop => exact h.pure _
    | none => exact h.unclosed stops
  uneven hne := absurd rfl hne

/-- Items are read in related steps within any budget. -/
theorem readItems (hcatalog : catalog.IsMadeOfStandardTags) (budget : Nat)
    (stops : List String) :
    R (List Node × Option Token) (catalog.readItems budget stops)
      (more.readItems budget stops) := by
  induction budget generalizing stops with
  | zero =>
    exact h.atTag (fun _ => .error .endless) (isMonotone_const (.error .endless))
  | succ budget ih =>
    have hlater : ∀ node, R (List Node × Option Token)
        (addNode node (catalog.readItems budget stops))
        (addNode node (more.readItems budget stops)) :=
      fun node => h.bind (ih stops) fun _ => h.pure _
    rw [Catalog.readItems, Catalog.readItems]
    refine h.bind h.next ?_
    intro next
    cases next with
    | none => exact h.pure _
    | some t =>
      dsimp only
      cases t.kind with
      | text => exact hlater _
      | tag kind =>
        cases kind with
        | comment => exact ih stops
        | expression => exact h.bind (h.readExpression t) hlater
        | block =>
          dsimp only
          generalize t.splitTag.1 = name
          by_cases hempty : name.isEmpty
          · rw [if_pos hempty, if_pos hempty]
            exact h.failAt _ _
          · rw [if_neg hempty, if_neg hempty]
            by_cases hstop : name ∈ stops
            · rw [if_pos hstop, if_pos hstop]
              exact h.pure _
            · rw [if_neg hstop, if_neg hstop]
              cases htag : catalog.tag? name with
              | none => exact h.unknown _ _ _ _
              | some tag =>
                rw [h.tags name tag htag]
                obtain ⟨standard, hstandard⟩ := hcatalog name tag htag
                have hread := (h.reader ih).standardTag hstandard t.splitTag.2
                exact h.bind (h.inTag name t.line hread) hlater

end Parallel

end Catalog

end TextTemplate
