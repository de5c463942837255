import TextTemplate.Proofs.ConditionWords
import TextTemplate.Tags.Binding

/-!
Reading with more filters. A filter is looked up by its name, and nothing is read because a
name is unknown. What a table of filters suffices to read is therefore read the same with
any table that has the same filters and others besides. This holds of an expression, hence
of every operand of a condition and of everything that a tag reads from its arguments.
-/
namespace TextTemplate

namespace Expression

def FilterTable.Within (filters more : FilterTable) : Prop :=
  ∀ name filter, filters name = some filter → more name = some filter

/-- What can be read with some filters is read the same with more of them. -/
def IsMonotone {α : Type} (read : FilterTable → Except SyntaxFault α) : Prop :=
  ∀ filters more : FilterTable, filters.Within more → ∀ a, read filters = .ok a →
    read more = .ok a

section Rules

variable {α β : Type} {read : FilterTable → Except SyntaxFault α}

theorem isMonotone_const (outcome : Except SyntaxFault α) : IsMonotone fun _ => outcome :=
  fun _ _ _ _ h => h

/-- Two steps of a reading are monotone together if each is. -/
theorem IsMonotone.bind (hread : IsMonotone read) {next : α → FilterTable → Except SyntaxFault β}
    (hnext : ∀ a, IsMonotone (next a)) :
    IsMonotone fun filters => read filters >>= fun a => next a filters := by
  intro filters more hmore b h
  cases hfirst : read filters with
  | error fault =>
    simp only [hfirst] at h
    cases h
  | ok a =>
    simp only [hfirst] at h
    simp only [hread filters more hmore a hfirst]
    exact hnext a filters more hmore b h

theorem IsMonotone.map (hread : IsMonotone read) (f : α → β) :
    IsMonotone fun filters => (read filters).map f := by
  intro filters more hmore b h
  obtain ⟨a, ha, rfl⟩ := Condition.eq_ok_of_map_eq_ok h
  simp only [hread filters more hmore a ha, Except.map]

theorem isMonotone_mapM {read : α → FilterTable → Except SyntaxFault β}
    (hread : ∀ a, IsMonotone (read a)) (as : List α) :
    IsMonotone fun filters => as.mapM fun a => read a filters := by
  induction as with
  | nil => exact isMonotone_const (.ok [])
  | cons a as ih =>
    simp only [List.mapM_cons]
    exact (hread a).bind fun b => ih.bind fun bs => isMonotone_const (.ok (b :: bs))

end Rules

/-- The only place where a filter is looked up. -/
theorem isMonotone_readCall (text part : List Char) :
    IsMonotone fun filters => readCall filters text part := by
  intro filters more hmore call h
  unfold readCall at h ⊢
  dsimp only at h ⊢
  by_cases hname : Text.isName (splitCall part).1
  · rw [if_pos hname] at h ⊢
    cases hfilter : filters (String.ofList (splitCall part).1) with
    | none =>
      rw [hfilter] at h
      cases h
    | some filter =>
      rw [hfilter] at h
      rw [hmore _ filter hfilter]
      exact h
  · rw [if_neg hname] at h
    cases h

theorem isMonotone_read (text : String) : IsMonotone fun filters => read filters text := by
  have hbind : ∀ filters, read filters text =
      readHead (Source.splitUnquoted '|' text.toList).1 >>= fun v =>
        (Source.splitUnquoted '|' text.toList).2.mapM (readCall filters text.toList) >>=
          fun calls => .ok ⟨String.ofList (Text.trim text.toList), v, calls⟩ := by
    intro filters
    unfold read readChars
    dsimp only
    cases readHead (Source.splitUnquoted '|' text.toList).1 with
    | error fault => rfl
    | ok v =>
      cases (Source.splitUnquoted '|' text.toList).2.mapM (readCall filters text.toList) <;> rfl
  simp only [hbind]
  refine (isMonotone_const _).bind ?_
  intro v
  exact (isMonotone_mapM (isMonotone_readCall _) _).bind fun calls => isMonotone_const _

end Expression

open Expression

namespace Condition

variable {filters more : FilterTable}

theorem IsOperand.mono {word : String} {e : Expression} (h : IsOperand filters word e)
    (hmore : filters.Within more) : IsOperand more word e :=
  ⟨h.1, isMonotone_read word filters more hmore e h.2⟩

theorem Test.Spelled.mono {words : List String} {test : Test} (h : test.Spelled filters words)
    (hmore : filters.Within more) : test.Spelled more words := by
  cases h with
  | operand hword => exact .operand (hword.mono hmore)
  | compare op hleft hright => exact .compare op (hleft.mono hmore) (hright.mono hmore)

/-- Words that spell a condition with some filters spell it with more of them. -/
theorem PartsSpelled.mono {words : List String} {parts : Joined (Joined Factor)}
    (h : PartsSpelled filters words parts) (hmore : filters.Within more) :
    PartsSpelled more words parts := by
  refine h.imp ?_
  intro conjunction factors hfactors
  refine hfactors.imp ?_
  intro piece factor hfactor
  obtain ⟨tested, hpiece, htested⟩ := hfactor
  exact ⟨tested, hpiece, htested.mono hmore⟩

/-- A condition is read with the filters that its operands need. -/
theorem isMonotone_read (words : List String) : IsMonotone fun filters => read filters words := by
  intro filters more hmore c h
  obtain ⟨parts, hparts⟩ := partsSpelled_of_read h
  obtain rfl : ofParts parts = c := Except.ok.inj ((read_of_partsSpelled hparts).symm.trans h)
  exact read_of_partsSpelled (hparts.mono hmore)

end Condition

namespace Tags

theorem isMonotone_readBinding (name text : String) :
    IsMonotone fun filters => readBinding filters name text := by
  unfold readBinding
  by_cases hname : isNameText name
  · simp only [if_pos hname]
    exact (isMonotone_read text).map _
  · simp only [if_neg hname]
    exact isMonotone_const _

theorem isMonotone_readAssignments (words : List String) :
    IsMonotone fun filters => readAssignments filters words := by
  induction words with
  | nil => exact isMonotone_const (.ok [])
  | cons word words ih =>
    have hbind : ∀ filters, readAssignments filters (word :: words) =
        readAssignment filters word >>= fun binding =>
          (readAssignments filters words).map fun bindings => binding :: bindings := by
      intro filters
      rw [readAssignments]
      cases readAssignment filters word <;> rfl
    simp only [hbind]
    refine IsMonotone.bind ?_ fun binding => ih.map _
    unfold readAssignment
    split
    · exact isMonotone_const _
    · exact isMonotone_readBinding _ _

/-- Bindings are read the same with more filters. -/
theorem isMonotone_readBindings (words : List String) :
    IsMonotone fun filters => readBindings filters words := by
  unfold readBindings
  split
  · exact isMonotone_const _
  · split
    · exact (isMonotone_readBinding _ _).map _
    · exact isMonotone_readAssignments _
  · exact isMonotone_readAssignments words

end Tags

end TextTemplate
