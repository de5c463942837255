import TextTemplate.Proofs.Derivations
import TextTemplate.Proofs.ParallelReadings
import TextTemplate.Proofs.Tables

/-!
Catalogs with more names. A name that a body waits for is not looked up, and a name that is
looked up in vain makes a reading fail. So a template that can be read does not show whether
a catalog has further names, even if these are names of blocks that continue or close
standard tags: with a larger catalog each step of the reading is the same.
-/
namespace TextTemplate

open Expression

/-- Where the first computation succeeds, the second one does the same. -/
def Attempt.Within {σ α : Type} (m m' : Attempt σ α) : Prop :=
  ∀ s a s', m s = (.ok a, s') → m' s = (.ok a, s')

namespace Attempt

variable {σ α β : Type}

theorem Within.refl (m : Attempt σ α) : m.Within m := fun _ _ _ h => h

/-- A success of two computations in turn is a success of each. -/
theorem Within.bind {m m' : Attempt σ α} {f f' : α → Attempt σ β} (hm : m.Within m')
    (hf : ∀ a, (f a).Within (f' a)) : (m >>= f).Within (m' >>= f') := by
  intro s b s' h
  obtain ⟨a, s₁, hfirst, hnext⟩ := bind_eq_ok_iff.1 h
  exact bind_eq_ok_iff.2 ⟨a, s₁, hm s a s₁ hfirst, hf a s₁ b s' hnext⟩

end Attempt

open Attempt

namespace Reading

theorem atTag_within {α : Type} {outcome outcome' : Except SyntaxFault α}
    (h : ∀ a, outcome = .ok a → outcome' = .ok a) : (atTag outcome).Within (atTag outcome') := by
  intro r a r' hread
  obtain ⟨hok, hr⟩ := atTag_eq_ok_iff.1 hread
  exact atTag_eq_ok_iff.2 ⟨h a hok, hr⟩

theorem atLine_within {α : Type} {outcome outcome' : Except SyntaxFault α} (line : Nat)
    (h : ∀ a, outcome = .ok a → outcome' = .ok a) :
    (atLine line outcome).Within (atLine line outcome') := by
  intro r a r' hread
  obtain ⟨hok, hr⟩ := atLine_eq_ok_iff.1 hread
  exact atLine_eq_ok_iff.2 ⟨h a hok, hr⟩

theorem inTag_within {α : Type} {m m' : Reading α} (h : m.Within m') (name : String)
    (line : Nat) : (inTag name line m).Within (inTag name line m') := by
  intro r a r' hread
  obtain ⟨after, hinner, hr⟩ := inTag_eq_ok_iff.1 hread
  exact inTag_eq_ok_iff.2 ⟨after, h _ a after hinner, hr⟩

end Reading

namespace Catalog

structure Within (catalog more : Catalog) : Prop where
  tags : ∀ name tag, catalog.tag? name = some tag → more.tag? name = some tag
  filters : FilterTable.Within catalog.filter? more.filter?

variable {catalog more : Catalog}

/-- A library of new names makes a catalog larger. -/
theorem within_register {library : Library}
    (htags : ∀ entry ∈ library.tags, catalog.tag? entry.1 = none)
    (hfilters : ∀ entry ∈ library.filters, catalog.filter? entry.1 = none) :
    catalog.Within (catalog.register library) := by
  constructor
  · intro name tag htag
    refine (Entries.get?_setAll_of_forall_ne ?_ _).trans htag
    rintro entry hmem rfl
    exact Option.some_ne_none tag (htag.symm.trans (htags entry hmem))
  · intro name filter hfilter
    refine (Entries.get?_setAll_of_forall_ne ?_ _).trans hfilter
    rintro entry hmem rfl
    exact Option.some_ne_none filter (hfilter.symm.trans (hfilters entry hmem))

/-- With a larger catalog, each step of a reading that succeeds is the same. -/
theorem Within.parallel (hmore : catalog.Within more) :
    Catalog.Parallel catalog more fun _ m m' => m.Within m' where
  bind hm hf := hm.bind hf
  atTag _ hread := Reading.atTag_within (hread _ _ hmore.filters)
  atLine line _ hread := Reading.atLine_within line (hread _ _ hmore.filters)
  next := .refl _
  skipPast _ := .refl _
  unclosed _ := .refl _
  inTag name line hm := Reading.inTag_within hm name line
  tags := hmore.tags
  unknown _ _ _ _ := fun _ _ _ hread => absurd hread failUnknown_ne_ok

/-- A template that can be read with standard tags is read to the same nodes with any catalog
that has the same names and others besides. -/
theorem compile_of_within (hcatalog : catalog.IsMadeOfStandardTags) (hmore : catalog.Within more)
    {trim : Bool} {source : String} {nodes : List Node}
    (h : catalog.compile trim source = .ok nodes) : more.compile trim source = .ok nodes := by
  obtain ⟨stop, r', hread⟩ := compile_eq_ok_iff_readItems.1 h
  exact compile_eq_ok_iff_readItems.2 ⟨stop, r', hmore.parallel.readItems hcatalog _ _ _ _ _ hread⟩

/-- The names of the blocks that divide and close a choice may be names of tags as well. -/
theorem compile_of_within_markers :
    let more := Engine.withDefaults.catalog.register
      { tags := [("else", Tags.includeTag), ("endif", Tags.commentTag)] }
    let source := "{% if x %}a{% else %}b{% endif %}"
    let nodes := [Node.choice
      [(.operand { source := "x", head := .path ["x"], calls := [] }, [.text "a"])]
      (some [.text "b"])]
    Engine.withDefaults.catalog.IsMadeOfStandardTags ∧ Engine.withDefaults.catalog.Within more ∧
      Engine.withDefaults.catalog.compile false source = .ok nodes ∧
      more.compile false source = .ok nodes := by
  intro more source nodes
  have hcatalog : Engine.withDefaults.catalog.IsMadeOfStandardTags :=
    Engine.withDefaults_hasStandardTags.only.isMadeOfStandardTags
  have hnew : ∀ name ∈ ["else", "endif"], Engine.withDefaults.catalog.tag? name = none := by
    intro name hmem
    rw [Engine.withDefaults_hasStandardTags name]
    rcases List.mem_pair.1 hmem with rfl | rfl <;> rfl
  have hmore : Engine.withDefaults.catalog.Within more :=
    within_register (by simpa using hnew) (List.forall_mem_nil _)
  have hcompile : Engine.withDefaults.catalog.compile false source = .ok nodes := by
    have htokens : Token.scan false source = [⟨.tag .block, "if x", 1⟩, ⟨.text, "a", 1⟩,
        ⟨.tag .block, "else", 1⟩, ⟨.text, "b", 1⟩, ⟨.tag .block, "endif", 1⟩] := by
      decide +kernel
    rw [Catalog.compile, htokens]
    with_unfolding_all rfl
  exact ⟨hcatalog, hmore, hcompile, compile_of_within hcatalog hmore hcompile⟩

end Catalog

end TextTemplate
