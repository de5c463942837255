import TextTemplate.Proofs.Nodes

/-!
Which blocks are open. One pass over the tokens keeps the blocks that have been opened and
not yet closed on a stack: a block that the innermost of them awaits continues or closes it,
a block that has a body is put on top, and inside of a comment all else is passed over. The
pass ends with the tokens, or before a block that names the end of something that is not
awaited. The tokens of an item close whatever they open, so the pass leaves the stack as it
was before them.
-/
namespace TextTemplate

/-- A block that has been opened, with the names of the blocks that continue or close it. -/
structure OpenBlock where
  name : String
  line : Nat
  awaits : List String
deriving DecidableEq

namespace OpenBlock

def openers : List (String × List String) :=
  [("with", ["endwith"]), ("if", ["elif", "else", "endif"]), ("for", ["empty", "endfor"]),
    ("comment", ["endcomment"])]

def dividers : List (String × List String) :=
  [("elif", ["elif", "else", "endif"]), ("else", ["endif"]), ("empty", ["endfor"])]

end OpenBlock

def awaited : List OpenBlock → List String
  | [] => []
  | top :: _ => top.awaits

def proceed (name : String) : List OpenBlock → List OpenBlock
  | [] => []
  | top :: stack =>
    match Entries.get? OpenBlock.dividers name with
    | some awaits => { top with awaits := awaits } :: stack
    | none => stack

def discards : List OpenBlock → Bool
  | [] => false
  | top :: _ => top.name == "comment"

/-- The blocks that are open where a pass over the tokens ends, innermost first. -/
def openBlocks : List OpenBlock → List Token → List OpenBlock
  | stack, [] => stack
  | stack, t :: ts =>
    match t.tagName? with
    | none => openBlocks stack ts
    | some name =>
      if name ∈ awaited stack then openBlocks (proceed name stack) ts
      else if discards stack then openBlocks stack ts
      else
        match Entries.get? OpenBlock.openers name with
        | some awaits => openBlocks (⟨name, t.line, awaits⟩ :: stack) ts
        | none => if Catalog.namesEnd name then stack else openBlocks stack ts

section Steps

variable {stack : List OpenBlock} {t : Token} {ts : List Token} {name : String}

theorem openBlocks_of_kind (h : t.kind ≠ .tag .block) :
    openBlocks stack (t :: ts) = openBlocks stack ts := by
  have hname : t.tagName? = none := if_neg h
  simp only [openBlocks, hname]

theorem openBlocks_awaited (h : t.tagName? = some name) (hname : name ∈ awaited stack) :
    openBlocks stack (t :: ts) = openBlocks (proceed name stack) ts := by
  simp only [openBlocks, h, hname, if_true]

theorem openBlocks_divider {top : OpenBlock} {awaits : List String} (h : t.tagName? = some name)
    (hname : name ∈ top.awaits) (hdivider : Entries.get? OpenBlock.dividers name = some awaits) :
    openBlocks (top :: stack) (t :: ts) =
      openBlocks ({ top with awaits := awaits } :: stack) ts := by
  have hawaited : name ∈ awaited (top :: stack) := hname
  rw [openBlocks_awaited h hawaited, proceed, hdivider]

/-- The block that the innermost one awaits, and that starts no other part of it, closes it. -/
theorem openBlocks_closing {top : OpenBlock} (h : t.tagName? = some name)
    (hname : name ∈ top.awaits) (hdivider : Entries.get? OpenBlock.dividers name = none) :
    openBlocks (top :: stack) (t :: ts) = openBlocks stack ts := by
  have hawaited : name ∈ awaited (top :: stack) := hname
  rw [openBlocks_awaited h hawaited, proceed, hdivider]

/-- In a comment nothing matters but its end. -/
theorem openBlocks_discards {inner : List Token} (hstack : discards stack = true)
    (h : ∀ t ∈ inner, ∀ name ∈ t.tagName?, name ∉ awaited stack) :
    openBlocks stack (inner ++ ts) = openBlocks stack ts := by
  induction inner with
  | nil => rfl
  | cons t inner ih =>
    obtain ⟨hfirst, hrest⟩ := List.forall_mem_cons.1 h
    rw [List.cons_append, openBlocks]
    split
    · exact ih hrest
    · rename_i name hname
      rw [if_neg (hfirst name hname), if_pos hstack]
      exact ih hrest

/-- The innermost block is no comment and awaits no block that starts an item. -/
def HoldsItems (stack : List OpenBlock) : Prop :=
  discards stack = false ∧ ∀ name ∈ awaited stack, Entries.get? Item.blockForms name = none

theorem holdsItems_cons {name : String} {line : Nat} {awaits : List String}
    (hname : (name == "comment") = false)
    (hawaits : ∀ other ∈ awaits, Entries.get? Item.blockForms other = none) :
    HoldsItems (⟨name, line, awaits⟩ :: stack) :=
  ⟨hname, hawaits⟩

theorem HoldsItems.not_awaited {form : Item.Form} (h : HoldsItems stack)
    (hform : Entries.get? Item.blockForms name = some form) : name ∉ awaited stack := by
  intro hmem
  rw [h.2 name hmem] at hform
  cases hform

/-- A block with a body is put on the stack. -/
theorem openBlocks_opener {awaits : List String} (hstack : HoldsItems stack)
    (h : t.tagName? = some name) {form : Item.Form}
    (hform : Entries.get? Item.blockForms name = some form)
    (hopener : Entries.get? OpenBlock.openers name = some awaits) :
    openBlocks stack (t :: ts) = openBlocks (⟨name, t.line, awaits⟩ :: stack) ts := by
  have hnot := hstack.not_awaited hform
  simp only [openBlocks, h, hnot, hstack.1, hopener, Bool.false_eq_true, if_false]

/-- A block without a body, whether there is such a tag or not. -/
theorem openBlocks_other (hstack : HoldsItems stack) (h : t.tagName? = some name)
    (hnot : name ∉ awaited stack) (hopener : Entries.get? OpenBlock.openers name = none) :
    openBlocks stack (t :: ts) =
      if Catalog.namesEnd name then stack else openBlocks stack ts := by
  simp only [openBlocks, h, hnot, hstack.1, hopener, Bool.false_eq_true, if_false]

end Steps

namespace Item

variable {filters : Expression.FilterTable}

def Closes (item : Item) : Prop :=
  ∀ stack ts, HoldsItems stack → openBlocks stack (item.tokens ++ ts) = openBlocks stack ts

variable {stack : List OpenBlock}

/-- Items in turn leave the stack as it was if each of them does. -/
theorem openBlocks_allTokens {items : List Item} (hwell : AllWellFormed filters items)
    (h : ∀ item ∈ items, WellFormed filters item → item.Closes) (hstack : HoldsItems stack)
    (ts : List Token) : openBlocks stack (allTokens items ++ ts) = openBlocks stack ts := by
  induction items with
  | nil => rfl
  | cons item items ih =>
    obtain ⟨hfirst, hrest⟩ := hwell
    obtain ⟨hitem, hitems⟩ := List.forall_mem_cons.1 h
    rw [allTokens, List.append_assoc, hitem hfirst stack _ hstack, ih hrest hitems]

theorem openBlocks_branchTokens {others : List (Token × Condition × List Item)}
    (hwell : BranchesWellFormed filters others)
    (h : ∀ branch ∈ others, ∀ item ∈ branch.2.2, WellFormed filters item → item.Closes)
    (line : Nat) (ts : List Token) :
    openBlocks (⟨"if", line, ["elif", "else", "endif"]⟩ :: stack) (branchTokens others ++ ts) =
      openBlocks (⟨"if", line, ["elif", "else", "endif"]⟩ :: stack) ts := by
  induction others with
  | nil => rfl
  | cons branch others ih =>
    obtain ⟨opening, condition, body⟩ := branch
    obtain ⟨⟨hopening, _, hitems⟩, hothers⟩ := hwell
    obtain ⟨hbody, hlater⟩ := List.forall_mem_cons.1 h
    have hstack : HoldsItems (⟨"if", line, ["elif", "else", "endif"]⟩ :: stack) :=
      holdsItems_cons (by decide) (by decide)
    rw [branchTokens, List.cons_append, List.append_assoc,
      openBlocks_divider hopening List.mem_cons_self rfl,
      openBlocks_allTokens hitems hbody hstack, ih hothers hlater]

/-- The last clause of a block, if there is one, and the end of the block. -/
theorem openBlocks_clauseTokens {top : OpenBlock} {name last : String} {awaits : List String}
    {clause : Option (Token × List Item)} {closing : Token}
    (hwell : ClauseWellFormed filters name clause)
    (h : ∀ entry ∈ clause, ∀ item ∈ entry.2, WellFormed filters item → item.Closes)
    (hname : name ∈ top.awaits) (hdivider : Entries.get? OpenBlock.dividers name = some awaits)
    (hstack : HoldsItems ({ top with awaits := awaits } :: stack))
    (hclosing : closing.tagName? = some last) (hlast : last ∈ top.awaits)
    (hlast' : last ∈ awaits) (hend : Entries.get? OpenBlock.dividers last = none)
    (ts : List Token) :
    openBlocks (top :: stack) (clauseTokens clause ++ closing :: ts) = openBlocks stack ts := by
  cases clause with
  | none => exact openBlocks_closing hclosing hlast hend
  | some entry =>
    obtain ⟨opening, body⟩ := entry
    obtain ⟨hopening, hitems⟩ := hwell
    rw [clauseTokens, List.cons_append, openBlocks_divider hopening hname hdivider,
      openBlocks_allTokens hitems (h _ rfl) hstack]
    exact openBlocks_closing hclosing hlast' hend

/-- No well-formed item leaves a block open, by induction on the item. -/
theorem closes (item : Item) (hwell : WellFormed filters item) : item.Closes := by
  induction item with
  | text t =>
    intro stack ts _
    exact openBlocks_of_kind (by simp [show t.kind = .text from hwell])
  | comment t =>
    intro stack ts _
    exact openBlocks_of_kind (by simp [show t.kind = .tag .comment from hwell])
  | expression t e =>
    intro stack ts _
    exact openBlocks_of_kind (by simp [hwell.1])
  | inclusion t name =>
    intro stack ts hstack
    exact openBlocks_other hstack hwell.1 (hstack.not_awaited rfl) rfl
  | binding opening names body closing ih =>
    intro stack ts hstack
    obtain ⟨hopening, _, hbody, hclosing⟩ := hwell
    have hinner : HoldsItems (⟨"with", opening.line, ["endwith"]⟩ :: stack) :=
      holdsItems_cons (by decide) (by decide)
    rw [tokens, List.cons_append, List.append_assoc, openBlocks_opener hstack hopening rfl rfl,
      openBlocks_allTokens hbody ih hinner]
    exact openBlocks_closing hclosing List.mem_cons_self rfl
  | choice opening condition body others otherwise closing ihBody ihOthers ihOtherwise =>
    intro stack ts hstack
    obtain ⟨hopening, _, hbody, hothers, hotherwise, _, hclosing⟩ := hwell
    have hinner : HoldsItems (⟨"if", opening.line, ["elif", "else", "endif"]⟩ :: stack) :=
      holdsItems_cons (by decide) (by decide)
    have hlast : HoldsItems (⟨"if", opening.line, ["endif"]⟩ :: stack) :=
      holdsItems_cons (by decide) (by decide)
    simp only [tokens, List.cons_append, List.append_assoc, List.nil_append]
    rw [openBlocks_opener hstack hopening rfl rfl, openBlocks_allTokens hbody ihBody hinner,
      openBlocks_branchTokens hothers ihOthers]
    exact openBlocks_clauseTokens hotherwise ihOtherwise (by simp) rfl hlast hclosing (by simp)
      (by simp) rfl ts
  | loop opening head items body empty closing ihBody ihEmpty =>
    intro stack ts hstack
    obtain ⟨hopening, _, hbody, hempty, hclosing⟩ := hwell
    have hinner : HoldsItems (⟨"for", opening.line, ["empty", "endfor"]⟩ :: stack) :=
      holdsItems_cons (by decide) (by decide)
    have hlast : HoldsItems (⟨"for", opening.line, ["endfor"]⟩ :: stack) :=
      holdsItems_cons (by decide) (by decide)
    simp only [tokens, List.cons_append, List.append_assoc, List.nil_append]
    rw [openBlocks_opener hstack hopening rfl rfl, openBlocks_allTokens hbody ihBody hinner]
    exact openBlocks_clauseTokens hempty ihEmpty (by simp) rfl hlast hclosing (by simp)
      (by simp) rfl ts
  | skipped opening inner closing =>
    intro stack ts hstack
    obtain ⟨hopening, hinner, hclosing⟩ := hwell
    simp only [tokens, List.cons_append, List.append_assoc, List.nil_append]
    rw [openBlocks_opener hstack hopening rfl rfl, openBlocks_discards rfl ?_]
    · exact openBlocks_closing hclosing List.mem_cons_self rfl
    · intro t ht name hname hmem
      obtain rfl := List.mem_singleton.1 hmem
      exact hinner t ht hname

end Item

end TextTemplate
