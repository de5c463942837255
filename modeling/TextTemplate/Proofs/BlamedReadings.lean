import TextTemplate.Proofs.LocalFaults
import TextTemplate.Proofs.OpenBlocks

/-!
Faults and the state of a pass. While bodies are being read, the tags that the reader holds
open are the blocks that a pass over the tokens has open there. What has been read without a
fault takes the pass from one state to another, so a fault that is blamed on the right block
from the second state on is blamed on the right block from the first one on.
-/
namespace TextTemplate

open Item Tags

def Token.CanFail (t : Token) : Prop := t.kind = .tag .expression ∨ t.kind = .tag .block

/-- One of the open blocks starts on the line, or one of the tokens in which there can be a
fault. -/
def StartsOn (stack : List OpenBlock) (ts : List Token) (line : Nat) : Prop :=
  (∃ block ∈ stack, block.line = line) ∨ ∃ t ∈ ts, t.CanFail ∧ t.line = line

/-- With these blocks open before the tokens, the fault and its line are what they should be. -/
structure Blames (stack : List OpenBlock) (ts : List Token) (line : Nat) (fault : SyntaxFault) :
    Prop where
  starts : StartsOn stack ts line
  bounded : fault ≠ .endless
  opened : ∀ expected, fault ≠ .unexpectedEnd expected
  innermost : ∀ name expected, fault = .unclosed name expected →
    (openBlocks stack ts).head? = some ⟨name, line, expected⟩

/-- A pass over the tokens goes on from the one state to the other, which has no lines of its
own. -/
structure Leads (stack : List OpenBlock) (ts : List Token) (stack' : List OpenBlock)
    (ts' : List Token) : Prop where
  scan : openBlocks stack ts = openBlocks stack' ts'
  lines : ∀ line, StartsOn stack' ts' line → StartsOn stack ts line

section Leads

variable {filters : Expression.FilterTable} {stack stack' stack'' : List OpenBlock}
  {ts ts' ts'' : List Token} {t : Token} {name : String} {line : Nat}

theorem startsOn_token (h : t.CanFail) : StartsOn stack (t :: ts) t.line :=
  Or.inr ⟨t, List.mem_cons_self, h, rfl⟩

theorem startsOn_block (h : t.tagName? = some name) : StartsOn stack (t :: ts) t.line :=
  startsOn_token (Or.inr (Token.tagName?_eq_some_iff.1 h).1)

theorem StartsOn.append (h : StartsOn stack ts line) (before : List Token) :
    StartsOn stack (before ++ ts) line := by
  rcases h with hblock | ⟨t, hmem, ht⟩
  · exact Or.inl hblock
  · exact Or.inr ⟨t, List.mem_append_right before hmem, ht⟩

theorem Leads.trans (h : Leads stack ts stack' ts') (h' : Leads stack' ts' stack'' ts'') :
    Leads stack ts stack'' ts'' :=
  ⟨h.scan.trans h'.scan, fun line hline => h.lines line (h'.lines line hline)⟩

theorem leads_of_kind (h : t.kind ≠ .tag .block) : Leads stack (t :: ts) stack ts :=
  ⟨openBlocks_of_kind h, fun _ hline => hline.append [t]⟩

/-- Complete items are passed over: they open no block that stays open. -/
theorem leads_items {items : List Item} (hitems : AllWellFormed filters items)
    (hstack : HoldsItems stack) : Leads stack (allTokens items ++ ts) stack ts :=
  ⟨openBlocks_allTokens hitems (fun item _ => item.closes) hstack ts,
    fun _ hline => hline.append (allTokens items)⟩

theorem leads_item {item : Item} (hitem : WellFormed filters item) (hstack : HoldsItems stack) :
    Leads stack (item.tokens ++ ts) stack ts :=
  ⟨item.closes hitem stack ts hstack, fun _ hline => hline.append item.tokens⟩

/-- The first block of a tag is open from there on. -/
theorem leads_opener {awaits : List String} (hstack : HoldsItems stack)
    (h : t.tagName? = some name) {form : Form}
    (hform : Entries.get? blockForms name = some form)
    (hopener : Entries.get? OpenBlock.openers name = some awaits) :
    Leads stack (t :: ts) (⟨name, t.line, awaits⟩ :: stack) ts := by
  refine ⟨openBlocks_opener hstack h hform hopener, ?_⟩
  rintro line (⟨block, hmem, hblock⟩ | htoken)
  · rcases List.mem_cons.1 hmem with rfl | hmem
    · exact hblock ▸ startsOn_block h
    · exact Or.inl ⟨block, hmem, hblock⟩
  · exact StartsOn.append (Or.inr htoken) [t]

/-- A divider ends one body of the innermost block and starts the next one. -/
theorem leads_divider {top : OpenBlock} {awaits : List String} (h : t.tagName? = some name)
    (hname : name ∈ top.awaits) (hdivider : Entries.get? OpenBlock.dividers name = some awaits) :
    Leads (top :: stack) (t :: ts) ({ top with awaits := awaits } :: stack) ts := by
  refine ⟨openBlocks_divider h hname hdivider, ?_⟩
  rintro line (⟨block, hmem, hblock⟩ | htoken)
  · rcases List.mem_cons.1 hmem with rfl | hmem
    · exact Or.inl ⟨top, List.mem_cons_self, hblock⟩
    · exact Or.inl ⟨block, List.mem_cons_of_mem top hmem, hblock⟩
  · exact StartsOn.append (Or.inr htoken) [t]

end Leads

def Blaming {α : Type} (stack : List OpenBlock) (ts : List Token) (m : Reading α) (r : Reader) :
    Prop :=
  ∀ e r', m r = (.error e, r') →
    ∃ line fault, e = .tagSyntax line fault ∧ Blames stack ts line fault

section Blaming

variable {α β : Type} {stack stack' : List OpenBlock} {ts ts' : List Token} {r : Reader}

theorem Blaming.of_eq_ok {m : Reading α} {a : α} {r' : Reader} (h : m r = (.ok a, r')) :
    Blaming stack ts m r := by
  intro e r'' herror
  rw [h] at herror
  cases herror

theorem Blaming.congr_run {m m' : Reading α} {r' : Reader} (h : Blaming stack ts m' r')
    (heq : m r = m' r') : Blaming stack ts m r := by
  intro e r'' herror
  exact h e r'' (heq ▸ herror)

/-- Blame found later in a pass over the tokens counts from where the pass began. -/
theorem Blaming.mono {m : Reading α} (h : Blaming stack' ts' m r)
    (hleads : Leads stack ts stack' ts') : Blaming stack ts m r := by
  intro e r' herror
  obtain ⟨line, fault, rfl, hblames⟩ := h e r' herror
  refine ⟨line, fault, rfl, hleads.lines line hblames.starts, hblames.bounded, hblames.opened, ?_⟩
  intro name expected hfault
  rw [hleads.scan]
  exact hblames.innermost name expected hfault

/-- Either the first computation is to blame, or the second one where the first left off. -/
theorem Blaming.bind {m : Reading α} {f : α → Reading β} (hm : Blaming stack ts m r)
    (hf : ∀ a r', m r = (.ok a, r') → Blaming stack ts (f a) r') :
    Blaming stack ts (m >>= f) r := by
  intro e r' herror
  rcases hrun : m r with ⟨outcome, r₁⟩
  cases outcome with
  | error e' =>
    rw [Attempt.bind_of_error hrun] at herror
    obtain rfl := Except.error.inj (Prod.mk.inj herror).1
    exact hm _ r₁ hrun
  | ok a =>
    rw [Attempt.bind_of_ok hrun] at herror
    exact hf a r₁ hrun e r' herror

theorem Blaming.of_run {m : Reading α} {line : Nat} {fault : SyntaxFault}
    (h : (m r).1 = .error (.tagSyntax line fault)) (hblames : Blames stack ts line fault) :
    Blaming stack ts m r := by
  intro e r' herror
  rw [herror] at h
  obtain rfl := Except.error.inj h
  exact ⟨line, fault, rfl, hblames⟩

/-- A fault inside of a token only has to be on the line of one. -/
theorem blames_of_isLocal {line : Nat} {fault : SyntaxFault} (hline : StartsOn stack ts line)
    (hfault : fault.IsLocal) : Blames stack ts line fault := by
  refine ⟨hline, ?_, ?_, ?_⟩
  · rintro rfl
    exact hfault
  · rintro expected rfl
    exact hfault
  · rintro name expected rfl
    exact hfault.elim

theorem Blaming.failAt {line : Nat} {fault : SyntaxFault} (hline : StartsOn stack ts line)
    (hfault : fault.IsLocal) : Blaming stack ts (Reading.failAt line fault : Reading α) r :=
  .of_run rfl (blames_of_isLocal hline hfault)

theorem Blaming.atLine {line : Nat} {outcome : Except SyntaxFault α}
    (hline : StartsOn stack ts line) (houtcome : FailsLocally outcome) :
    Blaming stack ts (Reading.atLine line outcome) r := by
  cases outcome with
  | error fault => exact .failAt hline (houtcome fault rfl)
  | ok a => exact .of_eq_ok rfl

/-- A fault in the arguments of the tag that is being read. -/
theorem Blaming.atTag {name : String} {line : Nat} {tags : List (String × Nat)}
    {outcome : Except SyntaxFault α} (htags : r.openTags = (name, line) :: tags)
    (hline : StartsOn stack ts line) (houtcome : FailsLocally outcome) :
    Blaming stack ts (Reading.atTag outcome) r := by
  cases outcome with
  | error fault =>
    have hrun : (Reading.atTag (.error fault : Except SyntaxFault α) r).1 =
        .error (.tagSyntax line fault) := by
      simp only [Reading.atTag, Reading.failAtTag, Reader.currentLine, htags]
    exact .of_run hrun (blames_of_isLocal hline (houtcome fault rfl))
  | ok a => exact .of_eq_ok rfl

theorem Blaming.failAtTag {name : String} {line : Nat} {tags : List (String × Nat)}
    {fault : SyntaxFault} (htags : r.openTags = (name, line) :: tags)
    (hline : StartsOn stack ts line) (hfault : fault.IsLocal) :
    Blaming stack ts (Reading.failAtTag fault : Reading α) r :=
  .atTag htags hline (failsLocally_error hfault)

theorem Blaming.inTag {name : String} {line : Nat} {m : Reading α}
    (h : Blaming stack ts m { r with openTags := (name, line) :: r.openTags }) :
    Blaming stack ts (Reading.inTag name line m) r := by
  intro e r' herror
  exact h e _ (Prod.ext (Prod.mk.inj herror).1 rfl)

/-- The tag that is being read is the innermost block where the pass ends. -/
theorem blames_unclosed {top : OpenBlock} (hline : StartsOn stack ts top.line)
    (hscan : (openBlocks stack ts).head? = some top) :
    Blames stack ts top.line (.unclosed top.name top.awaits) := by
  refine ⟨hline, by simp, by simp, ?_⟩
  intro name expected hfault
  obtain ⟨rfl, rfl⟩ := SyntaxFault.unclosed.inj hfault
  exact hscan

/-- The error of a missing end names the innermost tag and its line. -/
theorem unclosedError_of_openTags {top : OpenBlock} {tags : List (String × Nat)}
    (htags : r.openTags = (top.name, top.line) :: tags) (expected : List String) :
    r.unclosedError expected = .tagSyntax top.line (.unclosed top.name expected) := by
  rw [Reader.unclosedError, htags]

end Blaming

structure Reader.Inside (r : Reader) (stack : List OpenBlock) : Prop where
  holds : HoldsItems stack
  tags : r.openTags = stack.map fun block => (block.name, block.line)

theorem Reader.Inside.past {r : Reader} {stack : List OpenBlock} (h : r.Inside stack) (t : Token)
    (rest : List Token) : (r.past t rest).Inside stack :=
  ⟨h.holds, h.tags⟩

structure TagReader.Blames (reader : TagReader) : Prop where
  derives : ReadsDerivations reader.filters reader.items
  keeps : ∀ stops r nodes stop r', reader.items stops r = (.ok (nodes, stop), r') →
    r'.openTags = r.openTags
  blaming : ∀ stack r, r.Inside stack → r.tokens.length < reader.budget →
    Blaming stack r.tokens (reader.items (awaited stack)) r

section Bodies

variable {reader : TagReader} {top : OpenBlock} {stack : List OpenBlock} {r r' : Reader}

structure EndsBodyAt (top : OpenBlock) (stack : List OpenBlock) (r : Reader) (stop : Token)
    (name : String) (r' : Reader) : Prop where
  awaited : name ∈ top.awaits
  named : stop.tagName? = some name
  leads : Leads (top :: stack) r.tokens (top :: stack) (stop :: r'.tokens)
  shorter : r'.tokens.length < r.tokens.length
  tags : r'.openTags = r.openTags

/-- A body that was read has led from its start to the block that ends it. -/
theorem TagReader.Blames.body_ends (h : reader.Blames) (hr : r.Inside (top :: stack))
    {nodes : List Node} {stop : Token}
    (hbody : reader.body top.awaits r = (.ok (nodes, stop), r')) :
    ∃ name, EndsBodyAt top stack r stop name r' := by
  obtain ⟨items, name, hitems, _, htokens, hmem, hname⟩ := body_sound h.derives hbody
  refine ⟨name, hmem, hname, ?_, ?_, ?_⟩
  · rw [htokens]
    exact leads_items hitems hr.holds
  · rw [htokens, List.length_append, List.length_cons]
    omega
  · exact h.keeps _ _ _ _ _ (TagReader.body_eq_ok_iff.1 hbody)

/-- A body that does not come to an end leaves its own block open. -/
theorem TagReader.Blames.body_blaming (h : reader.Blames) (hr : r.Inside (top :: stack))
    (hlt : r.tokens.length < reader.budget) :
    Blaming (top :: stack) r.tokens (reader.body top.awaits) r := by
  refine (h.blaming _ r hr hlt).bind ?_
  rintro ⟨nodes, stop⟩ r₁ hread
  cases stop with
  | some stop => exact .of_eq_ok rfl
  | none =>
    obtain ⟨items, hitems, _, htokens, hnone, _⟩ := h.derives _ _ _ _ _ hread
    have htags : r₁.openTags = (top.name, top.line) :: _ := (h.keeps _ _ _ _ _ hread).trans hr.tags
    have hscan : openBlocks (top :: stack) r.tokens = top :: stack := by
      rw [htokens, hnone rfl]
      exact (leads_items hitems hr.holds).scan
    refine .of_run (congrArg Except.error (unclosedError_of_openTags htags _)) ?_
    exact blames_unclosed (Or.inl ⟨top, List.mem_cons_self, rfl⟩) (by rw [hscan]; rfl)

end Bodies

end TextTemplate
