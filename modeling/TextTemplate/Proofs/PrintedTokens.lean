import Mathlib.Data.List.Chain
import Mathlib.Data.List.Infix
import TextTemplate.Proofs.Quotations
import TextTemplate.Proofs.SpanLayout

/-!
Scanning undoes printing. Tokens are printed with the delimiters of their kind and one space
on either side of a tag's content. If no text holds or begins a tag, and no tag holds an
opener or, outside of quotations, its own closer, then the closer found first is the printed
one whatever is printed after it, so that scanning gives the tokens back.
-/
namespace TextTemplate

namespace Source

open Text

def HoldsNoOpener (cs : List Char) : Prop :=
  ¬ ['\x7b', '\x7b'] <:+: cs ∧ ¬ ['\x7b', '%'] <:+: cs ∧ ¬ ['\x7b', '#'] <:+: cs

instance (cs : List Char) : Decidable (HoldsNoOpener cs) :=
  inferInstanceAs (Decidable (_ ∧ _ ∧ _))

def TagKind.closer (kind : TagKind) : List Char := [kind.closeMark, '\x7d']

/-- A tag of the kind with this content ends at its own closer and nowhere before. -/
def TagKind.Delimits : TagKind → List Char → Prop
  | .comment, cs => ¬ TagKind.comment.closer <:+: cs
  | kind, cs => HoldsNoOpener cs ∧ closesQuotes cs ∧ QuotedOnly kind.closer .outside cs

instance (kind : TagKind) (cs : List Char) : Decidable (kind.Delimits cs) :=
  match kind with
  | .comment => inferInstanceAs (Decidable (¬ _))
  | .expression => inferInstanceAs (Decidable (_ ∧ _ ∧ _))
  | .block => inferInstanceAs (Decidable (_ ∧ _ ∧ _))

def TagKind.ClosesLast (kind : TagKind) (cs : List Char) : Prop :=
  ∀ before after, cs = before ++ kind.closer ++ after → HoldsNoOpener after

theorem holdsNoOpener_iff {cs : List Char} :
    HoldsNoOpener cs ↔ ∀ kind : TagKind, ¬ ['\x7b', kind.openMark] <:+: cs := by
  constructor
  · rintro ⟨hexpression, hblock, hcomment⟩ kind
    cases kind with
    | expression => exact hexpression
    | block => exact hblock
    | comment => exact hcomment
  · intro h
    exact ⟨h .expression, h .block, h .comment⟩

theorem HoldsNoOpener.of_infix {cs part : List Char} (h : HoldsNoOpener cs)
    (hpart : part <:+: cs) : HoldsNoOpener part := by
  rw [holdsNoOpener_iff] at h ⊢
  intro kind hoccurs
  exact h kind (hoccurs.trans hpart)

/-- Where no tag opens, what comes after a brace is no opening mark. -/
theorem HoldsNoOpener.ofOpenMark_eq_none {d : Char} {cs : List Char}
    (h : HoldsNoOpener ('\x7b' :: d :: cs)) : TagKind.ofOpenMark d = none := by
  cases hmark : TagKind.ofOpenMark d with
  | none => rfl
  | some kind =>
    obtain rfl := ofOpenMark_eq_some hmark
    exact absurd ⟨[], cs, rfl⟩ (holdsNoOpener_iff.1 h kind)

theorem HoldsNoOpener.hasOpener_eq_false {cs : List Char} (h : HoldsNoOpener cs) :
    hasOpener cs = false := by
  fun_induction hasOpener cs with
  | case1 a b rest ih =>
    have hrest : HoldsNoOpener (b :: rest) := h.of_infix (List.infix_cons (List.infix_refl _))
    rw [ih hrest, Bool.or_false]
    by_cases ha : a = '\x7b'
    · subst ha
      rw [h.ofOpenMark_eq_none]
      rfl
    · rw [beq_eq_false_iff_ne.2 ha, Bool.false_and]
  | case2 => rfl

variable {mark : Char}

theorem splitAtClose_cons {c : Char} {cs : List Char} (h : ¬ [mark, '\x7d'] <+: c :: cs) :
    splitAtClose mark (c :: cs) =
      (splitAtClose mark cs).map fun (body, after) => (c :: body, after) := by
  cases cs with
  | nil => rfl
  | cons d cs =>
    have hclose : ¬ (c = mark ∧ d = '\x7d') := by
      rintro ⟨rfl, rfl⟩
      exact h ⟨cs, rfl⟩
    rw [splitAtClose, if_neg hclose]

theorem splitAtUnquotedClose_cons {state : Quotation} {c : Char} {cs : List Char}
    (h : [mark, '\x7d'] <+: c :: cs → state ≠ .outside) :
    splitAtUnquotedClose mark state (c :: cs) =
      (splitAtUnquotedClose mark (state.next c) cs).map
        fun (body, after) => (c :: body, after) := by
  cases cs with
  | nil => rfl
  | cons d cs =>
    have hclose : ¬ (state = .outside ∧ c = mark ∧ d = '\x7d') := by
      rintro ⟨houtside, rfl, rfl⟩
      exact h ⟨cs, rfl⟩ houtside
    rw [splitAtUnquotedClose, if_neg hclose]

/-- A closer does not reach into the space after a text. -/
theorem closer_of_spaced (hmark : ' ' ≠ mark) (cs : List Char) {rest : List Char}
    (h : [mark, '\x7d'] <+: cs ++ ' ' :: rest) : [mark, '\x7d'] <+: cs := by
  match cs with
  | [] =>
    have hspace : mark = ' ' := (List.cons_prefix_cons.1 h).1
    exact absurd hspace.symm hmark
  | [c] =>
    have hspace := (List.cons_prefix_cons.1 (List.cons_prefix_cons.1 h).2).1
    exact absurd hspace (by decide)
  | c :: d :: cs =>
    obtain ⟨rfl, hrest⟩ := List.cons_prefix_cons.1 h
    obtain ⟨rfl, _⟩ := List.cons_prefix_cons.1 hrest
    exact ⟨cs, rfl⟩

/-- The first closer is the one after the space, if there is none before it. -/
theorem splitAtClose_spaced (hmark : ' ' ≠ mark) {cs : List Char}
    (h : ¬ [mark, '\x7d'] <:+: cs) (rest : List Char) :
    splitAtClose mark (cs ++ ' ' :: mark :: '\x7d' :: rest) = some (cs ++ [' '], rest) := by
  induction cs with
  | nil =>
    have hspace : ¬ [mark, '\x7d'] <+: ' ' :: mark :: '\x7d' :: rest :=
      fun hstarts => hmark (List.cons_prefix_cons.1 hstarts).1.symm
    rw [List.nil_append, splitAtClose_cons hspace, splitAtClose, if_pos ⟨rfl, rfl⟩]
    rfl
  | cons c cs ih =>
    have hrest := ih fun hoccurs => h (List.infix_cons hoccurs)
    have hfirst : ¬ [mark, '\x7d'] <+: c :: (cs ++ ' ' :: mark :: '\x7d' :: rest) :=
      fun hstarts => h (closer_of_spaced hmark (c :: cs) hstarts).isInfix
    rw [List.cons_append, splitAtClose_cons hfirst, hrest, Option.map_some]
    rfl

/-- Outside of quotations, the first closer is the one after the space, if those before it
are quoted and all quotations are closed. -/
theorem splitAtUnquotedClose_spaced (hmark : ' ' ≠ mark) {state : Quotation} {cs : List Char}
    (h : QuotedOnly [mark, '\x7d'] state cs) (hclosed : state.after cs = .outside)
    (rest : List Char) :
    splitAtUnquotedClose mark state (cs ++ ' ' :: mark :: '\x7d' :: rest) =
      some (cs ++ [' '], rest) := by
  induction cs generalizing state with
  | nil =>
    obtain rfl : state = .outside := hclosed
    have hspace : [mark, '\x7d'] <+: ' ' :: mark :: '\x7d' :: rest →
        Quotation.outside ≠ .outside :=
      fun hstarts => absurd (List.cons_prefix_cons.1 hstarts).1.symm hmark
    have hnext : Quotation.outside.next ' ' = .outside := rfl
    rw [List.nil_append, splitAtUnquotedClose_cons hspace, hnext, splitAtUnquotedClose,
      if_pos ⟨rfl, rfl, rfl⟩]
    rfl
  | cons c cs ih =>
    obtain ⟨hfirst, hlater⟩ := quotedOnly_cons.1 h
    have hrest := ih hlater hclosed
    have hquoted : [mark, '\x7d'] <+: c :: (cs ++ ' ' :: mark :: '\x7d' :: rest) →
        state ≠ .outside :=
      fun hstarts => hfirst (closer_of_spaced hmark (c :: cs) hstarts)
    rw [List.cons_append, splitAtUnquotedClose_cons hquoted, hrest, Option.map_some]
    rfl

/-- Two characters other than a space stand in a text with spaces around it only if they
stand in the text. -/
theorem infix_of_spaced {a b : Char} (ha : a ≠ ' ') (hb : b ≠ ' ') {cs : List Char}
    (h : [a, b] <:+: ' ' :: cs ++ [' ']) : [a, b] <:+: cs := by
  have hleft : [a, b] <:+: ' ' :: cs := by
    rcases List.infix_concat_iff.1 h with hend | hinside
    · rcases List.suffix_concat_iff.1 hend with hnil | ⟨before, heq, _⟩
      · simp at hnil
      · have hlast := congrArg List.getLast? heq
        rw [List.getLast?_concat] at hlast
        exact absurd (Option.some.inj hlast) hb
    · exact hinside
  rcases List.infix_cons_iff.1 hleft with hstarts | hinside
  · exact absurd (List.cons_prefix_cons.1 hstarts).1 ha
  · exact hinside

theorem HoldsNoOpener.spaced {cs : List Char} (h : HoldsNoOpener cs) :
    HoldsNoOpener (' ' :: cs ++ [' ']) := by
  rw [holdsNoOpener_iff] at h ⊢
  intro kind hoccurs
  have hmark : kind.openMark ≠ ' ' := by cases kind <;> decide
  exact h kind (infix_of_spaced (by decide) hmark hoccurs)

theorem splitAtClose_ne_none {cs : List Char} (h : [mark, '\x7d'] <:+: cs) :
    splitAtClose mark cs ≠ none := by
  fun_induction splitAtClose mark cs with
  | case1 => simp
  | case2 a b rest hclose ih =>
    rcases List.infix_cons_iff.1 h with hstarts | hlater
    · obtain ⟨rfl, hrest⟩ := List.cons_prefix_cons.1 hstarts
      obtain ⟨rfl, _⟩ := List.cons_prefix_cons.1 hrest
      exact absurd ⟨rfl, rfl⟩ hclose
    · rw [Ne, Option.map_eq_none_iff]
      exact ih hlater
  | case3 cs hshort =>
    obtain ⟨before, after, rfl⟩ := h
    cases before with
    | nil => exact absurd rfl (hshort mark '\x7d' after)
    | cons c before => cases before <;> exact absurd rfl (hshort _ _ _)

/-- A closer that is found is found whatever follows. -/
theorem splitAtClose_append {cs body after : List Char}
    (h : splitAtClose mark cs = some (body, after)) (more : List Char) :
    splitAtClose mark (cs ++ more) = some (body, after ++ more) := by
  fun_induction splitAtClose mark cs generalizing body with
  | case1 a b rest hclose =>
    obtain ⟨rfl, rfl⟩ := Prod.mk.inj (Option.some.inj h)
    exact if_pos hclose
  | case2 a b rest hclose ih =>
    obtain ⟨⟨body', after'⟩, hrest, heq⟩ := Option.map_eq_some_iff.1 h
    obtain ⟨rfl, rfl⟩ := Prod.mk.inj heq
    have hmore := ih hrest
    rw [List.cons_append] at hmore
    rw [List.cons_append, List.cons_append, splitAtClose, if_neg hclose, hmore, Option.map_some]
  | case3 => simp at h

theorem not_closer_cons_space (hmark : ' ' ≠ mark) {cs : List Char}
    (h : ¬ [mark, '\x7d'] <:+: cs) : ¬ [mark, '\x7d'] <:+: ' ' :: cs := by
  intro hoccurs
  rcases List.infix_cons_iff.1 hoccurs with hstarts | hinside
  · exact hmark (List.cons_prefix_cons.1 hstarts).1.symm
  · exact h hinside

theorem HoldsNoOpener.closesLast {cs : List Char} (h : HoldsNoOpener cs) (kind : TagKind) :
    kind.ClosesLast cs := by
  rintro before after rfl
  exact h.of_infix (List.suffix_append _ _).isInfix

theorem HoldsNoOpener.cons_of_ne {c : Char} {cs : List Char} (h : HoldsNoOpener cs)
    (hc : c ≠ '\x7b') : HoldsNoOpener (c :: cs) := by
  rw [holdsNoOpener_iff] at h ⊢
  intro kind hoccurs
  rcases List.infix_cons_iff.1 hoccurs with hstarts | hinside
  · exact hc (List.cons_prefix_cons.1 hstarts).1.symm
  · exact h kind hinside

/-- Neither a closer before a text nor a space after it begins a tag. -/
theorem HoldsNoOpener.behind_closer {cs : List Char} (h : HoldsNoOpener cs) (kind : TagKind) :
    HoldsNoOpener (kind.closeMark :: '\x7d' :: (cs ++ [' '])) := by
  have hmark : kind.closeMark ≠ '\x7b' := by cases kind <;> decide
  have hspaced := h.spaced.of_infix (List.suffix_cons ' ' (cs ++ [' '])).isInfix
  exact (hspaced.cons_of_ne (by decide)).cons_of_ne hmark

/-- With closed quotations the quotation is believed, since no tag opens behind a closer. -/
theorem splitAtTagClose_spaced {kind : TagKind} {cs : List Char} (hlast : kind.ClosesLast cs)
    (hclosed : closesQuotes cs) (hquoted : QuotedOnly kind.closer .outside cs)
    (rest : List Char) :
    splitAtTagClose kind.closeMark (' ' :: cs ++ ' ' :: kind.closeMark :: '\x7d' :: rest) =
      some (' ' :: cs ++ [' '], rest) := by
  have hmark : ' ' ≠ kind.closeMark := by cases kind <;> decide
  have hspace : kind.closer <+: ' ' :: cs → Quotation.outside ≠ .outside :=
    fun hstarts => absurd (List.cons_prefix_cons.1 hstarts).1.symm hmark
  have hunquoted := splitAtUnquotedClose_spaced hmark (quotedOnly_cons.2 ⟨hspace, hquoted⟩)
    hclosed rest
  cases hcloser : splitAtClose kind.closeMark cs with
  | none =>
    have hnone : ¬ kind.closer <:+: cs := fun hoccurs => splitAtClose_ne_none hoccurs hcloser
    have hfirst := splitAtClose_spaced hmark (not_closer_cons_space hmark hnone) rest
    rw [splitAtTagClose, hfirst, hunquoted]
    dsimp only
    rw [List.drop_length]
    rfl
  | some found =>
    obtain ⟨body, after⟩ := found
    have hfirst := splitAtClose_append hcloser (' ' :: kind.closeMark :: '\x7d' :: rest)
    have hstart : ¬ kind.closer <+: ' ' :: (cs ++ ' ' :: kind.closeMark :: '\x7d' :: rest) :=
      fun hstarts => hmark (List.cons_prefix_cons.1 hstarts).1.symm
    have hcs := splitAtClose_eq_append hcloser
    have hafter : HoldsNoOpener after := hlast body after (by rw [hcs]; simp [TagKind.closer])
    have hopener := hafter.behind_closer kind
    rw [splitAtTagClose, List.cons_append, splitAtClose_cons hstart, hfirst, Option.map_some,
      ← List.cons_append, hunquoted]
    have hdrop : (' ' :: cs ++ [' ']).drop (' ' :: body).length =
        kind.closeMark :: '\x7d' :: (after ++ [' ']) := by
      rw [List.cons_append, List.length_cons, List.drop_succ_cons, hcs, List.append_assoc,
        List.drop_left]
      rfl
    dsimp only
    rw [hdrop, hopener.hasOpener_eq_false]
    rfl

/-- Printed content is split off at the closer that is printed behind it. -/
theorem splitBody_spaced {kind : TagKind} {cs : List Char} (h : kind.Delimits cs)
    (rest : List Char) :
    kind.splitBody (' ' :: cs ++ ' ' :: kind.closeMark :: '\x7d' :: rest) =
      some (' ' :: cs ++ [' '], rest) := by
  cases kind with
  | comment => exact splitAtClose_spaced (by decide) (not_closer_cons_space (by decide) h) rest
  | expression =>
    obtain ⟨hopener, hclosed, hquoted⟩ := h
    exact splitAtTagClose_spaced (hopener.closesLast .expression) hclosed hquoted rest
  | block =>
    obtain ⟨hopener, hclosed, hquoted⟩ := h
    exact splitAtTagClose_spaced (hopener.closesLast .block) hclosed hquoted rest

theorem addText_addText (a b : List Char) (spans : List Span) :
    addText a (addText b spans) = addText (a ++ b) spans := by
  cases spans with
  | nil => rfl
  | cons span spans =>
    cases span with
    | text cs => simp only [addText, List.append_assoc]
    | tag kind body => rfl
    | lineBreak cs => rfl

/-- Text that neither holds an opener nor ends within one is passed over. -/
theorem spans_text_append {cs : List Char} (hne : cs ≠ []) (hopener : HoldsNoOpener cs)
    (hlast : cs.getLast? ≠ some '\x7b') (rest : List Char) :
    spans false (cs ++ rest) = addText cs (spans false rest) := by
  induction cs with
  | nil => exact absurd rfl hne
  | cons c cs ih =>
    cases cs with
    | nil =>
      have hc : c ≠ '\x7b' := by simpa using hlast
      cases rest with
      | nil => simp [spans, addText]
      | cons d rest => rw [List.cons_append, List.nil_append, spans, if_neg hc]
    | cons d cs =>
      have hmark : (if c = '\x7b' then TagKind.ofOpenMark d else none) = none := by
        split
        · rename_i hc
          subst hc
          exact hopener.ofOpenMark_eq_none
        · rfl
      have hrest : HoldsNoOpener (d :: cs) :=
        hopener.of_infix (List.infix_cons (List.infix_refl _))
      have hspans := ih (List.cons_ne_nil d cs) hrest (by simpa using hlast)
      rw [List.cons_append] at hspans
      rw [List.cons_append, List.cons_append, spans, hmark]
      dsimp only
      rw [hspans, addText_addText]
      rfl

/-- A tag is a span of its own if its body ends at its closer. -/
theorem spans_tag_append {kind : TagKind} {body rest : List Char}
    (hbody : kind.splitBody (body ++ kind.closeMark :: '\x7d' :: rest) = some (body, rest)) :
    spans false ((Span.tag kind body).written ++ rest) = .tag kind body :: spans false rest := by
  have hwritten : (Span.tag kind body).written ++ rest =
      '\x7b' :: kind.openMark :: (body ++ kind.closeMark :: '\x7d' :: rest) := by
    simp [Span.written]
  rw [hwritten, spans, if_pos rfl, TagKind.ofOpenMark_openMark]
  dsimp only
  split
  · rename_i hnone
    rw [hbody] at hnone
    simp at hnone
  · rename_i body' after hsome
    rw [hbody] at hsome
    obtain ⟨rfl, rfl⟩ := Prod.mk.inj (Option.some.inj hsome)
    rfl

end Source

namespace Token

open Source Text

def printed (t : Token) : List Char :=
  match t.kind with
  | .text => t.content.toList
  | .tag kind =>
    ['\x7b', kind.openMark, ' '] ++ t.content.toList ++ [' ', kind.closeMark, '\x7d']

def printedAll (tokens : List Token) : List Char := tokens.flatMap printed

/-- Text is not empty and neither holds an opener nor ends in the first half of one; the
content of a tag is trimmed and holds nothing that ends the tag too early. -/
def IsPrintable (t : Token) : Prop :=
  match t.kind with
  | .text =>
    t.content.toList ≠ [] ∧ HoldsNoOpener t.content.toList ∧
      t.content.toList.getLast? ≠ some '\x7b'
  | .tag kind => trim t.content.toList = t.content.toList ∧ kind.Delimits t.content.toList

instance (t : Token) : Decidable t.IsPrintable :=
  match t with
  | ⟨.text, _, _⟩ => inferInstanceAs (Decidable (_ ∧ _ ∧ _))
  | ⟨.tag _, _, _⟩ => inferInstanceAs (Decidable (_ ∧ _))

def SeparatesText (tokens : List Token) : Prop :=
  tokens.IsChain fun t next => ¬ (t.kind = .text ∧ next.kind = .text)

instance (tokens : List Token) : Decidable (SeparatesText tokens) :=
  inferInstanceAs (Decidable (List.IsChain _ tokens))

/-- The tokens, each with the line on which it starts when all are printed after some text. -/
def onPrintedLines (before : List Char) : List Token → List Token
  | [] => []
  | t :: rest =>
    { t with line := 1 + newlines before } :: onPrintedLines (before ++ t.printed) rest

def printedSpan (t : Token) : Span :=
  match t.kind with
  | .text => .text t.content.toList
  | .tag kind => .tag kind (' ' :: t.content.toList ++ [' '])

theorem printedSpan_of_text {t : Token} (h : t.kind = .text) :
    t.printedSpan = .text t.content.toList := by
  rw [printedSpan, h]

theorem printedSpan_of_tag {t : Token} {kind : TagKind} (h : t.kind = .tag kind) :
    t.printedSpan = .tag kind (' ' :: t.content.toList ++ [' ']) := by
  rw [printedSpan, h]

theorem IsPrintable.of_text {t : Token} (ht : t.IsPrintable) (h : t.kind = .text) :
    t.content.toList ≠ [] ∧ HoldsNoOpener t.content.toList ∧
      t.content.toList.getLast? ≠ some '\x7b' := by
  rwa [IsPrintable, h] at ht

theorem IsPrintable.of_tag {t : Token} (ht : t.IsPrintable) {kind : TagKind}
    (h : t.kind = .tag kind) :
    trim t.content.toList = t.content.toList ∧ kind.Delimits t.content.toList := by
  rwa [IsPrintable, h] at ht

theorem written_printedSpan (t : Token) : t.printedSpan.written = t.printed := by
  unfold printedSpan printed
  cases t.kind with
  | text => rfl
  | tag kind => simp [Span.written]

/-- Text before a tag, or at the end, stays a span of its own. -/
theorem addText_printedSpans {t : Token} {rest : List Token} (ht : t.kind = .text)
    (hseparate : SeparatesText (t :: rest)) :
    addText t.content.toList (rest.map printedSpan) =
      .text t.content.toList :: rest.map printedSpan := by
  cases rest with
  | nil => rfl
  | cons next rest =>
    have hnext := (List.isChain_cons_cons.1 hseparate).1
    cases hkind : next.kind with
    | text => exact absurd ⟨ht, hkind⟩ hnext
    | tag kind =>
      rw [List.map_cons, printedSpan_of_tag hkind]
      rfl

/-- The spans of printed tokens are found one for each token. -/
theorem spans_printedAll {tokens : List Token} (hprintable : ∀ t ∈ tokens, t.IsPrintable)
    (hseparate : SeparatesText tokens) :
    spans false (printedAll tokens) = tokens.map printedSpan := by
  induction tokens with
  | nil => simp [printedAll, spans]
  | cons t rest ih =>
    obtain ⟨ht, hrest⟩ := List.forall_mem_cons.1 hprintable
    have hspans := ih hrest hseparate.tail
    have hprinted : printedAll (t :: rest) = t.printedSpan.written ++ printedAll rest := by
      rw [written_printedSpan]
      rfl
    rw [hprinted, List.map_cons]
    cases hkind : t.kind with
    | text =>
      obtain ⟨hne, hopener, hlast⟩ := ht.of_text hkind
      rw [printedSpan_of_text hkind, Span.written, spans_text_append hne hopener hlast, hspans]
      exact addText_printedSpans hkind hseparate
    | tag kind =>
      have hbody := splitBody_spaced (ht.of_tag hkind).2 (printedAll rest)
      rw [List.append_cons] at hbody
      rw [printedSpan_of_tag hkind, spans_tag_append hbody, hspans]

/-- Each span gives its token back, without the spaces and with the line that the text
printed before leads to. -/
theorem ofSpansAfter_printedSpans {tokens : List Token}
    (hprintable : ∀ t ∈ tokens, t.IsPrintable) (before : List Char) :
    ofSpansAfter before (tokens.map printedSpan) = onPrintedLines before tokens := by
  induction tokens generalizing before with
  | nil => rfl
  | cons t rest ih =>
    obtain ⟨ht, hrest⟩ := List.forall_mem_cons.1 hprintable
    have htoken : ofSpan? (1 + newlines before) t.printedSpan =
        some { t with line := 1 + newlines before } := by
      cases hkind : t.kind with
      | text =>
        rw [printedSpan_of_text hkind, ofSpan?, String.ofList_toList]
      | tag kind =>
        have hspace : ∀ c ∈ [' '], isSpace c = true := List.forall_mem_singleton.2 (by decide)
        have htrim := trim_padded hspace hspace t.content.toList
        rw [(ht.of_tag hkind).1, List.singleton_append] at htrim
        rw [printedSpan_of_tag hkind, ofSpan?, htrim, String.ofList_toList]
    rw [List.map_cons, ofSpansAfter, htoken, written_printedSpan, ih hrest]
    rfl

/-- Printable tokens, printed one after the other and scanned, come back with their kinds and
contents, each on the line where it was printed. -/
theorem scan_printedAll {tokens : List Token} (hprintable : ∀ t ∈ tokens, t.IsPrintable)
    (hseparate : SeparatesText tokens) :
    scan false (String.ofList (printedAll tokens)) = onPrintedLines [] tokens := by
  have hspans := spans_printedAll hprintable hseparate
  have htokens := ofSpansAfter_printedSpans hprintable []
  rw [scan, String.toList_ofList, hspans, ← htokens]
  exact ofSpans_eq_ofSpansAfter [] _

/-- Closers within quotations, one with a protected mark in it, and an empty comment. -/
theorem scan_printedAll_quoted :
    let tokens : List Token :=
      [⟨.text, "a\n\x7d", 0⟩, ⟨.tag .expression, "x|default:'\\'\x7d\x7d'", 0⟩,
        ⟨.tag .block, "if s ==\n\"%\x7d\"", 0⟩, ⟨.text, "\x7db", 0⟩, ⟨.tag .comment, "", 0⟩]
    (∀ t ∈ tokens, t.IsPrintable) ∧ SeparatesText tokens ∧
      scan false (String.ofList (printedAll tokens)) =
        [⟨.text, "a\n\x7d", 1⟩, ⟨.tag .expression, "x|default:'\\'\x7d\x7d'", 2⟩,
          ⟨.tag .block, "if s ==\n\"%\x7d\"", 2⟩, ⟨.text, "\x7db", 3⟩, ⟨.tag .comment, "", 3⟩] := by
  intro tokens
  have hprintable : ∀ t ∈ tokens, t.IsPrintable := by decide
  have hseparate : SeparatesText tokens := by decide
  exact ⟨hprintable, hseparate, scan_printedAll hprintable hseparate⟩

end Token

end TextTemplate
