import TextTemplate.Proofs.TextOpeners

/-!
What the body of a tag may hold. A body ends at the first closer of all, and then it holds none,
or at the first one outside of quotations, if no tag opens between the two. So a quotation in a
body may hide closers, but not another tag behind a closer; and without a quotation mark there
is nothing that could hide a closer.
-/
namespace TextTemplate

namespace Source

variable {mark : Char} {cs body after : List Char}

/-- No closer comes before the one that a text is split at. -/
theorem length_le_of_splitAtClose (h : splitAtClose mark cs = some (body, after))
    {before rest : List Char} (hcs : cs = before ++ mark :: '\x7d' :: rest) :
    body.length ≤ before.length := by
  fun_induction splitAtClose mark cs generalizing body before with
  | case1 a b tail hclose =>
    obtain ⟨rfl, _⟩ := Prod.mk.inj (Option.some.inj h)
    exact Nat.zero_le _
  | case2 a b tail hclose ih =>
    obtain ⟨⟨body', after'⟩, hrest, heq⟩ := Option.map_eq_some_iff.1 h
    obtain ⟨rfl, rfl⟩ := Prod.mk.inj heq
    cases before with
    | nil =>
      rw [List.nil_append, List.cons.injEq, List.cons.injEq] at hcs
      exact absurd ⟨hcs.1, hcs.2.1⟩ hclose
    | cons c before =>
      rw [List.cons_append, List.cons.injEq] at hcs
      exact Nat.succ_le_succ (ih hrest hcs.2)
  | case3 => simp at h

/-- It is enough that no tag opens behind the first closer. -/
theorem TagKind.closesLast_iff {kind : TagKind} :
    kind.ClosesLast cs ↔ ∀ first ∈ splitAtClose kind.closeMark cs, HoldsNoOpener first.2 := by
  constructor
  · intro h first hfirst
    refine h first.1 first.2 ?_
    rw [List.append_assoc]
    exact splitAtClose_eq_append hfirst
  · rintro h before rest rfl
    have hcs : before ++ kind.closer ++ rest = before ++ kind.closeMark :: '\x7d' :: rest :=
      List.append_assoc _ _ _
    have hfound : splitAtClose kind.closeMark (before ++ kind.closer ++ rest) ≠ none :=
      splitAtClose_ne_none ⟨before, rest, rfl⟩
    obtain ⟨first, hfirst⟩ := Option.ne_none_iff_exists'.1 hfound
    have hsplit : before ++ kind.closer ++ rest = first.1 ++ kind.closer ++ first.2 := by
      rw [List.append_assoc first.1]
      exact splitAtClose_eq_append hfirst
    have hle := length_le_of_splitAtClose hfirst hcs
    have hlength := congrArg List.length hsplit
    simp only [List.length_append] at hlength
    have hsuffix : first.2 <:+ before ++ kind.closer ++ rest := ⟨_, hsplit.symm⟩
    refine HoldsNoOpener.of_infix (h first hfirst) (List.IsSuffix.isInfix ?_)
    exact List.suffix_of_suffix_length_le (List.suffix_append _ _) hsuffix (by omega)

instance (kind : TagKind) (cs : List Char) : Decidable (kind.ClosesLast cs) :=
  decidable_of_iff (∀ first ∈ splitAtClose kind.closeMark cs, HoldsNoOpener first.2)
    TagKind.closesLast_iff.symm

theorem not_closer_of_splitAtClose (h : splitAtClose mark cs = some (body, after)) :
    ¬ [mark, '\x7d'] <:+: body := by
  rintro ⟨before, between, hbody⟩
  have hcs : cs = before ++ mark :: '\x7d' :: (between ++ mark :: '\x7d' :: after) := by
    rw [splitAtClose_eq_append h, ← hbody]
    simp
  have hle := length_le_of_splitAtClose h hcs
  have hlength := congrArg List.length hbody
  simp only [List.length_append, List.length_cons, List.length_nil] at hlength
  omega

/-- Before the closer outside of quotations there are only quoted ones. -/
theorem quotedOnly_of_splitAtUnquotedClose {state : Quotation}
    (h : splitAtUnquotedClose mark state cs = some (body, after)) :
    QuotedOnly [mark, '\x7d'] state body := by
  fun_induction splitAtUnquotedClose mark state cs generalizing body with
  | case1 state a b tail hclose =>
    obtain ⟨rfl, _⟩ := Prod.mk.inj (Option.some.inj h)
    exact quotedOnly_nil _ _
  | case2 state a b tail hclose ih =>
    obtain ⟨⟨body', after'⟩, hrest, heq⟩ := Option.map_eq_some_iff.1 h
    obtain ⟨rfl, rfl⟩ := Prod.mk.inj heq
    refine quotedOnly_cons.2 ⟨?_, ih hrest⟩
    rintro ⟨more, hstarts⟩ houtside
    -- A brace at the start of the rest of the body is the character after the mark.
    obtain ⟨rfl, rfl⟩ := List.cons.inj hstarts
    obtain ⟨rfl, _⟩ := List.cons.inj (splitAtUnquotedClose_eq_append hrest)
    exact hclose ⟨houtside, rfl, rfl⟩
  | case3 => simp at h

theorem hasOpener_of_occurs {kind : TagKind} (h : ['\x7b', kind.openMark] <:+: cs) :
    hasOpener cs = true := by
  fun_induction hasOpener cs with
  | case1 a b tail ih =>
    rcases List.infix_cons_iff.1 h with hstarts | hlater
    · obtain ⟨rfl, hrest⟩ := List.cons_prefix_cons.1 hstarts
      obtain ⟨rfl, _⟩ := List.cons_prefix_cons.1 hrest
      rw [TagKind.ofOpenMark_openMark]
      rfl
    · rw [ih hlater, Bool.or_true]
  | case2 cs hshort =>
    obtain ⟨before, rest, rfl⟩ := h
    cases before with
    | nil => exact absurd rfl (hshort '\x7b' kind.openMark rest)
    | cons c before => cases before <;> exact absurd rfl (hshort _ _ _)

theorem holdsNoOpener_of_hasOpener (h : hasOpener cs = false) : HoldsNoOpener cs := by
  rw [holdsNoOpener_iff]
  intro kind hoccurs
  rw [hasOpener_of_occurs hoccurs] at h
  exact absurd h (by decide)

theorem quotedOnly_of_not_occurs {needle : List Char} {state : Quotation}
    (h : ¬ needle <:+: body) : QuotedOnly needle state body := by
  intro i _ hstarts
  exact absurd (hstarts.isInfix.trans (List.drop_suffix i body).isInfix) h

/-- What is quoted only stands nowhere in a text without quotation marks. -/
theorem not_occurs_of_quotedOnly {needle : List Char} (hneedle : needle ≠ [])
    (h : QuotedOnly needle .outside body) (hquote : ∀ c ∈ body, Quotation.isQuote c = false) :
    ¬ needle <:+: body := by
  rintro ⟨before, rest, rfl⟩
  have hlength : before.length < (before ++ needle ++ rest).length := by
    have hpos := List.length_pos_iff.2 hneedle
    simp only [List.length_append]
    omega
  have hstarts : needle <+: (before ++ needle ++ rest).drop before.length := by
    rw [List.append_assoc, List.drop_left]
    exact List.prefix_append _ _
  have hquoted := h before.length hlength hstarts
  rw [List.append_assoc, List.take_left] at hquoted
  refine hquoted (closesQuotes_of_forall ?_)
  intro c hc
  exact hquote c (List.mem_append_left _ (List.mem_append_left _ hc))

theorem TagKind.closesLast_of_not_occurs {kind : TagKind} (h : ¬ kind.closer <:+: body) :
    kind.ClosesLast body := by
  rintro before rest rfl
  exact absurd ⟨before, rest, rfl⟩ h

/-- The closer outside of quotations is believed if no tag opens before it and behind the first
closer. -/
theorem holdsNoOpener_of_believed {first unquoted : List Char × List Char}
    (hfirst : splitAtClose mark cs = some first)
    (hunquoted : splitAtUnquotedClose mark .outside cs = some unquoted)
    (hbelieved : hasOpener (unquoted.1.drop first.1.length) = false)
    {before rest : List Char} (hbody : unquoted.1 = before ++ [mark, '\x7d'] ++ rest) :
    HoldsNoOpener rest := by
  have hcs : cs = before ++ mark :: '\x7d' :: (rest ++ mark :: '\x7d' :: unquoted.2) := by
    rw [splitAtUnquotedClose_eq_append hunquoted, hbody]
    simp
  have hle := length_le_of_splitAtClose hfirst hcs
  have hopener := holdsNoOpener_of_hasOpener hbelieved
  refine hopener.of_infix (List.IsSuffix.isInfix ?_)
  rw [hbody, List.append_assoc, List.drop_append_of_le_length hle]
  exact (List.suffix_append _ _).trans (List.suffix_append _ _)

variable {kind : TagKind}

theorem splitAtTagClose_body (h : splitAtTagClose kind.closeMark cs = some (body, after)) :
    QuotedOnly kind.closer .outside body ∧ kind.ClosesLast body := by
  have hplain : splitAtClose kind.closeMark cs = some (body, after) →
      QuotedOnly kind.closer .outside body ∧ kind.ClosesLast body := by
    intro hfirst
    have hnone : ¬ kind.closer <:+: body := not_closer_of_splitAtClose hfirst
    exact ⟨quotedOnly_of_not_occurs hnone, TagKind.closesLast_of_not_occurs hnone⟩
  unfold splitAtTagClose at h
  split at h
  · simp at h
  · rename_i first hfirst
    split at h
    · exact hplain (hfirst.trans h)
    · rename_i unquoted hunquoted
      split at h
      · exact hplain (hfirst.trans h)
      · rename_i hbelieved
        obtain rfl := Option.some.inj h
        refine ⟨quotedOnly_of_splitAtUnquotedClose hunquoted, ?_⟩
        intro before rest hbody
        exact holdsNoOpener_of_believed hfirst hunquoted (Bool.eq_false_iff.2 hbelieved) hbody

/-- In the body of an expression or a block closers are quoted, and no tag opens behind one. -/
theorem splitBody_body (h : kind.splitBody cs = some (body, after)) (hkind : kind ≠ .comment) :
    QuotedOnly kind.closer .outside body ∧ kind.ClosesLast body := by
  cases kind with
  | comment => exact absurd rfl hkind
  | expression => exact splitAtTagClose_body h
  | block => exact splitAtTagClose_body h

theorem mem_addText_tag {more : List Char} {spans : List Span}
    (h : .tag kind body ∈ addText more spans) : .tag kind body ∈ spans := by
  unfold addText at h
  split at h
  · rcases List.mem_cons.1 h with heq | hmem
    · simp at heq
    · exact List.mem_cons_of_mem _ hmem
  · rcases List.mem_cons.1 h with heq | hmem
    · simp at heq
    · exact hmem

theorem mem_addLineBreak_tag {nl : List Char} {spans : List Span}
    (h : .tag kind body ∈ addLineBreak nl spans) : .tag kind body ∈ spans := by
  unfold addLineBreak at h
  split at h
  · exact h
  · rcases List.mem_cons.1 h with heq | hmem
    · simp at heq
    · exact hmem

/-- Every tag of a text was split off at its closer. -/
theorem splitBody_of_mem_spans {trimBlocks : Bool} (h : .tag kind body ∈ spans trimBlocks cs) :
    ∃ text after, kind.splitBody text = some (body, after) := by
  fun_induction spans trimBlocks cs with
  | case1 => simp at h
  | case2 => simp at h
  | case3 c d rest hopen ih => exact ih (mem_addText_tag h)
  | case4 c d rest kind' hopen hbody ih => exact ih (mem_addText_tag h)
  | case5 c d rest kind' hopen body' after hbody ih =>
    rcases List.mem_cons.1 h with heq | hmem
    · obtain ⟨rfl, rfl⟩ := Span.tag.inj heq
      exact ⟨rest, after, hbody⟩
    · exact ih (mem_addLineBreak_tag hmem)

end Source

namespace Token

open Source

/-- The tokens are those of the spans. In the body of an expression or a block no tag opens
behind a closer of its own kind, and without quotation marks there is no such closer. -/
theorem scan_bodies (trimBlocks : Bool) (source : String) :
    scan trimBlocks source = ofSpansAfter [] (spans trimBlocks source.toList) ∧
      ∀ kind body, .tag kind body ∈ spans trimBlocks source.toList → kind ≠ .comment →
        kind.ClosesLast body ∧
          ((∀ c ∈ body, Quotation.isQuote c = false) → ¬ kind.closer <:+: body) := by
  refine ⟨ofSpans_eq_ofSpansAfter [] _, ?_⟩
  intro kind body hmem hkind
  obtain ⟨text, after, hbody⟩ := splitBody_of_mem_spans hmem
  obtain ⟨hquoted, hlast⟩ := splitBody_body hbody hkind
  exact ⟨hlast, not_occurs_of_quotedOnly (List.cons_ne_nil _ _) hquoted⟩

/-- The first apostrophe does not reach across the second tag, and the closer in the last one
is quoted. -/
theorem scan_bodies_apostrophes :
    let source := "\x7b\x7b don't \x7d\x7d\x7b\x7b it's \x7d\x7d\x7b\x7b x|cut:'\x7d\x7d' \x7d\x7d"
    let body := " x|cut:'\x7d\x7d' ".toList
    spans false source.toList = [.tag .expression " don't ".toList,
      .tag .expression " it's ".toList, .tag .expression body] ∧
      TagKind.closer .expression <:+: body ∧ TagKind.ClosesLast .expression body := by
  intro source body
  have hspans : spans false source.toList = [.tag .expression " don't ".toList,
      .tag .expression " it's ".toList, .tag .expression body] := by
    decide +kernel
  have hmem : .tag .expression body ∈ spans false source.toList := by
    rw [hspans]
    exact List.mem_cons_of_mem _ (List.mem_cons_of_mem _ List.mem_cons_self)
  exact ⟨hspans, by decide, ((scan_bodies false source).2 _ _ hmem (by decide)).1⟩

end Token

end TextTemplate
