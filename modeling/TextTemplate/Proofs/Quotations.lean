import TextTemplate.Source.Quotation

/-!
Marks that stand in quotations. A needle that a text holds only inside of quotations is
passed over by everyone who looks for it outside. Text that shields a separator in this way
and closes its quotations is therefore split off as one piece, whatever follows it.
-/
namespace TextTemplate.Source

/-- Wherever the needle stands in the text, a quotation is open. -/
def QuotedOnly (needle : List Char) (state : Quotation) (cs : List Char) : Prop :=
  ∀ i < cs.length, needle <+: cs.drop i → state.after (cs.take i) ≠ .outside

instance (needle : List Char) (state : Quotation) (cs : List Char) :
    Decidable (QuotedOnly needle state cs) :=
  inferInstanceAs (Decidable (∀ i < cs.length, _))

instance (cs : List Char) : Decidable (closesQuotes cs) :=
  inferInstanceAs (Decidable (_ = _))

variable {needle : List Char} {sep : Char} {state : Quotation}

theorem quotedOnly_nil (needle : List Char) (state : Quotation) : QuotedOnly needle state [] := by
  intro i hi
  simp at hi

theorem quotedOnly_cons {c : Char} {cs : List Char} :
    QuotedOnly needle state (c :: cs) ↔
      (needle <+: c :: cs → state ≠ .outside) ∧ QuotedOnly needle (state.next c) cs :=
  Nat.forall_lt_succ_left

/-- A single character is looked for without regard to what follows it. -/
theorem quotedOnly_singleton_cons {c : Char} {cs : List Char} :
    QuotedOnly [sep] state (c :: cs) ↔
      ¬ (state = .outside ∧ c = sep) ∧ QuotedOnly [sep] (state.next c) cs := by
  have hstarts : [sep] <+: c :: cs ↔ c = sep := by
    rw [List.cons_prefix_cons, eq_comm]
    exact and_iff_left (List.nil_prefix)
  rw [quotedOnly_cons, hstarts, not_and']

/-- A separator quoted in two texts is quoted in the first one followed by the second one. -/
theorem QuotedOnly.append {a b : List Char} (ha : QuotedOnly [sep] state a)
    (hb : QuotedOnly [sep] (state.after a) b) : QuotedOnly [sep] state (a ++ b) := by
  induction a generalizing state with
  | nil => exact hb
  | cons c a ih =>
    obtain ⟨hfirst, hrest⟩ := quotedOnly_singleton_cons.1 ha
    exact quotedOnly_singleton_cons.2 ⟨hfirst, ih hrest hb⟩

theorem quotedOnly_of_notMem {cs : List Char} (h : sep ∉ cs) : QuotedOnly [sep] state cs := by
  induction cs generalizing state with
  | nil => exact quotedOnly_nil _ _
  | cons c cs ih =>
    obtain ⟨hc, hcs⟩ := not_or.1 (mt List.mem_cons.2 h)
    refine quotedOnly_singleton_cons.2 ⟨?_, ih hcs⟩
    rintro ⟨_, rfl⟩
    exact hc rfl

/-- What begins with a quoted needle is quoted. -/
theorem QuotedOnly.of_prefix {longer : List Char} (hlonger : needle <+: longer) {cs : List Char}
    (h : QuotedOnly needle state cs) : QuotedOnly longer state cs :=
  fun i hi hstarts => h i hi (hlonger.trans hstarts)

theorem next_of_not_isQuote {c : Char} (h : Quotation.isQuote c = false) :
    Quotation.outside.next c = .outside := by
  rw [Quotation.next, h, if_neg Bool.false_ne_true]

/-- Text without quotation marks leaves the position outside of quotations. -/
theorem closesQuotes_of_forall {cs : List Char} (h : ∀ c ∈ cs, Quotation.isQuote c = false) :
    closesQuotes cs := by
  induction cs with
  | nil => rfl
  | cons c cs ih =>
    obtain ⟨hc, hcs⟩ := List.forall_mem_cons.1 h
    have hrest : Quotation.outside.after cs = .outside := ih hcs
    unfold closesQuotes Quotation.after
    rw [List.foldl_cons, next_of_not_isQuote hc]
    exact hrest

/-- The text leaves no quotation open and holds the separator within quotations only. -/
structure Shields (sep : Char) (cs : List Char) : Prop where
  quoted : QuotedOnly [sep] .outside cs
  closed : closesQuotes cs

/-- Texts that shield a separator shield it together. -/
theorem Shields.append {a b : List Char} (ha : Shields sep a) (hb : Shields sep b) :
    Shields sep (a ++ b) := by
  obtain ⟨hquoted, hclosed⟩ := ha
  obtain ⟨hquoted', hclosed'⟩ := hb
  unfold closesQuotes at hclosed hclosed'
  refine ⟨hquoted.append (by rwa [hclosed]), ?_⟩
  rw [closesQuotes, Quotation.after_append, hclosed, hclosed']

theorem Shields.flatMap {α : Type} {f : α → List Char} {as : List α}
    (h : ∀ a ∈ as, Shields sep (f a)) : Shields sep (as.flatMap f) := by
  induction as with
  | nil => exact ⟨quotedOnly_nil _ _, rfl⟩
  | cons a as ih =>
    obtain ⟨hfirst, hrest⟩ := List.forall_mem_cons.1 h
    rw [List.flatMap_cons]
    exact hfirst.append (ih hrest)

theorem shields_of_forall {cs : List Char}
    (h : ∀ c ∈ cs, Quotation.isQuote c = false ∧ sep ≠ c) : Shields sep cs := by
  have hsep : sep ∉ cs := fun hmem => (h sep hmem).2 rfl
  exact ⟨quotedOnly_of_notMem hsep, closesQuotes_of_forall fun c hc => (h c hc).1⟩

/-- A text is not split at separators within quotations. -/
theorem splitFrom_of_quotedOnly {cs : List Char} (h : QuotedOnly [sep] state cs) :
    splitFrom sep state cs = (cs, []) := by
  induction cs generalizing state with
  | nil => rfl
  | cons c cs ih =>
    obtain ⟨hfirst, hrest⟩ := quotedOnly_singleton_cons.1 h
    rw [splitFrom, ih hrest]
    exact if_neg hfirst

/-- A shielded piece with closed quotations ends at the separator after it. -/
theorem splitFrom_append {cs : List Char} (hsep : Quotation.isQuote sep = false)
    (h : QuotedOnly [sep] state cs) (hclosed : state.after cs = .outside) (rest : List Char) :
    splitFrom sep state (cs ++ sep :: rest) =
      (cs, (splitUnquoted sep rest).1 :: (splitUnquoted sep rest).2) := by
  induction cs generalizing state with
  | nil =>
    obtain rfl : state = .outside := hclosed
    rw [List.nil_append, splitFrom, next_of_not_isQuote hsep]
    exact if_pos ⟨rfl, rfl⟩
  | cons c cs ih =>
    obtain ⟨hfirst, hrest⟩ := quotedOnly_singleton_cons.1 h
    rw [List.cons_append, splitFrom, ih hrest hclosed]
    exact if_neg hfirst

theorem splitOnceFrom_of_quotedOnly {cs : List Char} (h : QuotedOnly [sep] state cs) :
    splitOnceFrom sep state cs = none := by
  induction cs generalizing state with
  | nil => rfl
  | cons c cs ih =>
    obtain ⟨hfirst, hrest⟩ := quotedOnly_singleton_cons.1 h
    rw [splitOnceFrom, if_neg hfirst, ih hrest, Option.map_none]

theorem splitOnceFrom_append {cs : List Char} (h : QuotedOnly [sep] state cs)
    (hclosed : state.after cs = .outside) (rest : List Char) :
    splitOnceFrom sep state (cs ++ sep :: rest) = some (cs, rest) := by
  induction cs generalizing state with
  | nil =>
    obtain rfl : state = .outside := hclosed
    exact if_pos ⟨rfl, rfl⟩
  | cons c cs ih =>
    obtain ⟨hfirst, hrest⟩ := quotedOnly_singleton_cons.1 h
    rw [List.cons_append, splitOnceFrom, if_neg hfirst, ih hrest hclosed, Option.map_some]

/-- The pieces, with the separators between them, are the text. -/
theorem eq_append_splitFrom (state : Quotation) (cs : List Char) :
    cs = (splitFrom sep state cs).1 ++ (splitFrom sep state cs).2.flatMap (sep :: ·) := by
  induction cs generalizing state with
  | nil => rfl
  | cons c cs ih =>
    have hrest := ih (state.next c)
    rw [splitFrom]
    dsimp only
    split
    · rename_i hsep
      rw [List.nil_append, List.flatMap_cons, List.cons_append, ← hrest, hsep.2]
    · rw [List.cons_append, ← hrest]

/-- What is split once is put together again with the separator. -/
theorem splitOnceFrom_eq_append {cs head tail : List Char}
    (h : splitOnceFrom sep state cs = some (head, tail)) : cs = head ++ sep :: tail := by
  induction cs generalizing state head with
  | nil => simp [splitOnceFrom] at h
  | cons c cs ih =>
    rw [splitOnceFrom] at h
    split at h
    · rename_i hsep
      obtain ⟨rfl, rfl⟩ := Prod.mk.inj (Option.some.inj h)
      rw [hsep.2]
      rfl
    · obtain ⟨⟨head', tail'⟩, hrest, heq⟩ := Option.map_eq_some_iff.1 h
      obtain ⟨rfl, rfl⟩ := Prod.mk.inj heq
      rw [List.cons_append, ← ih hrest]

theorem splitUnquoted_of_shields {cs : List Char} (h : Shields sep cs) :
    splitUnquoted sep cs = (cs, []) :=
  splitFrom_of_quotedOnly h.quoted

theorem splitUnquoted_append (hsep : Quotation.isQuote sep = false) {cs : List Char}
    (h : Shields sep cs) (rest : List Char) :
    splitUnquoted sep (cs ++ sep :: rest) =
      (cs, (splitUnquoted sep rest).1 :: (splitUnquoted sep rest).2) :=
  splitFrom_append hsep h.quoted h.closed rest

theorem splitUnquotedOnce_of_shields {cs : List Char} (h : Shields sep cs) :
    splitUnquotedOnce sep cs = none :=
  splitOnceFrom_of_quotedOnly h.quoted

theorem splitUnquotedOnce_append {cs : List Char} (h : Shields sep cs) (rest : List Char) :
    splitUnquotedOnce sep (cs ++ sep :: rest) = some (cs, rest) :=
  splitOnceFrom_append h.quoted h.closed rest

end TextTemplate.Source
