import TextTemplate.Proofs.QuotedWords

/-!
Words put together again. A text consists of its words and of spaces around them. Every space
within a word is quoted, and every word but the last closes its quotations, so that the space
behind it is one that divides. A text that is set out in this way is split into these words, and
every text is set out in this way; what there is to say about the words of a text follows by
induction on how it is set out.
-/
namespace TextTemplate.Source

open Text

def withoutSpaces (state : Quotation) : List Char → List Char
  | [] => []
  | c :: cs =>
    if state = .outside ∧ isSpace c = true then withoutSpaces (state.next c) cs
    else c :: withoutSpaces (state.next c) cs

structure IsWord (word : List Char) : Prop where
  nonempty : word ≠ []
  quoted : QuotesSpaces .outside word

/-- The text consists of the words, with spaces before, between and behind them. The last word
may leave a quotation open if nothing follows it. -/
inductive SetOut : List (List Char) → List Char → Prop where
  | blank {spaces : List Char} (hspaces : ∀ c ∈ spaces, isSpace c = true) : SetOut [] spaces
  | last {before word : List Char} (hbefore : ∀ c ∈ before, isSpace c = true)
      (hword : IsWord word) : SetOut [word] (before ++ word)
  | word {before word : List Char} {sep : Char} {words : List (List Char)} {text : List Char}
      (hbefore : ∀ c ∈ before, isSpace c = true) (hword : IsWord word)
      (hclosed : closesQuotes word) (hsep : isSpace sep = true) (hlater : SetOut words text) :
      SetOut (word :: words) (before ++ (word ++ sep :: text))

section

variable {state : Quotation} {words : List (List Char)} {text : List Char}

theorem splitWords_spaces {spaces : List Char} (h : ∀ c ∈ spaces, isSpace c = true)
    (text : List Char) : splitWords (spaces ++ text) = splitWords text := by
  induction spaces with
  | nil => rfl
  | cons c spaces ih =>
    obtain ⟨hc, hspaces⟩ := List.forall_mem_cons.1 h
    have hnothing : closesQuotes [] := rfl
    have hfirst : splitWords (c :: (spaces ++ text)) = splitWords (spaces ++ text) :=
      splitWords_append hc hnothing _
    exact hfirst.trans (ih hspaces)

/-- The splitter finds the words of a text that is set out in them. -/
theorem SetOut.splitWords_eq (h : SetOut words text) : splitWords text = words := by
  induction h with
  | @blank spaces hspaces =>
    have hnothing := splitWords_spaces hspaces []
    rw [List.append_nil] at hnothing
    exact hnothing
  | last hbefore hword =>
    rw [splitWords_spaces hbefore]
    exact splitWords_of_quotesSpaces hword.nonempty hword.quoted
  | word hbefore hword hclosed hsep hlater ih =>
    rw [splitWords_spaces hbefore, splitWords_append hsep hclosed, ih,
      splitWords_of_quotesSpaces hword.nonempty hword.quoted]
    rfl

theorem SetOut.cons_space (h : SetOut words text) {c : Char} (hc : isSpace c = true) :
    SetOut words (c :: text) := by
  cases h with
  | blank hspaces => exact .blank (List.forall_mem_cons.2 ⟨hc, hspaces⟩)
  | last hbefore hword => exact .last (List.forall_mem_cons.2 ⟨hc, hbefore⟩) hword
  | word hbefore hword hclosed hsep hlater =>
    exact .word (List.forall_mem_cons.2 ⟨hc, hbefore⟩) hword hclosed hsep hlater

/-- Either all spaces are quoted, or there is a first one that is not. -/
theorem quotesSpaces_or_exists_space (state : Quotation) (cs : List Char) :
    QuotesSpaces state cs ∨ ∃ word sep rest, cs = word ++ sep :: rest ∧
      QuotesSpaces state word ∧ state.after word = .outside ∧ isSpace sep = true := by
  have hnothing : ∀ state, QuotesSpaces state [] := fun _ _ hi => absurd hi (Nat.not_lt_zero _)
  induction cs generalizing state with
  | nil => exact Or.inl (hnothing state)
  | cons c cs ih =>
    by_cases hdivides : isSpace c = true ∧ state = .outside
    · obtain ⟨hspace, hstate⟩ := hdivides
      exact Or.inr ⟨[], c, cs, rfl, hnothing state, hstate, hspace⟩
    · have hfirst : isSpace c = true → state ≠ .outside :=
        fun hspace hstate => hdivides ⟨hspace, hstate⟩
      rcases ih (state.next c) with hall | ⟨word, sep, rest, rfl, hword, hafter, hsep⟩
      · exact Or.inl (quotesSpaces_cons.2 ⟨hfirst, hall⟩)
      · exact Or.inr ⟨c :: word, sep, rest, rfl, quotesSpaces_cons.2 ⟨hfirst, hword⟩, hafter, hsep⟩

/-- Every text is set out in words, by induction on the text. -/
theorem exists_setOut (text : List Char) : ∃ words, SetOut words text := by
  induction hlength : text.length using Nat.strongRecOn generalizing text with
  | ind n ih =>
    rcases quotesSpaces_or_exists_space .outside text with
      hall | ⟨word, sep, rest, rfl, hword, hclosed, hsep⟩
    · by_cases hempty : text = []
      · subst hempty
        exact ⟨[], .blank (List.forall_mem_nil _)⟩
      · exact ⟨[text], .last (List.forall_mem_nil _) ⟨hempty, hall⟩⟩
    · -- The first space that divides may be the first character of all.
      have hshorter : rest.length < n := by
        rw [List.length_append, List.length_cons] at hlength
        omega
      obtain ⟨words, hlater⟩ := ih rest.length hshorter rest rfl
      by_cases hempty : word = []
      · subst hempty
        exact ⟨words, hlater.cons_space hsep⟩
      · exact ⟨word :: words,
          .word (List.forall_mem_nil _) ⟨hempty, hword⟩ hclosed hsep hlater⟩

/-- A text is set out in the words that the splitter finds. -/
theorem setOut_splitWords (text : List Char) : SetOut (splitWords text) text := by
  obtain ⟨words, hwords⟩ := exists_setOut text
  rwa [hwords.splitWords_eq]

theorem SetOut.isWord (h : SetOut words text) : ∀ word ∈ words, IsWord word := by
  induction h with
  | blank hspaces => exact List.forall_mem_nil _
  | last hbefore hword => exact List.forall_mem_singleton.2 hword
  | word hbefore hword hclosed hsep hlater ih => exact List.forall_mem_cons.2 ⟨hword, ih⟩

theorem SetOut.closesQuotes (h : SetOut words text) :
    ∀ word ∈ words.dropLast, closesQuotes word := by
  induction h with
  | blank hspaces => exact List.forall_mem_nil _
  | last hbefore hword => exact List.forall_mem_nil _
  | @word before word sep words text hbefore hword hclosed hsep hlater ih =>
    cases words with
    | nil => exact List.forall_mem_nil _
    | cons next words =>
      rw [List.dropLast_cons_cons]
      exact List.forall_mem_cons.2 ⟨hclosed, ih⟩

theorem withoutSpaces_append (a b : List Char) :
    withoutSpaces state (a ++ b) = withoutSpaces state a ++ withoutSpaces (state.after a) b := by
  induction a generalizing state with
  | nil => rfl
  | cons c a ih =>
    have hafter : state.after (c :: a) = (state.next c).after a := rfl
    rw [List.cons_append, withoutSpaces, withoutSpaces, ih, hafter]
    split
    · rfl
    · rw [List.cons_append]

theorem withoutSpaces_of_quotesSpaces {cs : List Char} (h : QuotesSpaces state cs) :
    withoutSpaces state cs = cs := by
  induction cs generalizing state with
  | nil => rfl
  | cons c cs ih =>
    obtain ⟨hfirst, hrest⟩ := quotesSpaces_cons.1 h
    have hkept : ¬ (state = .outside ∧ isSpace c = true) := fun hends => hfirst hends.2 hends.1
    rw [withoutSpaces, if_neg hkept, ih hrest]

theorem withoutSpaces_spaces {spaces : List Char} (h : ∀ c ∈ spaces, isSpace c = true)
    (text : List Char) :
    withoutSpaces .outside (spaces ++ text) = withoutSpaces .outside text := by
  induction spaces with
  | nil => rfl
  | cons c spaces ih =>
    obtain ⟨hc, hspaces⟩ := List.forall_mem_cons.1 h
    rw [List.cons_append, withoutSpaces, if_pos ⟨rfl, hc⟩,
      next_of_not_isQuote (not_isQuote_of_isSpace hc), ih hspaces]

/-- The words, put together, are the text without its spaces. -/
theorem SetOut.flatten_eq (h : SetOut words text) :
    words.flatten = withoutSpaces .outside text := by
  induction h with
  | @blank spaces hspaces =>
    have hnothing := withoutSpaces_spaces hspaces []
    rw [List.append_nil] at hnothing
    exact hnothing.symm
  | last hbefore hword =>
    rw [withoutSpaces_spaces hbefore, withoutSpaces_of_quotesSpaces hword.quoted]
    exact List.append_nil _
  | @word before word sep words text hbefore hword hclosed hsep hlater ih =>
    have hdivider := withoutSpaces_spaces (List.forall_mem_singleton.2 hsep) text
    rw [List.singleton_append] at hdivider
    rw [withoutSpaces_spaces hbefore, withoutSpaces_append, hclosed, hdivider, ← ih,
      withoutSpaces_of_quotesSpaces hword.quoted, List.flatten_cons]

/-- The same words are set out when single spaces stand between them. -/
theorem SetOut.intercalate (h : SetOut words text) :
    SetOut words ([' '].intercalate words) := by
  induction h with
  | blank hspaces => exact .blank (List.forall_mem_nil _)
  | @last before word hbefore hword =>
    rw [List.intercalate_singleton]
    exact .last (List.forall_mem_nil _) hword
  | @word before word sep words text hbefore hword hclosed hsep hlater ih =>
    cases words with
    | nil =>
      rw [List.intercalate_singleton]
      exact .last (List.forall_mem_nil _) hword
    | cons next words =>
      rw [List.intercalate_cons_cons, List.append_assoc, List.singleton_append]
      exact .word (List.forall_mem_nil _) hword hclosed rfl ih

/-- Each word comes with the spaces behind it, which only the last one may lack. -/
theorem setOut_of_pieces {before : List Char} {pieces : List (String × String)}
    (hbefore : ∀ c ∈ before, isSpace c = true)
    (hwords : ∀ piece ∈ pieces, IsWord piece.1.toList ∧ Source.closesQuotes piece.1.toList)
    (hspaces : ∀ piece ∈ pieces, ∀ c ∈ piece.2.toList, isSpace c = true)
    (hdivided : ∀ piece ∈ pieces.dropLast, piece.2 ≠ "") :
    SetOut (pieces.map (·.1.toList))
      (before ++ pieces.flatMap fun piece => piece.1.toList ++ piece.2.toList) := by
  induction pieces generalizing before with
  | nil => exact .blank (by simpa using hbefore)
  | cons piece pieces ih =>
    obtain ⟨word, spaces⟩ := piece
    obtain ⟨⟨hword, hclosed⟩, hothers⟩ := List.forall_mem_cons.1 hwords
    obtain ⟨hafter, hbetween⟩ := List.forall_mem_cons.1 hspaces
    rw [List.map_cons, List.flatMap_cons, List.append_assoc]
    cases pieces with
    | nil =>
      cases hsep : spaces.toList with
      | nil =>
        rw [List.flatMap_nil, List.append_nil, List.append_nil]
        exact .last hbefore hword
      | cons sep more =>
        rw [hsep] at hafter
        obtain ⟨hspace, hmore⟩ := List.forall_mem_cons.1 hafter
        rw [List.flatMap_nil, List.append_nil]
        exact .word hbefore hword hclosed hspace (.blank hmore)
    | cons next pieces =>
      rw [List.dropLast_cons_cons] at hdivided
      obtain ⟨hfirst, hlater⟩ := List.forall_mem_cons.1 hdivided
      obtain ⟨sep, more, hsep⟩ :=
        List.exists_cons_of_ne_nil fun hempty => hfirst (String.toList_eq_nil_iff.1 hempty)
      rw [hsep] at hafter
      obtain ⟨hspace, hmore⟩ := List.forall_mem_cons.1 hafter
      rw [hsep]
      exact .word hbefore hword hclosed hspace (ih hmore hothers hbetween hlater)

end

theorem map_toList_words (text : String) :
    (words text).map String.toList = splitWords text.toList := by
  rw [words, List.map_map]
  exact List.map_id'' (fun _ => String.toList_ofList) _

/-- A text is split into the words that it is set out in. -/
theorem words_eq_of_setOut {found : List String} {text : String}
    (h : SetOut (found.map String.toList) text.toList) : words text = found := by
  rw [words, h.splitWords_eq, List.map_map]
  exact List.map_id'' (fun _ => String.ofList_toList) _

/-- The words of a text are not empty, their spaces are quoted, all but the last close their
quotations, and one after the other they are the text without its spaces outside of quotations.
With a space between each two of them they are split into the same words; and so are any words
that close their quotations, with any spaces between, before and behind them. -/
theorem words_divided :
    (∀ text : String,
      (∀ word ∈ words text, word ≠ "" ∧ QuotesSpaces .outside word.toList) ∧
      (∀ word ∈ (words text).dropLast, closesQuotes word.toList) ∧
      (String.join (words text)).toList = withoutSpaces .outside text.toList ∧
      words (String.intercalate " " (words text)) = words text) ∧
    ∀ (before : String) (pieces : List (String × String)),
      (∀ c ∈ before.toList, isSpace c = true) →
      (∀ piece ∈ pieces, piece.1 ≠ "" ∧ QuotesSpaces .outside piece.1.toList ∧
        closesQuotes piece.1.toList) →
      (∀ piece ∈ pieces, ∀ c ∈ piece.2.toList, isSpace c = true) →
      (∀ piece ∈ pieces.dropLast, piece.2 ≠ "") →
      words (before ++ String.join (pieces.map fun piece => piece.1 ++ piece.2)) =
        pieces.map (·.1) := by
  refine ⟨?_, ?_⟩
  · intro text
    have hset := setOut_splitWords text.toList
    rw [← map_toList_words] at hset
    refine ⟨?_, ?_, ?_, ?_⟩
    · intro word hword
      obtain ⟨hnonempty, hquoted⟩ := hset.isWord _ (List.mem_map_of_mem hword)
      exact ⟨fun hempty => hnonempty (String.toList_eq_nil_iff.2 hempty), hquoted⟩
    · intro word hword
      refine hset.closesQuotes _ ?_
      rw [← List.map_dropLast]
      exact List.mem_map_of_mem hword
    · rw [← hset.flatten_eq, String.toList_join, List.flatMap_def]
    · refine words_eq_of_setOut ?_
      rw [String.toList_intercalate]
      exact hset.intercalate
  · intro before pieces hbefore hwords hspaces hdivided
    have hpieces : ∀ piece ∈ pieces, IsWord piece.1.toList ∧ closesQuotes piece.1.toList := by
      intro piece hmem
      obtain ⟨hnonempty, hquoted, hclosed⟩ := hwords piece hmem
      exact ⟨⟨fun hempty => hnonempty (String.toList_eq_nil_iff.1 hempty), hquoted⟩, hclosed⟩
    have hset := setOut_of_pieces hbefore hpieces hspaces hdivided
    refine words_eq_of_setOut ?_
    rw [List.map_map, String.toList_append, String.toList_join, List.flatMap_map]
    simp only [String.toList_append]
    exact hset

/-- The first text ends in a quotation that is never closed. In the words that are put together,
quotations hide spaces, the other mark and, behind a backslash, their own mark. -/
theorem words_divided_quoted :
    words "a  d='b \" c'  don't stop" = ["a", "d='b \" c'", "don't stop"] ∧
      words "a d='b \" c' don't stop" = ["a", "d='b \" c'", "don't stop"] ∧
      words "\n d='a \" b'\"\\\" \" \t'it\\'s  '" = ["d='a \" b'\"\\\" \"", "'it\\'s  '"] := by
  have hfirst : words "a  d='b \" c'  don't stop" = ["a", "d='b \" c'", "don't stop"] := by decide
  obtain ⟨_, _, _, hagain⟩ := words_divided.1 "a  d='b \" c'  don't stop"
  rw [hfirst] at hagain
  have hbefore : ∀ c ∈ "\n ".toList, isSpace c = true := List.all_eq_true.1 (by decide)
  have hbetween : ∀ c ∈ " \t".toList, isSpace c = true := List.all_eq_true.1 (by decide)
  have hjoined := words_divided.2 "\n " [("d='a \" b'\"\\\" \"", " \t"), ("'it\\'s  '", "")]
    hbefore (by decide)
    (List.forall_mem_cons.2 ⟨hbetween, List.forall_mem_singleton.2 (List.forall_mem_nil _)⟩)
    (by decide)
  exact ⟨hfirst, hagain, hjoined⟩

end TextTemplate.Source
