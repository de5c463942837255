import TextTemplate.Proofs.DividedWords
import TextTemplate.Source.Token

/-!
The words behind the name of a tag. What a block holds behind the name of its tag is trimmed
before it is divided into words. A quotation is never closed by a space, so that the words of a
text that closes its quotations stay the same when the spaces around it go.
-/
namespace TextTemplate

open Source Text

namespace Source

namespace Quotation

/-- A quotation that is open was opened by a quotation mark. -/
def IsMarked : Quotation → Prop
  | .outside => True
  | .inside mark => isQuote mark = true
  | .escaped mark => isQuote mark = true

theorem IsMarked.next {state : Quotation} (h : state.IsMarked) (c : Char) :
    (state.next c).IsMarked := by
  cases state with
  | outside =>
    rw [Quotation.next]
    split
    · rename_i hquote
      exact hquote
    · trivial
  | inside mark =>
    rw [Quotation.next]
    split
    · exact h
    · split
      · trivial
      · exact h
  | escaped mark => exact h

/-- No text opens a quotation without a mark. -/
theorem IsMarked.after {state : Quotation} (h : state.IsMarked) (cs : List Char) :
    (state.after cs).IsMarked := by
  induction cs generalizing state with
  | nil => exact h
  | cons c cs ih => exact ih (h.next c)

/-- A space closes no quotation. -/
theorem IsMarked.eq_outside_of_next {state : Quotation} (h : state.IsMarked) {c : Char}
    (hc : isSpace c = true) (hnext : state.next c = .outside) : state = .outside := by
  cases state with
  | outside => rfl
  | inside mark =>
    have hmark : c ≠ mark := by
      rintro rfl
      have hquote : isQuote c = true := h
      rw [not_isQuote_of_isSpace hc] at hquote
      exact absurd hquote Bool.false_ne_true
    rw [Quotation.next, if_neg hmark] at hnext
    split at hnext
    · exact absurd hnext (by simp)
    · exact absurd hnext (by simp)
  | escaped mark => exact absurd hnext (by simp [Quotation.next])

theorem IsMarked.eq_outside_of_after {state : Quotation} (h : state.IsMarked)
    {spaces : List Char} (hspaces : ∀ c ∈ spaces, isSpace c = true)
    (hafter : state.after spaces = .outside) : state = .outside := by
  induction spaces generalizing state with
  | nil => exact hafter
  | cons c spaces ih =>
    obtain ⟨hc, hrest⟩ := List.forall_mem_cons.1 hspaces
    exact h.eq_outside_of_next hc (ih (h.next c) hrest hafter)

end Quotation

theorem closesQuotes_spaces {spaces : List Char} (h : ∀ c ∈ spaces, isSpace c = true) :
    closesQuotes spaces :=
  closesQuotes_of_forall fun c hc => not_isQuote_of_isSpace (h c hc)

theorem closesQuotes_append {a b : List Char} (ha : closesQuotes a) (hb : closesQuotes b) :
    closesQuotes (a ++ b) := by
  rw [closesQuotes, Quotation.after_append, ha]
  exact hb

/-- The spaces around a text that closes its quotations are not part of its words. -/
theorem splitWords_trim {text : List Char} (h : closesQuotes text) :
    splitWords (trim text) = splitWords text := by
  obtain ⟨before, after, hbefore, hafter, htext⟩ := exists_padding text
  have hclosed : closesQuotes (trim text) := by
    rw [htext, List.append_assoc, closesQuotes, Quotation.after_append,
      closesQuotes_spaces hbefore, Quotation.after_append] at h
    have hstart : Quotation.outside.IsMarked := trivial
    have hmarked : (Quotation.outside.after (trim text)).IsMarked := hstart.after _
    exact hmarked.eq_outside_of_after hafter h
  have hsplit : splitWords (trim text ++ after) = splitWords (trim text) := by
    cases after with
    | nil => rw [List.append_nil]
    | cons sep more =>
      obtain ⟨hsep, hmore⟩ := List.forall_mem_cons.1 hafter
      have hnothing := splitWords_spaces hmore []
      rw [List.append_nil] at hnothing
      rw [splitWords_append hsep hclosed, hnothing]
      exact List.append_nil _
  have hwhole : splitWords text = splitWords (trim text ++ after) := by
    rw [← splitWords_spaces hbefore (trim text ++ after), ← List.append_assoc, ← htext]
  rw [hwhole, hsplit]

/-- A text whose only word is the text itself. -/
theorem isWord_of_words {text : String} (h : words text = [text]) : IsWord text.toList := by
  have hsplit : splitWords text.toList = [text.toList] := by
    rw [← map_toList_words, h]
    rfl
  have hset := setOut_splitWords text.toList
  rw [hsplit] at hset
  exact hset.isWord _ (List.mem_singleton_self _)

/-- Words that close their quotations, with a space between each two of them. -/
theorem words_intercalate {found : List String}
    (h : ∀ word ∈ found, IsWord word.toList ∧ closesQuotes word.toList) :
    words (String.intercalate " " found) = found ∧
      closesQuotes (String.intercalate " " found).toList := by
  induction found with
  | nil => exact ⟨rfl, rfl⟩
  | cons word found ih =>
    obtain ⟨⟨hword, hclosed⟩, hothers⟩ := List.forall_mem_cons.1 h
    have hsingle := splitWords_of_quotesSpaces hword.nonempty hword.quoted
    cases found with
    | nil =>
      rw [String.intercalate_singleton, words, hsingle]
      exact ⟨congrArg (fun s => [s]) String.ofList_toList, hclosed⟩
    | cons next found =>
      obtain ⟨hlater, hlaterClosed⟩ := ih hothers
      have hspace : isSpace ' ' = true := rfl
      have htext : (String.intercalate " " (word :: next :: found)).toList =
          word.toList ++ ' ' :: (String.intercalate " " (next :: found)).toList := by
        rw [String.intercalate_cons_cons]
        simp
      refine ⟨?_, ?_⟩
      · rw [words, htext, splitWords_append hspace hclosed, hsingle, List.map_append]
        change [String.ofList word.toList] ++ words _ = _
        rw [hlater, String.ofList_toList]
        rfl
      · rw [htext]
        exact closesQuotes_append hclosed
          (closesQuotes_append (closesQuotes_spaces (List.forall_mem_singleton.2 hspace))
            hlaterClosed)

end Source

/-- The name of a block's tag, and the words behind it. -/
theorem Token.splitTag_words (kind : TokenKind) (line : Nat) {name args : String}
    (hname : ∀ c ∈ name.toList, isSpace c = false) (hargs : closesQuotes args.toList) :
    let t : Token := ⟨kind, name ++ " " ++ args, line⟩
    t.splitTag.1 = name ∧ words t.splitTag.2 = words args := by
  intro t
  have hspace : ∀ c ∈ [' '], isSpace c = true := List.forall_mem_singleton.2 rfl
  have hcontent : t.content.toList = name.toList ++ ' ' :: args.toList := by
    change (name ++ " " ++ args).toList = _
    simp
  have hletters : ∀ c ∈ name.toList, (!isSpace c) = true := by
    intro c hc
    rw [hname c hc]
    rfl
  have hclosed : closesQuotes (' ' :: args.toList) :=
    closesQuotes_append (closesQuotes_spaces hspace) hargs
  refine ⟨?_, ?_⟩
  · have htake : (t.content.toList.takeWhile fun c => !isSpace c) = name.toList := by
      rw [hcontent, List.takeWhile_append_of_pos hletters]
      exact List.append_nil _
    rw [splitTag, htake, String.ofList_toList]
  · have hdrop : (t.content.toList.dropWhile fun c => !isSpace c) = ' ' :: args.toList := by
      rw [hcontent, List.dropWhile_append_of_pos hletters]
      rfl
    rw [splitTag, hdrop, words, words, String.toList_ofList, splitWords_trim hclosed]
    exact congrArg _ (splitWords_spaces hspace _)

end TextTemplate
