import TextTemplate.Source.Words
import TextTemplate.Proofs.WrittenVariables

/-!
Words and what they quote. Behind a text that closes its quotations a space is a place between
two words, whatever follows, so that the words of such a text stay as they are. A text whose
spaces are all quoted is a single word.
-/
namespace TextTemplate.Source

open Text

/-- Wherever the text has a space, a quotation is open. -/
def QuotesSpaces (state : Quotation) (cs : List Char) : Prop :=
  ∀ i (h : i < cs.length), isSpace cs[i] = true → state.after (cs.take i) ≠ .outside

instance (state : Quotation) (cs : List Char) : Decidable (QuotesSpaces state cs) :=
  inferInstanceAs (Decidable (∀ i (_ : i < cs.length), _))

variable {state : Quotation}

theorem quotesSpaces_cons {c : Char} {cs : List Char} :
    QuotesSpaces state (c :: cs) ↔
      (isSpace c = true → state ≠ .outside) ∧ QuotesSpaces (state.next c) cs :=
  Nat.forall_lt_succ_left'

theorem not_isQuote_of_isSpace {c : Char} (h : isSpace c = true) :
    Quotation.isQuote c = false := by
  cases hquote : Quotation.isQuote c with
  | false => rfl
  | true =>
    rw [Variable.not_isSpace_of_isQuote hquote] at h
    exact absurd h (by decide)

theorem addWord_append (word : List Char) (words more : List (List Char)) :
    addWord word (words ++ more) = addWord word words ++ more := by
  unfold addWord
  split <;> rfl

/-- A space outside of quotations ends the words before it, and words begin anew. -/
theorem wordsFrom_append {sep : Char} (hsep : isSpace sep = true) {cs : List Char}
    (hclosed : state.after cs = .outside) (rest : List Char) :
    wordsFrom state (cs ++ sep :: rest) =
      ((wordsFrom state cs).1, (wordsFrom state cs).2 ++ splitWords rest) := by
  induction cs generalizing state with
  | nil =>
    obtain rfl : state = .outside := hclosed
    have hnext := next_of_not_isQuote (not_isQuote_of_isSpace hsep)
    simp only [List.nil_append, wordsFrom, hnext, hsep, and_self, if_true]
    rfl
  | cons c cs ih =>
    have hrest : (state.next c).after cs = .outside := hclosed
    rw [List.cons_append, wordsFrom, ih hrest, wordsFrom]
    dsimp only
    split
    · rw [addWord_append]
    · rfl

/-- A space outside quotations divides the words on either side. -/
theorem splitWords_append {sep : Char} (hsep : isSpace sep = true) {cs : List Char}
    (hclosed : closesQuotes cs) (rest : List Char) :
    splitWords (cs ++ sep :: rest) = splitWords cs ++ splitWords rest := by
  rw [splitWords, wordsFrom_append hsep hclosed]
  exact addWord_append _ _ _

theorem wordsFrom_of_quotesSpaces {cs : List Char} (h : QuotesSpaces state cs) :
    wordsFrom state cs = (cs, []) := by
  induction cs generalizing state with
  | nil => rfl
  | cons c cs ih =>
    obtain ⟨hfirst, hrest⟩ := quotesSpaces_cons.1 h
    have hword : ¬ (state = .outside ∧ isSpace c = true) :=
      fun hends => hfirst hends.2 hends.1
    rw [wordsFrom, ih hrest]
    exact if_neg hword

/-- A text whose spaces are all quoted is a single word. -/
theorem splitWords_of_quotesSpaces {cs : List Char} (hne : cs ≠ [])
    (h : QuotesSpaces .outside cs) : splitWords cs = [cs] := by
  rw [splitWords, wordsFrom_of_quotesSpaces h]
  exact if_neg (by rwa [List.isEmpty_iff])

end TextTemplate.Source
