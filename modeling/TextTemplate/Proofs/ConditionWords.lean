import Mathlib.Data.List.Forall2
import Mathlib.Logic.Function.Iterate
import TextTemplate.Expression.Condition

/-!
Conditions as words spell them. The words `or` divide a condition into conjunctions, the
words `and` divide those into factors, and a factor is a test with any number of `not` in
front of it. The reader goes through the words only once, and each of its levels goes on
with the words that the level below has left. It accepts the words that are divided in this
way and no others, and the tree that it makes is the one that the division stands for.
-/
namespace TextTemplate

structure Joined (α : Type) where
  first : α
  others : List α

namespace Joined

variable {α : Type}

def all (parts : Joined α) : List α := parts.first :: parts.others

def fold {β : Type} (join : β → β → β) (f : α → β) (parts : Joined α) : β :=
  parts.others.foldl (fun b part => join b (f part)) (f parts.first)

/-- The words of all parts, with a word between neighbours. -/
def text (word : String) (pieces : Joined (List String)) : List String :=
  pieces.first ++ pieces.others.flatMap fun piece => word :: piece

theorem text_eq_intercalate (word : String) (pieces : Joined (List String)) :
    pieces.text word = [word].intercalate pieces.all := by
  obtain ⟨first, others⟩ := pieces
  induction others generalizing first with
  | nil => simp [text, all]
  | cons second others ih =>
    have hrest := ih second
    simp only [text, all] at hrest ⊢
    rw [List.intercalate_cons_cons, ← hrest]
    simp

/-- Joined pieces are found again, if none of them has the word between them. -/
theorem splitOn_text {word : String} {pieces : Joined (List String)}
    (h : ∀ piece ∈ pieces.all, word ∉ piece) : (pieces.text word).splitOn word = pieces.all := by
  rw [text_eq_intercalate]
  exact List.splitOn_intercalate word h (List.cons_ne_nil _ _)

theorem notMem_text {word other : String} (hne : other ≠ word) {pieces : Joined (List String)}
    (h : ∀ piece ∈ pieces.all, other ∉ piece) : other ∉ pieces.text word := by
  obtain ⟨hfirst, hothers⟩ := List.forall_mem_cons.1 h
  intro hmem
  rcases List.mem_append.1 hmem with hhere | hlater
  · exact hfirst hhere
  · obtain ⟨piece, hpiece, hin⟩ := List.mem_flatMap.1 hlater
    rcases List.mem_cons.1 hin with hword | hinside
    · exact hne hword
    · exact hothers piece hpiece hinside

theorem exists_splitOn (word : String) (words : List String) :
    ∃ pieces : Joined (List String),
      words.splitOn word = pieces.all ∧ words = pieces.text word := by
  obtain ⟨first, others, hsplit⟩ := List.exists_cons_of_ne_nil (List.splitOn_ne_nil word words)
  refine ⟨⟨first, others⟩, hsplit, ?_⟩
  rw [text_eq_intercalate, all, ← hsplit, List.intercalate_splitOn]

theorem exists_forall₂ {β : Type} {R : α → β → Prop} {pieces : Joined α}
    (h : ∀ piece ∈ pieces.all, ∃ part, R piece part) :
    ∃ parts : Joined β, List.Forall₂ R pieces.all parts.all := by
  obtain ⟨hfirst, hothers⟩ := List.forall_mem_cons.1 h
  obtain ⟨part, hpart⟩ := hfirst
  have hrest : ∃ parts, List.Forall₂ R pieces.others parts := by
    generalize pieces.others = others at hothers
    induction others with
    | nil => exact ⟨[], .nil⟩
    | cons piece others ih =>
      obtain ⟨hnext, hlater⟩ := List.forall_mem_cons.1 hothers
      obtain ⟨next, hnext⟩ := hnext
      obtain ⟨parts, hparts⟩ := ih hlater
      exact ⟨next :: parts, .cons hnext hparts⟩
  obtain ⟨parts, hparts⟩ := hrest
  exact ⟨⟨part, parts⟩, .cons hpart hparts⟩

end Joined

namespace Comparison

def words : Comparison → List String
  | .equal => ["=="]
  | .notEqual => ["!="]
  | .isIn => ["in"]
  | .notIn => ["not", "in"]

/-- Each operator is read from the words that spell it. -/
theorem read_words (op : Comparison) (rest : List String) :
    read (op.words ++ rest) = some (op, rest) := by
  cases op <;> rfl

theorem eq_words_of_read {words rest : List String} {op : Comparison}
    (h : read words = some (op, rest)) : words = op.words ++ rest := by
  unfold read at h
  grind [Comparison.words]

/-- No operator starts with a word that divides conditions. -/
theorem read_eq_none {words : List String} (h : ∀ word ∈ words.head?, word = "and" ∨ word = "or") :
    read words = none := by
  cases words with
  | nil => rfl
  | cons word words => rcases h word rfl with rfl | rfl <;> rfl

theorem not_divides (op : Comparison) : "and" ∉ op.words ∧ "or" ∉ op.words := by
  cases op <;> decide

end Comparison

namespace Condition

inductive Test where
  | operand (e : Expression)
  | compare (left : Expression) (op : Comparison) (right : Expression)

structure Factor where
  negations : Nat
  test : Test

def Test.toCondition : Test → Condition
  | .operand e => .operand e
  | .compare left op right => .compare left op right

def Factor.toCondition (factor : Factor) : Condition :=
  Condition.not^[factor.negations] factor.test.toCondition

def ofFactors (factors : Joined Factor) : Condition := factors.fold .and Factor.toCondition

def ofParts (parts : Joined (Joined Factor)) : Condition := parts.fold .or ofFactors

variable (filters : Expression.FilterTable)

def IsOperand (word : String) (e : Expression) : Prop :=
  word ∉ keywords ∧ Expression.read filters word = .ok e

inductive Test.Spelled : List String → Test → Prop where
  | operand {word : String} {e : Expression} (h : IsOperand filters word e) :
      Spelled [word] (.operand e)
  | compare {left right : String} {l r : Expression} (op : Comparison)
      (hleft : IsOperand filters left l) (hright : IsOperand filters right r) :
      Spelled (left :: (op.words ++ [right])) (.compare l op r)

def Factor.Spelled (words : List String) (factor : Factor) : Prop :=
  ∃ tested, words = List.replicate factor.negations "not" ++ tested ∧
    factor.test.Spelled filters tested

def FactorsSpelled (words : List String) (factors : Joined Factor) : Prop :=
  List.Forall₂ (Factor.Spelled filters) (words.splitOn "and") factors.all

/-- The words between the words `or` spell conjunctions of factors. -/
def PartsSpelled (words : List String) (parts : Joined (Joined Factor)) : Prop :=
  List.Forall₂ (FactorsSpelled filters) (words.splitOn "or") parts.all

variable {filters}

theorem IsOperand.ne {word keyword : String} {e : Expression} (h : IsOperand filters word e)
    (hkeyword : keyword ∈ keywords) : keyword ≠ word := by
  rintro rfl
  exact h.1 hkeyword

/-- No operand is one of the words that divide conditions. -/
theorem IsOperand.not_divides {word : String} {e : Expression} (h : IsOperand filters word e) :
    "and" ≠ word ∧ "or" ≠ word :=
  ⟨h.ne (by decide), h.ne (by decide)⟩

theorem Test.Spelled.not_divides {words : List String} {test : Test}
    (h : test.Spelled filters words) : "and" ∉ words ∧ "or" ∉ words := by
  cases h with
  | operand hoperand => simpa using hoperand.not_divides
  | compare op hleft hright =>
    simp [op.not_divides, hleft.not_divides, hright.not_divides]

theorem Test.Spelled.exists_cons {words : List String} {test : Test}
    (h : test.Spelled filters words) :
    ∃ word rest, words = word :: rest ∧ word ≠ "not" := by
  cases h with
  | operand hoperand =>
    have hnot : "not" ≠ _ := hoperand.ne (by decide)
    exact ⟨_, _, rfl, hnot.symm⟩
  | compare op hleft hright =>
    have hnot : "not" ≠ _ := hleft.ne (by decide)
    exact ⟨_, _, rfl, hnot.symm⟩

/-- No words that divide conditions stand in a factor. -/
theorem Factor.Spelled.not_divides {words : List String} {factor : Factor}
    (h : factor.Spelled filters words) : "and" ∉ words ∧ "or" ∉ words := by
  obtain ⟨tested, rfl, htest⟩ := h
  simp [List.mem_replicate, htest.not_divides]

/-- A reader takes up the words and nothing else, whatever follows them, if that is nothing
or one of the words that it stops at. -/
def TakesUp (stops : List String) (reader : List String → ReadResult Condition)
    (words : List String) (c : Condition) : Prop :=
  ∀ rest, (∀ word ∈ rest.head?, word ∈ stops) → reader (words ++ rest) = .ok (c, rest)

theorem readOperand_cons {word : String} {e : Expression} (h : IsOperand filters word e)
    (rest : List String) : readOperand filters (word :: rest) = .ok (e, rest) := by
  rw [readOperand, if_neg h.1, h.2]
  rfl

theorem isOperand_of_readOperand {words rest : List String} {e : Expression}
    (h : readOperand filters words = .ok (e, rest)) :
    ∃ word, words = word :: rest ∧ IsOperand filters word e := by
  unfold readOperand at h
  split at h
  · simp at h
  · rename_i word after
    split at h
    · simp at h
    · rename_i hkeyword
      obtain ⟨e', hread, heq⟩ := eq_ok_of_map_eq_ok h
      obtain ⟨rfl, rfl⟩ := Prod.mk.inj heq
      exact ⟨word, rfl, hkeyword, hread⟩

/-- The words of a test are read as the test, up to a word that divides conditions. -/
theorem takesUp_readComparison {words : List String} {test : Test}
    (h : test.Spelled filters words) :
    TakesUp ["and", "or"] (readComparison filters) words test.toCondition := by
  intro rest hrest
  cases h with
  | operand hoperand =>
    have hop : Comparison.read rest = none := Comparison.read_eq_none (by simpa using hrest)
    simp only [readComparison, List.singleton_append, readOperand_cons hoperand, hop]
    rfl
  | compare op hleft hright =>
    have hop := op.read_words
    simp only [readComparison, List.cons_append, List.append_assoc, List.nil_append,
      readOperand_cons hleft, hop, readOperand_cons hright]
    rfl

/-- What was read as a comparison spells a test. -/
theorem spelled_of_readComparison {words rest : List String} {c : Condition}
    (h : readComparison filters words = .ok (c, rest)) :
    ∃ taken, words = taken ++ rest ∧ ∃ factor, Factor.Spelled filters taken factor := by
  unfold readComparison at h
  split at h
  · simp at h
  · rename_i l after hfirst
    obtain ⟨left, rfl, hleft⟩ := isOperand_of_readOperand hfirst
    split at h
    · obtain ⟨_, rfl⟩ := Prod.mk.inj (Except.ok.inj h)
      exact ⟨[left], rfl, ⟨0, .operand l⟩, [left], rfl, .operand hleft⟩
    · rename_i op later hop
      obtain rfl := Comparison.eq_words_of_read hop
      obtain ⟨⟨r, rest'⟩, hsecond, heq⟩ := eq_ok_of_map_eq_ok h
      obtain ⟨_, rfl⟩ := Prod.mk.inj heq
      obtain ⟨right, rfl, hright⟩ := isOperand_of_readOperand hsecond
      refine ⟨left :: (op.words ++ [right]), by simp, ⟨0, .compare l op r⟩, _, rfl, ?_⟩
      exact .compare op hleft hright

/-- The words of a factor are read as the factor, up to a word that divides conditions. -/
theorem takesUp_readNegation {words : List String} {factor : Factor}
    (h : factor.Spelled filters words) :
    TakesUp ["and", "or"] (readNegation filters) words factor.toCondition := by
  obtain ⟨negations, test⟩ := factor
  obtain ⟨tested, rfl, htest⟩ := h
  intro rest hrest
  unfold Factor.toCondition
  change test.Spelled filters tested at htest
  induction negations with
  | zero =>
    have hread := takesUp_readComparison htest rest hrest
    obtain ⟨word, after, rfl, hnot⟩ := htest.exists_cons
    change readNegation filters (word :: (after ++ rest)) = _
    rw [readNegation, if_neg hnot]
    exact hread
  | succ n ih =>
    rw [List.replicate_succ, List.cons_append, List.cons_append, readNegation, if_pos rfl, ih,
      Function.iterate_succ_apply']
    rfl

theorem spelled_of_readNegation {words rest : List String} {c : Condition}
    (h : readNegation filters words = .ok (c, rest)) :
    ∃ taken, words = taken ++ rest ∧ ∃ factor, Factor.Spelled filters taken factor := by
  induction words generalizing c with
  | nil => exact spelled_of_readComparison h
  | cons word words ih =>
    rw [readNegation] at h
    split at h
    · rename_i hword
      obtain ⟨⟨c', rest'⟩, hread, heq⟩ := eq_ok_of_map_eq_ok h
      obtain ⟨_, rfl⟩ := Prod.mk.inj heq
      obtain ⟨taken, rfl, factor, tested, rfl, htest⟩ := ih hread
      obtain rfl := hword
      exact ⟨"not" :: _, rfl, ⟨factor.negations + 1, factor.test⟩, tested, rfl, htest⟩
    · exact spelled_of_readComparison h

/-- The reader `whole` reads one part with `sub`, and `after` goes on with further parts for
as long as the word stands in front of the next one. -/
structure ReadsChain (word : String) (join : Condition → Condition → Condition)
    (sub whole : List String → ReadResult Condition)
    (after : Condition → List String → ReadResult Condition) : Prop where
  whole_eq : ∀ words, whole words = (sub words).bind fun (c, rest) => after c rest
  after_word : ∀ left words,
    after left (word :: words) = (sub words).bind fun (c, rest) => after (join left c) rest
  after_other : ∀ left words, (∀ other ∈ words.head?, other ≠ word) →
    after left words = .ok (left, words)
  shorter : ∀ {words c rest}, sub words = .ok (c, rest) → rest.length < words.length

variable (filters) in
theorem readsChain_readConjunction :
    ReadsChain "and" .and (readNegation filters) (readConjunction filters)
      (readConjunctionAfter filters) where
  whole_eq words := by
    unfold readConjunction
    cases readNegation filters words <;> rfl
  after_word left words := by
    rw [readConjunctionAfter, if_pos rfl]
    cases readNegation filters words <;> rfl
  after_other left words h := by
    cases words with
    | nil => rw [readConjunctionAfter]
    | cons other words => rw [readConjunctionAfter, if_neg (h other rfl)]
  shorter := readNegation_length_lt filters

variable (filters) in
theorem readsChain_readDisjunction :
    ReadsChain "or" .or (readConjunction filters) (readDisjunction filters)
      (readDisjunctionAfter filters) where
  whole_eq words := by
    unfold readDisjunction
    cases readConjunction filters words <;> rfl
  after_word left words := by
    rw [readDisjunctionAfter, if_pos rfl]
    cases readConjunction filters words <;> rfl
  after_other left words h := by
    cases words with
    | nil => rw [readDisjunctionAfter]
    | cons other words => rw [readDisjunctionAfter, if_neg (h other rfl)]
  shorter := readConjunction_length_lt filters

namespace ReadsChain

variable {word : String} {join : Condition → Condition → Condition}
  {sub whole : List String → ReadResult Condition}
  {after : Condition → List String → ReadResult Condition}

/-- Every further part is read from what the part before it has left, which is shorter. -/
theorem after_induct (h : ReadsChain word join sub whole after)
    {P : Condition → List String → Prop}
    (other : ∀ left words, (∀ other ∈ words.head?, other ≠ word) → P left words)
    (fault : ∀ left words fault, sub words = .error fault → P left (word :: words))
    (part : ∀ left words right rest, sub words = .ok (right, rest) →
      P (join left right) rest → P left (word :: words))
    (left : Condition) (words : List String) : P left words := by
  induction hlength : words.length using Nat.strongRecOn generalizing words left with
  | _ n ih =>
    by_cases hword : words.head? = some word
    · obtain ⟨words, rfl⟩ := List.head?_eq_some_iff.1 hword
      cases hread : sub words with
      | error => exact fault left words _ hread
      | ok read =>
        have hshorter := h.shorter hread
        rw [List.length_cons] at hlength
        exact part left words _ _ hread (ih read.2.length (by omega) _ _ rfl)
    · refine other left words ?_
      rintro _ hother rfl
      exact hword hother

theorem head?_pieces {stops rest : List String} (hrest : ∀ other ∈ rest.head?, other ∈ stops)
    (pieces : List (List String)) :
    ∀ other ∈ ((pieces.flatMap fun piece => word :: piece) ++ rest).head?,
      other ∈ word :: stops := by
  intro other hother
  cases pieces with
  | nil => exact List.mem_cons_of_mem _ (hrest other hother)
  | cons piece pieces =>
    obtain rfl := Option.some.inj hother
    exact List.mem_cons_self

section

variable {α : Type} {f : α → Condition} {Spelled : List String → α → Prop} {stops : List String}

/-- Further parts are joined to the condition before them one by one. -/
theorem takesUp_after (h : ReadsChain word join sub whole after) (hword : word ∉ stops)
    (hsub : ∀ piece part, Spelled piece part → TakesUp (word :: stops) sub piece (f part))
    {pieces : List (List String)} {parts : List α} (hparts : List.Forall₂ Spelled pieces parts)
    (left : Condition) :
    TakesUp stops (after left) (pieces.flatMap fun piece => word :: piece)
      (parts.foldl (fun c part => join c (f part)) left) := by
  intro rest hrest
  induction hparts generalizing left with
  | nil =>
    refine h.after_other left rest ?_
    rintro other hother rfl
    exact hword (hrest other hother)
  | @cons piece part pieces parts hpart _ ih =>
    have hread := hsub piece part hpart _ (head?_pieces hrest pieces)
    rw [List.flatMap_cons, List.cons_append, List.cons_append, List.append_assoc, h.after_word,
      hread]
    exact ih (join left (f part))

/-- A chain takes up words whose division spells its parts. -/
theorem takesUp (h : ReadsChain word join sub whole after) (hword : word ∉ stops)
    (hsub : ∀ piece part, Spelled piece part → TakesUp (word :: stops) sub piece (f part))
    {words : List String} {parts : Joined α}
    (hparts : List.Forall₂ Spelled (words.splitOn word) parts.all) :
    TakesUp stops whole words (parts.fold join f) := by
  obtain ⟨pieces, hsplit, rfl⟩ := Joined.exists_splitOn word words
  rw [hsplit] at hparts
  obtain ⟨hfirst, hothers⟩ := List.forall₂_cons.1 hparts
  intro rest hrest
  have hread := hsub _ _ hfirst _ (head?_pieces hrest pieces.others)
  rw [Joined.text, List.append_assoc, h.whole_eq, hread]
  exact h.takesUp_after hword hsub hothers (f parts.first) rest hrest

end

section

variable {IsPiece : List String → Prop}

theorem exists_pieces (h : ReadsChain word join sub whole after)
    (hsub : ∀ words c rest, sub words = .ok (c, rest) →
      ∃ taken, words = taken ++ rest ∧ IsPiece taken)
    {words : List String} {left c : Condition} {rest : List String}
    (hread : after left words = .ok (c, rest)) :
    ∃ pieces : List (List String), words = (pieces.flatMap fun piece => word :: piece) ++ rest ∧
      ∀ piece ∈ pieces, IsPiece piece := by
  induction left, words using h.after_induct with
  | other left words hother =>
    rw [h.after_other left words hother] at hread
    obtain ⟨_, rfl⟩ := Prod.mk.inj (Except.ok.inj hread)
    exact ⟨[], rfl, List.forall_mem_nil _⟩
  | fault left words fault hfirst =>
    rw [h.after_word, hfirst] at hread
    cases hread
  | part left words right later hfirst ih =>
    rw [h.after_word, hfirst] at hread
    obtain ⟨taken, rfl, htaken⟩ := hsub _ _ _ hfirst
    obtain ⟨pieces, rfl, hpieces⟩ := ih hread
    exact ⟨taken :: pieces, by simp, List.forall_mem_cons.2 ⟨htaken, hpieces⟩⟩

/-- What a chain has read is divided by its word. -/
theorem exists_text (h : ReadsChain word join sub whole after)
    (hsub : ∀ words c rest, sub words = .ok (c, rest) →
      ∃ taken, words = taken ++ rest ∧ IsPiece taken)
    {words rest : List String} {c : Condition} (hread : whole words = .ok (c, rest)) :
    ∃ pieces : Joined (List String), words = pieces.text word ++ rest ∧
      ∀ piece ∈ pieces.all, IsPiece piece := by
  rw [h.whole_eq] at hread
  cases hfirst : sub words with
  | error fault => simp [hfirst, Except.bind] at hread
  | ok read =>
    obtain ⟨left, later⟩ := read
    rw [hfirst] at hread
    obtain ⟨taken, rfl, htaken⟩ := hsub _ _ _ hfirst
    obtain ⟨pieces, rfl, hpieces⟩ := h.exists_pieces hsub hread
    refine ⟨⟨taken, pieces⟩, (List.append_assoc _ _ _).symm, ?_⟩
    exact List.forall_mem_cons.2 ⟨htaken, hpieces⟩

end

end ReadsChain

/-- Factors with `and` between them are read as a conjunction, up to an `or`. -/
theorem takesUp_readConjunction {words : List String} {factors : Joined Factor}
    (h : FactorsSpelled filters words factors) :
    TakesUp ["or"] (readConjunction filters) words (ofFactors factors) :=
  (readsChain_readConjunction filters).takesUp (by decide)
    (fun _ _ hfactor => takesUp_readNegation hfactor) h

/-- Conjunctions with `or` between them are read to the end. -/
theorem takesUp_readDisjunction {words : List String} {parts : Joined (Joined Factor)}
    (h : PartsSpelled filters words parts) :
    TakesUp [] (readDisjunction filters) words (ofParts parts) :=
  (readsChain_readDisjunction filters).takesUp (by decide)
    (fun _ _ hfactors => takesUp_readConjunction hfactors) h

/-- The tree of words that are divided into factors. -/
theorem read_of_partsSpelled {words : List String} {parts : Joined (Joined Factor)}
    (h : PartsSpelled filters words parts) : read filters words = .ok (ofParts parts) := by
  have hread := takesUp_readDisjunction h [] (by simp)
  rw [List.append_nil] at hread
  cases words with
  | nil =>
    have hend : readDisjunction filters [] = .error .conditionEnd := rfl
    simp [hend] at hread
  | cons word words =>
    rw [read, List.isEmpty_cons, if_neg Bool.false_ne_true, hread]

/-- What was read as a conjunction is divided into factors and has no `or` in it. -/
theorem spelled_of_readConjunction {words rest : List String} {c : Condition}
    (h : readConjunction filters words = .ok (c, rest)) :
    ∃ taken, words = taken ++ rest ∧
      (∃ factors, FactorsSpelled filters taken factors) ∧ "or" ∉ taken := by
  obtain ⟨pieces, rfl, hpieces⟩ :=
    (readsChain_readConjunction filters).exists_text (fun _ _ _ => spelled_of_readNegation) h
  have hand : ∀ piece ∈ pieces.all, "and" ∉ piece := by
    intro piece hmem
    obtain ⟨factor, hfactor⟩ := hpieces piece hmem
    exact hfactor.not_divides.1
  have hor : ∀ piece ∈ pieces.all, "or" ∉ piece := by
    intro piece hmem
    obtain ⟨factor, hfactor⟩ := hpieces piece hmem
    exact hfactor.not_divides.2
  refine ⟨pieces.text "and", rfl, ?_, ?_⟩
  · obtain ⟨factors, hfactors⟩ := Joined.exists_forall₂ hpieces
    refine ⟨factors, ?_⟩
    rw [FactorsSpelled, Joined.splitOn_text hand]
    exact hfactors
  · exact Joined.notMem_text (by decide) hor

/-- Words that can be read are divided into factors. -/
theorem partsSpelled_of_read {words : List String} {c : Condition}
    (h : read filters words = .ok c) : ∃ parts, PartsSpelled filters words parts := by
  unfold read at h
  split at h
  · simp at h
  · split at h
    · simp at h
    · rename_i c' hread
      obtain ⟨pieces, rfl, hpieces⟩ :=
        (readsChain_readDisjunction filters).exists_text
          (fun _ _ _ => spelled_of_readConjunction) hread
      rw [List.append_nil]
      have hor : ∀ piece ∈ pieces.all, "or" ∉ piece := fun piece hmem => (hpieces piece hmem).2
      obtain ⟨parts, hparts⟩ := Joined.exists_forall₂ fun piece hmem => (hpieces piece hmem).1
      refine ⟨parts, ?_⟩
      rw [PartsSpelled, Joined.splitOn_text hor]
      exact hparts
    · simp at h

end Condition

end TextTemplate
