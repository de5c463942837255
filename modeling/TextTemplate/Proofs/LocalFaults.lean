import TextTemplate.Proofs.ConditionWords
import TextTemplate.Tags.Standard

/-!
Faults inside of one token. What an expression, a condition or the arguments of a tag can
have wrong has nothing to do with the tokens around them: no such fault says that a block is
not closed or that the template ends too early.
-/
namespace TextTemplate

def SyntaxFault.IsLocal : SyntaxFault → Prop
  | .unclosed _ _ => False
  | .unexpectedEnd _ => False
  | .endless => False
  | _ => True

/-- Every fault that can come of it is local. -/
def FailsLocally {α : Type} (outcome : Except SyntaxFault α) : Prop :=
  ∀ fault, outcome = .error fault → fault.IsLocal

section Outcomes

variable {α β : Type}

theorem failsLocally_ok (a : α) : FailsLocally (.ok a) := by
  intro fault h
  cases h

theorem failsLocally_error {fault : SyntaxFault} (h : fault.IsLocal) :
    FailsLocally (.error fault : Except SyntaxFault α) := by
  rintro _ ⟨⟩
  exact h

theorem FailsLocally.error {m : Except SyntaxFault α} (hm : FailsLocally m) {fault : SyntaxFault}
    (h : m = .error fault) : FailsLocally (.error fault : Except SyntaxFault β) :=
  failsLocally_error (hm fault h)

/-- What fails locally in either of its steps fails locally. -/
theorem FailsLocally.bind {m : Except SyntaxFault α} {f : α → Except SyntaxFault β}
    (hm : FailsLocally m) (hf : ∀ a, FailsLocally (f a)) : FailsLocally (m >>= f) := by
  cases m with
  | error fault => exact hm.error rfl
  | ok a => exact hf a

theorem FailsLocally.map {m : Except SyntaxFault α} (hm : FailsLocally m) (f : α → β) :
    FailsLocally (m.map f) := by
  cases m with
  | error fault => exact hm.error rfl
  | ok a => exact failsLocally_ok (f a)

/-- A list of readings fails locally if each of them does. -/
theorem failsLocally_mapM {f : α → Except SyntaxFault β} (hf : ∀ a, FailsLocally (f a))
    (as : List α) : FailsLocally (as.mapM f) := by
  induction as with
  | nil => exact failsLocally_ok []
  | cons a as ih =>
    rw [List.mapM_cons]
    exact (hf a).bind fun b => ih.bind fun bs => failsLocally_ok (b :: bs)

end Outcomes

variable (filters : Expression.FilterTable)

namespace Expression

theorem readArgument_failsLocally (name : String) (text : Option (List Char)) :
    FailsLocally (readArgument name text) := by
  unfold readArgument
  split
  · exact failsLocally_ok none
  · split
    · exact failsLocally_ok _
    · exact failsLocally_error trivial

theorem readCall_failsLocally (text part : List Char) :
    FailsLocally (readCall filters text part) := by
  unfold readCall
  dsimp only
  split
  · split
    · exact failsLocally_error trivial
    · exact (readArgument_failsLocally _ _).map _
  · exact failsLocally_error trivial

theorem readHead_failsLocally (cs : List Char) : FailsLocally (readHead cs) := by
  unfold readHead
  split
  · exact failsLocally_ok _
  · exact failsLocally_error trivial

/-- Nothing about an expression goes wrong but in its own text. -/
theorem read_failsLocally (text : String) : FailsLocally (read filters text) := by
  unfold read readChars
  dsimp only
  split
  · rename_i fault hhead
    exact (readHead_failsLocally _).error hhead
  · split
    · rename_i fault hcalls
      exact (failsLocally_mapM (readCall_failsLocally filters _) _).error hcalls
    · exact failsLocally_ok _

end Expression

namespace Condition

theorem readOperand_failsLocally (words : List String) :
    FailsLocally (readOperand filters words) := by
  unfold readOperand
  split
  · exact failsLocally_error trivial
  · split
    · exact failsLocally_error trivial
    · exact (Expression.read_failsLocally filters _).map _

theorem readComparison_failsLocally (words : List String) :
    FailsLocally (readComparison filters words) := by
  unfold readComparison
  split
  · rename_i fault hleft
    exact (readOperand_failsLocally filters words).error hleft
  · split
    · exact failsLocally_ok _
    · exact (readOperand_failsLocally filters _).map _

theorem readNegation_failsLocally (words : List String) :
    FailsLocally (readNegation filters words) := by
  induction words with
  | nil => exact readComparison_failsLocally filters []
  | cons word words ih =>
    rw [readNegation]
    split
    · exact ih.map _
    · exact readComparison_failsLocally filters (word :: words)

namespace ReadsChain

variable {word : String} {join : Condition → Condition → Condition}
  {sub whole : List String → ReadResult Condition}
  {after : Condition → List String → ReadResult Condition}

theorem after_failsLocally (h : ReadsChain word join sub whole after)
    (hsub : ∀ words, FailsLocally (sub words)) (left : Condition) (words : List String) :
    FailsLocally (after left words) := by
  induction left, words using h.after_induct with
  | other left words hother =>
    rw [h.after_other left words hother]
    exact failsLocally_ok _
  | fault left words fault hright =>
    rw [h.after_word, hright]
    exact (hsub words).error hright
  | part left words right rest hright ih =>
    rw [h.after_word, hright]
    exact ih

/-- A chain adds no faults to those of its parts. -/
theorem failsLocally (h : ReadsChain word join sub whole after)
    (hsub : ∀ words, FailsLocally (sub words)) (words : List String) :
    FailsLocally (whole words) := by
  rw [h.whole_eq]
  exact (hsub words).bind fun _ => h.after_failsLocally hsub _ _

end ReadsChain

theorem readConjunction_failsLocally (words : List String) :
    FailsLocally (readConjunction filters words) :=
  (readsChain_readConjunction filters).failsLocally (readNegation_failsLocally filters) words

theorem readDisjunction_failsLocally (words : List String) :
    FailsLocally (readDisjunction filters words) :=
  (readsChain_readDisjunction filters).failsLocally (readConjunction_failsLocally filters) words

/-- Nor does anything about a condition, whose words are those of one token. -/
theorem read_failsLocally (words : List String) : FailsLocally (read filters words) := by
  unfold read
  split
  · exact failsLocally_error trivial
  · split
    · rename_i fault hread
      exact (readDisjunction_failsLocally filters words).error hread
    · exact failsLocally_ok _
    · exact failsLocally_error trivial

end Condition

namespace Tags

theorem readBinding_failsLocally (name text : String) :
    FailsLocally (readBinding filters name text) := by
  unfold readBinding
  split
  · exact (Expression.read_failsLocally filters text).map _
  · exact failsLocally_error trivial

theorem readAssignment_failsLocally (word : String) :
    FailsLocally (readAssignment filters word) := by
  unfold readAssignment
  split
  · exact failsLocally_error trivial
  · exact readBinding_failsLocally filters _ _

theorem readAssignments_failsLocally (words : List String) :
    FailsLocally (readAssignments filters words) := by
  induction words with
  | nil => exact failsLocally_ok []
  | cons word words ih =>
    rw [readAssignments]
    split
    · rename_i fault hword
      exact (readAssignment_failsLocally filters word).error hword
    · exact ih.map _

theorem readBindings_failsLocally (words : List String) :
    FailsLocally (readBindings filters words) := by
  unfold readBindings
  split
  · exact failsLocally_error trivial
  · split
    · exact (readBinding_failsLocally filters _ _).map _
    · exact readAssignments_failsLocally filters _
  · exact readAssignments_failsLocally filters words

theorem readLoopHead_failsLocally (args : String) : FailsLocally (readLoopHead args) := by
  unfold readLoopHead
  split
  · exact failsLocally_error trivial
  · split
    · exact failsLocally_error trivial
    · dsimp only
      split
      · exact failsLocally_ok _
      · exact failsLocally_error trivial

end Tags

end TextTemplate
