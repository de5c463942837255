import TextTemplate.Expression.Basic
import TextTemplate.Value.Equality

/-!
Conditions. A condition combines expressions with comparisons, which bind tightest, then
`not`, `and` and `or`. It is read from words, each operand being one word, and decided
from left to right as far as needed.
-/
namespace TextTemplate

inductive Comparison where
  | equal
  | notEqual
  | isIn
  | notIn
deriving DecidableEq

namespace Comparison

def holds (op : Comparison) (left right : Value) : Bool :=
  match op with
  | .equal => left.equal right
  | .notEqual => !left.equal right
  | .isIn => right.contains left
  | .notIn => !right.contains left

/-- Reads an operator of one or two words. -/
def read : List String → Option (Comparison × List String)
  | [] => none
  | word :: rest =>
    if word = "==" then some (.equal, rest)
    else if word = "!=" then some (.notEqual, rest)
    else if word = "in" then some (.isIn, rest)
    else if word = "not" then
      match rest with
      | [] => none
      | second :: rest => if second = "in" then some (.notIn, rest) else none
    else none

theorem read_length_lt {words rest : List String} {op : Comparison}
    (h : read words = some (op, rest)) : rest.length < words.length := by
  unfold read at h
  split at h
  · simp at h
  · split at h
    · simp_all
    · split at h
      · simp_all
      · split at h
        · simp_all
        · split at h
          · split at h
            · simp at h
            · split at h
              · simp only [Option.some.injEq, Prod.mk.injEq] at h
                obtain ⟨_, rfl⟩ := h
                simp only [List.length_cons]
                omega
              · simp at h
          · simp at h

end Comparison

inductive Condition where
  | operand (e : Expression)
  | compare (left : Expression) (op : Comparison) (right : Expression)
  | not (c : Condition)
  | and (left right : Condition)
  | or (left right : Condition)

namespace Condition

/-- Decides a condition. The right side of `and` and `or` is looked at only if the left
side leaves the answer open. -/
def holds (scope : Scope) : Condition → Except Error Bool
  | .operand e => (e.resolve scope).map Value.isTruthy
  | .compare left op right =>
    match left.resolve scope with
    | .error err => .error err
    | .ok l => (right.resolve scope).map fun r => op.holds l r
  | .not c => (c.holds scope).map Bool.not
  | .and left right =>
    match left.holds scope with
    | .error err => .error err
    | .ok false => .ok false
    | .ok true => right.holds scope
  | .or left right =>
    match left.holds scope with
    | .error err => .error err
    | .ok true => .ok true
    | .ok false => right.holds scope

theorem holds_compare (scope : Scope) (left right : Expression) (op : Comparison) :
    (Condition.compare left op right).holds scope =
      left.resolve scope >>= fun l => (right.resolve scope).map fun r => op.holds l r := by
  rw [holds]
  cases left.resolve scope <;> rfl

theorem holds_and (scope : Scope) (left right : Condition) :
    (Condition.and left right).holds scope =
      left.holds scope >>= fun answer => if answer then right.holds scope else .ok false := by
  rw [holds]
  rcases left.holds scope with e | _ | _ <;> rfl

theorem holds_or (scope : Scope) (left right : Condition) :
    (Condition.or left right).holds scope =
      left.holds scope >>= fun answer => if answer then .ok true else right.holds scope := by
  rw [holds]
  rcases left.holds scope with e | _ | _ <;> rfl

/-- The words that cannot be operands. -/
def keywords : List String := ["and", "or", "not", "in", "==", "!="]

/-- What has been read, and the words that follow it. -/
abbrev ReadResult (α : Type) := Except SyntaxFault (α × List String)

variable (filters : Expression.FilterTable)

def readOperand : List String → ReadResult Expression
  | [] => .error .conditionEnd
  | word :: rest =>
    if word ∈ keywords then .error (.conditionOperand word)
    else (Expression.read filters word).map fun e => (e, rest)

def readComparison (words : List String) : ReadResult Condition :=
  match readOperand filters words with
  | .error fault => .error fault
  | .ok (left, rest) =>
    match Comparison.read rest with
    | none => .ok (.operand left, rest)
    | some (op, rest) =>
      (readOperand filters rest).map fun (right, rest) => (.compare left op right, rest)

def readNegation : List String → ReadResult Condition
  | [] => readComparison filters []
  | word :: rest =>
    if word = "not" then (readNegation rest).map fun (c, rest) => (.not c, rest)
    else readComparison filters (word :: rest)

theorem eq_ok_of_map_eq_ok {α β ε : Type} {f : α → β} {m : Except ε α} {b : β}
    (h : m.map f = .ok b) : ∃ a, m = .ok a ∧ f a = b := by
  cases m with
  | error fault => simp [Except.map] at h
  | ok a => exact ⟨a, rfl, by simpa [Except.map] using h⟩

theorem readOperand_length_lt {words rest : List String} {e : Expression}
    (h : readOperand filters words = .ok (e, rest)) : rest.length < words.length := by
  unfold readOperand at h
  split at h
  · simp at h
  · split at h
    · simp at h
    · obtain ⟨e', _, heq⟩ := eq_ok_of_map_eq_ok h
      obtain ⟨_, rfl⟩ := Prod.mk.inj heq
      simp

theorem readComparison_length_lt {words rest : List String} {c : Condition}
    (h : readComparison filters words = .ok (c, rest)) : rest.length < words.length := by
  unfold readComparison at h
  split at h
  · simp at h
  · rename_i left after hleft
    have hlt := readOperand_length_lt filters hleft
    split at h
    · simp_all
    · rename_i op words' hop
      have hlt' := Comparison.read_length_lt hop
      obtain ⟨⟨right, rest'⟩, hright, heq⟩ := eq_ok_of_map_eq_ok h
      obtain ⟨_, rfl⟩ := Prod.mk.inj heq
      have hlt'' := readOperand_length_lt filters hright
      omega

theorem readNegation_length_lt {words rest : List String} {c : Condition}
    (h : readNegation filters words = .ok (c, rest)) : rest.length < words.length := by
  induction words generalizing c with
  | nil => exact readComparison_length_lt filters h
  | cons word words ih =>
    simp only [readNegation] at h
    split at h
    · obtain ⟨⟨c', rest'⟩, hrest, heq⟩ := eq_ok_of_map_eq_ok h
      obtain ⟨_, heq⟩ := Prod.mk.inj heq
      dsimp only at heq
      subst heq
      have := ih hrest
      simp only [List.length_cons]
      omega
    · exact readComparison_length_lt filters h

/-- Goes on reading parts joined by `and` after the condition that they are joined to. -/
def readConjunctionAfter (left : Condition) (words : List String) : ReadResult Condition :=
  match words with
  | [] => .ok (left, [])
  | word :: rest =>
    if word = "and" then
      match _hright : readNegation filters rest with
      | .error fault => .error fault
      | .ok (right, after) => readConjunctionAfter (.and left right) after
    else .ok (left, word :: rest)
termination_by words.length
decreasing_by
  have := readNegation_length_lt filters _hright
  simp only [List.length_cons]
  omega

def readConjunction (words : List String) : ReadResult Condition :=
  match readNegation filters words with
  | .error fault => .error fault
  | .ok (left, rest) => readConjunctionAfter filters left rest

theorem readConjunctionAfter_length_le {words rest : List String} {left c : Condition}
    (h : readConjunctionAfter filters left words = .ok (c, rest)) :
    rest.length ≤ words.length := by
  fun_induction readConjunctionAfter filters left words with
  | case1 => simp_all
  | case2 => simp_all
  | case3 left after' right after hright ih =>
    have := readNegation_length_lt filters hright
    have := ih h
    simp only [List.length_cons]
    omega
  | case4 => simp_all

theorem readConjunction_length_lt {words rest : List String} {c : Condition}
    (h : readConjunction filters words = .ok (c, rest)) : rest.length < words.length := by
  unfold readConjunction at h
  split at h
  · simp at h
  · rename_i left after hleft
    have := readNegation_length_lt filters hleft
    have := readConjunctionAfter_length_le filters h
    omega

/-- Goes on reading parts joined by `or` after the condition that they are joined to. -/
def readDisjunctionAfter (left : Condition) (words : List String) : ReadResult Condition :=
  match words with
  | [] => .ok (left, [])
  | word :: rest =>
    if word = "or" then
      match _hright : readConjunction filters rest with
      | .error fault => .error fault
      | .ok (right, after) => readDisjunctionAfter (.or left right) after
    else .ok (left, word :: rest)
termination_by words.length
decreasing_by
  have := readConjunction_length_lt filters _hright
  simp only [List.length_cons]
  omega

def readDisjunction (words : List String) : ReadResult Condition :=
  match readConjunction filters words with
  | .error fault => .error fault
  | .ok (left, rest) => readDisjunctionAfter filters left rest

/-- Reads a condition that takes up all the words. -/
def read (words : List String) : Except SyntaxFault Condition :=
  if words.isEmpty then .error .noCondition
  else
    match readDisjunction filters words with
    | .error fault => .error fault
    | .ok (c, []) => .ok c
    | .ok (_, word :: _) => .error (.conditionWord word)

end Condition

end TextTemplate
