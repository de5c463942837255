import TextTemplate.Proofs.ConditionWords

/-!
What a condition comes to, and what it looks at on the way. Its truth is that of some part
all of whose factors hold. The operands that it looks at are those of the factors up to the
first one that does not hold, in the parts up to the first one that holds; it fails if one
of them does, and then with the first error among them.
-/
namespace TextTemplate.Condition

variable {scope : Scope}

def throughFirst {α : Type} (p : α → Bool) : List α → List α
  | [] => []
  | a :: rest => if p a then [a] else a :: throughFirst p rest

/-- The value of an operand, or null if it has none. What follows an operand without a value
does not matter, since deciding ends there. -/
def operandValue (scope : Scope) (e : Expression) : Value :=
  match e.resolve scope with
  | .ok v => v
  | .error _ => .null

def Test.operands : Test → List Expression
  | .operand e => [e]
  | .compare left _ right => [left, right]

def Test.truth (scope : Scope) : Test → Bool
  | .operand e => (operandValue scope e).isTruthy
  | .compare left .equal right => (operandValue scope left).equal (operandValue scope right)
  | .compare left .notEqual right => !(operandValue scope left).equal (operandValue scope right)
  | .compare left .isIn right => (operandValue scope right).contains (operandValue scope left)
  | .compare left .notIn right => !(operandValue scope right).contains (operandValue scope left)

def Factor.truth (scope : Scope) (factor : Factor) : Bool :=
  Bool.not^[factor.negations] (factor.test.truth scope)

def factorsTruth (scope : Scope) (factors : Joined Factor) : Bool :=
  factors.all.all fun factor => factor.truth scope

def partsTruth (scope : Scope) (parts : Joined (Joined Factor)) : Bool :=
  parts.all.any fun factors => factorsTruth scope factors

def factorsOperands (scope : Scope) (factors : Joined Factor) : List Expression :=
  (throughFirst (fun factor => !factor.truth scope) factors.all).flatMap fun factor =>
    factor.test.operands

/-- The operands of the parts up to the first one that holds. -/
def partsOperands (scope : Scope) (parts : Joined (Joined Factor)) : List Expression :=
  (throughFirst (fun factors => factorsTruth scope factors) parts.all).flatMap fun factors =>
    factorsOperands scope factors

def firstError (scope : Scope) (es : List Expression) : Option Error :=
  es.findSome? fun e =>
    match e.resolve scope with
    | .ok _ => none
    | .error err => some err

/-- The condition fails with the first error among the expressions, and without one it has
the given truth. -/
def Decides (scope : Scope) (c : Condition) (es : List Expression) (truth : Bool) : Prop :=
  c.holds scope =
    match firstError scope es with
    | some err => .error err
    | none => .ok truth

theorem firstError_append (scope : Scope) (es later : List Expression) :
    firstError scope (es ++ later) = (firstError scope es).or (firstError scope later) :=
  List.findSome?_append

/-- A test looks at its operands from left to right. -/
theorem decides_test (scope : Scope) (test : Test) :
    Decides scope test.toCondition test.operands (test.truth scope) := by
  cases test with
  | operand e =>
    unfold Decides
    simp only [Test.toCondition, holds, Test.operands, firstError, Test.truth, operandValue,
      List.findSome?_singleton]
    cases e.resolve scope <;> rfl
  | compare left op right =>
    unfold Decides
    simp only [Test.toCondition, holds_compare, Test.operands, firstError,
      List.findSome?_cons, List.findSome?_nil]
    -- the truth of a comparison is spelled out for each operator
    cases op with
    | equal | notEqual | isIn | notIn =>
      simp only [Test.truth, operandValue]
      cases left.resolve scope with
      | error err => rfl
      | ok l => cases right.resolve scope <;> rfl

theorem Decides.not {c : Condition} {es : List Expression} {truth : Bool}
    (h : Decides scope c es truth) : Decides scope (.not c) es (!truth) := by
  unfold Decides at h ⊢
  rw [holds, h]
  cases firstError scope es <;> rfl

theorem decides_factor (scope : Scope) (factor : Factor) :
    Decides scope factor.toCondition factor.test.operands (factor.truth scope) := by
  obtain ⟨negations, test⟩ := factor
  unfold Factor.toCondition Factor.truth
  induction negations with
  | zero => exact decides_test scope test
  | succ n ih =>
    simp only [Function.iterate_succ_apply'] at ih ⊢
    exact ih.not

/-- A way to join conditions in which one of the two truths decides if it comes first. -/
def DecidedBy (scope : Scope) (stop : Bool) (join : Condition → Condition → Condition) : Prop :=
  ∀ left right, (join left right).holds scope =
    (left.holds scope).bind fun truth => if truth = stop then .ok stop else right.holds scope

theorem decidedBy_and (scope : Scope) : DecidedBy scope false .and := by
  intro left right
  rw [holds_and]
  rcases left.holds scope with err | _ | _ <;> rfl

theorem decidedBy_or (scope : Scope) : DecidedBy scope true .or := by
  intro left right
  rw [holds_or]
  rcases left.holds scope with err | _ | _ <;> rfl

namespace DecidedBy

variable {stop : Bool} {join : Condition → Condition → Condition}

/-- The right side is looked at unless the left one has decided already. -/
theorem decides (h : DecidedBy scope stop join) {left right : Condition}
    {es later : List Expression} {truth other : Bool} (hleft : Decides scope left es truth)
    (hright : Decides scope right later other) :
    Decides scope (join left right) (if truth = stop then es else es ++ later)
      (if truth = stop then stop else other) := by
  unfold Decides at hleft hright ⊢
  rw [h, hleft]
  by_cases hstop : truth = stop
  · simp only [hstop, if_true]
    cases firstError scope es with
    | some err => rfl
    | none => exact if_pos rfl
  · simp only [hstop, if_false, firstError_append]
    cases firstError scope es with
    | some err => rfl
    | none => simp only [Except.bind, hstop, if_false, hright, Option.none_or]

variable {α : Type} {f : α → Condition} {operands : α → List Expression} {truth : α → Bool}

/-- Once the deciding truth has come up, the parts that follow are not looked at. -/
theorem decides_foldl (h : DecidedBy scope stop join)
    (hparts : ∀ part, Decides scope (f part) (operands part) (truth part)) (parts : List α)
    {left : Condition} {es : List Expression} {before : Bool}
    (hleft : Decides scope left es before) :
    Decides scope (parts.foldl (fun c part => join c (f part)) left)
      (if before = stop then es
        else es ++ (throughFirst (fun part => truth part == stop) parts).flatMap operands)
      (if before = stop ∨ parts.any fun part => truth part == stop then stop else !stop) := by
  induction parts generalizing left es before with
  | nil =>
    have hes : (if before = stop then es else es ++ []) = es := by simp
    have htruth : (if before = stop then stop else !stop) = before := by
      cases before <;> cases stop <;> rfl
    simpa [throughFirst, hes, htruth] using hleft
  | cons part parts ih =>
    have hnext := ih (h.decides hleft (hparts part))
    by_cases hbefore : before = stop
    · simpa [hbefore] using hnext
    · by_cases hpart : truth part = stop
      · simpa [hbefore, hpart, throughFirst] using hnext
      · simpa [hbefore, hpart, throughFirst] using hnext

theorem decides_fold (h : DecidedBy scope stop join)
    (hparts : ∀ part, Decides scope (f part) (operands part) (truth part)) (parts : Joined α) :
    Decides scope (parts.fold join f)
      ((throughFirst (fun part => truth part == stop) parts.all).flatMap operands)
      (if parts.all.any fun part => truth part == stop then stop else !stop) := by
  have hfold := h.decides_foldl hparts parts.others (hparts parts.first)
  by_cases hfirst : truth parts.first = stop
  · simpa [hfirst, Joined.all, Joined.fold, throughFirst] using hfold
  · simpa [hfirst, Joined.all, Joined.fold, throughFirst] using hfold

end DecidedBy

/-- Factors hold together, and the first one that does not hold ends the search. -/
theorem decides_ofFactors (scope : Scope) (factors : Joined Factor) :
    Decides scope (ofFactors factors) (factorsOperands scope factors)
      (factorsTruth scope factors) := by
  have hfold := (decidedBy_and scope).decides_fold (decides_factor scope) factors
  have htruth : (if (factors.all.any fun factor => !factor.truth scope) = true then false
      else true) = factorsTruth scope factors := by
    rw [factorsTruth, List.all_eq_not_any_not]
    cases factors.all.any fun factor => !factor.truth scope <;> rfl
  simp only [beq_false, Bool.not_false, htruth] at hfold
  exact hfold

/-- One part that holds is enough, and the first such part ends the search. -/
theorem decides_ofParts (scope : Scope) (parts : Joined (Joined Factor)) :
    Decides scope (ofParts parts) (partsOperands scope parts) (partsTruth scope parts) := by
  have hfold := (decidedBy_or scope).decides_fold (decides_ofFactors scope) parts
  have htruth : (if (parts.all.any fun factors => factorsTruth scope factors) = true then true
      else false) = partsTruth scope parts := by
    rw [partsTruth]
    cases parts.all.any fun factors => factorsTruth scope factors <;> rfl
  simp only [beq_true, Bool.not_true, htruth] at hfold
  exact hfold

/-- A condition can be read if and only if its words are divided into parts of factors, and
then it is decided as the parts are, with their operands in order. -/
theorem read_decides (filters : Expression.FilterTable) (words : List String) :
    ((∃ c, read filters words = .ok c) ↔ ∃ parts, PartsSpelled filters words parts) ∧
      ∀ c parts, read filters words = .ok c → PartsSpelled filters words parts →
        ∀ scope, Decides scope c (partsOperands scope parts) (partsTruth scope parts) := by
  refine ⟨⟨?_, ?_⟩, ?_⟩
  · rintro ⟨c, hread⟩
    exact partsSpelled_of_read hread
  · rintro ⟨parts, hparts⟩
    exact ⟨ofParts parts, read_of_partsSpelled hparts⟩
  · intro c parts hread hparts scope
    have htree := read_of_partsSpelled hparts
    obtain rfl := Except.ok.inj (hread.symm.trans htree)
    exact decides_ofParts scope parts

/-- A missing name is passed over behind a factor that does not hold, and again behind a
part that holds. In that part each of the four comparisons is decided. -/
theorem read_decides_skipping :
    let filters : Expression.FilterTable := fun _ => none
    let words := ["not", "b", "and", "a", "or", "n", "in", "xs", "and", "b", "not", "in", "xs",
      "and", "n", "!=", "b", "and", "n", "==", "n", "or", "a", "not", "in", "b"]
    let scope : Scope :=
      { root := [("b", .bool true), ("n", .int 1), ("xs", .list [.int 1, .int 2])], strict := true }
    ∃ c, read filters words = .ok c ∧ c.holds scope = .ok true := by
  intro filters words scope
  let a : Expression := ⟨"a", .path ["a"], []⟩
  let b : Expression := ⟨"b", .path ["b"], []⟩
  let n : Expression := ⟨"n", .path ["n"], []⟩
  let xs : Expression := ⟨"xs", .path ["xs"], []⟩
  have ha : IsOperand filters "a" a := ⟨by decide, by rfl⟩
  have hb : IsOperand filters "b" b := ⟨by decide, by rfl⟩
  have hn : IsOperand filters "n" n := ⟨by decide, by rfl⟩
  have hxs : IsOperand filters "xs" xs := ⟨by decide, by rfl⟩
  let compared : Joined Factor :=
    ⟨⟨0, .compare n .isIn xs⟩,
      [⟨0, .compare b .notIn xs⟩, ⟨0, .compare n .notEqual b⟩, ⟨0, .compare n .equal n⟩]⟩
  let parts : Joined (Joined Factor) :=
    ⟨⟨⟨1, .operand b⟩, [⟨0, .operand a⟩]⟩, [compared, ⟨⟨0, .compare a .notIn b⟩, []⟩]⟩
  have hnot : FactorsSpelled filters ["not", "b", "and", "a"] parts.first :=
    .cons ⟨_, rfl, .operand hb⟩ (.cons ⟨_, rfl, .operand ha⟩ .nil)
  have hcompared : FactorsSpelled filters ["n", "in", "xs", "and", "b", "not", "in", "xs",
      "and", "n", "!=", "b", "and", "n", "==", "n"] compared :=
    .cons ⟨_, rfl, .compare .isIn hn hxs⟩ (.cons ⟨_, rfl, .compare .notIn hb hxs⟩
      (.cons ⟨_, rfl, .compare .notEqual hn hb⟩ (.cons ⟨_, rfl, .compare .equal hn hn⟩ .nil)))
  have hlast : FactorsSpelled filters ["a", "not", "in", "b"] ⟨⟨0, .compare a .notIn b⟩, []⟩ :=
    .cons ⟨_, rfl, .compare .notIn ha hb⟩ .nil
  have hparts : PartsSpelled filters words parts :=
    .cons hnot (.cons hcompared (.cons hlast .nil))
  obtain ⟨c, hread⟩ := (read_decides filters words).1.2 ⟨parts, hparts⟩
  have hdecides := (read_decides filters words).2 c parts hread hparts scope
  refine ⟨c, hread, hdecides.trans ?_⟩
  decide +kernel

end TextTemplate.Condition
