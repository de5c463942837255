import TextTemplate.Proofs.LoopFrames

/-!
The records of nested loops. In the body of a loop a name leads to the record of the loop, and
each record leads to that of the loop around it. So every loop that encloses a body can be asked
where it stands, and behind the outermost one there is null.
-/
namespace TextTemplate

structure Position where
  index : Nat
  total : Nat
  index_lt : index < total

/-- A record says which iteration is under way, counted from either end and from one or zero,
and whether it is the first or the last one. -/
structure Position.Recorded (p : Position) (record : Value) : Prop where
  counter : record.lookup "counter" = some (.int (p.index + 1))
  counter0 : record.lookup "counter0" = some (.int p.index)
  revcounter : record.lookup "revcounter" = some (.int ((p.total : Int) - p.index))
  revcounter0 : record.lookup "revcounter0" = some (.int ((p.total : Int) - p.index - 1))
  first : record.lookup "first" = some (.bool (decide (p.index = 0)))
  last : record.lookup "last" = some (.bool (decide ((p.index : Int) = p.total - 1)))

def Position.record (p : Position) (parent : Value) : Value :=
  Node.loopRecord p.index p.total parent

/-- The record of the innermost of several loops, which are given from the inside out. -/
def enclosing : List Position → Value
  | [] => .null
  | p :: outer => p.record (enclosing outer)

def loopPath (steps : Nat) : Variable := .path ("forloop" :: List.replicate steps "parentloop")

/-- The scope tells where the enclosing loops stand, which are given from the inside out, and
that there are no others. -/
structure RecordsLoops (positions : List Position) (scope : Scope) : Prop where
  recorded : ∀ steps p, positions[steps]? = some p →
    ∃ record, (loopPath steps).resolve? scope = some record ∧ p.Recorded record
  outermost : (loopPath positions.length).resolve? scope = some .null

/-- The iteration under way is itself one of those that are left, so that there is something to
subtract from. -/
theorem Position.recorded_record (p : Position) (parent : Value) :
    p.Recorded (p.record parent) := by
  obtain ⟨hcounter, hcounter0, hrevcounter, hrevcounter0, hfirst, hlast, _⟩ :=
    Node.lookup_loopRecord p.index p.total parent
  have hlt := p.index_lt
  have hleft : ((p.total - p.index : Nat) : Int) = (p.total : Int) - p.index := by omega
  have hlater : ((p.total - p.index - 1 : Nat) : Int) = (p.total : Int) - p.index - 1 := by omega
  have hend : (p.index + 1 == p.total) = decide ((p.index : Int) = p.total - 1) := by
    rw [Bool.eq_iff_iff, beq_iff_eq, decide_eq_true_iff]
    omega
  rw [Value.ofCount, hleft] at hrevcounter
  rw [Value.ofCount, hlater] at hrevcounter0
  rw [hend] at hlast
  exact ⟨hcounter, hcounter0, hrevcounter, hrevcounter0, hfirst, hlast⟩

theorem Position.lookup_record (p : Position) (parent : Value) :
    (p.record parent).lookup "parentloop" = some parent :=
  (Node.lookup_loopRecord p.index p.total parent).2.2.2.2.2.2

/-- As many steps outwards lead to the record of as many loops further out. -/
theorem follow_enclosing {positions : List Position} {steps : Nat}
    (h : steps ≤ positions.length) :
    (enclosing positions).follow (List.replicate steps "parentloop") =
      some (enclosing (positions.drop steps)) := by
  induction steps generalizing positions with
  | zero => rfl
  | succ steps ih =>
    cases positions with
    | nil => exact absurd h (Nat.not_succ_le_zero steps)
    | cons p outer =>
      rw [List.replicate_succ, enclosing, Value.follow, p.lookup_record, Option.bind_some,
        List.drop_succ_cons]
      exact ih (Nat.le_of_succ_le_succ h)

theorem recordsLoops_of_lookup {positions : List Position} {scope : Scope}
    (h : scope.lookup "forloop" = some (enclosing positions)) :
    RecordsLoops positions scope := by
  have hpath : ∀ steps ≤ positions.length,
      (loopPath steps).resolve? scope = some (enclosing (positions.drop steps)) := by
    intro steps hsteps
    rw [loopPath, Variable.resolve?, h, Option.bind_some, follow_enclosing hsteps]
  refine ⟨?_, ?_⟩
  · intro steps p hp
    obtain ⟨hlt, hget⟩ := List.getElem?_eq_some_iff.1 hp
    have hdrop : positions.drop steps = p :: positions.drop (steps + 1) := by
      rw [List.drop_eq_getElem_cons hlt, hget]
    refine ⟨_, hpath steps (Nat.le_of_lt hlt), ?_⟩
    rw [hdrop]
    exact p.recorded_record _
  · rw [hpath _ (Nat.le_refl _), List.drop_length]
    rfl

/-- Where there is a loop, its record is not null, so that its name is in the scope. -/
theorem recordsLoops_of_innermost {positions : List Position} {scope : Scope}
    (h : Value.ofOption (scope.lookup "forloop") = enclosing positions) (hne : positions ≠ []) :
    RecordsLoops positions scope := by
  refine recordsLoops_of_lookup ?_
  cases hlookup : scope.lookup "forloop" with
  | some record =>
    rw [hlookup] at h
    exact congrArg some h
  | none =>
    rw [hlookup] at h
    cases positions with
    | nil => exact absurd rfl hne
    | cons p outer => exact nomatch h

end TextTemplate
