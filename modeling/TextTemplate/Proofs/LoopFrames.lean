import TextTemplate.Tree.Render

/-!
The frame of a loop's iteration. It holds the record of the position, and every target hides what
had its name before. As long as no target has the name of the record, the record is found in it,
with the record of the loop around it as its parent.
-/
namespace TextTemplate

namespace Node

theorem get?_bindParts {name : String} {targets : List String} (h : name ∉ targets)
    (frame : Frame) (parts : List Value) :
    Entries.get? (bindParts frame targets parts) name = Entries.get? frame name := by
  induction targets generalizing frame parts with
  | nil => rfl
  | cons target targets ih =>
    obtain ⟨hfirst, hrest⟩ := not_or.1 (mt List.mem_cons.2 h)
    rw [bindParts, ih hrest, Entries.get?_set, if_neg (Ne.symm hfirst)]

/-- The targets of a loop leave other names alone. -/
theorem get?_bindTargets {name : String} {targets : List String} (h : name ∉ targets)
    (frame : Frame) (item : Value) :
    Entries.get? (bindTargets frame targets item) name = Entries.get? frame name := by
  unfold bindTargets
  split
  · rw [Entries.get?_set, if_neg (Ne.symm (List.ne_of_not_mem_cons h))]
  · exact get?_bindParts h _ _
  · exact get?_bindParts h _ _

/-- As long as no target has the name of the record, the record is found in the frame. -/
theorem get?_loopFrame_record {targets : List String} (h : "forloop" ∉ targets)
    (index total : Nat) (parent item : Value) :
    Entries.get? (loopFrame targets index total parent item) "forloop" =
      some (loopRecord index total parent) := by
  rw [loopFrame, get?_bindTargets h]
  rfl

theorem get?_loopFrame_target (target : String) (index total : Nat) (parent item : Value) :
    Entries.get? (loopFrame [target] index total parent item) target = some item :=
  Entries.get?_set_self _ _ _

/-- What a record says about its position. -/
theorem lookup_loopRecord (index total : Nat) (parent : Value) :
    (loopRecord index total parent).lookup "counter" = some (.ofCount (index + 1)) ∧
      (loopRecord index total parent).lookup "counter0" = some (.ofCount index) ∧
      (loopRecord index total parent).lookup "revcounter" = some (.ofCount (total - index)) ∧
      (loopRecord index total parent).lookup "revcounter0" =
        some (.ofCount (total - index - 1)) ∧
      (loopRecord index total parent).lookup "first" = some (.bool (index == 0)) ∧
      (loopRecord index total parent).lookup "last" = some (.bool (index + 1 == total)) ∧
      (loopRecord index total parent).lookup "parentloop" = some parent := by
  refine ⟨?_, ?_, ?_, ?_, ?_, ?_, ?_⟩ <;> rfl

end Node

end TextTemplate
