import TextTemplate.Expression.Basic
import TextTemplate.Proofs.WrittenVariables

/-!
Expressions read back. An expression is written as its head, followed for each filter by a
bar, the filter's name and perhaps a colon and an argument, with spaces wherever the writer
likes. All parts shield bars and colons, so the bars and colons that divide the parts are
found again, and each part is read as what it was written for.
-/
namespace TextTemplate

open Text Source

/-- A filter of the table, applied with or without an argument, and the spaces around its
name. -/
structure WrittenCall (filters : Expression.FilterTable) where
  name : String
  filter : Filter
  before : Spaces
  after : Spaces
  argument : Option SpacedVariable
  isName : Text.isName name.toList = true
  known : filters name = some filter

namespace WrittenCall

variable {filters : Expression.FilterTable}

def spacedName (c : WrittenCall filters) : List Char :=
  c.before.chars ++ c.name.toList ++ c.after.chars

def written (c : WrittenCall filters) : List Char :=
  match c.argument with
  | none => c.spacedName
  | some argument => c.spacedName ++ ':' :: argument.written

def toCall (c : WrittenCall filters) : FilterCall :=
  ⟨c.name, c.filter, c.argument.map fun argument => argument.inner.toVariable⟩

end WrittenCall

structure WrittenExpression (filters : Expression.FilterTable) where
  head : SpacedVariable
  calls : List (WrittenCall filters)

namespace WrittenExpression

variable {filters : Expression.FilterTable}

def writtenCalls (calls : List (WrittenCall filters)) : List Char :=
  calls.flatMap fun c => '|' :: c.written

def written (e : WrittenExpression filters) : List Char := e.head.written ++ writtenCalls e.calls

end WrittenExpression

namespace WrittenCall

variable {filters : Expression.FilterTable} (c : WrittenCall filters)

theorem isPlain_name : ∀ d ∈ c.name.toList, Variable.IsPlain d :=
  fun d hd => Or.inl (isWordChar_of_isName c.isName d hd)

theorem trim_spacedName : trim c.spacedName = c.name.toList := by
  rw [spacedName, trim_padded c.before.all c.after.all, Variable.trim_of_isPlain c.isPlain_name]

/-- A name with spaces around it holds no character that divides expressions. -/
theorem shields_spacedName {sep : Char} (hsep : Divides sep) : Shields sep c.spacedName := by
  have hname := Variable.shields_of_isPlain c.isPlain_name hsep
  exact ((c.before.shields hsep).append hname).append (c.after.shields hsep)

/-- No bar within a call divides it. -/
theorem shields_bar : Shields '|' c.written := by
  have hname := c.shields_spacedName (divides_of_mem '|' (by decide))
  unfold written
  cases c.argument with
  | none => exact hname
  | some argument =>
    have hcolon : Shields '|' [':'] :=
      shields_of_forall (List.forall_mem_singleton.2 (by decide))
    have hargument := hcolon.append (argument.shields (divides_of_mem '|' (by decide)))
    exact hname.append hargument

/-- The first colon outside of quotations is the one before the argument. -/
theorem splitCall_written :
    Expression.splitCall c.written =
      (c.name.toList, c.argument.map SpacedVariable.written) := by
  have hname := c.shields_spacedName (divides_of_mem ':' (by decide))
  unfold Expression.splitCall written
  cases c.argument with
  | none =>
    dsimp only
    rw [splitUnquotedOnce_of_shields hname, trim_spacedName]
    rfl
  | some argument =>
    dsimp only
    rw [splitUnquotedOnce_append hname]
    exact congrArg (·, some argument.written) c.trim_spacedName

theorem readArgument_written :
    Expression.readArgument c.name (c.argument.map SpacedVariable.written) =
      .ok c.toCall.argument := by
  unfold toCall
  cases c.argument with
  | none => rfl
  | some argument =>
    rw [Option.map_some, Expression.readArgument, argument.read_spaced]
    rfl

/-- A written filter is read with the filter that its name has in the table. -/
theorem readCall_written (text : List Char) :
    Expression.readCall filters text c.written = .ok c.toCall := by
  unfold Expression.readCall
  rw [c.splitCall_written]
  dsimp only
  rw [if_pos c.isName, String.ofList_toList, c.known, c.readArgument_written]
  rfl

end WrittenCall

namespace WrittenExpression

variable {filters : Expression.FilterTable}

/-- The bars that divide an expression are those before its calls. -/
theorem splitUnquoted_written {head : List Char} (hhead : Shields '|' head)
    (calls : List (WrittenCall filters)) :
    splitUnquoted '|' (head ++ writtenCalls calls) = (head, calls.map WrittenCall.written) := by
  induction calls generalizing head with
  | nil =>
    rw [writtenCalls, List.flatMap_nil, List.append_nil]
    exact splitUnquoted_of_shields hhead
  | cons c calls ih =>
    have hrest := ih c.shields_bar
    have hwritten : head ++ writtenCalls (c :: calls) =
        head ++ '|' :: (c.written ++ writtenCalls calls) := by
      rw [writtenCalls, List.flatMap_cons]
      rfl
    rw [hwritten, splitUnquoted_append (by decide) hhead, hrest]
    rfl

/-- Every written form of an expression is read as that expression. -/
theorem read_written (e : WrittenExpression filters) :
    Expression.read filters (String.ofList e.written) =
      .ok ⟨String.ofList (trim e.written), e.head.inner.toVariable,
        e.calls.map WrittenCall.toCall⟩ := by
  have hsplit : splitUnquoted '|' e.written = (e.head.written, e.calls.map WrittenCall.written) :=
    splitUnquoted_written (e.head.shields (divides_of_mem '|' (by decide))) e.calls
  have hhead : Expression.readHead e.head.written = .ok e.head.inner.toVariable := by
    rw [Expression.readHead, e.head.read_spaced]
  have hcalls : (e.calls.map WrittenCall.written).mapM (Expression.readCall filters e.written) =
      .ok (e.calls.map WrittenCall.toCall) :=
    mapM_map_eq_ok fun c _ => c.readCall_written e.written
  rw [Expression.read, String.toList_ofList, Expression.readChars, hsplit]
  dsimp only
  rw [hhead]
  dsimp only
  rw [hcalls]

example :
    let keep : Filter := ⟨.optional, fun v _ _ => .ok v⟩
    let bare : Spaces := ⟨[], nofun⟩
    let blank : Spaces := ⟨[' '], List.forall_mem_singleton.2 rfl⟩
    let e : WrittenExpression (fun _ => some keep) :=
      ⟨⟨bare, .quoted '"' rfl "a|\"", blank⟩,
        [⟨"keep", keep, blank, bare, some ⟨bare, .integer (-2) rfl, bare⟩, by decide, rfl⟩]⟩
    String.ofList e.written = "\"a|\\\"\" | keep:-2" := by
  decide

end WrittenExpression

end TextTemplate
