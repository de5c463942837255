import TextTemplate.Proofs.Completeness
import TextTemplate.Proofs.FilterChains
import TextTemplate.Proofs.LoopFrames
import TextTemplate.Proofs.Substitutions
import TextTemplate.Proofs.WrittenExpressions

/-!
Joining is a loop. A loop that shows each item, and a text after it unless it is the last one,
writes what the filter `join` gives with that text: the filter escapes an item exactly if a loop
would do so when it shows the item, and the record of the loop says for one item only that it is
the last.
-/
namespace TextTemplate

open Render

def Filters.joinCall (sep : String) : FilterCall :=
  ⟨"join", { arity := .required, apply := join }, some (.literal (.safe sep))⟩

namespace Node

/-- The target of a loop, and a text unless the loop is at its last item. -/
def separatedBody (target sep : String) : List Node :=
  [.expression (.ofPath [target]),
    .choice [(.not (.operand (.ofPath ["forloop", "last"])), [.text sep])] none]

def separatedLoop (target : String) (items : Expression) (sep : String) : Node :=
  .loop [target] items false (separatedBody target sep) none

end Node

theorem Filters.resolve_joinCall {scope : Scope} {e : Expression} {items : List Value}
    (h : e.resolve scope = .ok (.list items)) (source sep : String) :
    (⟨source, e.head, e.calls ++ [joinCall sep]⟩ : Expression).resolve scope =
      .ok (joined scope.autoescape sep items) := by
  rw [Expression.resolve_append, h]
  rfl

/-- The joined text is not escaped again. -/
theorem Filters.shown_joined (autoescape : Bool) (sep : String) (items : List Value) :
    shown autoescape (joined autoescape sep items) =
      String.intercalate sep (items.map (shown autoescape)) := by
  cases autoescape with
  | false => rfl
  | true => rfl

namespace Node

theorem resolve_ofPath (scope : Scope) {name : String} {rest : List String} {v w : Value}
    (hlookup : scope.lookup name = some v) (hfollow : v.follow rest = some w) :
    (Expression.ofPath (name :: rest)).resolve scope = .ok w := by
  have hfound : (Variable.path (name :: rest)).resolve? scope = some w := by
    rw [Variable.resolve?, hlookup, Option.bind_some, hfollow]
  have hhead : (Variable.path (name :: rest)).resolve scope = .ok w := by
    rw [Variable.resolve, hfound]
  rw [Expression.resolve, Expression.ofPath, hhead]
  rfl

/-- In the frame of an iteration the target is the item, and the record tells the last one. -/
theorem resolve_in_loopFrame {target : String} (htarget : target ≠ "forloop") (scope : Scope)
    (index total : Nat) (parent item : Value) :
    let inner := scope.push (loopFrame [target] index total parent item)
    (Expression.ofPath [target]).resolve inner = .ok item ∧
      (Condition.not (.operand (.ofPath ["forloop", "last"]))).holds inner =
        .ok (index + 1 != total) := by
  intro inner
  have hother : "forloop" ∉ [target] := mt List.mem_singleton.1 (Ne.symm htarget)
  have hitem : inner.lookup target = some item := by
    rw [Scope.lookup_push, get?_loopFrame_target, Option.some_or]
  have hrecord : inner.lookup "forloop" = some (loopRecord index total parent) := by
    rw [Scope.lookup_push, get?_loopFrame_record hother, Option.some_or]
  have hlast : (loopRecord index total parent).follow ["last"] =
      some (.bool (index + 1 == total)) := rfl
  refine ⟨resolve_ofPath inner hitem rfl, ?_⟩
  rw [Condition.holds, Condition.holds, resolve_ofPath inner hrecord hlast]
  rfl

variable (fetch : String → Render Unit) {output : Output}

/-- In an iteration, the body writes the item and, unless it is the last one, the text after it. -/
theorem renderAll_separatedBody (scope : Scope) {target : String} (htarget : target ≠ "forloop")
    (sep : String) (index total : Nat) (parent item : Value) (hout : output.TakesAll) :
    let inner := scope.push (loopFrame [target] index total parent item)
    ∃ out, renderAll fetch (separatedBody target sep) ⟨inner, output⟩ = (.ok (), ⟨inner, out⟩) ∧
      out.TakesAll ∧ out.text = output.text ++
        (shown scope.autoescape item ++ if index + 1 = total then "" else sep) := by
  intro inner
  obtain ⟨hitem, hlast⟩ := resolve_in_loopFrame htarget scope index total parent item
  obtain ⟨shownOut, hshown, hshownAll, hshownText⟩ :=
    write_of_takesAll (s := ⟨inner, output⟩) hout .value (shown scope.autoescape item)
  have hfirst : render fetch (.expression (.ofPath [target])) ⟨inner, output⟩ =
      (.ok (), ⟨inner, shownOut⟩) := by
    rw [render_expression_run, hitem]
    exact hshown
  have hchoice := @render_choice_run fetch
    [(.not (.operand (.ofPath ["forloop", "last"])), [.text sep])] none ⟨inner, shownOut⟩
  rw [chosen, hlast] at hchoice
  by_cases hend : index + 1 = total
  · rw [bne_eq_false_iff_eq.2 hend] at hchoice
    refine ⟨shownOut, ?_, hshownAll, ?_⟩
    · exact (Attempt.bind_of_ok hfirst).trans (Attempt.bind_of_ok hchoice)
    · rw [hshownText, if_pos hend, String.append_empty]
  · rw [bne_iff_ne.2 hend] at hchoice
    obtain ⟨out, hwrite, hall, htext⟩ :=
      write_of_takesAll (s := ⟨inner, shownOut⟩) hshownAll .template sep
    have hsep : renderOptional fetch (some [.text sep]) ⟨inner, shownOut⟩ =
        (.ok (), ⟨inner, out⟩) := Attempt.bind_of_ok hwrite
    refine ⟨out, ?_, hall, ?_⟩
    · exact (Attempt.bind_of_ok hfirst).trans (Attempt.bind_of_ok (hchoice.trans hsep))
    · rw [htext, hshownText, if_neg hend, String.append_assoc]

/-- The iterations that are left write the items that are left, with the text between them. -/
theorem iterate_separatedBody (scope : Scope) {target : String} (htarget : target ≠ "forloop")
    (sep : String) (total : Nat) (parent : Value) {index : Nat} {items : List Value}
    (htotal : index + items.length = total) (hout : output.TakesAll) :
    ∃ out, iterate (renderAll fetch (separatedBody target sep)) [target] total parent index items
        ⟨scope, output⟩ = (.ok (), ⟨scope, out⟩) ∧
      out.text = output.text ++
        String.intercalate sep (items.map (shown scope.autoescape)) := by
  induction items generalizing index output with
  | nil => exact ⟨output, rfl, (String.append_empty).symm⟩
  | cons item items ih =>
    rw [List.length_cons] at htotal
    obtain ⟨between, hbody, hbetween, hitemText⟩ :=
      renderAll_separatedBody fetch scope htarget sep index total parent item hout
    have hitem : within (loopFrame [target] index total parent item)
        (renderAll fetch (separatedBody target sep)) ⟨scope, output⟩ = (.ok (), ⟨scope, between⟩) :=
      within_run hbody
    have hleft : index + 1 + items.length = total := by omega
    obtain ⟨out, hrest, hrestText⟩ := ih hleft hbetween
    refine ⟨out, (Attempt.bind_of_ok hitem).trans hrest, ?_⟩
    rw [hrestText, hitemText, List.map_cons]
    cases items with
    | nil =>
      have hend : index + 1 = total := by simpa using htotal
      simp [hend]
    | cons next items =>
      have hmore : index + 1 ≠ total := by
        rw [List.length_cons] at htotal
        omega
      rw [if_neg hmore, List.map_cons, String.intercalate_cons_cons]
      simp only [String.append_assoc]

theorem render_separatedLoop {scope : Scope} {target : String} (htarget : target ≠ "forloop")
    (sep : String) {e : Expression} {items : List Value}
    (h : e.resolve scope = .ok (.list items)) (hout : output.TakesAll) :
    ∃ out, render fetch (separatedLoop target e sep) ⟨scope, output⟩ = (.ok (), ⟨scope, out⟩) ∧
      out.text = output.text ++
        String.intercalate sep (items.map (shown scope.autoescape)) := by
  have hrun := @render_loop_run fetch [target] e false (separatedBody target sep) none
    ⟨scope, output⟩
  have hitems : orderedItems [target] false (.list items) = items := rfl
  rw [h] at hrun
  dsimp only at hrun
  rw [hitems] at hrun
  by_cases hempty : items = []
  · subst hempty
    exact ⟨output, hrun, (String.append_empty).symm⟩
  · rw [if_neg hempty] at hrun
    obtain ⟨out, hiterate, htext⟩ := iterate_separatedBody fetch scope
      htarget sep items.length (Value.ofOption (scope.lookup "forloop"))
      (Nat.zero_add items.length) hout
    exact ⟨out, hrun.trans hiterate, htext⟩

end Node

namespace Context

/-- To an output that takes everything, joining the items of a list with a quoted text writes the
text that a loop over the list does that shows each item and, unless it is the last one, that text
after it: the items as they are shown, with the text between them. Both leave the context alone. -/
theorem renderTo_join (ctx : Context) {e : Expression} {items : List Value}
    (hitems : e.resolve ctx.scope = .ok (.list items)) {target : String}
    (htarget : target ≠ "forloop") (source sep : String) (depth : Nat) {output : Output}
    (hout : output.TakesAll) :
    ∃ out out', ctx.renderTo depth
          [.expression ⟨source, e.head, e.calls ++ [Filters.joinCall sep]⟩] output =
        (.ok (), out, ctx) ∧
      ctx.renderTo depth [.separatedLoop target e sep] output = (.ok (), out', ctx) ∧
      out.text = out'.text ∧ out.text = output.text ++
        String.intercalate sep (items.map (Render.shown ctx.scope.autoescape)) := by
  have hjoined := Filters.resolve_joinCall hitems source sep
  obtain ⟨out, hwrite, _, htext⟩ := write_of_takesAll (s := ⟨ctx.scope, output⟩) hout .value
    (shown ctx.scope.autoescape (Filters.joined ctx.scope.autoescape sep items))
  obtain ⟨out', hloop, htext'⟩ := Node.render_separatedLoop (ctx.fetch depth) htarget sep
    hitems hout
  rw [Filters.shown_joined] at htext
  refine ⟨out, out', ?_, ?_, htext.trans htext'.symm, htext⟩
  · have hnode : Node.render (ctx.fetch depth)
        (.expression ⟨source, e.head, e.calls ++ [Filters.joinCall sep]⟩) ⟨ctx.scope, output⟩ =
          (.ok (), ⟨ctx.scope, out⟩) := by
      rw [Node.render_expression_run, hjoined]
      exact hwrite
    rw [renderTo, Node.renderAll, Attempt.bind_of_ok hnode]
    rfl
  · rw [renderTo, Node.renderAll, Attempt.bind_of_ok hloop]
    rfl

def breakingLoop : Item :=
  .loop ⟨.tag .block, "for x in items", 1⟩ ⟨["x"], "items", false⟩ (.ofPath ["items"])
    [.expression ⟨.tag .expression, "x", 1⟩ (.ofPath ["x"]),
      .choice ⟨.tag .block, "if not forloop.last", 1⟩
        (.not (.operand (.ofPath ["forloop", "last"]))) [.text ⟨.text, "<br>", 1⟩] [] none
        ⟨.tag .block, "endif", 1⟩]
    none ⟨.tag .block, "endfor", 1⟩

def breakingJoin : Item :=
  .expression ⟨.tag .expression, "items|join:'<br>'", 1⟩
    ⟨"items|join:'<br>'", .path ["items"], [Filters.joinCall "<br>"]⟩

theorem derives_breaking :
    Item.Derives Engine.withDefaults.catalog.filter? [breakingLoop]
        (Token.scan false ("{% for x in items %}{{ x }}{% if not forloop.last %}<br>{% endif %}" ++
          "{% endfor %}")) ∧
      Item.Derives Engine.withDefaults.catalog.filter? [breakingJoin]
        (Token.scan false "\x7b\x7b items|join:'<br>' \x7d\x7d") := by
  refine ⟨⟨⟨?_, trivial⟩, by decide +kernel⟩, ⟨⟨⟨rfl, ?_⟩, trivial⟩, by decide +kernel⟩⟩
  · refine ⟨rfl, ⟨rfl, rfl⟩, ⟨⟨rfl, rfl⟩, ?_, trivial⟩, trivial, rfl⟩
    refine ⟨rfl, by with_unfolding_all rfl, ⟨rfl, trivial⟩, trivial, trivial, ?_, rfl⟩
    exact fun _ hmem => nomatch hmem
  · let bare : Spaces := ⟨[], nofun⟩
    let call : WrittenCall Engine.withDefaults.catalog.filter? :=
      ⟨"join", _, bare, bare, some ⟨bare, .quoted '\x27' rfl "<br>", bare⟩, by decide, rfl⟩
    have hparts : Source.splitUnquoted '|' "items|join:'<br>'".toList =
        ("items".toList, [call.written]) := by
      decide +kernel
    rw [Expression.read_eq_ok_iff, hparts, List.mapM_cons, call.readCall_written]
    exact ⟨rfl, rfl, by decide +kernel⟩

/-- A list with a text that is escaped, one that is safe, a null, a list and a map in it. -/
theorem renderTo_join_breaks :
    let items : List Value :=
      [.str "<i>", .safe "<b>", .null, .list [.str "&", .int 2], .map [("k", .bool true)]]
    let ctx : Context := { scope := { root := [("items", .list items)] } }
    let catalog := Engine.withDefaults.catalog
    ∃ join loop, catalog.compile false "\x7b\x7b items|join:'<br>' \x7d\x7d" = .ok [join] ∧
      catalog.compile false
        ("{% for x in items %}{{ x }}{% if not forloop.last %}<br>{% endif %}" ++
          "{% endfor %}") = .ok [loop] ∧
      ∃ out out', ctx.renderTo 0 [join] {} = (.ok (), out, ctx) ∧
        ctx.renderTo 0 [loop] {} = (.ok (), out', ctx) ∧ out.text = out'.text ∧
        out.text = "&lt;i&gt;<br><b><br><br>[&amp;, 2]<br>\x7bk: true\x7d" := by
  intro items ctx catalog
  have hitems : (Expression.ofPath ["items"]).resolve ctx.scope = .ok (.list items) := rfl
  have hout : Output.TakesAll {} := ⟨rfl, fun _ _ => rfl⟩
  obtain ⟨out, out', hjoin, hloop, hsame, htext⟩ :=
    renderTo_join ctx hitems (by decide : "x" ≠ "forloop") "items|join:'<br>'" "<br>" 0 hout
  have hcatalog := Engine.withDefaults_hasStandardTags
  refine ⟨_, _, Catalog.compile_of_derives hcatalog derives_breaking.2,
    Catalog.compile_of_derives hcatalog derives_breaking.1, out, out', hjoin, hloop, hsame, ?_⟩
  rw [htext]
  decide +kernel

end Context

end TextTemplate
