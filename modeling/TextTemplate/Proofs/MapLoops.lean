import TextTemplate.Proofs.LetBindings

/-!
Loops over maps. A loop with several targets goes through the entries of a map, one with a single
target through its names, and so do loops over the values of the methods `items` and `keys`, to
which a further step of a path leads unless the map has an entry of that name. A name behind a
point is such a step, for whoever reads the path, if it has a letter that stands in no number.
-/
namespace TextTemplate

open Text Source

namespace Variable

/-- A path begins with no mark. Nothing else that is read gives a path. -/
theorem readTrimmed_eq_path {cs : List Char} {names : List String}
    (h : readTrimmed cs = .ok (.path names)) :
    ∃ c rest, cs = c :: rest ∧ Quotation.isQuote c = false ∧ readPath cs = .ok (.path names) := by
  unfold readTrimmed at h
  split at h
  · simp at h
  · rename_i c rest
    split at h
    · unfold readText at h
      split at h
      · simp at h
      · split at h
        · simp at h
        · simp at h
    · rename_i hquote
      split at h
      · simp at h
      · exact ⟨c, rest, rfl, by simpa using hquote, h⟩

theorem readPath_append {cs : List Char} {names : List String}
    (h : readPath cs = .ok (.path names)) {name : String} (hne : name.toList ≠ [])
    (hword : ∀ c ∈ name.toList, isWordChar c = true) :
    readPath (cs ++ '.' :: name.toList) = .ok (.path (names ++ [name])) := by
  obtain ⟨found, hfound, hnames⟩ := Condition.eq_ok_of_map_eq_ok h
  obtain rfl := Variable.path.inj hnames
  have hpoint : '.' ∉ name.toList := fun hmem => absurd (hword '.' hmem) (by decide)
  have hsplit : splitOnChar '.' (cs ++ '.' :: name.toList) =
      splitOnChar '.' cs ++ [name.toList] := by
    rw [splitOnChar_eq_splitOn, List.splitOn_append_cons_self, List.splitOn_eq_singleton hpoint,
      splitOnChar_eq_splitOn]
  have hbefore : (splitOnChar '.' cs).mapM (readName (cs ++ '.' :: name.toList)) =
      .ok found := by
    refine mapM_eq_ok_of_imp ?_ hfound
    exact fun piece s hread => readName_eq_ok_iff.2 (readName_eq_ok_iff.1 hread)
  have hlast : [name.toList].mapM (readName (cs ++ '.' :: name.toList)) = .ok [name] := by
    rw [List.mapM_cons, readName_word hne hword]
    rfl
  have hall := mapM_append_eq_ok_iff.2 ⟨found, [name], hbefore, hlast, rfl⟩
  rw [readPath, hsplit, hall]
  rfl

/-- A further name is a further step, if it keeps the text from being read as a number. -/
theorem readTrimmed_append {cs : List Char} {names : List String}
    (h : readTrimmed cs = .ok (.path names)) {name : String}
    (hword : ∀ c ∈ name.toList, isWordChar c = true)
    (hletter : ∃ c ∈ name.toList, Decimal.isNumeral c = false) :
    readTrimmed (cs ++ '.' :: name.toList) = .ok (.path (names ++ [name])) := by
  obtain ⟨letter, hmem, hnumeral⟩ := hletter
  obtain ⟨c, rest, rfl, hquote, hpath⟩ := readTrimmed_eq_path h
  have hread := readPath_append hpath (List.ne_nil_of_mem hmem) hword
  have hnumber : readNumber (c :: rest ++ '.' :: name.toList) = none := by
    refine Option.eq_none_iff_forall_ne_some.2 ?_
    intro v hv
    have hletter := isNumeral_of_readNumber hv letter
      (List.mem_append_right _ (List.mem_cons_of_mem _ hmem))
    rw [hnumeral] at hletter
    exact absurd hletter Bool.false_ne_true
  rw [List.cons_append] at hread hnumber ⊢
  rw [readTrimmed, hquote, if_neg Bool.false_ne_true, hnumber, hread]

end Variable

namespace Expression

variable {filters : FilterTable}

theorem readTrimmed_of_read {text : String} {e : Expression} (h : read filters text = .ok e)
    (hcalls : e.calls = []) : Variable.readTrimmed e.source.toList = .ok e.head := by
  obtain ⟨hhead, hparts, hsource⟩ := read_eq_ok_iff.1 h
  have hpieces : text.toList = (splitUnquoted '|' text.toList).1 ++
      (splitUnquoted '|' text.toList).2.flatMap ('|' :: ·) :=
    eq_append_splitFrom .outside text.toList
  have hnothing : (splitUnquoted '|' text.toList).2 = [] := by
    rw [hcalls] at hparts
    cases hlater : (splitUnquoted '|' text.toList).2 with
    | nil => rfl
    | cons part parts =>
      rw [hlater] at hparts
      obtain ⟨call, rest, _, _, hcons⟩ := mapM_cons_eq_ok hparts
      exact absurd hcons (List.cons_ne_nil call rest).symm
  rw [hnothing, List.flatMap_nil, List.append_nil] at hpieces
  rw [← hpieces] at hhead
  rw [hsource, String.toList_ofList]
  exact hhead

/-- A name written behind a path, with a point in between, is the path's next step. -/
theorem read_append_name {text : String} {e : Expression} (h : read filters text = .ok e)
    {names : List String} (hhead : e.head = .path names) (hcalls : e.calls = []) {name : String}
    (hword : ∀ c ∈ name.toList, isWordChar c = true)
    (hletter : ∃ c ∈ name.toList, Decimal.isNumeral c = false) :
    read filters (e.source ++ "." ++ name) =
      .ok ⟨e.source ++ "." ++ name, .path (names ++ [name]), []⟩ := by
  have hread := readTrimmed_of_read h hcalls
  rw [hhead] at hread
  have hlonger := Variable.readTrimmed_append hread hword hletter
  have htext : e.source.toList ++ '.' :: name.toList = (e.source ++ "." ++ name).toList := by
    simp
  obtain ⟨_, _, _, _, hpath⟩ := Variable.readTrimmed_eq_path hlonger
  rw [htext] at hlonger hpath
  exact read_of_isPlain filters (Variable.isPlain_of_readPath hpath) hlonger

end Expression

namespace Value

theorem follow_append (v : Value) (names later : List String) :
    v.follow (names ++ later) = (v.follow names).bind fun w => w.follow later := by
  induction names generalizing v with
  | nil => rfl
  | cons name names ih =>
    rw [List.cons_append, follow, follow, Option.bind_assoc]
    exact congrArg (Option.bind (v.lookup name)) (funext ih)

/-- Without an entry of that name, a name of a map leads to a method. -/
theorem lookup_map {entries : List (String × Value)} {name : String}
    (h : Entries.get? entries name = none) :
    (Value.map entries).lookup name = (Value.map entries).method name := by
  rw [lookup, element, h]
  rfl

end Value

namespace Variable

variable {scope : Scope}

/-- Only a path that leads nowhere has a value without being followed, which is null. -/
theorem resolve?_of_resolve {x : Variable} {v : Value} (h : x.resolve scope = .ok v)
    (hv : v ≠ .null) : x.resolve? scope = some v := by
  unfold resolve at h
  split at h
  · rename_i found hfound
    obtain rfl := Except.ok.inj h
    exact hfound
  · split at h
    · simp at h
    · exact absurd (Except.ok.inj h).symm hv

theorem resolve?_append {names : List String} {v : Value}
    (h : (path names).resolve? scope = some v) (name : String) :
    (path (names ++ [name])).resolve? scope = v.lookup name := by
  cases names with
  | nil => simp [resolve?] at h
  | cons first rest =>
    obtain ⟨start, hstart, hfollow⟩ := Option.bind_eq_some_iff.1 h
    rw [List.cons_append, resolve?, hstart, Option.bind_some, Value.follow_append, hfollow,
      Option.bind_some, Value.follow]
    exact Option.bind_fun_some _

end Variable

namespace Expression

variable {scope : Scope} {e : Expression}

theorem resolve_of_calls_eq_nil (h : e.calls = []) : e.resolve scope = e.head.resolve scope := by
  rw [resolve, h]
  cases e.head.resolve scope <;> rfl

theorem resolve_append_name {names : List String} (hhead : e.head = .path names)
    (hcalls : e.calls = []) {v w : Value} (h : e.resolve scope = .ok v) (hv : v ≠ .null)
    {name : String} (hname : v.lookup name = some w) (source : String) :
    (⟨source, .path (names ++ [name]), []⟩ : Expression).resolve scope = .ok w := by
  rw [resolve_of_calls_eq_nil hcalls, hhead] at h
  have hfound := Variable.resolve?_append (Variable.resolve?_of_resolve h hv) name
  rw [resolve_of_calls_eq_nil rfl, Variable.resolve, hfound, hname]

end Expression

namespace Node

variable {fetch : String → Render Unit}

/-- A loop depends on its expression only through the items it goes through. -/
theorem render_loop_congr {targets : List String} {s : RenderState} {e e' : Expression}
    {v v' : Value} (h : e.resolve s.scope = .ok v) (h' : e'.resolve s.scope = .ok v')
    (hitems : loopItems targets v = loopItems targets v') (reversed : Bool) (body : List Node)
    (empty : Option (List Node)) :
    render fetch (.loop targets e reversed body empty) s =
      render fetch (.loop targets e' reversed body empty) s := by
  have hordered : orderedItems targets reversed v = orderedItems targets reversed v' := by
    rw [orderedItems, orderedItems, hitems]
  rw [render_loop_run, render_loop_run, h, h']
  dsimp only
  rw [hordered]

theorem loopItems_pairs {targets : List String} (h : 1 < targets.length)
    (entries : List (String × Value)) :
    loopItems targets (.map entries) = loopItems targets (Value.pairs entries) := by
  rw [loopItems, if_pos h]
  rfl

theorem loopItems_mapNames {targets : List String} (h : targets.length = 1)
    (entries : List (String × Value)) :
    loopItems targets (.map entries) = loopItems targets (Value.mapNames entries) := by
  rw [loopItems, if_neg (by omega)]
  rfl

end Node

namespace Context

/-- A loop over a map renders as the same loop over the value of a method does that has the same
items, to whatever output: the same text, the same error and the same context afterwards. -/
theorem renderTo_loop_method (ctx : Context) {filters : Expression.FilterTable} {text : String}
    {e : Expression} (hread : Expression.read filters text = .ok e) {names : List String}
    (hhead : e.head = .path names) (hcalls : e.calls = []) {entries : List (String × Value)}
    (hmap : e.resolve ctx.scope = .ok (.map entries)) (name : String)
    (hword : ∀ c ∈ name.toList, isWordChar c = true)
    (hletter : ∃ c ∈ name.toList, Decimal.isNumeral c = false)
    (hnone : Entries.get? entries name = none) {v : Value}
    (hmethod : (Value.map entries).method name = some v) {targets : List String}
    (hitems : Node.loopItems targets (.map entries) = Node.loopItems targets v) (reversed : Bool)
    (body : List Node) (empty : Option (List Node)) :
    ∃ e', Expression.read filters (e.source ++ "." ++ name) = .ok e' ∧ ∀ depth output,
      ctx.renderTo depth [.loop targets e reversed body empty] output =
        ctx.renderTo depth [.loop targets e' reversed body empty] output := by
  refine ⟨_, Expression.read_append_name hread hhead hcalls hword hletter, ?_⟩
  have hname := (Value.lookup_map hnone).trans hmethod
  have hvalue := Expression.resolve_append_name hhead hcalls hmap nofun hname
    (e.source ++ "." ++ name)
  intro depth output
  rw [renderTo, renderTo, Node.renderAll_singleton, Node.renderAll_singleton,
    Node.render_loop_congr (s := ⟨ctx.scope, output⟩) hmap hvalue hitems reversed body empty]

/-- A loop with several targets over a map renders as the loop over the map's `items` does, unless
the map has an entry of that name, and a loop with one target as the loop over its `keys` does,
under the same condition: with the same body in the same order, to the same text or error. -/
theorem renderTo_loop_map (ctx : Context) {filters : Expression.FilterTable} {text : String}
    {e : Expression} (hread : Expression.read filters text = .ok e) {names : List String}
    (hhead : e.head = .path names) (hcalls : e.calls = []) {entries : List (String × Value)}
    (hmap : e.resolve ctx.scope = .ok (.map entries)) (targets : List String) (reversed : Bool)
    (body : List Node) (empty : Option (List Node)) :
    (1 < targets.length → Entries.get? entries "items" = none →
      ∃ e', Expression.read filters (e.source ++ ".items") = .ok e' ∧ ∀ depth output,
        ctx.renderTo depth [.loop targets e reversed body empty] output =
          ctx.renderTo depth [.loop targets e' reversed body empty] output) ∧
    (targets.length = 1 → Entries.get? entries "keys" = none →
      ∃ e', Expression.read filters (e.source ++ ".keys") = .ok e' ∧ ∀ depth output,
        ctx.renderTo depth [.loop targets e reversed body empty] output =
          ctx.renderTo depth [.loop targets e' reversed body empty] output) := by
  have htext : ∀ name, e.source ++ "." ++ name = e.source ++ ("." ++ name) :=
    fun name => String.append_assoc
  refine ⟨?_, ?_⟩
  · intro htargets hnone
    have hitems := ctx.renderTo_loop_method hread hhead hcalls hmap "items"
      (List.all_eq_true.1 (by decide)) ⟨'s', by decide, by decide⟩ hnone rfl
      (Node.loopItems_pairs htargets entries) reversed body empty
    rwa [htext] at hitems
  · intro htargets hnone
    have hkeys := ctx.renderTo_loop_method hread hhead hcalls hmap "keys"
      (List.all_eq_true.1 (by decide)) ⟨'s', by decide, by decide⟩ hnone rfl
      (Node.loopItems_mapNames htargets entries) reversed body empty
    rwa [htext] at hkeys

/-- In a strict context, with a target that has no part in the entries. -/
theorem renderTo_loop_map_settings :
    let settings : List (String × Value) := [("home", .str "<root>"), ("depth", .int 3)]
    let ctx : Context :=
      { scope := { root := [("cfg", .map [("env", .map settings)])], strict := true } }
    let e : Expression := .ofPath ["cfg", "env"]
    let entry : List Node :=
      [.expression (.ofPath ["k"]), .text "=", .expression (.ofPath ["v"]),
        .expression (.ofPath ["w"]), .text ";"]
    let name : List Node := [.expression (.ofPath ["k"]), .text " "]
    Expression.read (fun _ => none) "cfg.env" = .ok e ∧
      (∃ e', Expression.read (fun _ => none) "cfg.env.items" = .ok e' ∧
        (∀ depth output, ctx.renderTo depth [.loop ["k", "v", "w"] e true entry none] output =
          ctx.renderTo depth [.loop ["k", "v", "w"] e' true entry none] output) ∧
        (ctx.renderTo 0 [.loop ["k", "v", "w"] e' true entry none] {}).2.1.text =
          "depth=3;home=&lt;root&gt;;") ∧
      ∃ e', Expression.read (fun _ => none) "cfg.env.keys" = .ok e' ∧
        (∀ depth output, ctx.renderTo depth [.loop ["k"] e false name none] output =
          ctx.renderTo depth [.loop ["k"] e' false name none] output) ∧
        (ctx.renderTo 0 [.loop ["k"] e' false name none] {}).2.1.text = "home depth " := by
  intro settings ctx e entry name
  have hread : Expression.read (fun _ => none) "cfg.env" = .ok e := by rfl
  have hmap : e.resolve ctx.scope = .ok (.map settings) := rfl
  obtain ⟨items, hitems, hentries⟩ := (ctx.renderTo_loop_map hread rfl rfl hmap
    ["k", "v", "w"] true entry none).1 (by decide) (by decide)
  obtain ⟨keys, hkeys, hnames⟩ := (ctx.renderTo_loop_map hread rfl rfl hmap
    ["k"] false name none).2 (by decide) (by decide)
  refine ⟨hread, ⟨items, hitems, hentries, ?_⟩, ⟨keys, hkeys, hnames, ?_⟩⟩
  · rw [← hentries]
    decide +kernel
  · rw [← hnames]
    decide +kernel

end Context

end TextTemplate
