import TextTemplate.Proofs.TemplateDesks

/-!
The life of replaceable templates. A ledger takes notes of what a desk is asked for: which
identity a handle stands for, and for each identity the name, the text that it was made of and
all texts that were to replace it. It never changes a template: what an identity shows is the
last of its texts that can be read, with what was there to read it with at the time. Each request
keeps the desk and its ledger in agreement, and so the desk answers any requests as its ledger
does.
-/
namespace TextTemplate

structure Record where
  name : String
  original : Draft
  replacements : List Draft := []

namespace Record

def current (record : Record) : Option Template :=
  (record.replacements.reverse ++ [record.original]).findSome? fun draft =>
    (draft.template record.name).toOption

def note (record : Record) (draft : Draft) : Record :=
  { record with replacements := record.replacements ++ [draft] }

theorem current_of_new (name : String) (draft : Draft) :
    current { name := name, original := draft } = (draft.template name).toOption :=
  List.findSome?_singleton

theorem current_note (record : Record) (draft : Draft) :
    (record.note draft).current = (draft.template record.name).toOption.or record.current := by
  simp only [current, note, List.reverse_append, List.reverse_singleton, List.cons_append,
    List.findSome?_cons]
  cases (draft.template record.name).toOption <;> rfl

/-- Whatever text is shown, it is shown under the name of the record. -/
theorem name_of_current {record : Record} {template : Template}
    (h : record.current = some template) : template.name = record.name := by
  obtain ⟨draft, -, hdraft⟩ := List.exists_of_findSome?_eq_some h
  cases htemplate : draft.template record.name with
  | error e => simp [htemplate, Except.toOption] at hdraft
  | ok found =>
    obtain rfl : found = template := by simpa [htemplate, Except.toOption] using hdraft
    exact (Template.of_compile htemplate).1

end Record

/-- Notes of what was asked of a desk: the engine, a record of each identity, and the
identities for which the handles stand. -/
structure Ledger where
  engine : Engine
  records : List Record := []
  held : List Nat := []

namespace Ledger

def record? (ledger : Ledger) (slot : Nat) : Option Record :=
  ledger.held[slot]?.bind fun identity => ledger.records[identity]?

/-- A new identity, if its text can be read. -/
def enter (ledger : Ledger) (name : String) (draft : Draft) : Desk.Answer × Ledger :=
  match draft.read with
  | .error e => (.failed e, ledger)
  | .ok _ =>
    (.done,
      { ledger with
        records := ledger.records ++ [{ name := name, original := draft }]
        held := ledger.held ++ [ledger.records.length] })

/-- A text that is to replace the content of an identity is noted in any case. -/
def amend (ledger : Ledger) (identity : Nat) (draft : Draft) : Desk.Answer × Ledger :=
  (match draft.read with
    | .error e => .failed e
    | .ok _ => .done,
    { ledger with records := ledger.records.modify identity fun record => record.note draft })

def through (ledger : Ledger) (slot : Nat) (serve : Nat → Desk.Answer × Ledger) :
    Desk.Answer × Ledger :=
  match ledger.held[slot]? with
  | none => (.noHandle, ledger)
  | some identity => serve identity

def serve (ledger : Ledger) : Desk.Request → Desk.Answer × Ledger
  | .create name source => ledger.enter name (ledger.engine.draft source)
  | .wrap name draft => ledger.enter name draft
  | .load name =>
    match Loader.firstText? name ledger.engine.loaders with
    | none => (.failed (.templateNotFound name), ledger)
    | some source => ledger.enter name (ledger.engine.draft source)
  | .clone slot =>
    ledger.through slot fun identity => (.done, { ledger with held := ledger.held ++ [identity] })
  | .replace slot source =>
    ledger.through slot fun identity => ledger.amend identity (ledger.engine.draft source)
  | .replaceWith slot draft => ledger.through slot fun identity => ledger.amend identity draft
  | .operate op => (.done, { ledger with engine := op.run ledger.engine })
  | .addLoader loader => (.done, { ledger with engine := ledger.engine.addLoader loader })
  | .render slot ctx output =>
    (.about (ledger.record? slot) fun record =>
      .about record.current fun template =>
        .rendered (ctx.renderTo Engine.includeDepth template.nodes output), ledger)
  | .name slot => (.about (ledger.record? slot) fun record => .named record.name, ledger)
  | .same slot other =>
    (.about ledger.held[slot]? fun identity =>
      .about ledger.held[other]? fun identity' => .compared (identity = identity'), ledger)

def serveAll : Ledger → List Desk.Request → List Desk.Answer × Ledger :=
  Desk.answerAll serve

end Ledger

structure Desk.Agrees (desk : Desk) (ledger : Ledger) : Prop where
  engine : ledger.engine = desk.engine
  held : ledger.held = desk.held.map Handle.index
  current : ledger.records.map Record.current = desk.store.contents.map some
  known : ∀ handle ∈ desk.held, handle.index < desk.store.contents.length

structure Desk.AgreesAfter (result : Desk.Answer × Desk) (noted : Desk.Answer × Ledger) :
    Prop where
  answer : result.1 = noted.1
  state : result.2.Agrees noted.2

namespace Desk

variable {desk : Desk} {ledger : Ledger}

theorem Agrees.held_getElem? (h : desk.Agrees ledger) (slot : Nat) :
    ledger.held[slot]? = desk.held[slot]?.map Handle.index := by
  rw [h.held, List.getElem?_map]

theorem Agrees.length_records (h : desk.Agrees ledger) :
    ledger.records.length = desk.store.contents.length := by
  simpa only [List.length_map] using congrArg List.length h.current

/-- A handle shows the current template of its record. -/
theorem Agrees.shows (h : desk.Agrees ledger) {slot : Nat} {handle : Handle}
    (hheld : desk.held[slot]? = some handle) :
    ∃ record template, ledger.record? slot = some record ∧ record.current = some template ∧
      desk.Shows slot handle template := by
  have hlt := h.known handle (List.mem_of_getElem? hheld)
  obtain ⟨template, hshown⟩ : ∃ template, desk.store.contents[handle.index]? = some template :=
    ⟨_, List.getElem?_eq_getElem hlt⟩
  have hcurrent := congrArg (fun templates => templates[handle.index]?) h.current
  simp only [List.getElem?_map, hshown, Option.map_some] at hcurrent
  obtain ⟨record, hrecord, htemplate⟩ := Option.map_eq_some_iff.1 hcurrent
  refine ⟨record, template, ?_, htemplate, hheld, hshown⟩
  rw [Ledger.record?, h.held_getElem?, hheld, Option.map_some, Option.bind_some, hrecord]

theorem Agrees.record?_eq_none (h : desk.Agrees ledger) {slot : Nat}
    (hheld : desk.held[slot]? = none) : ledger.record? slot = none := by
  rw [Ledger.record?, h.held_getElem?, hheld, Option.map_none, Option.bind_none]

theorem Agrees.enter (h : desk.Agrees ledger) (name : String) (draft : Draft) :
    AgreesAfter (desk.keep ((draft.template name).map desk.store.add))
      (ledger.enter name draft) := by
  rw [Draft.template_eq, Ledger.enter]
  cases hread : draft.read with
  | error e => exact ⟨rfl, h⟩
  | ok nodes =>
    have hnew : (draft.template name).toOption = some ⟨name, nodes⟩ := by
      rw [Draft.template_eq, hread]
      rfl
    -- the number of the new identity is the place at which the store puts the template
    refine ⟨rfl, h.engine, ?_, ?_, ?_⟩
    · simp only [Except.map, keep, TemplateStore.add, List.map_append, List.map_singleton, h.held,
        h.length_records]
    · simp only [Except.map, keep, TemplateStore.add, List.map_append, List.map_singleton,
        h.current, Record.current_of_new, hnew]
    · intro handle hmem
      simp only [Except.map, keep, TemplateStore.add, List.mem_append, List.mem_singleton,
        List.length_append, List.length_singleton] at hmem ⊢
      rcases hmem with hold | rfl
      · have := h.known handle hold
        omega
      · exact Nat.lt_succ_self _

/-- Noting a text in a record goes with a change of the templates if it does so for each. -/
theorem current_modify {records : List Record} {contents : List Template}
    (h : records.map Record.current = contents.map some) {note : Record → Record}
    {change : Template → Template}
    (hnote : ∀ record template, record.current = some template →
      (note record).current = some (change template)) (index : Nat) :
    (records.modify index note).map Record.current = (contents.modify index change).map some := by
  refine List.ext_getElem? fun i => ?_
  have hi := congrArg (fun templates => templates[i]?) h
  simp only [List.getElem?_map, List.getElem?_modify, Option.map_eq_map] at hi ⊢
  cases hrecord : records[i]? with
  | none =>
    rw [hrecord, Option.map_none, eq_comm, Option.map_eq_none_iff] at hi
    rw [hi]
    rfl
  | some record =>
    rw [hrecord, Option.map_some, eq_comm, Option.map_eq_some_iff] at hi
    obtain ⟨template, htemplate, hcurrent⟩ := hi
    rw [htemplate]
    simp only [Option.map_some]
    split
    · rw [hnote record template hcurrent.symm]
    · rw [hcurrent]

/-- A text that is noted shows if it can be read, and else nothing changes. -/
theorem Agrees.amend (h : desk.Agrees ledger) (handle : Handle) (draft : Draft) :
    AgreesAfter
      (desk.update (desk.store.setContent handle draft.catalog draft.trimBlocks draft.source))
      (ledger.amend handle.index draft) := by
  change AgreesAfter
    (desk.update (draft.read.map fun nodes => desk.store.replace handle nodes)) _
  rw [Ledger.amend]
  cases hread : draft.read with
  | error e =>
    -- what is noted in vain goes with no change at all
    have hnote : ∀ record template, Record.current record = some template →
        (record.note draft).current = some (id template) := by
      intro record template hcurrent
      rw [Record.current_note, Draft.template_eq, hread, hcurrent]
      rfl
    refine ⟨rfl, h.engine, h.held, ?_, h.known⟩
    exact (current_modify h.current hnote handle.index).trans
      (congrArg (List.map some) (List.modify_id handle.index _))
  | ok nodes =>
    have hnote : ∀ record template, Record.current record = some template →
        (record.note draft).current = some { template with nodes := nodes } := by
      intro record template hcurrent
      rw [Record.current_note, Draft.template_eq, hread, Record.name_of_current hcurrent]
      rfl
    refine ⟨rfl, h.engine, h.held, current_modify h.current hnote handle.index, ?_⟩
    intro other hmem
    change other.index < (desk.store.contents.modify handle.index _).length
    rw [List.length_modify]
    exact h.known other hmem

theorem Agrees.through (h : desk.Agrees ledger) (slot : Nat) {serve : Handle → Answer × Desk}
    {note : Nat → Answer × Ledger}
    (hserve : ∀ handle, desk.held[slot]? = some handle →
      AgreesAfter (serve handle) (note handle.index)) :
    AgreesAfter (desk.through slot serve) (ledger.through slot note) := by
  unfold Desk.through Ledger.through
  rw [h.held_getElem?]
  cases hheld : desk.held[slot]? with
  | none => exact ⟨rfl, h⟩
  | some handle => exact hserve handle hheld

theorem Agrees.draft (h : desk.Agrees ledger) (source : String) :
    ledger.engine.draft source = desk.engine.draft source := by
  rw [h.engine]

theorem Agrees.operate (h : desk.Agrees ledger) (change : Engine → Engine) :
    AgreesAfter (.done, { desk with engine := change desk.engine })
      (.done, { ledger with engine := change ledger.engine }) :=
  ⟨rfl, congrArg change h.engine, h.held, h.current, h.known⟩

theorem Agrees.about (h : desk.Agrees ledger) (slot : Nat) {answer : Template → Answer}
    {answer' : Record → Answer}
    (hsame : ∀ record template, record.current = some template →
      answer template = answer' record) :
    AgreesAfter (.about (desk.template? slot) answer, desk)
      (.about (ledger.record? slot) answer', ledger) := by
  refine ⟨?_, h⟩
  cases hheld : desk.held[slot]? with
  | none =>
    rw [template?, hheld, h.record?_eq_none hheld]
    rfl
  | some handle =>
    obtain ⟨record, template, hrecord, hcurrent, hshows⟩ := h.shows hheld
    rw [hrecord, template?_eq_some.2 ⟨handle, hshows⟩]
    exact hsame record template hcurrent

/-- Desk and ledger give the same answer to a request, and agree afterwards. -/
theorem Agrees.serve (h : desk.Agrees ledger) (request : Request) :
    AgreesAfter (desk.serve request) (ledger.serve request) := by
  cases request with
  | create name source =>
    rw [Ledger.serve, h.draft]
    exact h.enter name (desk.engine.draft source)
  | wrap name draft => exact h.enter name draft
  | load name =>
    rw [Desk.serve, Ledger.serve, Engine.loadReplaceable_eq, h.engine]
    cases Loader.firstText? name desk.engine.loaders with
    | none => exact ⟨rfl, h⟩
    | some source => exact h.enter name (desk.engine.draft source)
  | clone slot =>
    refine h.through slot fun handle hheld => ⟨rfl, h.engine, ?_, h.current, ?_⟩
    · rw [List.map_append, h.held, List.map_singleton]
    · intro other hmem
      rcases List.mem_append.1 hmem with hold | hnew
      · exact h.known other hold
      · obtain rfl := List.mem_singleton.1 hnew
        exact h.known other (List.mem_of_getElem? hheld)
  | replace slot source =>
    rw [Ledger.serve, h.draft]
    exact h.through slot fun handle _ => h.amend handle (desk.engine.draft source)
  | replaceWith slot draft => exact h.through slot fun handle _ => h.amend handle draft
  | operate op => exact h.operate op.run
  | addLoader loader => exact h.operate fun engine => engine.addLoader loader
  | render slot ctx output =>
    refine h.about slot fun record template hcurrent => ?_
    rw [hcurrent]
    rfl
  | name slot =>
    exact h.about slot fun record template hcurrent =>
      congrArg Answer.named (Record.name_of_current hcurrent)
  | same slot other =>
    refine ⟨?_, h⟩
    simp only [Desk.serve, Ledger.serve, h.held_getElem?]
    cases desk.held[slot]? with
    | none => rfl
    | some handle =>
      cases desk.held[other]? with
      | none => rfl
      | some handle' =>
        have hsame : handle = handle' ↔ handle.index = handle'.index :=
          ⟨congrArg Handle.index, congrArg Handle.mk⟩
        exact congrArg Answer.compared (decide_eq_decide.2 hsame)

/-- Desk and ledger answer requests in turn alike, by induction on them. -/
theorem Agrees.serveAll (h : desk.Agrees ledger) (requests : List Request) :
    (desk.serveAll requests).1 = (ledger.serveAll requests).1 ∧
      (desk.serveAll requests).2.Agrees (ledger.serveAll requests).2 := by
  induction requests generalizing desk ledger with
  | nil => exact ⟨rfl, h⟩
  | cons request rest ih =>
    obtain ⟨hanswer, hstate⟩ := h.serve request
    obtain ⟨hanswers, hlast⟩ := ih hstate
    exact ⟨congrArg₂ List.cons hanswer hanswers, hlast⟩

structure Faithful (desk : Desk) (ledger : Ledger) : Prop where
  /-- Every handle that is held shows the current template of its record. -/
  shows : ∀ slot handle, desk.held[slot]? = some handle →
    ∃ record template, ledger.record? slot = some record ∧ record.current = some template ∧
      desk.Shows slot handle template
  /-- Whatever request fails, it changes nothing. -/
  unchanged : ∀ request e, (desk.serve request).1 = .failed e → (desk.serve request).2 = desk
  /-- A text that cannot be read is refused with its error and changes nothing. -/
  refuses : ∀ slot handle draft e, desk.held[slot]? = some handle → draft.read = .error e →
    desk.serve (.replaceWith slot draft) = (.failed e, desk)
  refusesSource : ∀ slot handle source e, desk.held[slot]? = some handle →
    (desk.engine.draft source).read = .error e →
      desk.serve (.replace slot source) = (.failed e, desk)
  /-- What comes later leaves to a handle the name of its template, and the nodes too unless
  it replaces the content of this very identity. -/
  keeps : ∀ slot handle template later, desk.Shows slot handle template →
    ∃ nodes, (desk.serveAll later).2.Shows slot handle { template with nodes := nodes } ∧
      (Spares handle desk later → nodes = template.nodes)

theorem serve_replace (desk : Desk) (slot : Nat) (source : String) :
    desk.serve (.replace slot source) =
      desk.serve (.replaceWith slot (desk.engine.draft source)) :=
  rfl

/-- A text that cannot be read replaces nothing. -/
theorem serve_of_error {slot : Nat} {handle : Handle} {draft : Draft} {e : Error}
    (hheld : desk.held[slot]? = some handle) (hread : draft.read = .error e) :
    desk.serve (.replaceWith slot draft) = (.failed e, desk) := by
  have hcontent : desk.store.setContent handle draft.catalog draft.trimBlocks draft.source =
      .error e := by
    change draft.read.map _ = _
    rw [hread]
    rfl
  simp only [serve, Desk.through, hheld, hcontent, update]

theorem Agrees.faithful (h : desk.Agrees ledger) : desk.Faithful ledger where
  shows _ _ hheld := h.shows hheld
  unchanged request e hfailed := (follows_serve desk request).failed e hfailed
  refuses _ _ _ _ hheld hread := serve_of_error hheld hread
  refusesSource slot _ source _ hheld hread :=
    (serve_replace desk slot source).trans (serve_of_error hheld hread)
  keeps _ _ _ later hshows := hshows.serveAll later

/-- Whatever has been asked of a new desk, it has answered as its ledger does, which shows for
each identity the last of its texts that could be read. -/
theorem serveAll_faithful (engine : Engine) (requests : List Request) :
    let desk : Desk := { engine := engine }
    let ledger : Ledger := { engine := engine }
    (desk.serveAll requests).1 = (ledger.serveAll requests).1 ∧
      (desk.serveAll requests).2.Faithful (ledger.serveAll requests).2 := by
  intro desk ledger
  have hstart : desk.Agrees ledger := ⟨rfl, rfl, rfl, List.forall_mem_nil _⟩
  obtain ⟨hanswers, hlast⟩ := hstart.serveAll requests
  exact ⟨hanswers, hlast.faithful⟩

/-- A copied handle shows the content that was given through the other one, and a text that
cannot be read changes nothing. -/
theorem serveAll_faithful_shared :
    let start : Desk := { engine := Engine.withDefaults }
    let desk := (start.serveAll [.create "page" "v1", .clone 0, .replace 0 "v2"]).2
    desk.template? 1 = some ⟨"page", [.text "v2"]⟩ ∧
      desk.serve (.replace 1 "{% if %}") = (.failed (.tagSyntax 1 .noCondition), desk) := by
  intro start desk
  obtain ⟨-, hfaithful⟩ :=
    serveAll_faithful Engine.withDefaults [.create "page" "v1", .clone 0, .replace 0 "v2"]
  have hheld : desk.held[1]? = some ⟨0⟩ := by
    decide +kernel
  have hread : (desk.engine.draft "{% if %}").read = .error (.tagSyntax 1 .noCondition) := by
    have htokens : Token.scan false "{% if %}" = [⟨.tag .block, "if", 1⟩] := by decide +kernel
    have hengine : desk.engine = Engine.withDefaults := by with_unfolding_all rfl
    rw [hengine]
    change Engine.withDefaults.catalog.compile false "{% if %}" = _
    rw [Catalog.compile, htokens]
    with_unfolding_all rfl
  obtain ⟨record, template, hrecord, hcurrent, hshows⟩ := hfaithful.shows 1 ⟨0⟩ hheld
  have htemplate : (some record).bind Record.current = some ⟨"page", [.text "v2"]⟩ := by
    rw [← hrecord]
    with_unfolding_all rfl
  rw [Option.bind_some, hcurrent] at htemplate
  rw [template?_eq_some.2 ⟨⟨0⟩, hshows⟩]
  exact ⟨htemplate, hfaithful.refusesSource 1 ⟨0⟩ "{% if %}" _ hheld hread⟩

end Desk

end TextTemplate
