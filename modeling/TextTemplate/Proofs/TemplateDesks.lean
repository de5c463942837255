import TextTemplate.Engine.Context
import TextTemplate.Proofs.LibraryHistories
import TextTemplate.Proofs.LoadedTexts

/-!
A desk for replaceable templates. At a desk templates are made, handles are copied, contents are
replaced, some of them by texts that cannot be read, and what the handles show is rendered; in
between the engine is given further libraries and loaders. A request that fails changes nothing.
Whatever else is asked for, a handle that is held stays where it is, its template keeps its name,
and no content changes but that of the one identity whose content was to be replaced.
-/
namespace TextTemplate

structure Draft where
  catalog : Catalog
  trimBlocks : Bool
  source : String

namespace Draft

def read (draft : Draft) : Except Error (List Node) :=
  draft.catalog.compile draft.trimBlocks draft.source

def template (draft : Draft) (name : String) : Except Error Template :=
  Template.compile draft.catalog draft.trimBlocks name draft.source

theorem template_eq (draft : Draft) (name : String) :
    draft.template name = draft.read.map fun nodes => ⟨name, nodes⟩ :=
  rfl

end Draft

def Engine.draft (engine : Engine) (source : String) : Draft :=
  ⟨engine.catalog, engine.config.trimBlocks, source⟩

namespace Desk

/-- What can be asked of a desk. Handles are held in slots, in the order in which they were
given out or copied. -/
inductive Request where
  | create (name source : String)
  /-- A template that was read with something else than the engine has. -/
  | wrap (name : String) (draft : Draft)
  | load (name : String)
  | clone (slot : Nat)
  | replace (slot : Nat) (source : String)
  | replaceWith (slot : Nat) (draft : Draft)
  | operate (op : Engine.Operation)
  | addLoader (loader : Loader)
  | render (slot : Nat) (ctx : Context) (output : Output)
  | name (slot : Nat)
  | same (slot other : Nat)

inductive Answer where
  | done
  | failed (e : Error)
  | rendered (result : Except Error Unit × Output × Context)
  | named (name : String)
  | compared (same : Bool)
  /-- There is no handle in the slot. -/
  | noHandle

def Request.replaced? : Request → Option Nat
  | .replace slot _ => some slot
  | .replaceWith slot _ => some slot
  | _ => none

def Answer.about {α : Type} (found : Option α) (answer : α → Answer) : Answer :=
  (found.map answer).getD .noHandle

def answerAll {S : Type} (serve : S → Request → Answer × S) : S → List Request → List Answer × S
  | state, [] => ([], state)
  | state, request :: rest =>
    let (answer, after) := serve state request
    let (answers, last) := answerAll serve after rest
    (answer :: answers, last)

end Desk

structure Desk where
  engine : Engine
  store : TemplateStore := {}
  held : List Handle := []

namespace Desk

def template? (desk : Desk) (slot : Nat) : Option Template :=
  desk.held[slot]?.bind desk.store.get?

def keep (desk : Desk) : Except Error (Handle × TemplateStore) → Answer × Desk
  | .error e => (.failed e, desk)
  | .ok (handle, store) => (.done, { desk with store := store, held := desk.held ++ [handle] })

def update (desk : Desk) : Except Error TemplateStore → Answer × Desk
  | .error e => (.failed e, desk)
  | .ok store => (.done, { desk with store := store })

def through (desk : Desk) (slot : Nat) (serve : Handle → Answer × Desk) : Answer × Desk :=
  match desk.held[slot]? with
  | none => (.noHandle, desk)
  | some handle => serve handle

def serve (desk : Desk) : Request → Answer × Desk
  | .create name source => desk.keep ((desk.engine.compile name source).map desk.store.add)
  | .wrap name draft => desk.keep ((draft.template name).map desk.store.add)
  | .load name => desk.keep (desk.engine.loadReplaceable desk.store name)
  | .clone slot =>
    desk.through slot fun handle => (.done, { desk with held := desk.held ++ [handle] })
  | .replace slot source =>
    desk.through slot fun handle => desk.update (desk.engine.setContent desk.store handle source)
  | .replaceWith slot draft =>
    desk.through slot fun handle =>
      desk.update (desk.store.setContent handle draft.catalog draft.trimBlocks draft.source)
  | .operate op => (.done, { desk with engine := op.run desk.engine })
  | .addLoader loader => (.done, { desk with engine := desk.engine.addLoader loader })
  | .render slot ctx output =>
    (.about (desk.template? slot) fun template =>
      .rendered (ctx.renderTo Engine.includeDepth template.nodes output), desk)
  | .name slot => (.about (desk.template? slot) fun template => .named template.name, desk)
  | .same slot other =>
    (.about desk.held[slot]? fun handle =>
      .about desk.held[other]? fun handle' => .compared (handle = handle'), desk)

def serveAll : Desk → List Request → List Answer × Desk := answerAll serve

def target? (desk : Desk) (request : Request) : Option Handle :=
  request.replaced?.bind fun slot => desk.held[slot]?

/-- What a request may do to the templates. -/
inductive Changes (desk : Desk) (request : Request) : TemplateStore → Prop where
  | nothing : Changes desk request desk.store
  | added (template : Template) : Changes desk request (desk.store.add template).2
  | replaced (handle : Handle) (nodes : List Node) (htarget : desk.target? request = some handle) :
    Changes desk request (desk.store.replace handle nodes)

/-- What a request may do to a desk: a failed one changes nothing, and handles that are held
are never given back. -/
structure Follows (desk : Desk) (request : Request) (result : Answer × Desk) : Prop where
  store : Changes desk request result.2.store
  held : ∃ more, result.2.held = desk.held ++ more
  failed : ∀ e, result.1 = .failed e → result.2 = desk

section

variable {desk : Desk} {request : Request}

theorem follows_unchanged (answer : Answer) : Follows desk request (answer, desk) :=
  ⟨.nothing, ⟨[], (List.append_nil _).symm⟩, fun _ _ => rfl⟩

theorem follows_engine (engine : Engine) :
    Follows desk request (.done, { desk with engine := engine }) :=
  ⟨.nothing, ⟨[], (List.append_nil _).symm⟩, fun _ h => nomatch h⟩

theorem follows_keep (found : Except Error Template) :
    Follows desk request (desk.keep (found.map desk.store.add)) := by
  cases found with
  | error e => exact follows_unchanged _
  | ok template => exact ⟨.added template, ⟨[_], rfl⟩, fun _ h => nomatch h⟩

/-- What is done through a slot is what is done with its handle, if it has one. -/
theorem follows_through (slot : Nat) {serve : Handle → Answer × Desk}
    (h : ∀ handle, desk.held[slot]? = some handle → Follows desk request (serve handle)) :
    Follows desk request (desk.through slot serve) := by
  unfold through
  cases hheld : desk.held[slot]? with
  | none => exact follows_unchanged _
  | some handle => exact h handle hheld

theorem follows_update {slot : Nat} {handle : Handle} (hslot : request.replaced? = some slot)
    (hheld : desk.held[slot]? = some handle) (catalog : Catalog) (trim : Bool) (source : String) :
    Follows desk request (desk.update (desk.store.setContent handle catalog trim source)) := by
  have htarget : desk.target? request = some handle := by
    rw [target?, hslot, Option.bind_some, hheld]
  unfold TemplateStore.setContent
  cases catalog.compile trim source with
  | error e => exact follows_unchanged _
  | ok nodes =>
    exact ⟨.replaced handle nodes htarget, ⟨[], (List.append_nil _).symm⟩, fun _ h => nomatch h⟩

end

/-- No request does more to a desk than it may. -/
theorem follows_serve (desk : Desk) (request : Request) :
    Follows desk request (desk.serve request) := by
  cases request with
  | create name source => exact follows_keep _
  | wrap name draft => exact follows_keep _
  | load name =>
    rw [serve, Engine.loadReplaceable_eq]
    split
    · exact follows_unchanged _
    · exact follows_keep _
  | clone slot =>
    refine follows_through slot fun handle _ => ?_
    exact ⟨.nothing, ⟨[handle], rfl⟩, fun _ h => nomatch h⟩
  | replace slot source => exact follows_through slot fun _ hheld => follows_update rfl hheld _ _ _
  | replaceWith slot draft =>
    exact follows_through slot fun _ hheld => follows_update rfl hheld _ _ _
  | operate op => exact follows_engine _
  | addLoader loader => exact follows_engine _
  | render slot ctx output => exact follows_unchanged _
  | name slot => exact follows_unchanged _
  | same slot other => exact follows_unchanged _

structure Shows (desk : Desk) (slot : Nat) (handle : Handle) (template : Template) : Prop where
  held : desk.held[slot]? = some handle
  shown : desk.store.get? handle = some template

theorem template?_eq_some {desk : Desk} {slot : Nat} {template : Template} :
    desk.template? slot = some template ↔ ∃ handle, desk.Shows slot handle template := by
  rw [template?, Option.bind_eq_some_iff]
  exact ⟨fun ⟨handle, hheld, hshown⟩ => ⟨handle, hheld, hshown⟩,
    fun ⟨handle, h⟩ => ⟨handle, h.held, h.shown⟩⟩

end Desk

namespace TemplateStore

variable {store : TemplateStore} {handle : Handle} {template : Template}

theorem get?_add (h : store.get? handle = some template) (added : Template) :
    (store.add added).2.get? handle = some template := by
  obtain ⟨hlt, -⟩ := List.getElem?_eq_some_iff.1 h
  exact (List.getElem?_append_left hlt).trans h

/-- A template keeps its name when its content is replaced. -/
theorem get?_replace_self (h : store.get? handle = some template) (nodes : List Node) :
    (store.replace handle nodes).get? handle = some { template with nodes := nodes } := by
  have hcontent : store.contents[handle.index]? = some template := h
  simp only [get?, replace, List.getElem?_modify_eq, hcontent, Option.map_eq_map, Option.map_some]

/-- Other handles show what they showed before. -/
theorem get?_replace_of_ne {other : Handle} (hne : other ≠ handle) (nodes : List Node) :
    (store.replace other nodes).get? handle = store.get? handle := by
  have hindex : other.index ≠ handle.index := fun h => hne (congrArg Handle.mk h)
  exact List.getElem?_modify_ne _ _ hindex

end TemplateStore

namespace Desk

variable {desk : Desk} {slot : Nat} {handle : Handle} {template : Template} {request : Request}

/-- A template keeps its name, and its nodes too unless it is the one to be replaced. -/
theorem Changes.get? {store : TemplateStore} (h : Changes desk request store)
    (hshown : desk.store.get? handle = some template) :
    ∃ nodes, store.get? handle = some { template with nodes := nodes } ∧
      (desk.target? request ≠ some handle → nodes = template.nodes) := by
  cases h with
  | nothing => exact ⟨template.nodes, hshown, fun _ => rfl⟩
  | added other => exact ⟨template.nodes, TemplateStore.get?_add hshown other, fun _ => rfl⟩
  | replaced other nodes htarget =>
    by_cases hsame : other = handle
    · subst hsame
      exact ⟨nodes, TemplateStore.get?_replace_self hshown nodes, fun h => absurd htarget h⟩
    · have hother := (TemplateStore.get?_replace_of_ne hsame nodes).trans hshown
      exact ⟨template.nodes, hother, fun _ => rfl⟩

/-- Through one request a handle shows the same template, with another content only if the request
replaces it. -/
theorem Shows.serve (h : desk.Shows slot handle template) (request : Request) :
    ∃ nodes, (desk.serve request).2.Shows slot handle { template with nodes := nodes } ∧
      (desk.target? request ≠ some handle → nodes = template.nodes) := by
  obtain ⟨hchanges, ⟨more, hmore⟩, -⟩ := follows_serve desk request
  obtain ⟨nodes, hshown, hspared⟩ := hchanges.get? h.shown
  obtain ⟨hlt, -⟩ := List.getElem?_eq_some_iff.1 h.held
  have hheld : (desk.serve request).2.held[slot]? = some handle := by
    rw [hmore, List.getElem?_append_left hlt, h.held]
  exact ⟨nodes, ⟨hheld, hshown⟩, hspared⟩

/-- None of the requests replaces the template of a handle. -/
def Spares (handle : Handle) : Desk → List Request → Prop
  | _, [] => True
  | desk, request :: rest =>
    desk.target? request ≠ some handle ∧ Spares handle (desk.serve request).2 rest

/-- Through requests in turn a handle goes on showing the template, by induction on them. -/
theorem Shows.serveAll (h : desk.Shows slot handle template) (requests : List Request) :
    ∃ nodes, (desk.serveAll requests).2.Shows slot handle { template with nodes := nodes } ∧
      (Spares handle desk requests → nodes = template.nodes) := by
  induction requests generalizing desk template with
  | nil => exact ⟨template.nodes, h, fun _ => rfl⟩
  | cons request rest ih =>
    obtain ⟨nodes, hstep, hsparedStep⟩ := h.serve request
    obtain ⟨nodes', hrest, hsparedRest⟩ := ih hstep
    exact ⟨nodes', hrest, fun hspares => (hsparedRest hspares.2).trans (hsparedStep hspares.1)⟩

end Desk

end TextTemplate
