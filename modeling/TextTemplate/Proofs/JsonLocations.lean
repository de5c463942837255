import TextTemplate.Proofs.WrittenVariables

/-!
Places in JSON documents. Keys and positions, written with points between them, make up a path
that leads in the document's values where the keys and positions lead in the document. A step of
a path tries the entries of a map and the items of a list before anything else, so that neither
the properties and methods of values nor the look of a key can come in between.
-/
namespace TextTemplate

open Text

namespace Json

/-- A step into a document, to a member of an object or to an item of a list. The length of a
list is a word of 64 bits, and so is a position in it. -/
inductive Step where
  | member (key : String)
  | item (index : UInt64)
deriving DecidableEq

def step? : Json → Step → Option Json
  | .object members, .member key => Entries.get? members key
  | .list items, .item index => items[index.toNat]?
  | _, _ => none

def at? (document : Json) : List Step → Option Json
  | [] => some document
  | step :: steps => (document.step? step).bind fun part => part.at? steps

def Step.name : Step → String
  | .member key => key
  | .item index => String.ofList (Decimal.natText index.toNat)

/-- A key that can stand in a path; a position always can. -/
def Step.IsWritable : Step → Prop
  | .member key => key.toList ≠ [] ∧ ∀ c ∈ key.toList, isWordChar c = true
  | .item _ => True

instance : (step : Step) → Decidable step.IsWritable
  | .member key =>
    decidable_of_iff (key.toList.isEmpty = false ∧ key.toList.all isWordChar = true) (by
      rw [List.isEmpty_eq_false_iff, List.all_eq_true]
      exact Iff.rfl)
  | .item _ => .isTrue trivial

/-- The way to a place in a document, which starts with a key of the root. This key does not start
with a digit, so that the path is not taken for a number. -/
structure Location where
  root : String
  steps : List Step
  isWritable_root : (Step.member root).IsWritable
  not_digit : ∀ c ∈ root.toList.head?, c.isDigit = false
  isWritable : ∀ step ∈ steps, step.IsWritable

namespace Location

def path (location : Location) : List Step := .member location.root :: location.steps

def names (location : Location) : List String := location.path.map Step.name

def written (location : Location) : List Char := Variable.pathText location.names

end Location

theorem Step.IsWritable.name {step : Step} (h : step.IsWritable) :
    step.name.toList ≠ [] ∧ ∀ c ∈ step.name.toList, isWordChar c = true := by
  cases step with
  | member key => exact h
  | item index =>
    rw [Step.name, String.toList_ofList]
    refine ⟨Nat.toDigits_ne_nil, ?_⟩
    intro c hc
    exact Variable.isWordChar_of_isDigit (Decimal.isDigit_of_mem_natText hc)

theorem Location.isPath_names (location : Location) : Variable.IsPath location.names := by
  refine ⟨List.cons_ne_nil _ _, ?_, ?_⟩
  · refine List.forall_mem_cons.2 ⟨location.isWritable_root, ?_⟩
    rw [List.forall_mem_map]
    exact fun step hstep => (location.isWritable step hstep).name
  · intro name hname
    obtain rfl := Option.some.inj hname
    exact location.not_digit

/-- The way to a place is read as the path of its names. -/
theorem Location.read_text (location : Location) :
    Variable.read location.written = .ok (.path location.names) := by
  have hpath := location.isPath_names
  have hplain := Variable.isPlain_pathText fun name hname => (hpath.words name hname).2
  rw [Variable.read, written, Variable.trim_of_isPlain hplain]
  exact Variable.readTrimmed_path hpath

end Json

theorem Decimal.readIndex_natText {n : Nat} (h : n < wordLimit) :
    readIndex (natText n) = some n := by
  unfold readIndex
  split
  · rename_i rest hplus
    have hmem : '+' ∈ natText n := by
      rw [hplus]
      exact List.mem_cons_self
    exact absurd (isDigit_of_mem_natText hmem) (by decide)
  · dsimp only
    rw [readNat_natText]
    exact if_pos h

namespace Value

theorem get?_ofJsonMembers (members : List (String × Json)) (name : String) :
    Entries.get? (ofJsonMembers members) name = (Entries.get? members name).map ofJson := by
  induction members with
  | nil => rfl
  | cons member members ih =>
    obtain ⟨key, item⟩ := member
    rw [ofJsonMembers, Entries.get?, Entries.get?]
    split
    · rfl
    · exact ih

theorem getElem?_ofJsonItems (items : List Json) (index : Nat) :
    (ofJsonItems items)[index]? = items[index]?.map ofJson := by
  induction items generalizing index with
  | nil => rfl
  | cons item items ih =>
    cases index with
    | zero => rfl
    | succ index => exact ih index

/-- An entry of a map or an item of a list comes before properties and methods. -/
theorem lookup_of_element {v w : Value} {name : String} (h : v.element name = some w) :
    v.lookup name = some w := by
  rw [lookup, h, Option.some_or]

/-- One step into a document is one lookup in its value. -/
theorem lookup_ofJson {document part : Json} {step : Json.Step}
    (h : document.step? step = some part) :
    (ofJson document).lookup step.name = some (ofJson part) := by
  refine lookup_of_element ?_
  unfold Json.step? at h
  split at h
  · rename_i members key
    rw [ofJson, element, Json.Step.name, get?_ofJsonMembers, h, Option.map_some]
  · rename_i items index
    have hindex := Decimal.readIndex_natText index.toNat_lt
    rw [ofJson, element, Json.Step.name, String.toList_ofList, hindex, Option.bind_some,
      getElem?_ofJsonItems, h, Option.map_some]
  · simp at h

/-- Several steps are several lookups. -/
theorem follow_ofJson {document part : Json} {steps : List Json.Step}
    (h : document.at? steps = some part) :
    (ofJson document).follow (steps.map Json.Step.name) = some (ofJson part) := by
  induction steps generalizing document with
  | nil =>
    obtain rfl := Option.some.inj h
    rfl
  | cons step steps ih =>
    obtain ⟨next, hstep, hsteps⟩ := Option.bind_eq_some_iff.1 h
    rw [List.map_cons, follow, lookup_ofJson hstep, Option.bind_some]
    exact ih hsteps

end Value

/-- The members of an object are the names of the scope. -/
theorem Scope.lookup_ofJson {document part : Json} {key : String}
    (h : document.step? (.member key) = some part) :
    (Scope.ofJson document).lookup key = some (Value.ofJson part) := by
  cases document with
  | object members =>
    have hget : Entries.get? members key = some part := h
    have hmember := Value.get?_ofJsonMembers members key
    rw [hget, Option.map_some] at hmember
    exact hmember
  | _ => simp [Json.step?] at h

namespace Json.Location

/-- The way to a part of a document is read as a path, and in the scope of the document the path
has the value of that part, whether or not the scope is strict. -/
theorem resolve_written (location : Location) {document part : Json}
    (h : document.at? location.path = some part) (strict autoescape : Bool) :
    Variable.read location.written = .ok (.path location.names) ∧
      (Variable.path location.names).resolve
        { Scope.ofJson document with strict := strict, autoescape := autoescape } =
          .ok (Value.ofJson part) := by
  refine ⟨location.read_text, ?_⟩
  obtain ⟨first, hroot, hsteps⟩ := Option.bind_eq_some_iff.1 h
  have hlookup := Scope.lookup_ofJson hroot
  have hfollow := Value.follow_ofJson hsteps
  have hresolve : (Variable.path location.names).resolve?
      { Scope.ofJson document with strict := strict, autoescape := autoescape } =
        some (Value.ofJson part) := by
    change ((Scope.ofJson document).lookup location.root).bind _ = _
    rw [hlookup, Option.bind_some]
    exact hfollow
  rw [Variable.resolve, hresolve]

def shadowing : Location where
  root := "items"
  steps := [.member "length", .item 10, .member "0", .member "keys"]
  isWritable_root := by decide
  not_digit := by
    rintro c ⟨⟩
    rfl
  isWritable := by decide

theorem resolve_written_shadowing :
    let inner : Json := .object [("1", .null), ("0", .object [("keys", .number (.int 7))])]
    let document : Json := .object
      [("values", .bool true),
        ("items", .object [("length", .list (List.replicate 10 .null ++ [inner, .text "x"]))])]
    let scope : Scope := { Scope.ofJson document with strict := true, autoescape := false }
    document.at? shadowing.path = some (.number (.int 7)) ∧
      String.ofList shadowing.written = "items.length.10.0.keys" ∧
      Variable.read "items.length.10.0.keys".toList = .ok (.path shadowing.names) ∧
      (Variable.path shadowing.names).resolve scope = .ok (.int 7) := by
  intro inner document scope
  have hplace : document.at? shadowing.path = some (.number (.int 7)) := rfl
  have hwritten : shadowing.written = "items.length.10.0.keys".toList := by decide
  obtain ⟨hread, hresolve⟩ := shadowing.resolve_written hplace true false
  rw [hwritten] at hread
  refine ⟨hplace, ?_, hread, hresolve⟩
  rw [hwritten, String.ofList_toList]

end Json.Location

end TextTemplate
