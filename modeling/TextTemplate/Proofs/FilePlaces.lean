import TextTemplate.Files.Tree

/-!
Where paths lead. Resolving the steps that stay in place or go up gives the place of a path,
the names on the way down from the top. In a tree without links a walk along a path ends at its
place: the directories that a walk keeps are those above the names that are left over. A part
that never goes up further than it has come down leads from any directory to a place below it.
-/
namespace TextTemplate

namespace Path

def names (path : String) : List String :=
  ((Text.splitOnChar '/' path.toList).map String.ofList).filter (· != "")

/-- The names that are left over, innermost first, once the steps have been resolved. At the top
a step up stays in place. -/
def resolve : List String → List String → List String
  | above, [] => above
  | above, name :: rest =>
    if name = "." then resolve above rest
    else if name = ".." then resolve above.tail rest
    else resolve (name :: above) rest

def place (path : String) : List String := (resolve [] (names path)).reverse

/-- Steps that never go up further than they have come down, if they start at a depth. -/
def staysBelow : Nat → List String → Bool
  | _, [] => true
  | depth, name :: rest =>
    if name = "." then staysBelow depth rest
    else if name = ".." then depth != 0 && staysBelow (depth - 1) rest
    else staysBelow (depth + 1) rest

theorem resolve_append (above first second : List String) :
    resolve above (first ++ second) = resolve (resolve above first) second := by
  induction first generalizing above with
  | nil => rfl
  | cons name rest ih =>
    rw [List.cons_append, resolve, resolve]
    split
    · exact ih above
    · split
      · exact ih above.tail
      · exact ih (name :: above)

/-- Such steps leave alone what lies above them. -/
theorem resolve_of_staysBelow {steps : List String} (inner above : List String)
    (h : staysBelow inner.length steps = true) :
    resolve (inner ++ above) steps = resolve inner steps ++ above := by
  induction steps generalizing inner with
  | nil => rfl
  | cons name rest ih =>
    rw [staysBelow] at h
    rw [resolve, resolve]
    split
    · rename_i hhere
      rw [if_pos hhere] at h
      exact ih inner h
    · rename_i hhere
      rw [if_neg hhere] at h
      split
      · rename_i hup
        rw [if_pos hup] at h
        cases inner with
        | nil => simp at h
        | cons last inner =>
          rw [List.cons_append, List.tail_cons, List.tail_cons]
          exact ih inner (by simpa using h)
      · rename_i hup
        rw [if_neg hup] at h
        exact ih (name :: inner) h

theorem resolve_steps (above : List String) (path : String) :
    resolve above (steps path) = resolve above (names path) := by
  unfold steps
  change resolve above (if endsInSlash path = true then names path ++ ["."] else names path) = _
  split
  · rw [resolve_append]
    rfl
  · rfl

/-- A slash divides the names, however many others stand around it. -/
theorem names_slash (first second : String) :
    names (first ++ "/" ++ second) = names first ++ names second := by
  have htext : (first ++ "/" ++ second).toList = first.toList ++ '/' :: second.toList := by
    simp
  simp only [names, htext, Text.splitOnChar_eq_splitOn, List.splitOn_append_cons_self,
    List.map_append, List.filter_append]

theorem exists_eq_slash {path : String} (h : endsInSlash path = true) :
    ∃ front : String, path = front ++ "/" := by
  have hlast : path.toList.getLast? = some '/' := by simpa [endsInSlash] using h
  obtain ⟨front, hfront⟩ := List.getLast?_eq_some_iff.1 hlast
  refine ⟨String.ofList front, String.toList_inj.1 ?_⟩
  simp [hfront]

/-- A joined path goes through the names of both parts. -/
theorem names_join {dir name : String} (hname : isAbsolute name = false) :
    names (join dir name) = names dir ++ names name := by
  rw [join, hname, if_neg Bool.false_ne_true]
  split
  · rename_i hdir
    rw [Bool.or_eq_true, beq_iff_eq] at hdir
    rcases hdir with rfl | hslash
    · rw [String.empty_append]
      rfl
    · obtain ⟨front, rfl⟩ := exists_eq_slash hslash
      have hempty : names "" = [] := rfl
      have hfront : names (front ++ "/") = names front := by
        have hsplit := names_slash front ""
        rwa [String.append_empty, hempty, List.append_nil] at hsplit
      rw [names_slash, hfront]
  · exact names_slash dir name

/-- A relative part that stays below leads from a directory to a place at or below it. -/
theorem place_prefix_join {dir name : String} (hname : isAbsolute name = false)
    (hbelow : staysBelow 0 (names name) = true) : place dir <+: place (join dir name) := by
  have hresolve := resolve_of_staysBelow [] (resolve [] (names dir)) hbelow
  rw [List.nil_append] at hresolve
  rw [place, place, names_join hname, resolve_append, hresolve, List.reverse_append]
  exact List.prefix_append _ _

end Path

namespace FileTree

def descend? : FileTree → List String → Option FileTree
  | tree, [] => some tree
  | .file _, _ :: _ => none
  | .directory entries, name :: rest =>
    match Entries.get? entries name with
    | none => none
    | some child => child.descend? rest

theorem descend?_concat {tree : FileTree} {names : List String} {entries : List (String × FileTree)}
    (h : tree.descend? names = some (.directory entries)) (name : String) :
    tree.descend? (names ++ [name]) = Entries.get? entries name := by
  induction names generalizing tree with
  | nil =>
    obtain rfl := Option.some.inj h
    rw [List.nil_append, descend?]
    cases Entries.get? entries name <;> rfl
  | cons first rest ih =>
    cases tree with
    | file bytes => simp [descend?] at h
    | directory children =>
      rw [descend?] at h
      rw [List.cons_append, descend?]
      cases hchild : Entries.get? children first with
      | none => simp [hchild] at h
      | some child =>
        rw [hchild] at h
        exact ih h

/-- Something in a tree, the directories above it and the names that lead down to it, both
innermost first. -/
inductive Located (root : FileTree) : FileTree → List FileTree → List String → Prop where
  | top : Located root root [] []
  | child {entries : List (String × FileTree)} {above : List FileTree} {names : List String}
      {name : String} {item : FileTree} (hparent : Located root (.directory entries) above names)
      (hitem : Entries.get? entries name = some item) :
      Located root item (.directory entries :: above) (name :: names)

variable {root item here : FileTree} {above : List FileTree} {names : List String}

theorem Located.descend? (h : Located root item above names) :
    root.descend? names.reverse = some item := by
  induction h with
  | top => rfl
  | child _ hitem ih => rw [List.reverse_cons, descend?_concat ih, hitem]

/-- A walk ends where its steps resolve to. -/
theorem Located.walk (h : Located root here above names) {steps : List String}
    (hwalk : here.walk above steps = some item) :
    ∃ above', Located root item above' (Path.resolve names steps) := by
  induction steps generalizing here above names with
  | nil =>
    obtain rfl := Option.some.inj hwalk
    exact ⟨above, h⟩
  | cons name rest ih =>
    cases here with
    | file bytes => simp [FileTree.walk] at hwalk
    | directory entries =>
      unfold FileTree.walk at hwalk
      simp only at hwalk
      rw [Path.resolve]
      split
      · rename_i hhere
        rw [if_pos hhere] at hwalk
        exact ih h hwalk
      · rename_i hhere
        rw [if_neg hhere] at hwalk
        split
        · rename_i hup
          rw [if_pos hup] at hwalk
          cases h with
          | top => exact ih .top hwalk
          | child hparent _ => exact ih hparent hwalk
        · rename_i hup
          rw [if_neg hup] at hwalk
          cases hitem : Entries.get? entries name with
          | none => simp [hitem] at hwalk
          | some child =>
            rw [hitem] at hwalk
            exact ih (h.child hitem) hwalk

/-- What a path leads to is found at its place. -/
theorem descend?_place {tree : FileTree} {path : String} (h : tree.find? path = some item) :
    tree.descend? (Path.place path) = some item := by
  unfold find? at h
  split at h
  · simp at h
  · obtain ⟨above, hitem⟩ := Located.top.walk h
    rw [Path.resolve_steps] at hitem
    exact hitem.descend?

end FileTree

end TextTemplate
