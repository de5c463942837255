import Mathlib.Logic.Relation
import TextTemplate.Json.Basic
import TextTemplate.Proofs.Tables
import TextTemplate.Value.Equality
import TextTemplate.Value.OfJson

/-!
Equality of values. Maps are compared in one direction only: they have the same size and each
entry of the first has an equal one in the second. As the names in a map are distinct, this
pairs off all entries, so that values without floating-point numbers are equal exactly if one
can be turned into the other by marking texts, by reordering maps and by exchanging objects of
one identity. Equality does not see such changes on either side, and so it is an equivalence
that membership in lists respects. Distinct names are what the maps of documents have.
-/
namespace TextTemplate.Value

open Relation

def held : Value → List Value
  | .list items => items
  | .map entries => entries.map (·.2)
  | _ => []

/-- A property of the value itself and of all values held in it. -/
inductive Throughout (P : Value → Prop) : Value → Prop where
  | intro {v : Value} (here : P v) (inside : ∀ w ∈ v.held, Throughout P w) : Throughout P v

theorem throughout_iff {P : Value → Prop} {v : Value} :
    Throughout P v ↔ P v ∧ ∀ w ∈ v.held, Throughout P w :=
  ⟨fun ⟨here, inside⟩ => ⟨here, inside⟩, fun ⟨here, inside⟩ => ⟨here, inside⟩⟩

theorem throughout_of_leaf {P : Value → Prop} {v : Value} (here : P v) (hleaf : v.held = []) :
    Throughout P v :=
  ⟨here, hleaf ▸ List.forall_mem_nil _⟩

def isFloat : Value → Bool
  | .float _ => true
  | _ => false

def HasDistinctNames : Value → Prop
  | .map entries => Entries.Distinct entries
  | _ => True

def FloatFree (v : Value) : Prop := Throughout (fun w => w.isFloat = false) v

def Tidy (v : Value) : Prop := Throughout HasDistinctNames v

theorem floatFree_list_iff {items : List Value} :
    FloatFree (.list items) ↔ ∀ v ∈ items, FloatFree v :=
  throughout_iff.trans (and_iff_right rfl)

theorem floatFree_map_iff {entries : List (String × Value)} :
    FloatFree (.map entries) ↔ ∀ entry ∈ entries, FloatFree entry.2 :=
  throughout_iff.trans ((and_iff_right rfl).trans List.forall_mem_map)

theorem not_floatFree_float (x : Float) : ¬ FloatFree (.float x) := by
  intro h
  exact Bool.noConfusion (throughout_iff.1 h).1

theorem tidy_list_iff {items : List Value} : Tidy (.list items) ↔ ∀ v ∈ items, Tidy v :=
  throughout_iff.trans (and_iff_right trivial)

theorem tidy_map_iff {entries : List (String × Value)} :
    Tidy (.map entries) ↔ Entries.Distinct entries ∧ ∀ entry ∈ entries, Tidy entry.2 :=
  throughout_iff.trans (and_congr_right' List.forall_mem_map)

theorem ofJsonMembers_eq_map (members : List (String × Json)) :
    ofJsonMembers members = members.map fun member => (member.1, ofJson member.2) := by
  induction members with
  | nil => rfl
  | cons member members ih => rw [ofJsonMembers, List.map_cons, ih]

theorem tidy_ofNumber (n : Json.Number) : (ofNumber n).Tidy := by
  unfold ofNumber
  split
  · split
    · exact throughout_of_leaf trivial rfl
    · exact throughout_of_leaf trivial rfl
  · exact throughout_of_leaf trivial rfl

theorem tidy_ofTable {members : List (String × Json)} (hdistinct : Entries.Distinct members)
    (h : ∀ member ∈ members, (ofJson member.2).Tidy) : (ofJson (.object members)).Tidy := by
  rw [ofJson, ofJsonMembers_eq_map, tidy_map_iff]
  refine ⟨?_, List.forall_mem_map.2 h⟩
  rw [Entries.Distinct, Entries.names, List.map_map]
  exact hdistinct

mutual

/-- Values that come from a document are tidy, since its objects keep one member of a name. -/
theorem tidy_ofForm (depth : Nat) : (form : Json.Form) → (document : Json) →
    Json.ofForm depth form = some document → (ofJson document).Tidy
  | .null, _, h => by
    obtain rfl := Option.some.inj h
    exact throughout_of_leaf trivial rfl
  | .bool b, _, h => by
    obtain rfl := Option.some.inj h
    exact throughout_of_leaf trivial rfl
  | .number n, _, h => by
    obtain ⟨number, _, rfl⟩ := Option.map_eq_some_iff.1 h
    exact tidy_ofNumber number
  | .text parts, _, h => by
    obtain ⟨s, _, rfl⟩ := Option.map_eq_some_iff.1 h
    exact throughout_of_leaf trivial rfl
  | .list items, _, h => by
    cases depth with
    | zero => exact nomatch h
    | succ depth =>
      obtain ⟨parts, hparts, rfl⟩ := Option.map_eq_some_iff.1 h
      exact tidy_list_iff.2 (tidy_ofItems depth items parts hparts)
  | .object members, _, h => by
    cases depth with
    | zero => exact nomatch h
    | succ depth =>
      obtain ⟨pairs, hpairs, rfl⟩ := Option.map_eq_some_iff.1 h
      have hvalues := tidy_ofMembers depth members pairs hpairs
      exact tidy_ofTable (Entries.distinct_ofList pairs)
        (Entries.forall_mem_setAll (P := fun part => (ofJson part).Tidy) (List.forall_mem_nil _)
          hvalues)

theorem tidy_ofItems (depth : Nat) : (forms : List Json.Form) → (items : List Json) →
    Json.ofItems depth forms = some items → ∀ v ∈ ofJsonItems items, v.Tidy
  | [], _, h => by
    obtain rfl := Option.some.inj h
    exact List.forall_mem_nil _
  | form :: forms, _, h => by
    unfold Json.ofItems at h
    split at h
    · rename_i item items hitem hitems
      obtain rfl := Option.some.inj h
      exact List.forall_mem_cons.2
        ⟨tidy_ofForm depth form item hitem, tidy_ofItems depth forms items hitems⟩
    · exact nomatch h

theorem tidy_ofMembers (depth : Nat) : (forms : List (List Json.Part × Json.Form)) →
    (members : List (String × Json)) → Json.ofMembers depth forms = some members →
    ∀ member ∈ members, (ofJson member.2).Tidy
  | [], _, h => by
    obtain rfl := Option.some.inj h
    exact List.forall_mem_nil _
  | (name, form) :: forms, _, h => by
    unfold Json.ofMembers at h
    split at h
    · rename_i key item members _ hitem hmembers
      obtain rfl := Option.some.inj h
      exact List.forall_mem_cons.2
        ⟨tidy_ofForm depth form item hitem, tidy_ofMembers depth forms members hmembers⟩
    · exact nomatch h

end

/-- The maps of a document that was read are tables. -/
theorem tidy_of_read {s : String} {document : Json} (h : Json.read s = some document) :
    (ofJson document).Tidy := by
  obtain ⟨form, _, hform⟩ := Option.bind_eq_some_iff.1 h
  exact tidy_ofForm _ form document hform

theorem beq_list (xs ys : List Value) : (Value.list xs == .list ys) = equalItems xs ys := by
  change equal _ _ = _
  rw [equal]

theorem equalEntries_eq_all (entries others : List (String × Value)) :
    equalEntries entries others =
      entries.all fun entry => (Entries.get? others entry.1).any (entry.2 == ·) := by
  induction entries with
  | nil => rw [equalEntries, List.all_nil]
  | cons entry entries ih =>
    rw [equalEntries, List.all_cons, ih]
    cases Entries.get? others entry.1 <;> rfl

/-- Maps are equal if they have as many entries and each one has a partner in the other map. -/
theorem beq_map (entries others : List (String × Value)) :
    (Value.map entries == .map others) =
      (entries.length == others.length &&
        entries.all fun entry => (Entries.get? others entry.1).any (entry.2 == ·)) := by
  change equal _ _ = _
  rw [equal, equalEntries_eq_all]

theorem equalItems_iff {xs ys : List Value} :
    equalItems xs ys = true ↔ List.Forall₂ (fun v w => (v == w) = true) xs ys := by
  induction xs generalizing ys with
  | nil => cases ys <;> simp [equalItems]
  | cons x xs ih =>
    cases ys with
    | nil => simp [equalItems]
    | cons y ys =>
      rw [equalItems, Bool.and_eq_true, List.forall₂_cons, ih]
      rfl

/-- A change at one place inside of a value: of the kind of a text, of the order of a map, or
of what is known of an object, which is the same object as long as its identity is. -/
inductive Change : Value → Value → Prop where
  | mark (s : String) : Change (.str s) (.safe s)
  | reorder {entries entries' : List (String × Value)} (hperm : entries.Perm entries') :
      Change (.map entries) (.map entries')
  | object (id : Nat) (typeName typeName' : String)
      (properties methods properties' methods' : List (String × Value))
      (display display' : Option Value) :
      Change (.object id typeName properties methods display)
        (.object id typeName' properties' methods' display')
  | item {v v' : Value} (before after : List Value) (h : Change v v') :
      Change (.list (before ++ v :: after)) (.list (before ++ v' :: after))
  | entry {v v' : Value} (before after : List (String × Value)) (name : String)
      (h : Change v v') :
      Change (.map (before ++ (name, v) :: after)) (.map (before ++ (name, v') :: after))

def Same : Value → Value → Prop := EqvGen Change

theorem equalItems_congr_left {v v' : Value} (h : ∀ w : Value, (v == w) = (v' == w))
    (before after ws : List Value) :
    equalItems (before ++ v :: after) ws = equalItems (before ++ v' :: after) ws := by
  induction before generalizing ws with
  | nil =>
    cases ws with
    | nil => rfl
    | cons w ws => exact congrArg (· && equalItems after ws) (h w)
  | cons u before ih =>
    cases ws with
    | nil => rfl
    | cons w ws => exact congrArg (equal u w && ·) (ih ws)

theorem equalItems_congr_right {v v' : Value} (h : ∀ w : Value, (w == v) = (w == v'))
    (before after ws : List Value) :
    equalItems ws (before ++ v :: after) = equalItems ws (before ++ v' :: after) := by
  induction before generalizing ws with
  | nil =>
    cases ws with
    | nil => rfl
    | cons w ws => exact congrArg (· && equalItems ws after) (h w)
  | cons u before ih =>
    cases ws with
    | nil => rfl
    | cons w ws => exact congrArg (equal w u && ·) (ih ws)

/-- A change on the left goes unseen even in maps that have a name twice. -/
theorem Change.equal_left {v v' : Value} (h : Change v v') (w : Value) :
    (v == w) = (v' == w) := by
  induction h generalizing w with
  | mark s => cases w <;> rfl
  | object => cases w <;> rfl
  | reorder hperm =>
    cases w with
    | map others => rw [beq_map, beq_map, hperm.length_eq, hperm.all_eq]
    | _ => rfl
  | item before after _ ih =>
    cases w with
    | list ws => rw [beq_list, beq_list, equalItems_congr_left ih]
    | _ => rfl
  | entry before after name _ ih =>
    cases w with
    | map others =>
      have hentry (found : Option Value) := congrArg found.any (funext ih)
      simp only [beq_map, List.length_append, List.length_cons, List.all_append, List.all_cons,
        hentry]
    | _ => rfl

/-- A change leaves the names of each map as they are. -/
theorem Change.tidy_iff {v v' : Value} (h : Change v v') : v.Tidy ↔ v'.Tidy := by
  induction h with
  | mark s => exact iff_of_true (throughout_of_leaf trivial rfl) (throughout_of_leaf trivial rfl)
  | object => exact iff_of_true (throughout_of_leaf trivial rfl) (throughout_of_leaf trivial rfl)
  | reorder hperm =>
    rw [tidy_map_iff, tidy_map_iff]
    exact and_congr ⟨fun h => h.perm hperm, fun h => h.perm hperm.symm⟩
      (forall_congr' fun entry => imp_congr_left hperm.mem_iff)
  | item before after _ ih =>
    simp only [tidy_list_iff, List.forall_mem_append, List.forall_mem_cons, ih]
  | entry before after name _ ih =>
    simp only [tidy_map_iff, Entries.Distinct, Entries.names, List.map_append, List.map_cons,
      List.forall_mem_append, List.forall_mem_cons, ih]

/-- A change on the right goes unseen where the names in each map are distinct. -/
theorem Change.equal_right {v v' : Value} (h : Change v v') (hv : v.Tidy) (w : Value) :
    (w == v) = (w == v') := by
  induction h generalizing w with
  | mark s => cases w <;> rfl
  | object => cases w <;> rfl
  | reorder hperm =>
    obtain ⟨hdistinct, _⟩ := tidy_map_iff.1 hv
    cases w with
    | map others => simp only [beq_map, hperm.length_eq, hdistinct.get?_perm hperm]
    | _ => rfl
  | item before after _ ih =>
    have hitem := ih (tidy_list_iff.1 hv _ (by simp))
    cases w with
    | list ws => rw [beq_list, beq_list, equalItems_congr_right hitem]
    | _ => rfl
  | @entry v v' before after name _ ih =>
    have hentry := ih ((tidy_map_iff.1 hv).2 _ (List.mem_append_right _ List.mem_cons_self))
    have hget (u : Value) (other : String) :
        (Entries.get? (before ++ (name, v) :: after) other).any (u == ·) =
          (Entries.get? (before ++ (name, v') :: after) other).any (u == ·) := by
      rw [Entries.get?_append, Entries.get?_append, Entries.get?, Entries.get?]
      cases Entries.get? before other with
      | some found => rfl
      | none =>
        split
        · exact hentry u
        · rfl
    cases w with
    | map others => simp only [beq_map, List.length_append, List.length_cons, hget]
    | _ => rfl

/-- What is alike before and after every change is alike for values that are the same. -/
theorem Same.congr {α : Type} {f : Value → α} {v v' : Value}
    (hf : ∀ u u', Change u u' → f u = f u') (h : Same v v') : f v = f v' :=
  congrArg (Quot.lift f hf) (Quot.eqvGen_sound h)

theorem Same.equal_left {v v' : Value} (h : Same v v') (w : Value) : (v == w) = (v' == w) :=
  h.congr (f := (· == w)) fun _ _ hchange => hchange.equal_left w

theorem Same.tidy_iff {v v' : Value} (h : Same v v') : v.Tidy ↔ v'.Tidy :=
  iff_of_eq (h.congr fun _ _ hchange => propext hchange.tidy_iff)

/-- Equality does not see a change on its other side either, if the maps are tables. -/
theorem Same.equal_right {v v' : Value} (h : Same v v') (hv : v.Tidy) (w : Value) :
    (w == v) = (w == v') := by
  induction h with
  | rel v v' hchange => exact hchange.equal_right hv w
  | refl v => rfl
  | symm v v' hsame ih => exact (ih ((Same.tidy_iff hsame).2 hv)).symm
  | trans v v' v'' hsame _ ih ih' => exact (ih hv).trans (ih' ((Same.tidy_iff hsame).1 hv))

theorem Same.map {f : Value → Value} {v v' : Value}
    (hf : ∀ {u u'}, Change u u' → Change (f u) (f u')) (h : Same v v') : Same (f v) (f v') := by
  induction h with
  | rel v v' hchange => exact .rel _ _ (hf hchange)
  | refl v => exact .refl _
  | symm v v' _ ih => exact .symm _ _ ih
  | trans v v' v'' _ _ ih ih' => exact .trans _ _ _ ih ih'

/-- What can be changed within an item can be changed within the list. -/
theorem Same.item {v v' : Value} (h : Same v v') (before after : List Value) :
    Same (.list (before ++ v :: after)) (.list (before ++ v' :: after)) :=
  h.map (f := fun u => .list (before ++ u :: after)) (.item before after)

theorem Same.entry {v v' : Value} (h : Same v v') (before after : List (String × Value))
    (name : String) :
    Same (.map (before ++ (name, v) :: after)) (.map (before ++ (name, v') :: after)) :=
  h.map (f := fun u => .map (before ++ (name, u) :: after)) (.entry before after name)

/-- Lists whose items are equal pairwise can be turned into each other item by item. -/
theorem same_list {xs ys : List Value}
    (h : List.Forall₂ (fun v w => (v == w) = true) xs ys)
    (hsame : ∀ v ∈ xs, ∀ w ∈ ys, (v == w) = true → Same v w) (before : List Value) :
    Same (.list (before ++ xs)) (.list (before ++ ys)) := by
  induction h generalizing before with
  | nil => exact .refl _
  | @cons x y xs ys hfirst _ ih =>
    have hitem : Same x y := hsame x List.mem_cons_self y List.mem_cons_self hfirst
    have hrest := ih (fun v hv w hw => hsame v (.tail x hv) w (.tail y hw)) (before ++ [y])
    rw [List.append_assoc, List.append_assoc] at hrest
    exact .trans _ _ _ (hitem.item before xs) hrest

/-- Maps with the same names in the same order. -/
theorem same_map {entries others : List (String × Value)}
    (h : List.Forall₂ (fun entry other => entry.1 = other.1 ∧ Same entry.2 other.2) entries others)
    (before : List (String × Value)) :
    Same (.map (before ++ entries)) (.map (before ++ others)) := by
  induction h generalizing before with
  | nil => exact .refl _
  | @cons entry other entries others hfirst _ ih =>
    obtain ⟨name, v⟩ := entry
    obtain ⟨_, w⟩ := other
    obtain ⟨rfl, hsame⟩ := hfirst
    have hrest := ih (before ++ [(name, w)])
    rw [List.append_assoc, List.append_assoc] at hrest
    exact .trans _ _ _ (hsame.entry before entries name) hrest

/-- Each entry of one map has a partner in the other, which pairs off all entries of two maps of
the same size. -/
theorem same_of_partners {entries others : List (String × Value)}
    (hdistinct : Entries.Distinct entries) (hlength : entries.length = others.length)
    (h : ∀ entry ∈ entries,
      ∃ w, Entries.get? others entry.1 = some w ∧ Same entry.2 w) :
    Same (.map entries) (.map others) := by
  -- The partners are put in the places of the entries; what is left is a reordering.
  let partners := entries.map fun entry => (entry.1, ofOption (Entries.get? others entry.1))
  have hnames : Entries.names partners = Entries.names entries := by
    simp only [partners, Entries.names, List.map_map, Function.comp_def]
  have hsubset : partners ⊆ others := by
    refine List.forall_mem_map.2 fun entry hentry => ?_
    obtain ⟨w, hget, _⟩ := h entry hentry
    rw [hget]
    exact Entries.mem_of_get? hget
  have hsame : Same (.map entries) (.map partners) := by
    refine same_map (List.forall₂_map_right_iff.2 (List.forall₂_same.2 ?_)) []
    intro entry hentry
    obtain ⟨w, hget, hsame⟩ := h entry hentry
    rw [hget]
    exact ⟨rfl, hsame⟩
  have hperm : partners.Perm others := by
    rw [Entries.Distinct, ← hnames] at hdistinct
    have hsize : partners.length = others.length := (List.length_map _).trans hlength
    exact Entries.Distinct.perm_of_subset hdistinct hsubset (Nat.le_of_eq hsize.symm)
  exact .trans _ _ _ hsame (.rel _ _ (.reorder hperm))

/-- Without floating-point numbers a value equals itself. -/
theorem beq_self {v : Value} (hfloat : v.FloatFree) (htidy : v.Tidy) : (v == v) = true := by
  induction hfloat with
  | @intro v here _ ih =>
    cases v with
    | null => rfl
    | bool b => exact beq_self_eq_true b
    | int n => exact beq_self_eq_true n
    | float x => exact Bool.noConfusion here
    | str s => exact beq_self_eq_true s
    | safe s => exact beq_self_eq_true s
    | object id _ _ _ _ => exact beq_self_eq_true id
    | list items =>
      rw [beq_list, equalItems_iff, List.forall₂_same]
      exact fun w hw => ih w hw (tidy_list_iff.1 htidy w hw)
    | map entries =>
      obtain ⟨hdistinct, hentries⟩ := tidy_map_iff.1 htidy
      rw [beq_map, beq_self_eq_true, Bool.true_and, List.all_eq_true]
      intro entry hentry
      have hget := hdistinct.get?_eq_some_iff.2 hentry
      rw [hget]
      exact ih entry.2 (List.mem_map_of_mem hentry) (hentries entry hentry)

/-- Equal values can be turned into each other, by induction on the first one. -/
theorem same_of_beq {v w : Value} (hv : v.FloatFree) (hvtidy : v.Tidy) (hw : w.FloatFree)
    (h : (v == w) = true) : Same v w := by
  induction hv generalizing w with
  | @intro v here inside ih =>
    cases v with
    | null =>
      cases w with
      | null => exact .refl _
      | _ => exact Bool.noConfusion h
    | bool a =>
      cases w with
      | bool b =>
        obtain rfl : a = b := eq_of_beq h
        exact .refl _
      | _ => exact Bool.noConfusion h
    | int a =>
      cases w with
      | int b =>
        obtain rfl : a = b := eq_of_beq h
        exact .refl _
      | float b => exact absurd hw (not_floatFree_float b)
      | _ => exact Bool.noConfusion h
    | float a => exact Bool.noConfusion here
    | str a =>
      cases w with
      | str b =>
        obtain rfl : a = b := eq_of_beq h
        exact .refl _
      | safe b =>
        obtain rfl : a = b := eq_of_beq h
        exact .rel _ _ (.mark a)
      | _ => exact Bool.noConfusion h
    | safe a =>
      cases w with
      | str b =>
        obtain rfl : a = b := eq_of_beq h
        exact .symm _ _ (.rel _ _ (.mark a))
      | safe b =>
        obtain rfl : a = b := eq_of_beq h
        exact .refl _
      | _ => exact Bool.noConfusion h
    | object a _ _ _ _ =>
      cases w with
      | object b _ _ _ _ =>
        obtain rfl : a = b := eq_of_beq h
        exact .rel _ _ (.object ..)
      | _ => exact Bool.noConfusion h
    | list xs =>
      cases w with
      | list ys =>
        rw [beq_list, equalItems_iff] at h
        have htidy := tidy_list_iff.1 hvtidy
        have hfree := floatFree_list_iff.1 hw
        exact same_list h (fun x hx y hy => ih x hx (htidy x hx) (hfree y hy)) []
      | _ => exact Bool.noConfusion h
    | map entries =>
      cases w with
      | map others =>
        obtain ⟨hdistinct, hentries⟩ := tidy_map_iff.1 hvtidy
        rw [beq_map, Bool.and_eq_true, List.all_eq_true, beq_iff_eq] at h
        have hfree := floatFree_map_iff.1 hw
        refine same_of_partners hdistinct h.1 fun entry hentry => ?_
        have hany := h.2 entry hentry
        cases hget : Entries.get? others entry.1 with
        | none =>
          rw [hget] at hany
          exact Bool.noConfusion hany
        | some u =>
          rw [hget] at hany
          have hu : FloatFree u := hfree _ (Entries.mem_of_get? hget)
          exact ⟨u, rfl, ih _ (List.mem_map_of_mem hentry) (hentries entry hentry) hu hany⟩
      | _ => exact Bool.noConfusion h

theorem contains_list_of_beq {v w : Value} (h : ∀ u : Value, (u == v) = (u == w))
    (items : List Value) : contains (.list items) v = contains (.list items) w :=
  congrArg items.any (funext h)

theorem contains_map_of_names {entries entries' : List (String × Value)}
    (h : ∀ name, name ∈ Entries.names entries ↔ name ∈ Entries.names entries') (needle : Value) :
    contains (.map entries) needle = contains (.map entries') needle := by
  have hnames (name : String) : Entries.contains entries name = Entries.contains entries' name := by
    rw [Bool.eq_iff_iff, Entries.contains, Entries.contains, Entries.isSome_get?_iff,
      Entries.isSome_get?_iff, h]
  simp only [contains, hnames]

/-- Membership does not see a change of the container. -/
theorem Change.contains {v v' : Value} (h : Change v v') (needle : Value) :
    v.contains needle = v'.contains needle := by
  cases h with
  | mark s => rfl
  | object => rfl
  | reorder hperm => exact contains_map_of_names (fun name => (hperm.map Prod.fst).mem_iff) needle
  | item before after h =>
    have hitem : equal _ needle = equal _ needle := h.equal_left needle
    simp only [Value.contains, List.any_append, List.any_cons, hitem]
  | entry before after name h =>
    refine contains_map_of_names (fun other => ?_) needle
    simp only [Entries.names, List.map_append, List.map_cons]

theorem Same.contains {v v' : Value} (h : Same v v') (needle : Value) :
    v.contains needle = v'.contains needle :=
  h.congr fun _ _ hchange => hchange.contains needle

structure Exact where
  value : Value
  floatFree : value.FloatFree
  tidy : value.Tidy

/-- Equality is what changes generate. -/
theorem Exact.beq_iff_same (v w : Exact) : (v.value == w.value) = true ↔ Same v.value w.value := by
  refine ⟨same_of_beq v.floatFree v.tidy w.floatFree, fun h => ?_⟩
  rw [h.equal_left]
  exact beq_self w.floatFree w.tidy

/-- On values without floating-point numbers equality is an equivalence: it holds between values
that are the same but for the kinds of texts and the order of maps, at any depth, and neither
kinds nor orders matter to the comparison of any two values. So a list contains a value if it
contains an equal one, and equal lists contain the same values. -/
theorem exact_equality :
    Equivalence (fun v w : Exact => (v.value == w.value) = true) ∧
      (∀ v w : Exact, (v.value == w.value) = true ↔ Same v.value w.value) ∧
      (∀ v v' w w' : Value, w.Tidy → Same v v' → Same w w' → (v == w) = (v' == w')) ∧
      (∀ a b : Exact, (a.value == b.value) = true → ∀ items : List Value,
        contains (.list items) a.value = contains (.list items) b.value) ∧
      ∀ a b : Exact, (a.value == b.value) = true → ∀ needle : Value,
        a.value.contains needle = b.value.contains needle := by
  refine ⟨⟨?_, ?_, ?_⟩, Exact.beq_iff_same, ?_, ?_, ?_⟩
  · exact fun v => beq_self v.floatFree v.tidy
  · intro v w h
    exact (w.beq_iff_same v).2 (.symm _ _ ((v.beq_iff_same w).1 h))
  · intro v w u hvw hwu
    rwa [((v.beq_iff_same w).1 hvw).equal_left]
  · intro v v' w w' hw hv' hw'
    rw [hv'.equal_left, hw'.equal_right hw]
  · intro a b h items
    exact contains_list_of_beq (((a.beq_iff_same b).1 h).equal_right a.tidy) items
  · intro a b h needle
    exact ((a.beq_iff_same b).1 h).contains needle

/-- Two maps with the same entries in different orders, one of them with a safe text. -/
theorem exact_equality_reordered :
    let shown : Value := .map [("name", .str "x"), ("sizes", .list [])]
    let moved : Value := .map [("sizes", .list []), ("name", .safe "x")]
    (moved == shown) = true ∧ contains (.list [.null, moved]) shown = true ∧
      moved.contains (.safe "sizes") = true := by
  intro shown moved
  have hchanges : Same shown moved := by
    refine .trans _ _ _ (.rel _ _ (.reorder (List.Perm.swap _ _ _))) (.rel _ _ ?_)
    exact .entry [_] [] "name" (.mark "x")
  let a : Exact :=
    { value := shown
      floatFree := floatFree_map_iff.2 (List.forall_mem_cons.2
        ⟨throughout_of_leaf rfl rfl, List.forall_mem_singleton.2 (throughout_of_leaf rfl rfl)⟩)
      tidy := tidy_map_iff.2 ⟨by decide, List.forall_mem_cons.2
        ⟨throughout_of_leaf trivial rfl,
          List.forall_mem_singleton.2 (throughout_of_leaf trivial rfl)⟩⟩ }
  let b : Exact :=
    { value := moved
      floatFree := floatFree_map_iff.2 (List.forall_mem_cons.2
        ⟨throughout_of_leaf rfl rfl, List.forall_mem_singleton.2 (throughout_of_leaf rfl rfl)⟩)
      tidy := hchanges.tidy_iff.1 a.tidy }
  obtain ⟨hequivalence, hsame, hunseen, hmember, hcontains⟩ := exact_equality
  have hequal : (shown == moved) = true := (hsame a b).2 hchanges
  refine ⟨?_, ?_, ?_⟩
  · rw [← hunseen shown moved shown shown a.tidy hchanges (.refl _)]
    exact hequivalence.refl a
  · rw [hmember a b hequal, contains, List.any_cons, List.any_cons]
    have hself : (moved == moved) = true := hequivalence.refl b
    rw [show equal moved moved = true from hself, Bool.true_or, Bool.or_true]
  · rw [← hcontains a b hequal]
    rfl

end TextTemplate.Value
