import TextTemplate.Filters.Standard
import TextTemplate.Proofs.Markup
import TextTemplate.Proofs.Tables
import TextTemplate.Tree.Rendering

/-!
Clean values. A value is clean if no safe text that can be reached inside of it has raw
markup; a clean value shows no raw markup once it is escaped where it has to be. Following a
path stays within clean values, and so do the standard filters, with two exceptions: `safe`
marks any text as safe, and `join` puts a text that is not safe between the items as it is.
-/
namespace TextTemplate

open Text

namespace Value

/-- The values directly inside of a value. An object gives out its properties and methods. -/
def parts : Value → List Value
  | .list items => items
  | .map entries => entries.map (·.2)
  | .object _ _ properties methods _ => properties.map (·.2) ++ methods.map (·.2)
  | _ => []

inductive Reaches : Value → Value → Prop where
  | here (v : Value) : Reaches v v
  | inside {v w u : Value} (hpart : w ∈ v.parts) (hreaches : Reaches w u) : Reaches v u

theorem not_reaches_str (t s : String) : ¬ (Value.str t).Reaches (.safe s) := by
  intro h
  cases h with
  | inside hpart _ => simp [parts] at hpart

theorem reaches_list_iff {items : List Value} {s : String} :
    (Value.list items).Reaches (.safe s) ↔ ∃ v ∈ items, v.Reaches (.safe s) := by
  constructor
  · intro h
    cases h with
    | inside hpart hreaches => exact ⟨_, hpart, hreaches⟩
  · rintro ⟨v, hmem, hreaches⟩
    exact .inside hmem hreaches

def Clean (v : Value) : Prop := ∀ s, v.Reaches (.safe s) → FreeOfMarkup s.toList

/-- A value is clean if it is no safe text with markup and its parts are clean. -/
theorem clean_iff {v : Value} :
    v.Clean ↔ (∀ s, v = .safe s → FreeOfMarkup s.toList) ∧ ∀ w ∈ v.parts, w.Clean := by
  constructor
  · intro h
    refine ⟨?_, ?_⟩
    · rintro s rfl
      exact h s (.here _)
    · intro w hw s hreaches
      exact h s (.inside hw hreaches)
  · rintro ⟨hhere, hparts⟩ s hreaches
    cases hreaches with
    | here => exact hhere s rfl
    | inside hpart hrest => exact hparts _ hpart s hrest

/-- A value that holds no others and is no safe text. -/
theorem clean_of_leaf {v : Value} (hparts : v.parts = []) (hsafe : v.isSafe = false) :
    v.Clean := by
  refine clean_iff.2 ⟨?_, ?_⟩
  · rintro s rfl
    simp [isSafe] at hsafe
  · rw [hparts]
    exact List.forall_mem_nil _

@[simp] theorem clean_null : Clean .null := clean_of_leaf rfl rfl

@[simp] theorem clean_bool (b : Bool) : Clean (.bool b) := clean_of_leaf rfl rfl

@[simp] theorem clean_int (n : Int) : Clean (.int n) := clean_of_leaf rfl rfl

@[simp] theorem clean_float (x : Float) : Clean (.float x) := clean_of_leaf rfl rfl

@[simp] theorem clean_str (s : String) : Clean (.str s) := clean_of_leaf rfl rfl

@[simp] theorem clean_ofCount (n : Nat) : Clean (.ofCount n) := clean_int _

@[simp] theorem clean_ofChars (cs : List Char) : Clean (ofChars cs) := clean_str _

theorem clean_safe_iff {s : String} : Clean (.safe s) ↔ FreeOfMarkup s.toList := by
  rw [clean_iff]
  constructor
  · rintro ⟨hhere, _⟩
    exact hhere s rfl
  · intro h
    refine ⟨?_, List.forall_mem_nil _⟩
    intro t heq
    obtain rfl := Value.safe.inj heq
    exact h

/-- A list is clean if its items are. -/
theorem clean_list_iff {items : List Value} : Clean (.list items) ↔ ∀ v ∈ items, v.Clean := by
  rw [clean_iff]
  constructor
  · exact fun h => h.2
  · refine fun h => ⟨?_, h⟩
    intro s heq
    simp at heq

theorem clean_map_iff {entries : List (String × Value)} :
    Clean (.map entries) ↔ ∀ entry ∈ entries, entry.2.Clean := by
  rw [clean_iff, parts, List.forall_mem_map]
  constructor
  · exact fun h => h.2
  · refine fun h => ⟨?_, h⟩
    intro s heq
    simp at heq

theorem clean_ofOption {v : Option Value} (h : ∀ w ∈ v, w.Clean) : (ofOption v).Clean := by
  cases v with
  | none => exact clean_null
  | some w => exact h w rfl

/-- A value shows no raw markup if it is clean: a safe text has none, and all else is
escaped. -/
theorem Clean.shown {v : Value} (h : v.Clean) :
    FreeOfMarkup (Render.shown true v).toList := by
  unfold Render.shown
  cases v with
  | safe s => exact clean_safe_iff.1 h
  | _ => exact freeOfMarkup_escapeHtml _

theorem clean_textMethod {cs : List Char} {name : String} {v : Value}
    (h : textMethod cs name = some v) : v.Clean := by
  unfold textMethod at h
  split at h
  all_goals simp only [Option.some.injEq, reduceCtorEq] at h
  all_goals subst h
  case h_12 =>
    refine clean_list_iff.2 ?_
    intro w hw
    obtain ⟨line, _, rfl⟩ := List.mem_map.1 hw
    exact clean_ofChars line
  all_goals simp

theorem Clean.element {v w : Value} (hv : v.Clean) {name : String}
    (h : v.element name = some w) : w.Clean := by
  unfold Value.element at h
  split at h
  · exact clean_map_iff.1 hv _ (Entries.mem_of_get? h)
  · obtain ⟨i, _, hi⟩ := Option.bind_eq_some_iff.1 h
    exact clean_list_iff.1 hv w (List.mem_of_getElem? hi)
  · simp at h

theorem Clean.property {v w : Value} (hv : v.Clean) {name : String}
    (h : v.property name = some w) : w.Clean := by
  unfold Value.property at h
  split at h
  · split at h
    · obtain rfl := Option.some.inj h
      exact clean_ofCount _
    · simp at h
  · refine (clean_iff.1 hv).2 w (List.mem_append_left _ ?_)
    exact List.mem_map_of_mem (f := Prod.snd) (Entries.mem_of_get? h)
  · simp at h

theorem Clean.method {v w : Value} (hv : v.Clean) {name : String}
    (h : v.method name = some w) : w.Clean := by
  unfold Value.method at h
  split at h
  · exact clean_textMethod h
  · exact clean_textMethod h
  · have hentries := clean_map_iff.1 hv
    split at h
    · obtain rfl := Option.some.inj h
      refine clean_list_iff.2 ?_
      intro u hu
      obtain ⟨entry, _, rfl⟩ := List.mem_map.1 hu
      exact clean_str _
    · split at h
      · obtain rfl := Option.some.inj h
        refine clean_list_iff.2 ?_
        intro u hu
        obtain ⟨entry, hentry, rfl⟩ := List.mem_map.1 hu
        exact hentries entry hentry
      · split at h
        · obtain rfl := Option.some.inj h
          refine clean_list_iff.2 ?_
          intro u hu
          obtain ⟨entry, hentry, rfl⟩ := List.mem_map.1 hu
          refine clean_list_iff.2 ?_
          simpa using hentries entry hentry
        · simp at h
  · refine (clean_iff.1 hv).2 w (List.mem_append_right _ ?_)
    exact List.mem_map_of_mem (f := Prod.snd) (Entries.mem_of_get? h)
  · simp at h

/-- No way into a clean value, by key, index, property or method, leads to raw markup. -/
theorem Clean.lookup {v w : Value} (hv : v.Clean) {name : String}
    (h : v.lookup name = some w) : w.Clean := by
  rcases Option.or_eq_some_iff.1 h with helement | ⟨_, hrest⟩
  · exact hv.element helement
  · rcases Option.or_eq_some_iff.1 hrest with hproperty | ⟨_, hmethod⟩
    · exact hv.property hproperty
    · exact hv.method hmethod

/-- Nor does a path of several names. -/
theorem Clean.follow {v w : Value} (hv : v.Clean) {names : List String}
    (h : v.follow names = some w) : w.Clean := by
  induction names generalizing v with
  | nil =>
    obtain rfl := Option.some.inj h
    exact hv
  | cons name names ih =>
    obtain ⟨u, hu, hrest⟩ := Option.bind_eq_some_iff.1 h
    exact ih (hv.lookup hu) hrest

theorem clean_mapText {f : List Char → List Char}
    (hf : ∀ cs, FreeOfMarkup cs → FreeOfMarkup (f cs)) {v : Value} (hv : v.Clean) :
    (v.mapText f).Clean := by
  cases v with
  | safe s =>
    refine clean_safe_iff.2 ?_
    rw [String.toList_ofList]
    exact hf _ (clean_safe_iff.1 hv)
  | _ => exact clean_str _

end Value

namespace Filters

open Value

/-- A joined text has no raw markup if neither the parts nor the separator have, if there is
a place for the separator at all. -/
theorem freeOfMarkup_intercalate_iff {sep : String} {texts : List String}
    (htexts : ∀ text ∈ texts, FreeOfMarkup text.toList) :
    FreeOfMarkup (String.intercalate sep texts).toList ↔
      (1 < texts.length → FreeOfMarkup sep.toList) := by
  induction texts with
  | nil => simp [freeOfMarkup_nil]
  | cons first rest ih =>
    obtain ⟨hfirst, hrest⟩ := List.forall_mem_cons.1 htexts
    cases rest with
    | nil => simpa using hfirst
    | cons second rest =>
      rw [String.intercalate_cons_cons, String.toList_append, String.toList_append,
        freeOfMarkup_append, freeOfMarkup_append, ih hrest]
      constructor
      · rintro ⟨⟨_, hsep⟩, _⟩ _
        exact hsep
      · intro h
        have hsep : FreeOfMarkup sep.toList := h (by simp)
        exact ⟨⟨hfirst, hsep⟩, fun _ => hsep⟩

/-- Joining puts a text that is not safe and has markup between two items. -/
def PutsMarkup (input : Value) (argument : Option Value) : Prop :=
  ∃ items s, input = .list items ∧ 1 < items.length ∧ argument = some (.str s) ∧
    ¬ FreeOfMarkup s.toList

theorem freeOfMarkup_joinPart {item : Value} (h : item.Clean) :
    FreeOfMarkup (joinPart true item).toList :=
  h.shown

/-- Clean items are clean when joined, unless the separator has markup and stands between two of
them. -/
theorem clean_joined_iff {items : List Value} (hitems : ∀ item ∈ items, item.Clean)
    (sep : String) :
    (joined true sep items).Clean ↔ (1 < items.length → FreeOfMarkup sep.toList) := by
  have hparts : ∀ text ∈ items.map (joinPart true), FreeOfMarkup text.toList := by
    intro text htext
    obtain ⟨item, hitem, rfl⟩ := List.mem_map.1 htext
    exact freeOfMarkup_joinPart (hitems item hitem)
  rw [joined, if_pos rfl, clean_safe_iff, freeOfMarkup_intercalate_iff hparts, List.length_map]

/-- Under escaping, joining clean items gives a clean value exactly if the separator puts no
markup between them. -/
theorem join_clean_iff {input : Value} (hinput : input.Clean) {argument : Option Value}
    (hargument : ∀ a ∈ argument, a.Clean) {output : Value}
    (h : join input argument true = .ok output) :
    output.Clean ↔ ¬ PutsMarkup input argument := by
  unfold join at h
  split at h
  · simp at h
  · rename_i sep hsep
    split at h
    · rename_i items
      obtain rfl := Except.ok.inj h
      rw [clean_joined_iff (clean_list_iff.1 hinput)]
      constructor
      · rintro hfree ⟨items', s, heq, hlength, rfl, hmarkup⟩
        obtain rfl := Value.list.inj heq
        obtain rfl : s = sep := Except.ok.inj hsep
        exact hmarkup (hfree hlength)
      · intro hputs hlength
        unfold separator at hsep
        split at hsep
        · obtain rfl := Except.ok.inj hsep
          exact freeOfMarkup_nil
        · rename_i s
          obtain rfl := Except.ok.inj hsep
          exact Decidable.byContradiction fun hmarkup =>
            hputs ⟨items, s, rfl, hlength, rfl, hmarkup⟩
        · obtain rfl := Except.ok.inj hsep
          exact clean_safe_iff.1 (hargument _ rfl)
        · simp at hsep
    · simp at h

def KeepsClean (filter : Filter) : Prop :=
  ∀ input argument output, input.Clean → (∀ a ∈ argument, a.Clean) →
    filter.apply input argument true = .ok output → output.Clean

theorem keepsClean_plain {f : Value → Value} (hf : ∀ v, v.Clean → (f v).Clean) :
    KeepsClean (plain f) := by
  intro input argument output hinput _ h
  obtain rfl := Except.ok.inj h
  exact hf input hinput

/-- A filter that rewrites a text keeps it clean if it makes no markup out of none. -/
theorem keepsClean_ofText {f : List Char → List Char}
    (hf : ∀ cs, FreeOfMarkup cs → FreeOfMarkup (f cs)) : KeepsClean (ofText f) :=
  keepsClean_plain fun _ hv => clean_mapText hf hv

/-- A filter with an argument is judged by what it does for clean values. -/
theorem keepsClean_withArgument {f : Value → Value → Except Error Value}
    (hf : ∀ v w output, v.Clean → w.Clean → f v w = .ok output → output.Clean) :
    KeepsClean (withArgument f) := by
  intro input argument output hinput hargument h
  exact hf _ _ _ hinput (clean_ofOption hargument) h

theorem clean_ofChar (c : Option Char) : (ofChar c).Clean := by
  cases c with
  | none => exact clean_null
  | some c => exact clean_str _

theorem clean_default {v w output : Value} (hv : v.Clean) (hw : w.Clean)
    (h : default v w = .ok output) : output.Clean := by
  obtain rfl := Except.ok.inj h
  split
  · exact hv
  · exact hw

theorem clean_length {v output : Value} (h : length v = .ok output) : output.Clean := by
  unfold length at h
  split at h
  case h_6 => simp at h
  all_goals
    obtain rfl := Except.ok.inj h
    exact clean_ofCount _

theorem clean_first {v : Value} (hv : v.Clean) : (first v).Clean := by
  unfold first
  split
  · exact clean_ofOption fun w hw => clean_list_iff.1 hv w (List.mem_of_mem_head? hw)
  · exact clean_ofChar _
  · exact clean_ofChar _
  · exact clean_null

theorem clean_last {v : Value} (hv : v.Clean) : (last v).Clean := by
  unfold last
  split
  · exact clean_ofOption fun w hw => clean_list_iff.1 hv w (List.mem_of_getLast? hw)
  · exact clean_ofChar _
  · exact clean_ofChar _
  · exact clean_null

/-- Sums of texts are not safe; sums of lists have no other items. -/
theorem clean_add {v w output : Value} (hv : v.Clean) (hw : w.Clean)
    (h : add v w = .ok output) : output.Clean := by
  unfold add at h
  split at h
  case h_5 a b =>
    obtain rfl := Except.ok.inj h
    refine clean_list_iff.2 (List.forall_mem_append.2 ?_)
    exact ⟨clean_list_iff.1 hv, clean_list_iff.1 hw⟩
  case h_6 =>
    split at h
    · obtain rfl := Except.ok.inj h
      exact clean_str _
    · simp at h
  all_goals
    obtain rfl := Except.ok.inj h
    simp

/-- What cutting leaves of a text has no markup that was not there before. -/
theorem clean_cut {v w output : Value} (hv : v.Clean) (h : cut v w = .ok output) :
    output.Clean := by
  unfold cut at h
  split at h
  · obtain rfl := Except.ok.inj h
    exact clean_mapText (fun _ => freeOfMarkup_remove _) hv
  · simp at h

theorem clean_escape {v : Value} (hv : v.Clean) : (escape v).Clean := by
  unfold escape
  split
  · exact hv
  · exact clean_safe_iff.2 (freeOfMarkup_escapeHtml _)

/-- All standard filters other than `safe` and `join` keep values clean. -/
theorem keepsClean_standard {name : String} {filter : Filter}
    (h : Entries.get? standard.filters name = some filter) (hsafe : name ≠ "safe")
    (hjoin : name ≠ "join") : KeepsClean filter := by
  have hmem := Entries.mem_of_get? h
  simp only [standard, List.mem_cons, List.not_mem_nil, or_false, Prod.mk.injEq] at hmem
  rcases hmem with ⟨_, rfl⟩ | ⟨_, rfl⟩ | ⟨_, rfl⟩ | ⟨_, rfl⟩ | ⟨_, rfl⟩ | ⟨_, rfl⟩ |
    ⟨hname, _⟩ | ⟨_, rfl⟩ | ⟨_, rfl⟩ | ⟨_, rfl⟩ | ⟨_, rfl⟩ | ⟨_, rfl⟩ | ⟨hname, _⟩
  · exact keepsClean_ofText fun _ => freeOfMarkup_upper
  · exact keepsClean_ofText fun _ => freeOfMarkup_lower
  · exact keepsClean_ofText fun _ => freeOfMarkup_capitalize
  · exact keepsClean_ofText fun _ => freeOfMarkup_titleCase
  · exact keepsClean_withArgument fun _ _ _ => clean_default
  · exact fun _ _ _ _ _ => clean_length
  · exact absurd hname hjoin
  · exact keepsClean_plain fun _ => clean_first
  · exact keepsClean_plain fun _ => clean_last
  · exact keepsClean_withArgument fun _ _ _ => clean_add
  · exact keepsClean_withArgument fun _ _ _ hv _ => clean_cut hv
  · exact keepsClean_plain fun _ => clean_escape
  · exact absurd hname hsafe

theorem get?_join : Entries.get? standard.filters "join" =
    some { arity := .required, apply := join } := by
  rfl

end Filters

end TextTemplate
