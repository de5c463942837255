import Mathlib.Data.List.Nodup
import Mathlib.Data.List.Perm.Subperm
import TextTemplate.Entries

/-!
What a table holds. Of the pairs that a table is made of, the last one of each name counts.
Setting entries never gives a name a second entry, and in a table without such a name the
order of the entries does not matter for what is found.
-/
namespace TextTemplate.Entries

variable {α : Type} {entries entries' : List (String × α)} {name : String} {value : α}

theorem mem_of_get? (h : get? entries name = some value) : (name, value) ∈ entries := by
  induction entries with
  | nil => simp [get?] at h
  | cons entry rest ih =>
    rw [get?] at h
    split at h
    · rename_i hname
      obtain rfl := Option.some.inj h
      rw [← hname]
      exact List.mem_cons_self
    · exact List.mem_cons_of_mem entry (ih h)

theorem isSome_get?_iff : (get? entries name).isSome ↔ name ∈ names entries := by
  induction entries with
  | nil => simp [get?, names]
  | cons entry rest ih =>
    rw [get?, names, List.map_cons, List.mem_cons]
    split
    · rename_i hname
      simp [hname]
    · rename_i hname
      rw [ih]
      exact (or_iff_right fun heq => hname heq.symm).symm

theorem get?_eq_none_iff : get? entries name = none ↔ name ∉ names entries := by
  rw [← isSome_get?_iff, Option.not_isSome_iff_eq_none]

theorem get?_append (entries more : List (String × α)) (name : String) :
    get? (entries ++ more) name = (get? entries name).or (get? more name) := by
  induction entries with
  | nil => rfl
  | cons entry entries ih =>
    rw [List.cons_append, get?, get?]
    split
    · rfl
    · exact ih

/-- Setting a name to the value that it has changes nothing. -/
theorem set_of_get? (h : get? entries name = some value) : set entries name value = entries := by
  induction entries with
  | nil => simp [get?] at h
  | cons entry rest ih =>
    obtain ⟨key, old⟩ := entry
    by_cases hkey : key = name
    · subst hkey
      simp only [get?, if_true, Option.some.injEq] at h
      simp only [set, if_true, h]
    · simp only [get?, hkey, if_false] at h
      simp only [set, hkey, if_false, ih h]

/-- Of several values that are set for a name, the last one is found. -/
theorem get?_setAll (entries pairs : List (String × α)) (name : String) :
    get? (setAll entries pairs) name = (get? pairs.reverse name).or (get? entries name) := by
  induction pairs generalizing entries with
  | nil => rfl
  | cons pair pairs ih =>
    have hfirst : setAll entries (pair :: pairs) = setAll (set entries pair.1 pair.2) pairs := rfl
    rw [hfirst, ih, get?_set, List.reverse_cons, get?_append, Option.or_assoc]
    congr 1
    rw [get?, get?]
    split
    · rfl
    · rfl

/-- A table keeps what it has under a name when other names are set. -/
theorem get?_setAll_of_forall_ne {pairs : List (String × α)}
    (h : ∀ pair ∈ pairs, pair.1 ≠ name) (entries : List (String × α)) :
    get? (setAll entries pairs) name = get? entries name := by
  have hnone : get? pairs.reverse name = none := by
    refine get?_eq_none_iff.2 fun hmem => ?_
    obtain ⟨pair, hpair, hname⟩ := List.mem_map.1 hmem
    exact h pair (List.mem_reverse.1 hpair) hname
  rw [get?_setAll, hnone, Option.none_or]

theorem names_set_of_mem (h : name ∈ names entries) (value : α) :
    names (set entries name value) = names entries := by
  induction entries with
  | nil => simp [names] at h
  | cons entry rest ih =>
    rw [set]
    split
    · rename_i hname
      simp [names, hname]
    · rename_i hname
      have hrest : name ∈ names rest := by
        rcases List.mem_cons.1 h with heq | hmem
        · exact absurd heq.symm hname
        · exact hmem
      exact congrArg (entry.1 :: ·) (ih hrest)

/-- A new name comes last. -/
theorem names_set_of_not_mem (h : name ∉ names entries) (value : α) :
    names (set entries name value) = names entries ++ [name] := by
  induction entries with
  | nil => rfl
  | cons entry rest ih =>
    obtain ⟨hentry, hrest⟩ := not_or.1 (mt List.mem_cons.2 h)
    rw [set, if_neg fun heq => hentry heq.symm]
    exact congrArg (entry.1 :: ·) (ih hrest)

theorem names_setAll_of_subset {pairs : List (String × α)} (h : names pairs ⊆ names entries) :
    names (setAll entries pairs) = names entries := by
  induction pairs generalizing entries with
  | nil => rfl
  | cons pair pairs ih =>
    obtain ⟨hpair, hpairs⟩ := List.cons_subset.1 h
    have hset := names_set_of_mem hpair pair.2
    exact (ih (hset.symm ▸ hpairs)).trans hset

/-- A table has the names that were set, and those that it had. -/
theorem mem_names_setAll {pairs : List (String × α)} :
    name ∈ names (setAll entries pairs) ↔ name ∈ names pairs ∨ name ∈ names entries := by
  have hreverse : name ∈ names pairs.reverse ↔ name ∈ names pairs := by
    simp only [names, List.map_reverse, List.mem_reverse]
  rw [← isSome_get?_iff, get?_setAll, Option.isSome_or, Bool.or_eq_true, isSome_get?_iff,
    isSome_get?_iff, hreverse]

theorem forall_mem_set {P : α → Prop} (h : ∀ entry ∈ entries, P entry.2) (hvalue : P value) :
    ∀ entry ∈ set entries name value, P entry.2 := by
  induction entries with
  | nil => simpa [set] using hvalue
  | cons entry rest ih =>
    obtain ⟨hentry, hrest⟩ := List.forall_mem_cons.1 h
    rw [set]
    split
    · exact List.forall_mem_cons.2 ⟨hvalue, hrest⟩
    · exact List.forall_mem_cons.2 ⟨hentry, ih hrest⟩

theorem forall_mem_setAll {P : α → Prop} {pairs : List (String × α)}
    (h : ∀ entry ∈ entries, P entry.2) (hpairs : ∀ pair ∈ pairs, P pair.2) :
    ∀ entry ∈ setAll entries pairs, P entry.2 := by
  induction pairs generalizing entries with
  | nil => exact h
  | cons pair pairs ih =>
    obtain ⟨hpair, hrest⟩ := List.forall_mem_cons.1 hpairs
    exact ih (forall_mem_set h hpair) hrest

def Distinct (entries : List (String × α)) : Prop := (names entries).Nodup

instance (entries : List (String × α)) : Decidable (Distinct entries) :=
  inferInstanceAs (Decidable (names entries).Nodup)

theorem Distinct.set (h : Distinct entries) (name : String) (value : α) :
    Distinct (set entries name value) := by
  by_cases hmem : name ∈ names entries
  · rwa [Distinct, names_set_of_mem hmem]
  · rw [Distinct, names_set_of_not_mem hmem, List.nodup_append]
    refine ⟨h, List.nodup_singleton _, ?_⟩
    rintro a ha b hb rfl
    exact hmem (List.mem_singleton.1 hb ▸ ha)

/-- Setting names in turn gives none of them a second entry. -/
theorem Distinct.setAll (h : Distinct entries) (pairs : List (String × α)) :
    Distinct (setAll entries pairs) := by
  induction pairs generalizing entries with
  | nil => exact h
  | cons pair pairs ih => exact ih (h.set pair.1 pair.2)

theorem distinct_nil : Distinct ([] : List (String × α)) := List.nodup_nil

theorem distinct_ofList (pairs : List (String × α)) : Distinct (ofList pairs) :=
  distinct_nil.setAll pairs

/-- Where names are distinct, every entry is found. -/
theorem Distinct.get?_eq_some_iff (h : Distinct entries) :
    get? entries name = some value ↔ (name, value) ∈ entries := by
  refine ⟨mem_of_get?, fun hmem => ?_⟩
  induction entries with
  | nil => simp at hmem
  | cons entry rest ih =>
    obtain ⟨hfirst, hrest⟩ := List.nodup_cons.1 h
    rw [get?]
    rcases List.mem_cons.1 hmem with rfl | hmem
    · exact if_pos rfl
    · have hne : entry.1 ≠ name := by
        rintro rfl
        exact hfirst (List.mem_map.2 ⟨_, hmem, rfl⟩)
      rw [if_neg hne]
      exact ih hrest hmem

theorem Distinct.perm (h : Distinct entries) (hperm : entries.Perm entries') :
    Distinct entries' := (hperm.map Prod.fst).nodup_iff.1 h

/-- Neither is the order of entries of importance there. -/
theorem Distinct.get?_perm (h : Distinct entries) (hperm : entries.Perm entries')
    (name : String) : get? entries name = get? entries' name := by
  ext value
  rw [h.get?_eq_some_iff, (h.perm hperm).get?_eq_some_iff]
  exact hperm.mem_iff

theorem Distinct.get?_reverse (h : Distinct entries) (name : String) :
    get? entries.reverse name = get? entries name :=
  (h.get?_perm (List.reverse_perm entries).symm name).symm

/-- A table that is part of another one of its size has the same entries. -/
theorem Distinct.perm_of_subset (h : Distinct entries) (hsubset : entries ⊆ entries')
    (hlength : entries'.length ≤ entries.length) : entries.Perm entries' :=
  (List.subperm_of_subset (List.Nodup.of_map _ h) hsubset).perm_of_length_le hlength

/-- A table with distinct names is known by its list of names and by what is found in it. -/
theorem Distinct.ext (h : Distinct entries) (hnames : names entries = names entries')
    (hget : ∀ name, get? entries name = get? entries' name) : entries = entries' := by
  induction entries generalizing entries' with
  | nil => exact (List.map_eq_nil_iff.1 hnames.symm).symm
  | cons entry rest ih =>
    obtain ⟨entry', rest', rfl, hfirst, hrest⟩ := List.map_eq_cons_iff.1 hnames.symm
    change names rest' = names rest at hrest
    obtain ⟨hnew, hdistinct⟩ := List.nodup_cons.1 h
    have hentry : entry = entry' := by
      have hvalue := hget entry.1
      rw [get?, get?, if_pos rfl, if_pos hfirst] at hvalue
      exact Prod.ext hfirst.symm (Option.some.inj hvalue)
    subst hentry
    refine congrArg (entry :: ·) (ih hdistinct hrest.symm fun name => ?_)
    by_cases hname : entry.1 = name
    · have hnew' : entry.1 ∉ names rest' := hrest ▸ hnew
      rw [← hname, get?_eq_none_iff.2 hnew, get?_eq_none_iff.2 hnew']
    · simpa only [get?, if_neg hname] using hget name

/-- Setting the same entries once more changes nothing. -/
theorem Distinct.setAll_setAll (h : Distinct entries) (pairs : List (String × α)) :
    Entries.setAll (Entries.setAll entries pairs) pairs = Entries.setAll entries pairs := by
  have honce := h.setAll pairs
  refine (honce.setAll pairs).ext ?_ fun name => ?_
  · exact names_setAll_of_subset fun name hname => mem_names_setAll.2 (.inl hname)
  · rw [get?_setAll, get?_setAll, ← Option.or_assoc, Option.or_self]

end TextTemplate.Entries
