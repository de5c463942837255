import TextTemplate.Text.Case
import TextTemplate.Text.Escape
import TextTemplate.Text.Trim

/-!
Texts without raw markup. The four characters that open or close a tag or a quotation are
gone after escaping. What the filters do to a text afterwards brings none of them back: no
case mapping leads to one of them from another character, which is read off the tables run
by run, and removing deletes only.
-/
namespace TextTemplate.Text

open Unicode

/-- The characters that may not stand in an escaped text. -/
def markup : List Char := ['<', '>', '"', '\x27']

def FreeOfMarkup (cs : List Char) : Prop := ∀ c ∈ cs, c ∉ markup

instance (cs : List Char) : Decidable (FreeOfMarkup cs) :=
  List.decidableBAll (fun c => c ∉ markup) cs

theorem freeOfMarkup_nil : FreeOfMarkup [] := List.forall_mem_nil _

theorem freeOfMarkup_append {as bs : List Char} :
    FreeOfMarkup (as ++ bs) ↔ FreeOfMarkup as ∧ FreeOfMarkup bs :=
  List.forall_mem_append

theorem freeOfMarkup_cons {c : Char} {cs : List Char} :
    FreeOfMarkup (c :: cs) ↔ c ∉ markup ∧ FreeOfMarkup cs :=
  List.forall_mem_cons

theorem freeOfMarkup_singleton {c : Char} : FreeOfMarkup [c] ↔ c ∉ markup :=
  List.forall_mem_singleton

/-- Characters that are replaced one by one bring in no markup if none of the replacements does. -/
theorem FreeOfMarkup.flatMap {f : Char → List Char} {cs : List Char} (h : FreeOfMarkup cs)
    (hf : ∀ c, c ∉ markup → FreeOfMarkup (f c)) : FreeOfMarkup (cs.flatMap f) := by
  intro d hd
  obtain ⟨c, hc, hdc⟩ := List.mem_flatMap.1 hd
  exact hf c (h c hc) d hdc

/-- An entity has no markup, and every other character is not markup itself. -/
theorem freeOfMarkup_escapeChar (c : Char) : FreeOfMarkup (escapeChar c) := by
  fun_cases escapeChar c with
  | case1 => decide
  | case2 => decide
  | case3 => decide
  | case4 => decide
  | case5 => decide
  | case6 _ _ hlt hgt hquot hapos =>
    rw [freeOfMarkup_singleton]
    simp only [markup, List.mem_cons, List.not_mem_nil, or_false, not_or]
    exact ⟨hlt, hgt, hquot, hapos⟩

theorem freeOfMarkup_escape (cs : List Char) : FreeOfMarkup (escape cs) := by
  intro d hd
  obtain ⟨c, _, hdc⟩ := List.mem_flatMap.1 hd
  exact freeOfMarkup_escapeChar c d hdc

/-- An escaped text is free of markup. -/
theorem freeOfMarkup_escapeHtml (s : String) : FreeOfMarkup (escapeHtml s).toList := by
  rw [escapeHtml, String.toList_ofList]
  exact freeOfMarkup_escape s.toList

/-- Markup has small code points. -/
theorem toNat_le_of_mem_markup {c : Char} (h : c ∈ markup) : c.toNat ≤ 62 ∧ c.toNat ≠ 0 := by
  simp only [markup, List.mem_cons, List.not_mem_nil, or_false] at h
  rcases h with rfl | rfl | rfl | rfl <;> decide

/-- A number that is no code point stands for the null character, which is not markup. -/
theorem ofNat_notMem_markup {n : Nat} (h : 62 < n) : Char.ofNat n ∉ markup := by
  intro hmem
  obtain ⟨hle, hne⟩ := toNat_le_of_mem_markup hmem
  by_cases hvalid : n.isValidChar
  · have htoNat : (Char.ofNat n).toNat = n := by
      rw [Char.ofNat, dif_pos hvalid]
      rfl
    omega
  · rw [Char.ofNat, dif_neg hvalid] at hne
    exact hne rfl

def RunsAboveMarkup (runs : List CaseRun) : Prop :=
  ∀ run ∈ runs, (62 : Int) < run.first + run.shift

def ExpansionsAboveMarkup (expansions : List (Nat × List Nat)) : Prop :=
  ∀ entry ∈ expansions, ∀ code ∈ entry.2, 62 < code

/-- No table leads down to markup. -/
theorem caseTables_above :
    (RunsAboveMarkup upperRuns ∧ ExpansionsAboveMarkup upperExpansions) ∧
      RunsAboveMarkup lowerRuns ∧ ExpansionsAboveMarkup lowerExpansions := by
  unfold RunsAboveMarkup ExpansionsAboveMarkup
  decide +kernel

/-- The case mapping of a character that is not ASCII. -/
theorem mapCase_notMem_markup {expansions : List (Nat × List Nat)} {runs : List CaseRun}
    (hexpansions : ExpansionsAboveMarkup expansions) (hruns : RunsAboveMarkup runs) {code : Nat}
    (hcode : 62 < code) : FreeOfMarkup ((mapCase expansions runs code).map Char.ofNat) := by
  intro c hc
  obtain ⟨n, hn, rfl⟩ := List.mem_map.1 hc
  refine ofNat_notMem_markup ?_
  rcases mapCase_cases expansions runs code with
    ⟨entry, hentry, hmap, _⟩ | ⟨run, hrun, hcovers, hmap⟩ | hmap
  · rw [hmap] at hn
    exact hexpansions entry hentry n hn
  · rw [hmap, List.mem_singleton] at hn
    have habove := hruns run hrun
    simp only [CaseRun.covers, Bool.and_eq_true, decide_eq_true_eq] at hcovers
    omega
  · rw [hmap, List.mem_singleton] at hn
    omega

/-- Among the ASCII characters no other one has markup as its capital or small letter. -/
theorem asciiCase_notMem_markup {c : Char} (hascii : isAscii c = true) (h : c ∉ markup) :
    c.toUpper ∉ markup ∧ c.toLower ∉ markup := by
  have hcodes : ∀ n < 0x80, Char.ofNat n ∉ markup →
      (Char.ofNat n).toUpper ∉ markup ∧ (Char.ofNat n).toLower ∉ markup := by
    decide +kernel
  exact forall_ascii (P := fun d => d ∉ markup → d.toUpper ∉ markup ∧ d.toLower ∉ markup)
    hcodes hascii h

/-- All characters outside of ASCII have code points above those of markup. -/
theorem ascii_or_above (c : Char) : isAscii c = true ∨ 62 < c.toNat ∧ isAscii c = false := by
  by_cases h : isAscii c = true
  · exact Or.inl h
  · have habove : ¬ c.toNat < 0x80 := mt isAscii_iff.2 h
    exact Or.inr ⟨by omega, Bool.not_eq_true _ ▸ h⟩

/-- A character in another case is free of markup: the tables lead to none, and neither does a
change of case within ASCII. -/
theorem freeOfMarkup_caseChar {expansions : List (Nat × List Nat)} {runs : List CaseRun}
    (hexpansions : ExpansionsAboveMarkup expansions) (hruns : RunsAboveMarkup runs) {c d : Char}
    (hd : isAscii c = true → d ∉ markup) :
    FreeOfMarkup (if isAscii c then [d] else (mapCase expansions runs c.toNat).map Char.ofNat) := by
  rcases ascii_or_above c with hascii | ⟨habove, hascii⟩
  · rw [hascii, if_pos rfl, freeOfMarkup_singleton]
    exact hd hascii
  · rw [hascii, if_neg Bool.false_ne_true]
    exact mapCase_notMem_markup hexpansions hruns habove

theorem freeOfMarkup_upperChar (c : Char) (h : c ∉ markup) : FreeOfMarkup (upperChar c) := by
  obtain ⟨⟨hruns, hexpansions⟩, -⟩ := caseTables_above
  exact freeOfMarkup_caseChar hexpansions hruns fun hascii => (asciiCase_notMem_markup hascii h).1

theorem freeOfMarkup_lowerChar (c : Char) (h : c ∉ markup) : FreeOfMarkup (lowerChar c) := by
  obtain ⟨-, hruns, hexpansions⟩ := caseTables_above
  exact freeOfMarkup_caseChar hexpansions hruns fun hascii => (asciiCase_notMem_markup hascii h).2

theorem freeOfMarkup_upper {cs : List Char} (h : FreeOfMarkup cs) : FreeOfMarkup (upper cs) :=
  h.flatMap freeOfMarkup_upperChar

theorem freeOfMarkup_lowerAfter {cs : List Char} (h : FreeOfMarkup cs) (before : List Char) :
    FreeOfMarkup (lowerAfter before cs) := by
  induction cs generalizing before with
  | nil => exact freeOfMarkup_nil
  | cons c rest ih =>
    obtain ⟨hc, hrest⟩ := freeOfMarkup_cons.1 h
    refine freeOfMarkup_append.2 ⟨?_, ih hrest (c :: before)⟩
    split
    · split <;> decide
    · exact freeOfMarkup_lowerChar c hc

theorem freeOfMarkup_lower {cs : List Char} (h : FreeOfMarkup cs) : FreeOfMarkup (lower cs) :=
  freeOfMarkup_lowerAfter h []

theorem freeOfMarkup_capitalize {cs : List Char} (h : FreeOfMarkup cs) :
    FreeOfMarkup (capitalize cs) := by
  cases cs with
  | nil => exact h
  | cons c rest =>
    obtain ⟨hc, hrest⟩ := freeOfMarkup_cons.1 h
    exact freeOfMarkup_append.2 ⟨freeOfMarkup_upperChar c hc, hrest⟩

/-- Capitals at the start of each word bring in no markup either. -/
theorem freeOfMarkup_titleCase {cs : List Char} (h : FreeOfMarkup cs) :
    FreeOfMarkup (titleCase cs) := by
  unfold titleCase
  generalize false = inWord
  induction cs generalizing inWord with
  | nil => exact freeOfMarkup_nil
  | cons c rest ih =>
    obtain ⟨hc, hrest⟩ := freeOfMarkup_cons.1 h
    refine freeOfMarkup_append.2 ⟨?_, ih hrest _⟩
    split
    · split
      · exact freeOfMarkup_lowerChar c hc
      · exact freeOfMarkup_upperChar c hc
    · exact freeOfMarkup_singleton.2 hc

theorem freeOfMarkup_remove {cs : List Char} (needle : List Char) (h : FreeOfMarkup cs) :
    FreeOfMarkup (remove needle cs) := by
  unfold remove
  generalize 0 = skip
  induction cs generalizing skip with
  | nil => cases skip <;> exact freeOfMarkup_nil
  | cons c rest ih =>
    obtain ⟨hc, hrest⟩ := freeOfMarkup_cons.1 h
    cases skip with
    | succ skip => exact ih hrest skip
    | zero =>
      rw [removeSkipping]
      split
      · exact ih hrest _
      · exact freeOfMarkup_cons.2 ⟨hc, ih hrest 0⟩

end TextTemplate.Text
