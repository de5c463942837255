import TextTemplate.Text.Class

/-!
Trimming and searching. A needle is looked for from left to right, and removing it
deletes the occurrences that do not overlap an earlier one.
-/
namespace TextTemplate.Text

def trimStart (cs : List Char) : List Char := cs.dropWhile isSpace

def trimEnd (cs : List Char) : List Char := (cs.reverse.dropWhile isSpace).reverse

def trim (cs : List Char) : List Char := trimEnd (trimStart cs)

/-- The needle stands somewhere in the text. -/
def occursIn (needle : List Char) : List Char → Bool
  | [] => needle.isEmpty
  | c :: rest => needle.isPrefixOf (c :: rest) || occursIn needle rest

/-- Deletes the needle, skipping the characters that an occurrence has used up. -/
def removeSkipping (needle : List Char) : Nat → List Char → List Char
  | _, [] => []
  | skip + 1, _ :: rest => removeSkipping needle skip rest
  | 0, c :: rest =>
    if !needle.isEmpty && needle.isPrefixOf (c :: rest) then
      removeSkipping needle (needle.length - 1) rest
    else c :: removeSkipping needle 0 rest

/-- Deletes every occurrence of the needle; an empty needle deletes nothing. -/
def remove (needle cs : List Char) : List Char := removeSkipping needle 0 cs

/-- The pieces between the separators, one more than there are separators. -/
def splitOnChar (sep : Char) : List Char → List (List Char)
  | [] => [[]]
  | c :: rest =>
    if c = sep then [] :: splitOnChar sep rest
    else
      match splitOnChar sep rest with
      | [] => [[c]]
      | piece :: pieces => (c :: piece) :: pieces

theorem splitOnChar_ne_nil (sep : Char) (cs : List Char) : splitOnChar sep cs ≠ [] := by
  induction cs with
  | nil => simp [splitOnChar]
  | cons c rest ih =>
    by_cases h : c = sep
    · simp [splitOnChar, h]
    · obtain ⟨piece, pieces, hp⟩ := List.exists_cons_of_ne_nil ih
      simp [splitOnChar, h, hp]

/-- Spaces on both sides of a text are trimmed away. -/
theorem trim_padded {before after : List Char} (hbefore : ∀ c ∈ before, isSpace c = true)
    (hafter : ∀ c ∈ after, isSpace c = true) (cs : List Char) :
    trim (before ++ cs ++ after) = trim cs := by
  have hreverse : ∀ c ∈ after.reverse, isSpace c = true := by
    simpa only [List.mem_reverse] using hafter
  have hstart : trimStart (before ++ cs ++ after) = trimStart (cs ++ after) := by
    rw [trimStart, List.append_assoc, List.dropWhile_append_of_pos hbefore, trimStart]
  rw [trim, hstart, trimStart, List.dropWhile_append]
  split
  · -- Nothing but spaces: both sides are empty.
    rename_i hempty
    have hafterEmpty : after.dropWhile isSpace = [] := by
      have hdrop : (after ++ []).dropWhile isSpace = [] := List.dropWhile_append_of_pos hafter
      rwa [List.append_nil] at hdrop
    have hcs : trimStart cs = [] := List.isEmpty_iff.1 hempty
    rw [hafterEmpty, trim, hcs]
  · rw [trimEnd, List.reverse_append, List.dropWhile_append_of_pos hreverse]
    rfl

/-- What is trimmed away are spaces. -/
theorem exists_padding (cs : List Char) :
    ∃ before after, (∀ c ∈ before, isSpace c = true) ∧ (∀ c ∈ after, isSpace c = true) ∧
      cs = before ++ trim cs ++ after := by
  have hspaces : ∀ text : List Char, ∀ c ∈ text.takeWhile isSpace, isSpace c = true := by
    intro text c hc
    exact List.all_eq_true.1 List.all_takeWhile c hc
  refine ⟨cs.takeWhile isSpace, ((trimStart cs).reverse.takeWhile isSpace).reverse,
    hspaces cs, ?_, ?_⟩
  · intro c hc
    exact hspaces _ c (List.mem_reverse.1 hc)
  · have hend : trim cs ++ ((trimStart cs).reverse.takeWhile isSpace).reverse = trimStart cs := by
      rw [trim, trimEnd, ← List.reverse_append, List.takeWhile_append_dropWhile,
        List.reverse_reverse]
    rw [List.append_assoc, hend]
    exact (List.takeWhile_append_dropWhile).symm

/-- A text that neither starts nor ends with a space is trimmed already. -/
theorem trim_eq_self {cs : List Char} (hfirst : ∀ c ∈ cs.head?, isSpace c = false)
    (hlast : ∀ c ∈ cs.getLast?, isSpace c = false) : trim cs = cs := by
  have hstart : trimStart cs = cs := by
    cases cs with
    | nil => rfl
    | cons c rest =>
      have hc : isSpace c = false := hfirst c rfl
      rw [trimStart, List.dropWhile_cons, hc, if_neg Bool.false_ne_true]
  have hend : cs.reverse.dropWhile isSpace = cs.reverse := by
    rw [← List.head?_reverse] at hlast
    cases hrev : cs.reverse with
    | nil => rfl
    | cons c rest =>
      have hc : isSpace c = false := hlast c (by rw [hrev]; rfl)
      rw [List.dropWhile_cons, hc, if_neg Bool.false_ne_true]
  rw [trim, hstart, trimEnd, hend, List.reverse_reverse]

/-- The characters of a text are separators and characters of its pieces. -/
theorem forall_of_splitOnChar {P : Char → Prop} {sep : Char} (hsep : P sep) {cs : List Char}
    (h : ∀ piece ∈ splitOnChar sep cs, ∀ c ∈ piece, P c) : ∀ c ∈ cs, P c := by
  induction cs with
  | nil => exact List.forall_mem_nil _
  | cons c rest ih =>
    rw [splitOnChar] at h
    by_cases hc : c = sep
    · rw [if_pos hc] at h
      exact List.forall_mem_cons.2 ⟨hc ▸ hsep, ih (List.forall_mem_cons.1 h).2⟩
    · obtain ⟨piece, pieces, hpieces⟩ := List.exists_cons_of_ne_nil (splitOnChar_ne_nil sep rest)
      rw [if_neg hc, hpieces] at h
      obtain ⟨hfirst, hothers⟩ := List.forall_mem_cons.1 h
      obtain ⟨hchar, hpiece⟩ := List.forall_mem_cons.1 hfirst
      rw [hpieces] at ih
      exact List.forall_mem_cons.2 ⟨hchar, ih (List.forall_mem_cons.2 ⟨hpiece, hothers⟩)⟩

theorem splitOnChar_eq_splitOn (sep : Char) (cs : List Char) :
    splitOnChar sep cs = cs.splitOn sep := by
  induction cs with
  | nil => rfl
  | cons c rest ih =>
    rw [splitOnChar, List.splitOn_cons_eq_if_modifyHead, ih]
    by_cases hc : c = sep
    · rw [if_pos hc, if_pos (beq_iff_eq.2 hc)]
    · obtain ⟨piece, pieces, hpieces⟩ := List.exists_cons_of_ne_nil (List.splitOn_ne_nil sep rest)
      rw [if_neg hc, if_neg (by simpa using hc), hpieces]
      rfl

end TextTemplate.Text
