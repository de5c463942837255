import Mathlib.Algebra.Group.Nat.Even
import Mathlib.Data.List.DropRight
import TextTemplate.Proofs.PrintedTokens

/-!
Openers that stay text. Where the division of a text looks for a tag and finds none, the
closer of the opener is missing from all that follows. It does not look everywhere: past an
opener without a closer it goes on after both characters, so that in a run of braces every
second one is passed over. An opener whose first character is passed over may be closed and
be text all the same.
-/
namespace TextTemplate

namespace Source

def InText (spans : List Span) (n : Nat) : Prop :=
  ∃ pre cs post, spans = pre ++ .text cs :: post ∧ (writtenAll pre).length ≤ n ∧
    n < (writtenAll pre).length + cs.length

def trailingBraces (cs : List Char) : Nat := (cs.rtakeWhile (· == '\x7b')).length

/-- The opening brace after this text is passed over as the second half of an opener that has
no closer, and what follows the brace makes it an opener of another kind. -/
def Hides (before : List Char) (kind : TagKind) : Prop :=
  kind ≠ .expression ∧ ¬ Even (trailingBraces before)

instance (before : List Char) (kind : TagKind) : Decidable (Hides before kind) :=
  inferInstanceAs (Decidable (_ ∧ _))

theorem not_inText_nil (n : Nat) : ¬ InText [] n := by
  rintro ⟨pre, cs, post, heq, _⟩
  simp at heq

/-- A position lies in the first span or in the text of a later one. -/
theorem InText.of_cons {span : Span} {spans : List Span} {n : Nat} (h : InText (span :: spans) n) :
    (n < span.written.length ∧ ∃ cs, span = .text cs) ∨
      span.written.length ≤ n ∧ InText spans (n - span.written.length) := by
  obtain ⟨pre, cs, post, heq, hstart, hstop⟩ := h
  cases pre with
  | nil =>
    obtain ⟨rfl, rfl⟩ := List.cons.inj heq
    left
    exact ⟨by simpa [Span.written] using hstop, cs, rfl⟩
  | cons first pre =>
    obtain ⟨rfl, rfl⟩ := List.cons.inj heq
    right
    rw [writtenAll_cons, List.length_append] at hstart hstop
    exact ⟨by omega, pre, cs, post, rfl, by omega, by omega⟩

theorem InText.of_tag {kind : TagKind} {body : List Char} {spans : List Span} {n : Nat}
    (h : InText (.tag kind body :: spans) n) :
    (Span.tag kind body).written.length ≤ n ∧
      InText spans (n - (Span.tag kind body).written.length) := by
  rcases h.of_cons with ⟨_, cs, hspan⟩ | hlater
  · simp at hspan
  · exact hlater

theorem InText.of_addLineBreak {nl : List Char} {spans : List Span} {n : Nat}
    (h : InText (addLineBreak nl spans) n) : nl.length ≤ n ∧ InText spans (n - nl.length) := by
  unfold addLineBreak at h
  split at h
  · rename_i hempty
    obtain rfl := List.isEmpty_iff.1 hempty
    exact ⟨Nat.zero_le n, h⟩
  · rcases h.of_cons with ⟨_, cs, hspan⟩ | hlater
    · simp at hspan
    · exact hlater

theorem InText.of_addText {cs : List Char} {spans : List Span} {n : Nat}
    (h : InText (addText cs spans) n) :
    n < cs.length ∨ cs.length ≤ n ∧ InText spans (n - cs.length) := by
  by_cases hn : n < cs.length
  · exact Or.inl hn
  · refine Or.inr ⟨Nat.le_of_not_lt hn, ?_⟩
    cases spans with
    | nil =>
      rcases h.of_cons with ⟨hlt, _⟩ | ⟨_, hnil⟩
      · exact absurd hlt hn
      · exact absurd hnil (not_inText_nil _)
    | cons span spans =>
      cases span with
      | text more =>
        rcases h.of_cons with ⟨hlt, _⟩ | ⟨hle, hlater⟩
        · rw [Span.written, List.length_append] at hlt
          exact ⟨[], more, spans, rfl, Nat.zero_le _, by simp; omega⟩
        · rw [Span.written, List.length_append] at hle hlater
          obtain ⟨pre, t, post, rfl, hstart, hstop⟩ := hlater
          refine ⟨.text more :: pre, t, post, rfl, ?_, ?_⟩
          · rw [writtenAll_cons, Span.written, List.length_append]
            omega
          · rw [writtenAll_cons, Span.written, List.length_append]
            omega
      | tag kind body =>
        rcases h.of_cons with ⟨hlt, _⟩ | ⟨_, hlater⟩
        · exact absurd hlt hn
        · exact hlater
      | lineBreak nl =>
        rcases h.of_cons with ⟨hlt, _⟩ | ⟨_, hlater⟩
        · exact absurd hlt hn
        · exact hlater

/-- What comes before a later position begins with the text that is passed over. -/
theorem exists_eq_append {a cs before rest : List Char}
    (heq : a ++ cs = before ++ rest) (hle : a.length ≤ before.length) :
    ∃ between, before = a ++ between ∧ cs = between ++ rest := by
  rcases List.append_eq_append_iff.1 heq with hafter | ⟨between, hprefix, hrest⟩
  · exact hafter
  · have hnil : between = [] := by
      have hlength := congrArg List.length hprefix
      rw [List.length_append] at hlength
      exact List.length_eq_zero_iff.1 (by omega)
    subst hnil
    exact ⟨[], by simpa using hprefix.symm, by simpa using hrest.symm⟩

theorem trailingBraces_append (a b : List Char) :
    trailingBraces (a ++ b) =
      if trailingBraces b = b.length then trailingBraces a + b.length else trailingBraces b := by
  simp only [trailingBraces, List.rtakeWhile, List.reverse_append, List.takeWhile_append,
    List.length_reverse]
  split
  · rw [List.length_append, List.length_reverse, Nat.add_comm]
  · rfl

theorem trailingBraces_concat {c : Char} (hc : c ≠ '\x7b') (cs : List Char) :
    trailingBraces (cs ++ [c]) = 0 := by
  have hend : ¬ (c == '\x7b') = true := by simpa using hc
  rw [trailingBraces, List.rtakeWhile_concat_neg (· == '\x7b') cs c hend, List.length_nil]

/-- After an even number of braces, a run is counted from where it goes on. -/
theorem even_trailingBraces_append {a : List Char} (ha : Even (trailingBraces a)) (b : List Char) :
    Even (trailingBraces (a ++ b)) ↔ Even (trailingBraces b) := by
  rw [trailingBraces_append]
  split
  · rename_i hall
    rw [hall, Nat.even_add, iff_true_left ha]
  · rfl

theorem hides_append {a : List Char} (ha : Even (trailingBraces a)) (b : List Char)
    (kind : TagKind) : Hides (a ++ b) kind ↔ Hides b kind := by
  rw [Hides, Hides, even_trailingBraces_append ha]

/-- An opener has no body only if its closer is missing from all that follows. -/
theorem not_closer_of_splitBody {kind : TagKind} {cs : List Char}
    (h : kind.splitBody cs = none) : ¬ kind.closer <:+: cs := by
  intro hcloser
  have hclose := splitAtClose_ne_none hcloser
  have htag : ∀ mark, splitAtTagClose mark cs = none → splitAtClose mark cs = none := by
    intro mark hnone
    unfold splitAtTagClose at hnone
    split at hnone
    · assumption
    · split at hnone
      · simp at hnone
      · split at hnone <;> simp at hnone
  cases kind with
  | comment => exact hclose h
  | expression => exact hclose (htag _ h)
  | block => exact hclose (htag _ h)

/-- No tag ends in an odd number of opening braces. -/
theorem even_trailingBraces_tag (kind : TagKind) (body : List Char) :
    Even (trailingBraces (Span.tag kind body).written) := by
  have hwritten : (Span.tag kind body).written =
      ('\x7b' :: kind.openMark :: body ++ [kind.closeMark]) ++ ['\x7d'] := by
    simp [Span.written]
  rw [hwritten, trailingBraces_concat (by decide)]
  exact Even.zero

theorem even_trailingBraces_splitDropped (trimBlocks : Bool) (kind : TagKind) (after : List Char) :
    Even (trailingBraces (splitDropped trimBlocks kind after).1) := by
  by_cases hnil : (splitDropped trimBlocks kind after).1 = []
  · rw [hnil]
    exact Even.zero
  · obtain ⟨_, _, hbreak, _⟩ := (splitDropped_eq_iff trimBlocks kind after _).1 ⟨hnil, rfl⟩
    rcases hbreak with heq | heq <;> rw [heq] <;> decide

/-- Past a character that no tag opens with, the same openers are looked at. -/
theorem hides_of_not_opens {c d : Char} {rest between after : List Char} {kind : TagKind}
    (hopen : (if c = '\x7b' then TagKind.ofOpenMark d else none) = none)
    (heq : d :: rest = between ++ '\x7b' :: kind.openMark :: after) :
    Hides ([c] ++ between) kind ↔ Hides between kind := by
  by_cases hc : c = '\x7b'
  · -- The next character is no brace, so that no run goes on across it.
    rw [if_pos hc] at hopen
    have hd : d ≠ '\x7b' := by
      rintro rfl
      simp [TagKind.ofOpenMark] at hopen
    cases between with
    | nil => exact absurd (List.cons.inj heq).1 hd
    | cons e between =>
      obtain ⟨rfl, _⟩ := List.cons.inj heq
      have hone : Even (trailingBraces [d]) := by
        rw [← List.nil_append [d], trailingBraces_concat hd]
        exact Even.zero
      have htwo : Even (trailingBraces ([c] ++ [d])) := by
        rw [trailingBraces_concat hd]
        exact Even.zero
      rw [List.append_cons, hides_append htwo, ← List.singleton_append, hides_append hone]
  · refine hides_append ?_ between kind
    rw [← List.nil_append [c], trailingBraces_concat hc]
    exact Even.zero

theorem even_trailingBraces_opener (kind : TagKind) :
    Even (trailingBraces ['\x7b', kind.openMark]) := by
  cases kind <;> decide

/-- Where a tag was looked for and not found, the opener there has no closer, nor has one of
two braces that begins with its second half. -/
theorem not_closer_of_opener {kind kind' : TagKind} {rest before after : List Char}
    (hbody : kind'.splitBody rest = none) (hlength : before.length < 2)
    (heq : '\x7b' :: kind'.openMark :: rest = before ++ '\x7b' :: kind.openMark :: after)
    (hseen : ¬ Hides before kind) : ¬ kind.closer <:+: after := by
  match before with
  | [] =>
    simp only [List.nil_append, List.cons.injEq, true_and] at heq
    obtain ⟨hmark, rfl⟩ := heq
    have hkind := congrArg TagKind.ofOpenMark hmark
    rw [TagKind.ofOpenMark_openMark, TagKind.ofOpenMark_openMark, Option.some.injEq] at hkind
    exact hkind ▸ not_closer_of_splitBody hbody
  | [c] =>
    simp only [List.singleton_append, List.cons.injEq] at heq
    obtain ⟨rfl, hmark, rfl⟩ := heq
    have hexpression : kind = .expression := by
      by_contra hne
      exact hseen ⟨hne, by decide⟩
    have hkind : kind' = .expression := by
      cases kind' with
      | expression => rfl
      | block => exact absurd hmark (by decide)
      | comment => exact absurd hmark (by decide)
    subst hexpression hkind
    intro hcloser
    exact not_closer_of_splitBody hbody (hcloser.trans (List.suffix_cons _ _).isInfix)
  | _ :: _ :: before =>
    simp only [List.length_cons] at hlength
    omega

/-- An opener that lies in text and is not passed over has no closer. -/
theorem not_closer_of_inText (trimBlocks : Bool) {cs before after : List Char} {kind : TagKind}
    (hopener : cs = before ++ '\x7b' :: kind.openMark :: after)
    (htext : InText (spans trimBlocks cs) before.length) (hseen : ¬ Hides before kind) :
    ¬ kind.closer <:+: after := by
  fun_induction spans trimBlocks cs generalizing before with
  | case1 => exact absurd htext (not_inText_nil _)
  | case2 c =>
    have hlength := congrArg List.length hopener
    simp only [List.length_append, List.length_cons, List.length_nil] at hlength
    omega
  | case3 c d rest hopen ih =>
    rcases htext.of_addText with hfirst | ⟨hle, hlater⟩
    · obtain rfl : before = [] := List.length_eq_zero_iff.1 (Nat.lt_one_iff.1 hfirst)
      simp only [List.nil_append, List.cons.injEq] at hopener
      obtain ⟨rfl, rfl, _⟩ := hopener
      simp [TagKind.ofOpenMark_openMark] at hopen
    · obtain ⟨between, rfl, hrest⟩ := exists_eq_append (a := [c]) hopener hle
      rw [List.length_append, Nat.add_sub_cancel_left] at hlater
      exact ih hrest hlater (mt (hides_of_not_opens hopen hrest).2 hseen)
  | case4 c d rest kind' hopen hbody ih =>
    obtain ⟨rfl, rfl⟩ := eq_marks_of_opens hopen
    rcases htext.of_addText with hfirst | ⟨hle, hlater⟩
    · exact not_closer_of_opener hbody hfirst hopener hseen
    · obtain ⟨between, rfl, hrest⟩ :=
        exists_eq_append (a := ['\x7b', kind'.openMark]) hopener hle
      rw [List.length_append, Nat.add_sub_cancel_left] at hlater
      exact ih hrest hlater (mt (hides_append (even_trailingBraces_opener kind') _ _).2 hseen)
  | case5 c d rest kind' hopen body more hbody ih =>
    obtain ⟨rfl, rfl⟩ := eq_marks_of_opens hopen
    have hwritten : '\x7b' :: kind'.openMark :: rest = (Span.tag kind' body).written ++ more := by
      rw [splitBody_eq_append hbody]
      simp [Span.written]
    rw [hwritten] at hopener
    obtain ⟨hle, hafter⟩ := htext.of_tag
    obtain ⟨between, rfl, hmore⟩ := exists_eq_append hopener hle
    rw [List.length_append, Nat.add_sub_cancel_left] at hafter
    obtain ⟨hle', hlater⟩ := hafter.of_addLineBreak
    rw [← splitDropped_append trimBlocks kind' more] at hmore
    obtain ⟨between', rfl, hrest⟩ := exists_eq_append hmore hle'
    rw [List.length_append, Nat.add_sub_cancel_left] at hlater
    rw [hides_append (even_trailingBraces_tag kind' body),
      hides_append (even_trailingBraces_splitDropped trimBlocks kind' more)] at hseen
    exact ih hrest hlater hseen

end Source

namespace Token

open Source

/-- Wherever an opener lies in plain text, its closer is missing from all that follows, unless
the opener is hidden behind the first half of an opener that has no closer either. -/
theorem scan_opener_unclosed (trimBlocks : Bool) (source : String) {before after : List Char}
    {kind : TagKind} (hopener : source.toList = before ++ '\x7b' :: kind.openMark :: after)
    (htext : InText (spans trimBlocks source.toList) before.length)
    (hseen : ¬ Hides before kind) : ¬ kind.closer <:+: after :=
  not_closer_of_inText trimBlocks hopener htext hseen

/-- A block without a closer after two braces without one, and a closed comment behind them. -/
theorem scan_opener_unclosed_run :
    let source := "a\x7b\x7b\x7b% b \x7b# c #\x7d"
    let before := "a\x7b\x7b".toList
    let after := " b \x7b# c #\x7d".toList
    source.toList = before ++ '\x7b' :: TagKind.block.openMark :: after ∧
      InText (spans false source.toList) before.length ∧ ¬ Hides before .block ∧
      ¬ TagKind.block.closer <:+: after := by
  intro source before after
  have hspans : spans false source.toList =
      [.text "a\x7b\x7b\x7b% b ".toList, .tag .comment " c ".toList] := by
    decide +kernel
  have htext : InText (spans false source.toList) before.length := by
    rw [hspans]
    exact ⟨[], _, _, rfl, by decide, by decide⟩
  have hopener : source.toList = before ++ '\x7b' :: TagKind.block.openMark :: after := by decide
  have hseen : ¬ Hides before .block := by decide
  exact ⟨hopener, htext, hseen, scan_opener_unclosed false source hopener htext hseen⟩

/-- Behind an opener without a closer, a block that is closed stays text. -/
theorem scan_opener_hidden :
    let source := "\x7b\x7b% if %\x7d"
    let after := " if %\x7d".toList
    source.toList = ['\x7b'] ++ '\x7b' :: TagKind.block.openMark :: after ∧
      InText (spans false source.toList) 1 ∧ TagKind.block.closer <:+: after ∧
      scan false source = [⟨.text, source, 1⟩] := by
  intro source after
  have hspans : spans false source.toList = [.text source.toList] := by decide +kernel
  have htext : InText (spans false source.toList) 1 := by
    rw [hspans]
    exact ⟨[], _, [], rfl, by decide, by decide⟩
  refine ⟨by decide, htext, by decide, ?_⟩
  rw [scan, hspans, ofSpans, String.ofList_toList]
  rfl

end Token

end TextTemplate
