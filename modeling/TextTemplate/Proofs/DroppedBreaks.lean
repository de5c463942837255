import TextTemplate.Proofs.PrintedTokens

/-!
Dropping line breaks is a pass over the tokens. No tag opens within a line break, so taking
the break after a block away leaves every later tag where it was. The division of a text with
breaks dropped is therefore the one without, once the texts that follow a block have been
split behind the line break that they start with; the break moves the text's line by one and
the lines after it not at all.
-/
namespace TextTemplate

namespace Source

def textSpan (cs : List Char) : List Span := if cs.isEmpty then [] else [.text cs]

/-- Sets off the line breaks that texts directly after a block start with. The flag says
whether the first span comes after a block. -/
def splitBreaks (afterBlock : Bool) : List Span → List Span
  | [] => []
  | .text cs :: rest =>
    if afterBlock then
      addLineBreak (splitLineBreak cs).1
        (textSpan (splitLineBreak cs).2 ++ splitBreaks false rest)
    else .text cs :: splitBreaks false rest
  | .tag kind body :: rest => .tag kind body :: splitBreaks (kind == .block) rest
  | .lineBreak cs :: rest => .lineBreak cs :: splitBreaks false rest

/-- A text put in front keeps its first line break, if no block comes before it. -/
theorem splitBreaks_addText (cs : List Char) (spans : List Span) :
    splitBreaks false (addText cs spans) = addText cs (splitBreaks false spans) := by
  cases spans with
  | nil => rfl
  | cons span rest => cases span <;> rfl

theorem textSpan_of_ne_nil {cs : List Char} (h : cs ≠ []) : textSpan cs = [.text cs] := by
  rw [textSpan, if_neg]
  exact mt List.isEmpty_iff.1 h

theorem splitLineBreak_append_of_isLineBreak {nl : List Char} (h : IsLineBreak nl)
    (cs : List Char) : splitLineBreak (nl ++ cs) = (nl, cs) := by
  rcases h with rfl | rfl <;> rfl

theorem addLineBreak_of_isLineBreak {nl : List Char} (h : IsLineBreak nl) (spans : List Span) :
    addLineBreak nl spans = .lineBreak nl :: spans := by
  rcases h with rfl | rfl <;> rfl

/-- No tag opens in a line break or at its end. -/
theorem spans_lineBreak_append {nl : List Char} (h : IsLineBreak nl) (cs : List Char) :
    spans false (nl ++ cs) = addText nl (spans false cs) := by
  rcases h with rfl | rfl
  · exact spans_text_append (by decide) (by decide) (by decide) cs
  · exact spans_text_append (by decide) (by decide) (by decide) cs

/-- The line break in front of some spans is all that is set off. -/
theorem splitBreaks_lineBreak {nl : List Char} (h : IsLineBreak nl) {spans : List Span}
    (hlaid : Laid false spans) :
    splitBreaks true (addText nl spans) = .lineBreak nl :: splitBreaks false spans := by
  have halone : splitLineBreak nl = (nl, []) := by
    have hsplit := splitLineBreak_append_of_isLineBreak h []
    rwa [List.append_nil] at hsplit
  cases spans with
  | nil => simp [addText, splitBreaks, halone, textSpan, addLineBreak_of_isLineBreak h]
  | cons span rest =>
    cases span with
    | text cs =>
      have hne : cs ≠ [] := hlaid.1.1
      simp [addText, splitBreaks, splitLineBreak_append_of_isLineBreak h,
        addLineBreak_of_isLineBreak h, textSpan_of_ne_nil hne]
    | tag kind body =>
      simp [addText, splitBreaks, halone, textSpan, addLineBreak_of_isLineBreak h]
    | lineBreak cs =>
      simp [addText, splitBreaks, halone, textSpan, addLineBreak_of_isLineBreak h]

/-- Where the text does not start with a line break, nothing is set off. -/
theorem splitBreaks_of_no_lineBreak {cs : List Char} {spans : List Span}
    (hlayout : Layout false cs spans) (hnone : ∀ nl, IsLineBreak nl → ¬ nl <+: cs) :
    splitBreaks true spans = splitBreaks false spans := by
  cases spans with
  | nil => rfl
  | cons span rest =>
    cases span with
    | text text =>
      have hne : text ≠ [] := hlayout.laid.1.1
      have hstart : text <+: cs := by
        rw [← hlayout.written]
        exact List.prefix_append text (writtenAll rest)
      have hfirst : (splitLineBreak text).1 = [] := by
        rcases splitLineBreak_cases text with hbreak | ⟨hempty, _⟩
        · have hfront : (splitLineBreak text).1 <+: text := ⟨_, splitLineBreak_append text⟩
          exact absurd (hfront.trans hstart) (hnone _ hbreak)
        · exact hempty
      have hsecond : (splitLineBreak text).2 = text := by
        have happend := splitLineBreak_append text
        rwa [hfirst, List.nil_append] at happend
      simp [splitBreaks, hfirst, hsecond, addLineBreak, textSpan_of_ne_nil hne]
    | tag kind body => rfl
    | lineBreak nl => rfl

/-- After a block, the line break that is dropped is the one that is set off. -/
theorem splitBreaks_afterBlock (after : List Char) :
    splitBreaks true (spans false after) =
      addLineBreak (splitLineBreak after).1
        (splitBreaks false (spans false (splitLineBreak after).2)) := by
  have happend := splitLineBreak_append after
  rcases splitLineBreak_cases after with hbreak | ⟨hempty, hnone⟩
  · have hspans := spans_lineBreak_append hbreak (splitLineBreak after).2
    rw [happend] at hspans
    rw [hspans, splitBreaks_lineBreak hbreak (spans_layout false _).laid,
      addLineBreak_of_isLineBreak hbreak]
  · rw [hempty, List.nil_append] at happend
    rw [hempty, happend, splitBreaks_of_no_lineBreak (spans_layout false after) hnone]
    rfl

theorem spans_of_not_opens {c d : Char} {rest : List Char} (trimBlocks : Bool)
    (hopen : (if c = '\x7b' then TagKind.ofOpenMark d else none) = none) :
    spans trimBlocks (c :: d :: rest) = addText [c] (spans trimBlocks (d :: rest)) := by
  rw [spans]
  split
  · rfl
  · rename_i kind hsome
    rw [hopen] at hsome
    cases hsome

/-- Both characters of an opener without a closer are passed over. -/
theorem spans_of_not_closed {c d : Char} {rest : List Char} {kind : TagKind} (trimBlocks : Bool)
    (hopen : (if c = '\x7b' then TagKind.ofOpenMark d else none) = some kind)
    (hbody : kind.splitBody rest = none) :
    spans trimBlocks (c :: d :: rest) = addText [c, d] (spans trimBlocks rest) := by
  rw [spans]
  split
  · rename_i hnone
    rw [hopen] at hnone
    cases hnone
  · rename_i kind' hsome
    rw [hopen] at hsome
    obtain rfl := Option.some.inj hsome
    split
    · rfl
    · rename_i body after hsplit
      rw [hbody] at hsplit
      cases hsplit

/-- What is dropped after a block is what is set off after it. -/
theorem spans_true_eq_splitBreaks (cs : List Char) :
    spans true cs = splitBreaks false (spans false cs) := by
  fun_induction spans true cs with
  | case1 => rw [spans, splitBreaks]
  | case2 c => simp [spans, splitBreaks]
  | case3 c d rest hopen ih => rw [ih, ← splitBreaks_addText, spans_of_not_opens false hopen]
  | case4 c d rest kind hopen hbody ih =>
    rw [ih, ← splitBreaks_addText, spans_of_not_closed false hopen hbody]
  | case5 c d rest kind hopen body after hbody ih =>
    obtain ⟨rfl, rfl⟩ := eq_marks_of_opens hopen
    obtain rfl := splitBody_eq_append hbody
    have htag := spans_tag_append hbody
    simp only [Span.written, List.cons_append, List.append_assoc, List.nil_append] at htag
    rw [ih, htag, splitBreaks]
    cases kind with
    | block => exact congrArg _ (splitBreaks_afterBlock after).symm
    | expression => rfl
    | comment => rfl

end Source

namespace Token

open Source Text

def pastBreak? : List Char → Option (List Char)
  | '\r' :: '\n' :: rest => some rest
  | '\n' :: rest => some rest
  | _ => none

/-- A text without the line break that it starts with. What is left of it starts one line
later, and a text of which nothing is left is no token. -/
def withoutBreak (t : Token) : Option Token :=
  match pastBreak? t.content.toList with
  | none => some t
  | some [] => none
  | some rest => some { t with content := String.ofList rest, line := t.line + 1 }

/-- Takes the line breaks off the texts that directly follow a block. The kind is that of the
token before the first one, if there is one. -/
def dropBreaks (previous : Option TokenKind) : List Token → List Token
  | [] => []
  | t :: rest =>
    if previous = some (.tag .block) ∧ t.kind = .text then
      t.withoutBreak.toList ++ dropBreaks (some t.kind) rest
    else t :: dropBreaks (some t.kind) rest

theorem newlines_lineBreak {nl : List Char} (h : IsLineBreak nl) : newlines nl = 1 := by
  rcases h with rfl | rfl <;> rfl

theorem withoutBreak_of_break {nl : List Char} (h : IsLineBreak nl) (cs : List Char)
    (line : Nat) :
    (withoutBreak ⟨.text, String.ofList (nl ++ cs), line⟩).toList =
      ofSpans (line + 1) (textSpan cs) := by
  rcases h with rfl | rfl <;> cases cs <;> simp [withoutBreak, pastBreak?, textSpan, ofSpans]

theorem withoutBreak_of_no_break {cs : List Char} (hnone : ∀ nl, IsLineBreak nl → ¬ nl <+: cs)
    (line : Nat) :
    withoutBreak ⟨.text, String.ofList cs, line⟩ = some ⟨.text, String.ofList cs, line⟩ := by
  have hpast : pastBreak? cs = none := by
    fun_cases pastBreak? cs with
    | case1 rest => exact absurd ⟨rest, rfl⟩ (hnone _ (Or.inl rfl))
    | case2 rest => exact absurd ⟨rest, rfl⟩ (hnone _ (Or.inr rfl))
    | case3 => rfl
  simp only [withoutBreak, String.toList_ofList, hpast]

theorem ofSpans_textSpan_append (line : Nat) (cs : List Char) (spans : List Span) :
    ofSpans line (textSpan cs ++ spans) =
      ofSpans line (textSpan cs) ++ ofSpans (line + newlines cs) spans := by
  cases cs <;> rfl

/-- A text whose line break is set off gives the tokens that are left when it is dropped. -/
theorem ofSpans_splitLineBreak {cs : List Char} (hne : cs ≠ []) (line : Nat)
    (spans : List Span) :
    ofSpans line (addLineBreak (splitLineBreak cs).1
        (textSpan (splitLineBreak cs).2 ++ spans)) =
      (withoutBreak ⟨.text, String.ofList cs, line⟩).toList ++
        ofSpans (line + newlines cs) spans := by
  have happend := splitLineBreak_append cs
  rcases splitLineBreak_cases cs with hbreak | ⟨hempty, hnone⟩
  · generalize (splitLineBreak cs).1 = nl at happend hbreak
    generalize (splitLineBreak cs).2 = rest at happend
    subst happend
    rw [addLineBreak_of_isLineBreak hbreak, ofSpans, ofSpans_textSpan_append,
      newlines_lineBreak hbreak, withoutBreak_of_break hbreak, newlines_append,
      newlines_lineBreak hbreak, Nat.add_assoc]
  · rw [hempty, List.nil_append] at happend
    rw [hempty, happend, withoutBreak_of_no_break hnone, textSpan_of_ne_nil hne]
    rfl

/-- Setting off line breaks becomes dropping them where the spans become tokens. -/
theorem ofSpans_splitBreaks {spans : List Span} (hlaid : Laid false spans)
    (hfirst : ∀ nl, spans.head? ≠ some (.lineBreak nl)) (previous : Option TokenKind)
    (line : Nat) :
    ofSpans line (splitBreaks (previous == some (.tag .block)) spans) =
      dropBreaks previous (ofSpans line spans) := by
  induction spans generalizing previous line with
  | nil => rfl
  | cons span rest ih =>
    obtain ⟨hfits, hrest⟩ := hlaid
    cases span with
    | text cs =>
      obtain ⟨hne, hnext⟩ := hfits
      have hhead : ∀ nl, rest.head? ≠ some (.lineBreak nl) := by
        intro nl hhead
        obtain ⟨kind, body, htag⟩ := hnext _ hhead
        cases htag
      have hlater := ih hrest hhead (some .text) (line + newlines cs)
      by_cases hblock : previous = some (.tag .block)
      · subst hblock
        rw [ofSpans, dropBreaks, if_pos ⟨rfl, rfl⟩, ← hlater, ← ofSpans_splitLineBreak hne]
        rfl
      · rw [ofSpans, dropBreaks, if_neg (fun hboth => hblock hboth.1), ← hlater,
          beq_eq_false_iff_ne.2 hblock]
        rfl
    | tag kind body =>
      have hhead : ∀ nl, rest.head? ≠ some (.lineBreak nl) := by
        intro nl hhead
        exact Bool.false_ne_true ((hfits nl).1 hhead).1
      have hlater := ih hrest hhead (some (.tag kind)) (line + newlines body)
      rw [ofSpans, dropBreaks, if_neg (fun hboth => TokenKind.noConfusion hboth.2), ← hlater]
      cases kind <;> rfl
    | lineBreak nl => exact absurd rfl (hfirst nl)

/-- The tokens of a text with the line breaks after blocks dropped are the tokens without,
except that each text directly after a block has lost the break that it starts with. -/
theorem scan_true_eq_dropBreaks (source : String) :
    scan true source = dropBreaks none (scan false source) := by
  have hlayout := spans_layout false source.toList
  rw [scan, spans_true_eq_splitBreaks]
  exact ofSpans_splitBreaks hlayout.laid hlayout.first none 1

end Token

end TextTemplate
