import TextTemplate.Source.Token

/-!
The layout of a template's text. The spans of a text lie side by side and leave nothing out;
each span decides what may come directly after it. The tokens are the spans other than the
dropped line breaks, and each has the line on which its span starts, since the line that is
carried along counts the newlines of all the spans before.
-/
namespace TextTemplate

namespace Source

def writtenAll (spans : List Span) : List Char := spans.flatMap Span.written

def IsLineBreak (cs : List Char) : Prop := cs = ['\r', '\n'] ∨ cs = ['\n']

/-- What may come after a span: after text, a tag; after a tag, a dropped line break exactly
if the tag is a block, blocks are trimmed and the text after the tag starts with the break;
after a dropped line break, anything but another one. Text is never empty. -/
def Span.Fits (trimBlocks : Bool) (after : List Span) : Span → Prop
  | .text cs => cs ≠ [] ∧ ∀ next ∈ after.head?, ∃ kind body, next = .tag kind body
  | .tag kind _ => ∀ nl, after.head? = some (.lineBreak nl) ↔
      trimBlocks = true ∧ kind = .block ∧ IsLineBreak nl ∧ nl <+: writtenAll after
  | .lineBreak _ => ∀ nl, after.head? ≠ some (.lineBreak nl)

def Laid (trimBlocks : Bool) : List Span → Prop
  | [] => True
  | span :: after => span.Fits trimBlocks after ∧ Laid trimBlocks after

/-- The spans are a division of the text. -/
structure Layout (trimBlocks : Bool) (cs : List Char) (spans : List Span) : Prop where
  written : writtenAll spans = cs
  laid : Laid trimBlocks spans
  first : ∀ nl, spans.head? ≠ some (.lineBreak nl)

@[simp] theorem writtenAll_nil : writtenAll [] = [] := rfl

@[simp] theorem writtenAll_cons (span : Span) (spans : List Span) :
    writtenAll (span :: spans) = span.written ++ writtenAll spans :=
  List.flatMap_cons

theorem layout_nil (trimBlocks : Bool) : Layout trimBlocks [] [] := by
  refine ⟨rfl, trivial, ?_⟩
  intro nl h
  simp at h

/-- Text in front of a layout joins with the text that the layout starts with. -/
theorem Layout.addText {trimBlocks : Bool} {cs more : List Char} {spans : List Span}
    (h : Layout trimBlocks more spans) (hcs : cs ≠ []) :
    Layout trimBlocks (cs ++ more) (addText cs spans) := by
  obtain ⟨hwritten, hlaid, hfirst⟩ := h
  cases spans with
  | nil =>
    have hmore : more = [] := hwritten.symm
    refine ⟨by simp [Source.addText, Span.written, hmore], ⟨⟨hcs, ?_⟩, trivial⟩, ?_⟩
    · intro next hnext
      simp at hnext
    · intro nl hhead
      simp [Source.addText] at hhead
  | cons span after =>
    cases span with
    | text cs' =>
      obtain ⟨⟨_, hnext⟩, hafter⟩ := hlaid
      refine ⟨?_, ⟨⟨?_, hnext⟩, hafter⟩, ?_⟩
      · rw [← hwritten]
        simp [Source.addText, Span.written]
      · intro hempty
        exact hcs (List.append_eq_nil_iff.1 hempty).1
      · intro nl hhead
        simp [Source.addText] at hhead
    | tag kind body =>
      refine ⟨?_, ⟨⟨hcs, ?_⟩, hlaid⟩, ?_⟩
      · rw [← hwritten]
        simp [Source.addText, Span.written]
      · intro next hnext
        have heq : Span.tag kind body = next := Option.some.inj hnext
        exact ⟨kind, body, heq.symm⟩
      · intro nl hhead
        simp [Source.addText] at hhead
    | lineBreak nl => exact absurd rfl (hfirst nl)

/-- What is split off as a line break is one, unless it is nothing. -/
theorem splitLineBreak_cases (cs : List Char) :
    IsLineBreak (splitLineBreak cs).1 ∨
      (splitLineBreak cs).1 = [] ∧ ∀ nl, IsLineBreak nl → ¬ nl <+: cs := by
  fun_cases splitLineBreak cs with
  | case1 rest => exact Or.inl (Or.inl rfl)
  | case2 rest => exact Or.inl (Or.inr rfl)
  | case3 _ hcrlf hlf =>
    refine Or.inr ⟨rfl, ?_⟩
    rintro nl hnl ⟨rest, hrest⟩
    rcases hnl with rfl | rfl
    · exact hcrlf rest hrest.symm
    · exact hlf rest hrest.symm

theorem isLineBreak_unique {nl nl' cs : List Char} (h : IsLineBreak nl) (h' : IsLineBreak nl')
    (hstart : nl <+: cs) (hstart' : nl' <+: cs) : nl = nl' := by
  obtain ⟨rest, rfl⟩ := hstart
  obtain ⟨rest', hrest'⟩ := hstart'
  rcases h with rfl | rfl <;> rcases h' with rfl | rfl
  · rfl
  · simp at hrest'
  · simp at hrest'
  · rfl

/-- A line break is split off exactly if blocks are trimmed, the tag is a block and the text
after it starts with the break. -/
theorem splitDropped_eq_iff (trimBlocks : Bool) (kind : TagKind) (after nl : List Char) :
    (splitDropped trimBlocks kind after).1 ≠ [] ∧ (splitDropped trimBlocks kind after).1 = nl ↔
      trimBlocks = true ∧ kind = .block ∧ IsLineBreak nl ∧ nl <+: after := by
  unfold splitDropped
  by_cases hdrop : trimBlocks = true ∧ kind = .block
  · rw [if_pos hdrop]
    have hstart : (splitLineBreak after).1 <+: after := ⟨_, splitLineBreak_append after⟩
    rcases splitLineBreak_cases after with hbreak | ⟨hnone, hno⟩
    · constructor
      · rintro ⟨_, rfl⟩
        exact ⟨hdrop.1, hdrop.2, hbreak, hstart⟩
      · rintro ⟨_, _, hbreak', hstart'⟩
        refine ⟨?_, isLineBreak_unique hbreak hbreak' hstart hstart'⟩
        intro hempty
        rw [hempty] at hbreak
        rcases hbreak with h | h <;> simp at h
    · constructor
      · rintro ⟨hne, _⟩
        exact absurd hnone hne
      · rintro ⟨_, _, hbreak', hstart'⟩
        exact absurd hstart' (hno nl hbreak')
  · rw [if_neg hdrop]
    constructor
    · rintro ⟨hne, _⟩
      exact absurd rfl hne
    · rintro ⟨htrim, hblock, _⟩
      exact absurd ⟨htrim, hblock⟩ hdrop

theorem writtenAll_addLineBreak (nl : List Char) (spans : List Span) :
    writtenAll (addLineBreak nl spans) = nl ++ writtenAll spans := by
  unfold addLineBreak
  split
  · rename_i hempty
    rw [List.isEmpty_iff.1 hempty, List.nil_append]
  · rw [writtenAll_cons, Span.written]

theorem head?_addLineBreak {spans : List Span}
    (hfirst : ∀ nl, spans.head? ≠ some (.lineBreak nl)) (nl nl' : List Char) :
    (addLineBreak nl spans).head? = some (.lineBreak nl') ↔ nl ≠ [] ∧ nl = nl' := by
  unfold addLineBreak
  cases nl with
  | nil => simp [hfirst nl']
  | cons c nl => simp

/-- A tag in front of what follows its dropped line break, which is put between them. -/
theorem Layout.addTag {trimBlocks : Bool} {after : List Char} {spans : List Span}
    (kind : TagKind) (body : List Char)
    (h : Layout trimBlocks (splitDropped trimBlocks kind after).2 spans) :
    Layout trimBlocks (('\x7b' :: kind.openMark :: body ++ [kind.closeMark, '\x7d']) ++ after)
      (.tag kind body :: addLineBreak (splitDropped trimBlocks kind after).1 spans) := by
  obtain ⟨hwritten, hlaid, hfirst⟩ := h
  have hafter : writtenAll (addLineBreak (splitDropped trimBlocks kind after).1 spans) =
      after := by
    rw [writtenAll_addLineBreak, hwritten, splitDropped_append]
  refine ⟨?_, ⟨?_, ?_⟩, ?_⟩
  · rw [writtenAll_cons, hafter]
    rfl
  · intro nl
    rw [head?_addLineBreak hfirst, hafter, splitDropped_eq_iff]
  · unfold addLineBreak
    split
    · exact hlaid
    · exact ⟨hfirst, hlaid⟩
  · intro nl hhead
    simp at hhead

theorem ofOpenMark_eq_some {c : Char} {kind : TagKind} (h : TagKind.ofOpenMark c = some kind) :
    c = kind.openMark := by
  unfold TagKind.ofOpenMark at h
  split at h
  · obtain rfl := Option.some.inj h
    assumption
  · split at h
    · obtain rfl := Option.some.inj h
      assumption
    · split at h
      · obtain rfl := Option.some.inj h
        assumption
      · simp at h

/-- A tag opens with the two marks of its kind. -/
theorem eq_marks_of_opens {c d : Char} {kind : TagKind}
    (h : (if c = '\x7b' then TagKind.ofOpenMark d else none) = some kind) :
    c = '\x7b' ∧ d = kind.openMark := by
  split at h
  · rename_i hc
    exact ⟨hc, ofOpenMark_eq_some h⟩
  · simp at h

/-- The spans of a text are a layout of it. -/
theorem spans_layout (trimBlocks : Bool) (cs : List Char) :
    Layout trimBlocks cs (spans trimBlocks cs) := by
  fun_induction spans trimBlocks cs with
  | case1 => exact layout_nil trimBlocks
  | case2 c => exact (layout_nil trimBlocks).addText (List.cons_ne_nil c [])
  | case3 c d rest hopen ih => exact ih.addText (List.cons_ne_nil c [])
  | case4 c d rest kind hopen hbody ih => exact ih.addText (List.cons_ne_nil c [d])
  | case5 c d rest kind hopen body after hbody ih =>
    obtain ⟨rfl, rfl⟩ := eq_marks_of_opens hopen
    have htag := ih.addTag kind body
    rw [splitBody_eq_append hbody]
    simpa using htag

end Source

namespace Token

open Source Text

def ofSpan? (line : Nat) : Span → Option Token
  | .text cs => some ⟨.text, String.ofList cs, line⟩
  | .tag kind body => some ⟨.tag kind, String.ofList (trim body), line⟩
  | .lineBreak _ => none

def ofSpansAfter (before : List Char) : List Span → List Token
  | [] => []
  | span :: rest =>
    (ofSpan? (1 + newlines before) span).toList ++ ofSpansAfter (before ++ span.written) rest

theorem newlines_append (cs ds : List Char) : newlines (cs ++ ds) = newlines cs + newlines ds :=
  List.count_append

theorem newlines_written_tag (kind : TagKind) (body : List Char) :
    newlines (Span.tag kind body).written = newlines body := by
  have hopen : newlines ['\x7b', kind.openMark] = 0 := by cases kind <;> rfl
  have hclose : newlines [kind.closeMark, '\x7d'] = 0 := by cases kind <;> rfl
  have hwritten : (Span.tag kind body).written =
      ['\x7b', kind.openMark] ++ (body ++ [kind.closeMark, '\x7d']) := rfl
  rw [hwritten, newlines_append, newlines_append]
  omega

/-- The line carried along is the one that the text before leads to. -/
theorem ofSpans_eq_ofSpansAfter (before : List Char) (spans : List Span) :
    ofSpans (1 + newlines before) spans = ofSpansAfter before spans := by
  induction spans generalizing before with
  | nil => rfl
  | cons span rest ih =>
    rw [ofSpansAfter, ← ih, newlines_append, ← Nat.add_assoc]
    cases span with
    | text cs => rfl
    | tag kind body =>
      rw [newlines_written_tag]
      rfl
    | lineBreak cs => rfl

/-- The tokens of a template come from a division of all its text, with true lines. -/
theorem scan_layout (trimBlocks : Bool) (source : String) :
    ∃ spans, Layout trimBlocks source.toList spans ∧
      scan trimBlocks source = ofSpansAfter [] spans :=
  ⟨_, spans_layout trimBlocks source.toList, ofSpans_eq_ofSpansAfter [] _⟩

end Token

end TextTemplate
