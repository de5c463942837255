import TextTemplate.Source.Quotation

/-!
The division of a template's text. A tag is an opener, a body and the closer that belongs
to the opener; all that stands between tags is plain text. The closer of an expression or a
block may not stand inside a quotation of the body, but a quotation is believed only if no
further tag opens in it; otherwise its mark was an apostrophe and the first closer counts.
An opener without a closer is plain text. No character is lost: the spans, written one
after the other, are the text.
-/
namespace TextTemplate.Source

inductive TagKind where
  | expression
  | block
  | comment
deriving DecidableEq

namespace TagKind

/-- The character after the opening brace. -/
def openMark : TagKind → Char
  | .expression => '\x7b'
  | .block => '%'
  | .comment => '#'

/-- The character before the closing brace. -/
def closeMark : TagKind → Char
  | .expression => '\x7d'
  | .block => '%'
  | .comment => '#'

def ofOpenMark (c : Char) : Option TagKind :=
  if c = '\x7b' then some .expression
  else if c = '%' then some .block
  else if c = '#' then some .comment
  else none

theorem ofOpenMark_openMark (kind : TagKind) : ofOpenMark kind.openMark = some kind := by
  cases kind <;> rfl

end TagKind

/-- A tag opens somewhere in the text. -/
def hasOpener : List Char → Bool
  | a :: b :: rest =>
    (a == '\x7b' && (TagKind.ofOpenMark b).isSome) || hasOpener (b :: rest)
  | _ => false

/-- Splits at the first closer. -/
def splitAtClose (mark : Char) : List Char → Option (List Char × List Char)
  | a :: b :: rest =>
    if a = mark ∧ b = '\x7d' then some ([], rest)
    else (splitAtClose mark (b :: rest)).map fun (body, after) => (a :: body, after)
  | _ => none

/-- Splits at the first closer outside of quotations. -/
def splitAtUnquotedClose (mark : Char) (state : Quotation) :
    List Char → Option (List Char × List Char)
  | a :: b :: rest =>
    if state = .outside ∧ a = mark ∧ b = '\x7d' then some ([], rest)
    else
      (splitAtUnquotedClose mark (state.next a) (b :: rest)).map
        fun (body, after) => (a :: body, after)
  | _ => none

/-- Splits at the closer of a tag whose body may hold quotations. -/
def splitAtTagClose (mark : Char) (cs : List Char) : Option (List Char × List Char) :=
  match splitAtClose mark cs with
  | none => none
  | some first =>
    match splitAtUnquotedClose mark .outside cs with
    | none => some first
    | some unquoted =>
      if hasOpener (unquoted.1.drop first.1.length) then some first else some unquoted

/-- The body of a tag whose opener has been read, and what follows its closer. -/
def TagKind.splitBody (kind : TagKind) (cs : List Char) : Option (List Char × List Char) :=
  match kind with
  | .comment => splitAtClose kind.closeMark cs
  | _ => splitAtTagClose kind.closeMark cs

/-- A stretch of a template's text. The line break that may be dropped after a block tag is
a stretch of its own. -/
inductive Span where
  | text (cs : List Char)
  | tag (kind : TagKind) (body : List Char)
  | lineBreak (cs : List Char)
deriving DecidableEq

/-- The characters of a span. -/
def Span.written : Span → List Char
  | .text cs => cs
  | .tag kind body => '\x7b' :: kind.openMark :: body ++ [kind.closeMark, '\x7d']
  | .lineBreak cs => cs

/-- Puts plain text before the spans and joins it with text that comes first. -/
def addText (cs : List Char) : List Span → List Span
  | .text more :: spans => .text (cs ++ more) :: spans
  | spans => .text cs :: spans

/-- Splits a line break off the beginning. -/
def splitLineBreak : List Char → List Char × List Char
  | '\r' :: '\n' :: rest => (['\r', '\n'], rest)
  | '\n' :: rest => (['\n'], rest)
  | cs => ([], cs)

/-- The line break to drop after a tag, and what follows it. -/
def splitDropped (trimBlocks : Bool) (kind : TagKind) (cs : List Char) :
    List Char × List Char :=
  if trimBlocks ∧ kind = .block then splitLineBreak cs else ([], cs)

def addLineBreak (cs : List Char) (spans : List Span) : List Span :=
  if cs.isEmpty then spans else .lineBreak cs :: spans

theorem splitAtClose_eq_append {mark : Char} {cs body after : List Char}
    (h : splitAtClose mark cs = some (body, after)) : cs = body ++ mark :: '\x7d' :: after := by
  fun_induction splitAtClose mark cs generalizing body with
  | case1 a b rest hclose =>
    obtain ⟨rfl, rfl⟩ := hclose
    simp_all
  | case2 a b rest hclose ih =>
    obtain ⟨⟨body', after'⟩, hrest, heq⟩ := Option.map_eq_some_iff.1 h
    simp only [Prod.mk.injEq] at heq
    obtain ⟨rfl, rfl⟩ := heq
    rw [ih hrest, List.cons_append]
  | case3 => simp at h

theorem splitAtUnquotedClose_eq_append {mark : Char} {state : Quotation}
    {cs body after : List Char} (h : splitAtUnquotedClose mark state cs = some (body, after)) :
    cs = body ++ mark :: '\x7d' :: after := by
  fun_induction splitAtUnquotedClose mark state cs generalizing body with
  | case1 state a b rest hclose =>
    obtain ⟨rfl, rfl, rfl⟩ := hclose
    simp_all
  | case2 state a b rest hclose ih =>
    obtain ⟨⟨body', after'⟩, hrest, heq⟩ := Option.map_eq_some_iff.1 h
    simp only [Prod.mk.injEq] at heq
    obtain ⟨rfl, rfl⟩ := heq
    rw [ih hrest, List.cons_append]
  | case3 => simp at h

theorem splitAtTagClose_eq_append {mark : Char} {cs body after : List Char}
    (h : splitAtTagClose mark cs = some (body, after)) :
    cs = body ++ mark :: '\x7d' :: after := by
  unfold splitAtTagClose at h
  split at h
  · simp at h
  · rename_i first hfirst
    split at h
    · exact splitAtClose_eq_append (hfirst.trans h)
    · rename_i unquoted hunquoted
      split at h
      · exact splitAtClose_eq_append (hfirst.trans h)
      · exact splitAtUnquotedClose_eq_append (hunquoted.trans h)

/-- A body, its closer and what follows make up the text after an opener. -/
theorem splitBody_eq_append {kind : TagKind} {cs body after : List Char}
    (h : kind.splitBody cs = some (body, after)) :
    cs = body ++ kind.closeMark :: '\x7d' :: after := by
  cases kind with
  | comment => exact splitAtClose_eq_append h
  | expression => exact splitAtTagClose_eq_append h
  | block => exact splitAtTagClose_eq_append h

theorem splitLineBreak_append (cs : List Char) :
    (splitLineBreak cs).1 ++ (splitLineBreak cs).2 = cs := by
  fun_cases splitLineBreak cs <;> simp_all

theorem splitDropped_append (trimBlocks : Bool) (kind : TagKind) (cs : List Char) :
    (splitDropped trimBlocks kind cs).1 ++ (splitDropped trimBlocks kind cs).2 = cs := by
  unfold splitDropped
  split
  · exact splitLineBreak_append cs
  · rfl

theorem splitDropped_length_le (trimBlocks : Bool) (kind : TagKind) (cs : List Char) :
    (splitDropped trimBlocks kind cs).2.length ≤ cs.length := by
  have h := congrArg List.length (splitDropped_append trimBlocks kind cs)
  simp only [List.length_append] at h
  omega

/-- The spans of a text, in order. -/
def spans (trimBlocks : Bool) (cs : List Char) : List Span :=
  match cs with
  | [] => []
  | [c] => [.text [c]]
  | c :: d :: rest =>
    match (if c = '\x7b' then TagKind.ofOpenMark d else none) with
    | none => addText [c] (spans trimBlocks (d :: rest))
    | some kind =>
      match _hbody : kind.splitBody rest with
      | none => addText [c, d] (spans trimBlocks rest)
      | some (body, after) =>
        .tag kind body ::
          addLineBreak (splitDropped trimBlocks kind after).1
            (spans trimBlocks (splitDropped trimBlocks kind after).2)
termination_by cs.length
decreasing_by
  · exact Nat.lt_succ_self _
  · exact Nat.lt_succ_of_lt (Nat.lt_succ_self _)
  · have hle := splitDropped_length_le trimBlocks kind after
    have heq := congrArg List.length (splitBody_eq_append _hbody)
    simp only [List.length_append, List.length_cons] at heq ⊢
    omega

end TextTemplate.Source
