import TextTemplate.Proofs.QuotedWords
import TextTemplate.Proofs.ShieldedExpressions
import TextTemplate.Proofs.TagBodies
import TextTemplate.Proofs.WrittenExpressions

/-!
Expressions among other text. Whoever divides a text by its quotations finds the ends of an
expression's quotations where its reader finds them. So an expression put between delimiters is
scanned as one tag, and one without bare spaces is one word, whatever stands around it.
-/
namespace TextTemplate

open Source Text

namespace Token

def moveDown (lines : Nat) (t : Token) : Token := { t with line := t.line + lines }

/-- Spans that start further down give the same tokens, each as much further down. -/
theorem ofSpans_add (line lines : Nat) (spans : List Span) :
    ofSpans (line + lines) spans = (ofSpans line spans).map (moveDown lines) := by
  induction spans generalizing line with
  | nil => rfl
  | cons span spans ih =>
    have hrest : ∀ cs, ofSpans (line + lines + newlines cs) spans =
        (ofSpans (line + newlines cs) spans).map (moveDown lines) := by
      intro cs
      rw [Nat.add_right_comm]
      exact ih _
    cases span with
    | text cs => exact congrArg (_ :: ·) (hrest cs)
    | tag kind body => exact congrArg (_ :: ·) (hrest body)
    | lineBreak cs => exact hrest cs

/-- A tag with spaces around its content is a token of its own, if it ends where it should. The
tokens after it are those of the text after it, moved down by the lines of the tag. -/
theorem scan_tag_append {kind : TagKind} {content rest : List Char}
    (hbody : kind.splitBody (' ' :: content ++ ' ' :: kind.closeMark :: '\x7d' :: rest) =
      some (' ' :: content ++ [' '], rest)) :
    scan false (String.ofList
      ('\x7b' :: kind.openMark :: ' ' :: content ++ ' ' :: kind.closeMark :: '\x7d' :: rest)) =
      ⟨.tag kind, String.ofList (trim content), 1⟩ ::
        (scan false (String.ofList rest)).map (moveDown (newlines content)) := by
  have hspace : ∀ c ∈ [' '], isSpace c = true := List.forall_mem_singleton.2 (by decide)
  have htrim : trim (' ' :: content ++ [' ']) = trim content := trim_padded hspace hspace content
  have hlines : newlines (' ' :: content ++ [' ']) = newlines content := by
    rw [newlines_append]
    rfl
  have hwritten : '\x7b' :: kind.openMark :: ' ' :: content ++
      ' ' :: kind.closeMark :: '\x7d' :: rest =
      (Span.tag kind (' ' :: content ++ [' '])).written ++ rest := by
    simp [Span.written]
  rw [List.append_cons] at hbody
  rw [scan, String.toList_ofList, hwritten, spans_tag_append hbody, ofSpans, htrim, hlines,
    ofSpans_add, scan, String.toList_ofList]

end Token

namespace Expression

variable {filters : FilterTable}

theorem ne_nil_of_read {text : String} {e : Expression} (h : read filters text = .ok e) :
    text.toList ≠ [] := by
  intro hempty
  have hread : readChars filters [] = .error (.badVariable .empty) := rfl
  rw [read, hempty, hread] at h
  simp at h

/-- A text that can be read as an expression is scanned as a single tag, if no tag opens behind a
closer in it, and a text without bare spaces that can be read is a single word. -/
theorem read_scanned {text : String} {e : Expression} (h : read filters text = .ok e) :
    (TagKind.expression.ClosesLast text.toList → ∀ rest : String,
      Token.scan false ("\x7b\x7b " ++ text ++ " \x7d\x7d" ++ rest) =
        ⟨.tag .expression, String.ofList (trim text.toList), 1⟩ ::
          (Token.scan false rest).map (Token.moveDown (Token.newlines text.toList))) ∧
    (QuotesSpaces .outside text.toList → ∀ before after : String, closesQuotes before.toList →
      words (before ++ " " ++ text ++ " " ++ after) = words before ++ text :: words after) := by
  obtain ⟨hquoted, hclosed⟩ := shields_of_read h
  refine ⟨?_, ?_⟩
  · intro hlast rest
    have hcloser : QuotedOnly TagKind.expression.closer .outside text.toList :=
      hquoted.of_prefix ⟨['\x7d'], rfl⟩
    have hbody := splitAtTagClose_spaced hlast hclosed hcloser rest.toList
    change TagKind.expression.splitBody _ = _ at hbody
    have htext : "\x7b\x7b " ++ text ++ " \x7d\x7d" ++ rest = String.ofList
        ('\x7b' :: TagKind.expression.openMark :: ' ' :: text.toList ++
          ' ' :: TagKind.expression.closeMark :: '\x7d' :: rest.toList) := by
      rw [← String.toList_inj, String.toList_ofList]
      simp [TagKind.openMark, TagKind.closeMark]
    rw [htext, Token.scan_tag_append hbody, String.ofList_toList]
  · intro hspaces before after hbefore
    have hword := splitWords_of_quotesSpaces (ne_nil_of_read h) hspaces
    have hspace : isSpace ' ' = true := rfl
    have htext : (before ++ " " ++ text ++ " " ++ after).toList =
        before.toList ++ ' ' :: (text.toList ++ ' ' :: after.toList) := by
      simp
    rw [words, htext, splitWords_append hspace hbefore, splitWords_append hspace hclosed, hword]
    simp [words]

/-- The argument has a closer, a protected mark, a line break and a space in its quotation. -/
theorem read_scanned_quoted :
    let keep : Filter := ⟨.optional, fun v _ _ => .ok v⟩
    let text := "x|keep:'\x7d\x7d\\'é\n \"'"
    let e : Expression :=
      ⟨text, .path ["x"], [⟨"keep", keep, some (.literal (.safe "\x7d\x7d'é\n \""))⟩]⟩
    read (fun _ => some keep) text = .ok e ∧
      Token.scan false ("\x7b\x7b " ++ text ++ " \x7d\x7d" ++ "it's\n\x7b# a #\x7d") =
        [⟨.tag .expression, text, 1⟩, ⟨.text, "it's\n", 2⟩, ⟨.tag .comment, "a", 3⟩] ∧
      words ("if 'a b'" ++ " " ++ text ++ " " ++ "== don't go") =
        ["if", "'a b'", text, "==", "don't go"] := by
  intro keep text e
  have hread : read (fun _ => some keep) text = .ok e := by
    let bare : Spaces := ⟨[], nofun⟩
    let call : WrittenCall fun _ => some keep :=
      ⟨"keep", keep, bare, bare, some ⟨bare, .quoted '\x27' rfl "\x7d\x7d'é\n \"", bare⟩,
        by decide, rfl⟩
    have hparts : splitUnquoted '|' text.toList = (['x'], [call.written]) := by decide +kernel
    rw [read_eq_ok_iff, hparts, List.mapM_cons, call.readCall_written]
    exact ⟨rfl, rfl, by decide +kernel⟩
  obtain ⟨hscan, hwords⟩ := read_scanned hread
  refine ⟨hread, ?_, ?_⟩
  · rw [hscan (by decide) "it's\n\x7b# a #\x7d"]
    decide +kernel
  · rw [hwords (by decide) "if 'a b'" "== don't go" (by decide)]
    decide +kernel

end Expression

end TextTemplate
