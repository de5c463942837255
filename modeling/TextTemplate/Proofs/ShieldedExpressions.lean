import TextTemplate.Proofs.ReadExpressions
import TextTemplate.Proofs.WrittenVariables

/-!
What an expression that can be read looks like. Its literals are quoted up to the mark that
closes them, as everyone else reads them, and apart from literals it has letters, digits, spaces
and the few characters of numbers and separators. So it closes its quotations, and a closing
brace in it is quoted.
-/
namespace TextTemplate

open Text Source

def IsBare (c : Char) : Prop := Quotation.isQuote c = false ∧ '\x7d' ≠ c

/-- A test that the marks and the brace fail finds bare characters only. -/
theorem isBare_of_test (test : Char → Bool) (hdouble : test '"' = false)
    (hsingle : test '\x27' = false) (hbrace : test '\x7d' = false) {c : Char}
    (h : test c = true) : IsBare c := by
  have hne : ∀ d, test d = false → c ≠ d := by
    rintro d hd rfl
    rw [hd] at h
    exact absurd h (by decide)
  refine ⟨?_, (hne _ hbrace).symm⟩
  cases hquote : Quotation.isQuote c with
  | false => rfl
  | true =>
    rcases Variable.eq_of_isQuote hquote with rfl | rfl
    · exact absurd rfl (hne _ hdouble)
    · exact absurd rfl (hne _ hsingle)

theorem isBare_of_isSpace {c : Char} (h : isSpace c = true) : IsBare c :=
  isBare_of_test isSpace (by decide) (by decide) (by decide) h

theorem isBare_of_isWordChar {c : Char} (h : isWordChar c = true) : IsBare c :=
  isBare_of_test isWordChar (by decide) (by decide) (by decide) h

theorem shields_of_isBare {cs : List Char} (h : ∀ c ∈ cs, IsBare c) : Shields '\x7d' cs :=
  shields_of_forall h

/-- The spaces around a text have nothing to shield. -/
theorem shields_of_trim {cs : List Char} (h : Shields '\x7d' (trim cs)) : Shields '\x7d' cs := by
  obtain ⟨before, after, hbefore, hafter, hcs⟩ := exists_padding cs
  have hspaces : ∀ spaces : List Char, (∀ c ∈ spaces, isSpace c = true) →
      Shields '\x7d' spaces := by
    intro spaces hall
    exact shields_of_isBare fun c hc => isBare_of_isSpace (hall c hc)
  rw [hcs]
  exact ((hspaces before hbefore).append h).append (hspaces after hafter)

namespace Decimal

/-- A character of numbers: a digit, a sign, a point, the mark of an exponent, or a letter of the
names of infinity and of the undefined value. -/
def isNumeral (c : Char) : Bool :=
  c.isDigit || ['+', '-', '.'].contains c ||
    ['e', 'i', 'n', 'f', 't', 'y', 'a'].contains c.toLower

theorem isNumeral_of_isDigit {c : Char} (h : c.isDigit = true) : isNumeral c = true := by
  rw [isNumeral, h, Bool.true_or, Bool.true_or]

theorem isNumeral_of_readNat {cs : List Char} {n : Nat} (h : readNat cs = some n) :
    ∀ c ∈ cs, isNumeral c = true := by
  unfold readNat at h
  split at h
  · rename_i hdigits
    have hall := List.all_eq_true.1 (Bool.and_eq_true_iff.1 hdigits).2
    exact fun c hc => isNumeral_of_isDigit (hall c hc)
  · simp at h

theorem isNumeral_of_splitSign {cs : List Char} (h : ∀ c ∈ (splitSign cs).2, isNumeral c = true) :
    ∀ c ∈ cs, isNumeral c = true := by
  unfold splitSign at h
  split at h
  · exact List.forall_mem_cons.2 ⟨by decide, h⟩
  · exact List.forall_mem_cons.2 ⟨by decide, h⟩
  · exact h

theorem isNumeral_of_readInt {cs : List Char} {n : Int} (h : readInt cs = some n) :
    ∀ c ∈ cs, isNumeral c = true := by
  unfold readInt at h
  dsimp only at h
  split at h
  · simp at h
  · rename_i hread
    exact isNumeral_of_splitSign (isNumeral_of_readNat hread)

/-- Digits, and one point perhaps. -/
theorem isNumeral_of_readMantissa {cs : List Char} {value : Nat × Nat}
    (h : readMantissa cs = some value) : ∀ c ∈ cs, isNumeral c = true := by
  have hwhole : ∀ c ∈ cs.takeWhile Char.isDigit, isNumeral c = true := by
    intro c hc
    exact isNumeral_of_isDigit (List.all_eq_true.1 List.all_takeWhile c hc)
  rw [← List.takeWhile_append_dropWhile (p := Char.isDigit) (l := cs)]
  refine List.forall_mem_append.2 ⟨hwhole, ?_⟩
  unfold readMantissa at h
  dsimp only at h
  split at h
  · rename_i hrest
    rw [hrest]
    exact List.forall_mem_nil _
  · rename_i c places hrest
    rw [hrest]
    split at h
    · rename_i hpoint
      obtain ⟨rfl, hplaces, _⟩ := hpoint
      refine List.forall_mem_cons.2 ⟨by decide, ?_⟩
      exact fun d hd => isNumeral_of_isDigit (List.all_eq_true.1 hplaces d hd)
    · simp at h

theorem isNumeral_of_readExponent {cs : List Char} {value : Int}
    (h : readExponent (some cs) = some value) : ∀ c ∈ cs, isNumeral c = true := by
  unfold readExponent at h
  obtain ⟨_, hdigits, _⟩ := Option.map_eq_some_iff.1 h
  obtain ⟨_, hread, _⟩ := Option.bind_eq_some_iff.1 hdigits
  exact isNumeral_of_splitSign (isNumeral_of_readNat hread)

theorem isNumeral_of_splitExponent {cs : List Char}
    (hbefore : ∀ c ∈ (splitExponent cs).1, isNumeral c = true)
    (hafter : ∀ digits ∈ (splitExponent cs).2, ∀ c ∈ digits, isNumeral c = true) :
    ∀ c ∈ cs, isNumeral c = true := by
  induction cs with
  | nil => exact List.forall_mem_nil _
  | cons c rest ih =>
    rw [splitExponent] at hbefore hafter
    split at hbefore
    · rename_i hmark
      rw [if_pos hmark] at hafter
      refine List.forall_mem_cons.2 ⟨?_, hafter rest rfl⟩
      rcases hmark with rfl | rfl
      · decide
      · decide
    · rename_i hmark
      rw [if_neg hmark] at hafter
      obtain ⟨hfirst, hothers⟩ := List.forall_mem_cons.1 hbefore
      exact List.forall_mem_cons.2 ⟨hfirst, ih hothers hafter⟩

/-- The names of infinity and of the undefined value, in any case of letters. -/
theorem isNumeral_of_map_toLower {cs name : List Char} (h : cs.map Char.toLower = name)
    (hname : name.all ['e', 'i', 'n', 'f', 't', 'y', 'a'].contains = true) :
    ∀ c ∈ cs, isNumeral c = true := by
  intro c hc
  have hletter := List.all_eq_true.1 hname _ (h ▸ List.mem_map_of_mem hc)
  rw [isNumeral, hletter, Bool.or_true]

/-- A number without its sign is made of these characters, whether written in digits or by name. -/
theorem isNumeral_of_readMagnitude {cs : List Char} {x : Float} (h : readMagnitude cs = some x) :
    ∀ c ∈ cs, isNumeral c = true := by
  unfold readMagnitude at h
  dsimp only at h
  split at h
  · rename_i hname
    rcases hname with hname | hname
    · exact isNumeral_of_map_toLower hname (by decide)
    · exact isNumeral_of_map_toLower hname (by decide)
  · split at h
    · rename_i hname
      exact isNumeral_of_map_toLower hname (by decide)
    · split at h
      · rename_i hmantissa hexponent
        refine isNumeral_of_splitExponent (isNumeral_of_readMantissa hmantissa) ?_
        intro digits hdigits
        rw [Option.mem_def.1 hdigits] at hexponent
        exact isNumeral_of_readExponent hexponent
      · simp at h

theorem isNumeral_of_readFloat {cs : List Char} {x : Float} (h : readFloat cs = some x) :
    ∀ c ∈ cs, isNumeral c = true := by
  unfold readFloat at h
  obtain ⟨_, hread, _⟩ := Option.map_eq_some_iff.1 h
  exact isNumeral_of_splitSign (isNumeral_of_readMagnitude hread)

end Decimal

namespace Variable

theorem isNumeral_of_readNumber {cs : List Char} {v : Value} (h : readNumber cs = some v) :
    ∀ c ∈ cs, Decimal.isNumeral c = true := by
  unfold readNumber at h
  split at h
  · simp at h
  · split at h
    · split at h
      · rename_i hint
        exact Decimal.isNumeral_of_readInt hint
      · obtain ⟨_, hfloat, _⟩ := Option.map_eq_some_iff.1 h
        exact Decimal.isNumeral_of_readFloat hfloat
    · simp at h

theorem isBare_of_readNumber {cs : List Char} {v : Value} (h : readNumber cs = some v) :
    ∀ c ∈ cs, IsBare c :=
  fun c hc => isBare_of_test Decimal.isNumeral (by decide) (by decide) (by decide)
    (isNumeral_of_readNumber h c hc)

/-- A name that is read is the text itself, a word. -/
theorem readName_eq_ok_iff {text cs : List Char} {name : String} :
    readName text cs = .ok name ↔
      cs ≠ [] ∧ (∀ c ∈ cs, isWordChar c = true) ∧ name = String.ofList cs := by
  constructor
  · intro h
    unfold readName at h
    split at h
    · simp at h
    · rename_i hempty
      split at h
      · simp at h
      · rename_i hnone
        refine ⟨mt List.isEmpty_iff.2 hempty, ?_, (Except.ok.inj h).symm⟩
        intro c hc
        simpa using List.find?_eq_none.1 hnone c hc
  · rintro ⟨hne, hword, rfl⟩
    have hread := @readName_word text (String.ofList cs)
    rw [String.toList_ofList] at hread
    exact hread hne hword

/-- A path has word characters and points. -/
theorem isPlain_of_readPath {cs : List Char} {v : Variable} (h : readPath cs = .ok v) :
    ∀ c ∈ cs, IsPlain c := by
  unfold readPath at h
  obtain ⟨names, hnames, _⟩ := Condition.eq_ok_of_map_eq_ok h
  have hpoint : IsPlain '.' := Or.inr (Or.inl rfl)
  refine forall_of_splitOnChar hpoint ?_
  intro name hname
  obtain ⟨s, hread⟩ := exists_of_mapM_eq_ok hnames name hname
  exact fun c hc => Or.inl ((readName_eq_ok_iff.1 hread).2.1 c hc)

/-- A quoted text goes on up to the mark that closes the quotation. -/
theorem readQuoted_closes {mark : Char} (hmark : Quotation.isQuote mark = true)
    {cs text after : List Char} (h : readQuoted mark cs = some (text, after)) (sep : Char) :
    ∃ quoted, cs = quoted ++ after ∧ QuotedOnly [sep] (.inside mark) quoted ∧
      (Quotation.inside mark).after quoted = .outside := by
  have hinside : ∀ c, ¬ (Quotation.inside mark = .outside ∧ c = sep) := by
    rintro c ⟨⟨⟩, _⟩
  have hescaped : ∀ c, ¬ (Quotation.escaped mark = .outside ∧ c = sep) := by
    rintro c ⟨⟨⟩, _⟩
  fun_induction readQuoted mark cs generalizing text with
  | case1 => simp at h
  | case2 rest =>
    obtain ⟨rfl, rfl⟩ := Prod.mk.inj (Option.some.inj h)
    have hclose : (Quotation.inside mark).next mark = .outside := by
      rw [Quotation.next, if_neg (ne_of_isQuote hmark (by decide)), if_pos rfl]
    exact ⟨[mark], rfl, quotedOnly_singleton_cons.2 ⟨hinside mark, quotedOnly_nil _ _⟩, hclose⟩
  | case3 => simp at h
  | case4 e rest hbackslash ih =>
    obtain ⟨⟨text', after'⟩, hrest, heq⟩ := Option.map_eq_some_iff.1 h
    obtain ⟨rfl, rfl⟩ := Prod.mk.inj heq
    obtain ⟨quoted, rfl, hquoted, hclosed⟩ := ih hrest
    have hprotect : (Quotation.inside mark).next '\\' = .escaped mark := by
      rw [Quotation.next, if_pos rfl]
    refine ⟨'\\' :: e :: quoted, rfl, ?_, ?_⟩
    · rw [quotedOnly_singleton_cons, hprotect, quotedOnly_singleton_cons]
      exact ⟨hinside '\\', hescaped e, hquoted⟩
    · rw [Quotation.after, List.foldl_cons, hprotect]
      exact hclosed
  | case5 c rest hne hplain ih =>
    obtain ⟨⟨text', after'⟩, hrest, heq⟩ := Option.map_eq_some_iff.1 h
    obtain ⟨rfl, rfl⟩ := Prod.mk.inj heq
    obtain ⟨quoted, rfl, hquoted, hclosed⟩ := ih hrest
    have hnext : (Quotation.inside mark).next c = .inside mark := by
      rw [Quotation.next, if_neg hplain, if_neg hne]
    refine ⟨c :: quoted, rfl, ?_, ?_⟩
    · rw [quotedOnly_singleton_cons, hnext]
      exact ⟨hinside c, hquoted⟩
    · rw [Quotation.after, List.foldl_cons, hnext]
      exact hclosed

/-- A literal text takes up the quotation that its mark opens. -/
theorem shields_of_readText {mark : Char} (hmark : Quotation.isQuote mark = true)
    {rest : List Char} {v : Variable} (h : readText mark rest = .ok v) :
    Shields '\x7d' (mark :: rest) := by
  unfold readText at h
  split at h
  · simp at h
  · rename_i text after hread
    split at h
    · rename_i hempty
      obtain ⟨quoted, rfl, hquoted, hclosed⟩ := readQuoted_closes hmark hread '\x7d'
      have hopen : Quotation.outside.next mark = .inside mark := by
        rw [Quotation.next, hmark, if_pos rfl]
      have hbrace : ¬ (Quotation.outside = .outside ∧ mark = '\x7d') :=
        fun hend => ne_of_isQuote hmark (by decide) hend.2
      rw [List.isEmpty_iff.1 hempty, List.append_nil]
      refine ⟨?_, ?_⟩
      · rw [quotedOnly_singleton_cons, hopen]
        exact ⟨hbrace, hquoted⟩
      · rw [closesQuotes, Quotation.after, List.foldl_cons, hopen]
        exact hclosed
    · simp at h

/-- In what is read as a value, braces stand in quotations only. -/
theorem shields_of_readTrimmed {cs : List Char} {v : Variable} (h : readTrimmed cs = .ok v) :
    Shields '\x7d' cs := by
  unfold readTrimmed at h
  split at h
  · simp at h
  · split at h
    · rename_i hmark
      exact shields_of_readText hmark h
    · split at h
      · rename_i hnumber
        exact shields_of_isBare (isBare_of_readNumber hnumber)
      · exact shields_of_isPlain (isPlain_of_readPath h) (divides_of_mem '\x7d' (by decide))

theorem shields_of_read {cs : List Char} {v : Variable} (h : read cs = .ok v) :
    Shields '\x7d' cs :=
  shields_of_trim (shields_of_readTrimmed h)

end Variable

namespace Expression

variable {filters : FilterTable}

theorem isBare_of_isName {cs : List Char} (h : isName cs = true) : ∀ c ∈ cs, IsBare c :=
  fun c hc => isBare_of_isWordChar (isWordChar_of_isName h c hc)

theorem shields_of_readArgument {name : String} {cs : List Char} {argument : Option Variable}
    (h : readArgument name (some cs) = .ok argument) : Shields '\x7d' cs := by
  unfold readArgument at h
  dsimp only at h
  split at h
  · rename_i hread
    exact Variable.shields_of_read hread
  · simp at h

/-- What follows a bar: the name of a filter, and a colon and an argument perhaps. -/
theorem shields_of_readCall {text part : List Char} {call : FilterCall}
    (h : readCall filters text part = .ok call) : Shields '\x7d' ('|' :: part) := by
  have hbar : Shields '\x7d' ['|'] :=
    shields_of_forall (List.forall_mem_singleton.2 (by decide))
  have hcolon : Shields '\x7d' [':'] :=
    shields_of_forall (List.forall_mem_singleton.2 (by decide))
  refine hbar.append ?_
  unfold readCall splitCall at h
  cases hsplit : splitUnquotedOnce ':' part with
  | none =>
    rw [hsplit] at h
    dsimp only at h
    split at h
    · rename_i hname
      exact shields_of_trim (shields_of_isBare (isBare_of_isName hname))
    · simp at h
  | some pieces =>
    obtain ⟨name, argument⟩ := pieces
    rw [hsplit] at h
    dsimp only at h
    split at h
    · rename_i hname
      split at h
      · simp at h
      · obtain ⟨_, hread, _⟩ := Condition.eq_ok_of_map_eq_ok h
        rw [splitOnceFrom_eq_append hsplit]
        exact (shields_of_trim (shields_of_isBare (isBare_of_isName hname))).append
          (hcolon.append (shields_of_readArgument hread))
    · simp at h

/-- An expression that can be read closes its quotations, and its braces are quoted. -/
theorem shields_of_read {text : String} {e : Expression} (h : read filters text = .ok e) :
    Shields '\x7d' text.toList := by
  obtain ⟨hhead, hcalls, _⟩ := read_eq_ok_iff.1 h
  have hparts : ∀ part ∈ (splitUnquoted '|' text.toList).2, Shields '\x7d' ('|' :: part) := by
    intro part hpart
    obtain ⟨call, hread⟩ := exists_of_mapM_eq_ok hcalls part hpart
    exact shields_of_readCall hread
  have hpieces : text.toList = (splitUnquoted '|' text.toList).1 ++
      (splitUnquoted '|' text.toList).2.flatMap ('|' :: ·) :=
    eq_append_splitFrom .outside text.toList
  rw [hpieces]
  exact (Variable.shields_of_read hhead).append (Shields.flatMap hparts)

end Expression

end TextTemplate
