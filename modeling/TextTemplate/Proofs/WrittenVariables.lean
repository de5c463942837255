import TextTemplate.Expression.Variable
import TextTemplate.Proofs.Quotations

/-!
Variables as they are written. A text stands between marks, with a backslash before every
backslash and every further mark; an integer is written in decimal, and a path as its names
with points between them. Each is free of spaces at its ends, keeps separators within
quotations, and is read as the variable that it was written for.
-/
namespace TextTemplate

open Text Source

structure Spaces where
  chars : List Char
  all : ∀ c ∈ chars, isSpace c = true

namespace Variable

def protectChar (mark c : Char) : List Char := if c = '\\' ∨ c = mark then ['\\', c] else [c]

def protect (mark : Char) (cs : List Char) : List Char := cs.flatMap (protectChar mark)

/-- Names that can be written as a path. The first one does not start with a digit, so that
the path is not taken for a number. -/
structure IsPath (names : List String) : Prop where
  nonempty : names ≠ []
  words : ∀ name ∈ names, name.toList ≠ [] ∧ ∀ c ∈ name.toList, isWordChar c = true
  first : ∀ name ∈ names.head?, ∀ c ∈ name.toList.head?, c.isDigit = false

def pathText (names : List String) : List Char :=
  List.intercalate ['.'] (names.map String.toList)

end Variable

/-- Reading several things succeeds if each of them is read. -/
theorem mapM_map_eq_ok {α β γ ε : Type} {f : β → Except ε γ} {g : α → β} {h : α → γ}
    {as : List α} (hread : ∀ a ∈ as, f (g a) = .ok (h a)) :
    (as.map g).mapM f = .ok (as.map h) := by
  induction as with
  | nil => rfl
  | cons a as ih =>
    obtain ⟨hfirst, hrest⟩ := List.forall_mem_cons.1 hread
    rw [List.map_cons, List.mapM_cons, hfirst, ih hrest]
    rfl

/-- A variable and a way of writing it: the mark is up to the writer. -/
inductive WrittenVariable where
  | quoted (mark : Char) (hmark : Quotation.isQuote mark = true) (s : String)
  | integer (n : Int) (hn : Decimal.inRange n = true)
  | path (names : List String) (hnames : Variable.IsPath names)

/-- A character that divides expressions: it is no mark, no space, and stands in no number,
path or name. -/
structure Divides (sep : Char) : Prop where
  notQuote : Quotation.isQuote sep = false
  notSpace : isSpace sep = false
  notWord : isWordChar sep = false
  notPoint : sep ≠ '.'
  notMinus : sep ≠ '-'

/-- What divides calls, sets off arguments and closes tags. -/
theorem divides_of_mem : ∀ sep ∈ ['|', ':', '\x7d'], Divides sep := by
  intro sep hsep
  simp only [List.mem_cons, List.not_mem_nil, or_false] at hsep
  rcases hsep with rfl | rfl | rfl
  all_goals exact ⟨by decide, by decide, by decide, by decide, by decide⟩

namespace WrittenVariable

def toVariable : WrittenVariable → Variable
  | quoted _ _ s => .literal (.safe s)
  | integer n _ => .literal (.int n)
  | path names _ => .path names

def written : WrittenVariable → List Char
  | quoted mark _ s => mark :: Variable.protect mark s.toList ++ [mark]
  | integer n _ => Decimal.intText n
  | path names _ => Variable.pathText names

end WrittenVariable

namespace Variable

theorem protect_cons (mark c : Char) (cs : List Char) :
    protect mark (c :: cs) = protectChar mark c ++ protect mark cs :=
  List.flatMap_cons

theorem ne_of_isQuote {mark c : Char} (h : Quotation.isQuote mark = true)
    (hc : Quotation.isQuote c = false) : mark ≠ c := by
  rintro rfl
  rw [h] at hc
  exact absurd hc (by decide)

/-- A protected character stands for itself, since it is neither of the two letters that a
backslash gives another meaning. -/
theorem unescape_eq_self {mark c : Char} (hmark : Quotation.isQuote mark = true)
    (hc : c = '\\' ∨ c = mark) : unescape c = c := by
  have hn : c ≠ 'n' := by
    rcases hc with rfl | rfl
    · decide
    · exact ne_of_isQuote hmark (by decide)
  have ht : c ≠ 't' := by
    rcases hc with rfl | rfl
    · decide
    · exact ne_of_isQuote hmark (by decide)
  rw [unescape, if_neg hn, if_neg ht]

theorem readQuoted_plain {mark c : Char} (hmark : c ≠ mark) (hbackslash : c ≠ '\\')
    (rest : List Char) :
    readQuoted mark (c :: rest) =
      (readQuoted mark rest).map fun (text, after) => (c :: text, after) := by
  rw [readQuoted.eq_def]
  dsimp only
  rw [if_neg hmark, if_neg hbackslash]

theorem readQuoted_escaped {mark : Char} (hbackslash : '\\' ≠ mark) (c : Char)
    (rest : List Char) :
    readQuoted mark ('\\' :: c :: rest) =
      (readQuoted mark rest).map fun (text, after) => (unescape c :: text, after) := by
  rw [readQuoted.eq_def]
  dsimp only
  rw [if_neg hbackslash, if_pos rfl]

/-- A protected text is read back up to the mark behind it. -/
theorem readQuoted_protect {mark : Char} (hmark : Quotation.isQuote mark = true)
    (cs rest : List Char) :
    readQuoted mark (protect mark cs ++ mark :: rest) = some (cs, rest) := by
  have hbackslash : '\\' ≠ mark := (ne_of_isQuote hmark (by decide)).symm
  induction cs with
  | nil =>
    rw [protect, List.flatMap_nil, List.nil_append, readQuoted.eq_def]
    exact if_pos rfl
  | cons c cs ih =>
    rw [protect_cons, protectChar]
    by_cases hc : c = '\\' ∨ c = mark
    · rw [if_pos hc, List.append_assoc, List.cons_append, List.singleton_append,
        readQuoted_escaped hbackslash, ih, Option.map_some, unescape_eq_self hmark hc]
    · obtain ⟨hplain, hopen⟩ := not_or.1 hc
      rw [if_neg hc, List.append_assoc, List.singleton_append, readQuoted_plain hopen hplain, ih,
        Option.map_some]

/-- A protected character leaves the quotation open and stands within it. -/
theorem protectChar_inside (mark c sep : Char) :
    QuotedOnly [sep] (.inside mark) (protectChar mark c) ∧
      (Quotation.inside mark).after (protectChar mark c) = .inside mark := by
  unfold protectChar
  by_cases hc : c = '\\' ∨ c = mark
  · have hbackslash : (Quotation.inside mark).next '\\' = .escaped mark := by
      rw [Quotation.next, if_pos rfl]
    rw [if_pos hc]
    refine ⟨?_, ?_⟩
    · simp [quotedOnly_singleton_cons, quotedOnly_nil, hbackslash]
    · rw [Quotation.after, List.foldl_cons, hbackslash]
      rfl
  · obtain ⟨hplain, hopen⟩ := not_or.1 hc
    have hnext : (Quotation.inside mark).next c = .inside mark := by
      rw [Quotation.next, if_neg hplain, if_neg hopen]
    rw [if_neg hc]
    refine ⟨?_, hnext⟩
    simp [quotedOnly_singleton_cons, quotedOnly_nil]

/-- A protected text stays within its marks. -/
theorem protect_inside (mark sep : Char) (cs : List Char) :
    QuotedOnly [sep] (.inside mark) (protect mark cs) ∧
      (Quotation.inside mark).after (protect mark cs) = .inside mark := by
  induction cs with
  | nil => exact ⟨quotedOnly_nil _ _, rfl⟩
  | cons c cs ih =>
    obtain ⟨hfirst, hafter⟩ := protectChar_inside mark c sep
    obtain ⟨hrest, hafterRest⟩ := ih
    rw [protect_cons]
    refine ⟨hfirst.append ?_, ?_⟩
    · rw [hafter]
      exact hrest
    · rw [Quotation.after_append, hafter, hafterRest]

def IsPlain (c : Char) : Prop := isWordChar c = true ∨ c = '.' ∨ c = '-'

theorem isWordChar_of_isDigit {c : Char} (h : c.isDigit = true) : isWordChar c = true := by
  have hcode : c.toNat ≤ 57 := (Char.isDigit_iff_toNat.1 h).2
  have hascii : isAscii c = true := decide_eq_true (by omega)
  have hnumeric : isNumeric c = true := by rw [isNumeric, hascii, if_pos rfl, h]
  rw [isWordChar, isAlphanumeric, hnumeric, Bool.or_true, Bool.true_or]

theorem eq_of_isQuote {c : Char} (h : Quotation.isQuote c = true) : c = '"' ∨ c = '\x27' := by
  simpa [Quotation.isQuote] using h

theorem not_isSpace_of_isQuote {c : Char} (h : Quotation.isQuote c = true) :
    isSpace c = false := by
  rcases eq_of_isQuote h with rfl | rfl
  · decide
  · decide

theorem IsPlain.not_isQuote {c : Char} (h : IsPlain c) : Quotation.isQuote c = false := by
  rcases h with hword | rfl | rfl
  · cases hquote : Quotation.isQuote c with
    | false => rfl
    | true =>
      rcases eq_of_isQuote hquote with rfl | rfl
      · exact absurd hword (by decide)
      · exact absurd hword (by decide)
  · decide
  · decide

theorem IsPlain.not_isSpace {c : Char} (h : IsPlain c) : isSpace c = false := by
  rcases h with hword | rfl | rfl
  · cases hspace : isSpace c with
    | false => rfl
    | true => rw [isWordChar_of_isSpace hspace] at hword; exact absurd hword (by decide)
  · decide
  · decide

theorem IsPlain.ne {c sep : Char} (h : IsPlain c) (hsep : Divides sep) : sep ≠ c := by
  rintro rfl
  rcases h with hword | hpoint | hminus
  · rw [hsep.notWord] at hword
    exact absurd hword (by decide)
  · exact hsep.notPoint hpoint
  · exact hsep.notMinus hminus

/-- What needs no quotation holds no character that divides expressions. -/
theorem shields_of_isPlain {cs : List Char} (h : ∀ c ∈ cs, IsPlain c) {sep : Char}
    (hsep : Divides sep) : Shields sep cs :=
  shields_of_forall fun c hc => ⟨(h c hc).not_isQuote, (h c hc).ne hsep⟩

theorem trim_of_isPlain {cs : List Char} (h : ∀ c ∈ cs, IsPlain c) : trim cs = cs := by
  refine trim_eq_self ?_ ?_
  · exact fun c hc => (h c (List.mem_of_mem_head? hc)).not_isSpace
  · exact fun c hc => (h c (List.mem_of_getLast? hc)).not_isSpace

theorem isPlain_intText (n : Int) : ∀ c ∈ Decimal.intText n, IsPlain c := by
  have hdigits : ∀ c ∈ Decimal.natText n.natAbs, IsPlain c := by
    intro c hc
    exact Or.inl (isWordChar_of_isDigit (Decimal.isDigit_of_mem_natText hc))
  unfold Decimal.intText
  split
  · exact List.forall_mem_cons.2 ⟨Or.inr (Or.inr rfl), hdigits⟩
  · exact hdigits

theorem pathText_cons_cons (name next : String) (names : List String) :
    pathText (name :: next :: names) = name.toList ++ '.' :: pathText (next :: names) := by
  simp [pathText, List.intercalate_cons_cons]

theorem isPlain_pathText {names : List String}
    (h : ∀ name ∈ names, ∀ c ∈ name.toList, isWordChar c = true) :
    ∀ c ∈ pathText names, IsPlain c := by
  induction names with
  | nil => exact List.forall_mem_nil _
  | cons name names ih =>
    obtain ⟨hname, hnames⟩ := List.forall_mem_cons.1 h
    have hfirst : ∀ c ∈ name.toList, IsPlain c := fun c hc => Or.inl (hname c hc)
    cases names with
    | nil => simpa [pathText] using hfirst
    | cons next names =>
      have hpoint : IsPlain '.' := Or.inr (Or.inl rfl)
      rw [pathText_cons_cons]
      exact List.forall_mem_append.2 ⟨hfirst, List.forall_mem_cons.2 ⟨hpoint, ih hnames⟩⟩

theorem readTrimmed_quoted {mark : Char} (hmark : Quotation.isQuote mark = true)
    (cs : List Char) :
    readTrimmed (mark :: protect mark cs ++ [mark]) =
      .ok (.literal (.safe (String.ofList cs))) := by
  rw [List.cons_append, readTrimmed, if_pos hmark, readText, readQuoted_protect hmark]
  rfl

/-- An integer is read back from its digits. -/
theorem readNumber_intText {n : Int} (hn : Decimal.inRange n = true) :
    readNumber (Decimal.intText n) = some (.int n) := by
  have hread := Decimal.readInt_intText hn
  cases htext : Decimal.intText n with
  | nil =>
    rw [htext] at hread
    exact absurd hread (by simp [Decimal.readInt, Decimal.splitSign, Decimal.readNat])
  | cons c rest =>
    have hstart : (c.isDigit || c == '-' || c == '+' || c == '.') = true := by
      have hmem : c ∈ Decimal.intText n := by
        rw [htext]
        exact List.mem_cons_self
      unfold Decimal.intText at hmem
      split at hmem
      · rcases List.mem_cons.1 hmem with rfl | hdigit
        · rfl
        · rw [Decimal.isDigit_of_mem_natText hdigit]
          rfl
      · rw [Decimal.isDigit_of_mem_natText hmem]
        rfl
    rw [htext] at hread
    rw [readNumber, if_pos hstart, hread]

theorem readTrimmed_integer {n : Int} (hn : Decimal.inRange n = true) :
    readTrimmed (Decimal.intText n) = .ok (.literal (.int n)) := by
  have hread := readNumber_intText hn
  have hplain := isPlain_intText n
  cases htext : Decimal.intText n with
  | nil =>
    rw [htext] at hread
    simp [readNumber] at hread
  | cons c rest =>
    rw [htext] at hread hplain
    have hquote := (hplain c List.mem_cons_self).not_isQuote
    rw [readTrimmed, hquote, if_neg Bool.false_ne_true, hread]

/-- A word that does not start with a digit is no number. -/
theorem readNumber_word {c : Char} (hword : isWordChar c = true) (hdigit : c.isDigit = false)
    (rest : List Char) : readNumber (c :: rest) = none := by
  have hother : ∀ d, isWordChar d = false → (c == d) = false := by
    rintro d hd
    rw [beq_eq_false_iff_ne]
    rintro rfl
    rw [hword] at hd
    exact absurd hd (by decide)
  have hstart : (c.isDigit || c == '-' || c == '+' || c == '.') = false := by
    rw [hdigit, hother '-' (by decide), hother '+' (by decide), hother '.' (by decide)]
    rfl
  rw [readNumber, hstart, if_neg Bool.false_ne_true]

theorem readName_word {text : List Char} {name : String} (hne : name.toList ≠ [])
    (hword : ∀ c ∈ name.toList, isWordChar c = true) :
    readName text name.toList = .ok name := by
  have hempty : name.toList.isEmpty = false := List.isEmpty_eq_false_iff.2 hne
  have hfind : name.toList.find? (fun c => !isWordChar c) = none := by
    rw [List.find?_eq_none]
    intro c hc
    rw [hword c hc]
    decide
  rw [readName, hempty, if_neg Bool.false_ne_true, hfind, String.ofList_toList]

/-- Names are read back from their path. -/
theorem readPath_pathText {names : List String} (hnames : IsPath names) :
    readPath (pathText names) = .ok (.path names) := by
  have hpoint : ∀ l ∈ names.map String.toList, '.' ∉ l := by
    rw [List.forall_mem_map]
    intro name hname hmem
    exact absurd ((hnames.words name hname).2 '.' hmem) (by decide)
  have hne : names.map String.toList ≠ [] := by
    rw [Ne, List.map_eq_nil_iff]
    exact hnames.nonempty
  have hsplit : splitOnChar '.' (pathText names) = names.map String.toList := by
    rw [splitOnChar_eq_splitOn]
    exact List.splitOn_intercalate '.' hpoint hne
  have hread : (names.map String.toList).mapM (readName (pathText names)) = .ok names := by
    have heach : ∀ name ∈ names, readName (pathText names) name.toList = .ok name := by
      intro name hname
      obtain ⟨hword, hall⟩ := hnames.words name hname
      exact readName_word hword hall
    have hread := mapM_map_eq_ok (h := fun name => name) heach
    rwa [List.map_id'] at hread
  rw [readPath, hsplit, hread]
  rfl

/-- A path starts with a word character other than a digit. -/
theorem IsPath.pathText_eq_cons {names : List String} (h : IsPath names) :
    ∃ c rest, pathText names = c :: rest ∧ isWordChar c = true ∧ c.isDigit = false := by
  obtain ⟨name, others, rfl⟩ := List.exists_cons_of_ne_nil h.nonempty
  obtain ⟨hne, hword⟩ := h.words name List.mem_cons_self
  obtain ⟨c, rest, hname⟩ := List.exists_cons_of_ne_nil hne
  have hc : isWordChar c = true := hword c (by rw [hname]; exact List.mem_cons_self)
  have hdigit : c.isDigit = false := h.first name rfl c (by rw [hname]; rfl)
  cases others with
  | nil =>
    refine ⟨c, rest, ?_, hc, hdigit⟩
    rw [← hname]
    exact List.intercalate_singleton
  | cons next others =>
    refine ⟨c, rest ++ '.' :: pathText (next :: others), ?_, hc, hdigit⟩
    rw [pathText_cons_cons, hname, List.cons_append]

theorem readTrimmed_path {names : List String} (hnames : IsPath names) :
    readTrimmed (pathText names) = .ok (.path names) := by
  have hread := readPath_pathText hnames
  obtain ⟨c, rest, htext, hword, hdigit⟩ := hnames.pathText_eq_cons
  have hquote := IsPlain.not_isQuote (Or.inl hword)
  rw [htext] at hread ⊢
  rw [readTrimmed, hquote, if_neg Bool.false_ne_true, readNumber_word hword hdigit, hread]

end Variable

namespace WrittenVariable

open Variable

/-- Whatever is written is read as the variable it was written for. -/
theorem readTrimmed_written (v : WrittenVariable) : readTrimmed v.written = .ok v.toVariable := by
  cases v with
  | quoted mark hmark s =>
    have hread := readTrimmed_quoted hmark s.toList
    rwa [String.ofList_toList] at hread
  | integer n hn => exact readTrimmed_integer hn
  | path names hnames => exact readTrimmed_path hnames

/-- Apart from quoted texts, variables are written without marks, spaces and separators. -/
theorem written_cases (v : WrittenVariable) :
    (∃ mark cs, Quotation.isQuote mark = true ∧
      v.written = mark :: protect mark cs ++ [mark]) ∨ ∀ c ∈ v.written, IsPlain c := by
  cases v with
  | quoted mark hmark s => exact Or.inl ⟨mark, s.toList, hmark, rfl⟩
  | integer n hn => exact Or.inr (isPlain_intText n)
  | path names hnames =>
    exact Or.inr (isPlain_pathText fun name hname => (hnames.words name hname).2)

/-- Between the marks a separator is quoted, and elsewhere there is none. -/
theorem shields_written (v : WrittenVariable) {sep : Char} (hsep : Divides sep) :
    Shields sep v.written := by
  rcases v.written_cases with ⟨mark, cs, hmark, hwritten⟩ | hplain
  · have hopen : Quotation.outside.next mark = .inside mark := by
      rw [Quotation.next, hmark, if_pos rfl]
    have hclose : (Quotation.inside mark).next mark = .outside := by
      rw [Quotation.next, if_neg (ne_of_isQuote hmark (by decide)), if_pos rfl]
    have hmarkSep : ¬ (Quotation.outside = .outside ∧ mark = sep) := by
      rintro ⟨_, rfl⟩
      exact absurd hmark (by rw [hsep.notQuote]; decide)
    have hend : QuotedOnly [sep] (.inside mark) [mark] := by
      simp [quotedOnly_singleton_cons, quotedOnly_nil]
    obtain ⟨hquoted, hafter⟩ := protect_inside mark sep cs
    rw [hwritten, List.cons_append]
    refine ⟨quotedOnly_singleton_cons.2 ⟨hmarkSep, ?_⟩, ?_⟩
    · rw [hopen]
      exact hquoted.append (by rwa [hafter])
    · rw [closesQuotes, Quotation.after, List.foldl_cons, hopen]
      change (Quotation.inside mark).after (protect mark cs ++ [mark]) = .outside
      rw [Quotation.after_append, hafter]
      exact hclose
  · exact shields_of_isPlain hplain hsep

theorem trim_written (v : WrittenVariable) : trim v.written = v.written := by
  rcases v.written_cases with ⟨mark, cs, hmark, hwritten⟩ | hplain
  · have hspace : isSpace mark = false := not_isSpace_of_isQuote hmark
    rw [hwritten]
    refine trim_eq_self ?_ ?_
    · intro c hc
      obtain rfl : mark = c := Option.some.inj hc
      exact hspace
    · intro c hc
      rw [List.getLast?_concat] at hc
      obtain rfl : mark = c := Option.some.inj hc
      exact hspace
  · exact trim_of_isPlain hplain

end WrittenVariable

structure SpacedVariable where
  before : Spaces
  inner : WrittenVariable
  after : Spaces

namespace SpacedVariable

def written (v : SpacedVariable) : List Char :=
  v.before.chars ++ v.inner.written ++ v.after.chars

/-- Reading leaves out the spaces around a variable. -/
theorem read_spaced (v : SpacedVariable) : Variable.read v.written = .ok v.inner.toVariable := by
  rw [Variable.read, written, trim_padded v.before.all v.after.all, v.inner.trim_written,
    v.inner.readTrimmed_written]

end SpacedVariable

/-- Spaces are neither marks nor separators. -/
theorem Spaces.shields (spaces : Spaces) {sep : Char} (hsep : Divides sep) :
    Shields sep spaces.chars := by
  refine shields_of_forall ?_
  intro c hc
  have hspace := spaces.all c hc
  refine ⟨?_, ?_⟩
  · cases hquote : Quotation.isQuote c with
    | false => rfl
    | true =>
      rw [Variable.not_isSpace_of_isQuote hquote] at hspace
      exact absurd hspace (by decide)
  · rintro rfl
    rw [hsep.notSpace] at hspace
    exact absurd hspace (by decide)

theorem SpacedVariable.shields (v : SpacedVariable) {sep : Char} (hsep : Divides sep) :
    Shields sep v.written :=
  ((v.before.shields hsep).append (v.inner.shields_written hsep)).append (v.after.shields hsep)

end TextTemplate
