import TextTemplate.Proofs.Capitals
import TextTemplate.Value.Lookup

/-!
Capitalized words. The words of a capitalized text begin where those of the text did. A further one
begins behind a capital that ends in something other than a word character, such as a letter with a
mark that is written apart from it. So the scanner of the result is followed beside that of the
text: whenever it is within a word the other one is as well, and only behind such a capital is it
not while the other one is.
-/
namespace TextTemplate

namespace Text

open Unicode

def inWordAfter (inWord : Bool) (cs : List Char) : Bool :=
  cs.foldl (fun _ c => isWordChar c) inWord

def breaksWord (c : Char) : Bool := !inWordAfter false (upperChar c)

/-- The code points of the letters whose capital ends in a mark of its own: a Latin or a Greek
letter that has no capital in one piece. -/
def breakingLetters : List Nat :=
  [0x1f0, 0x390, 0x3b0, 0x1e96, 0x1e97, 0x1e98, 0x1e99, 0x1f50, 0x1f52, 0x1f54, 0x1f56, 0x1fb6,
    0x1fc6, 0x1fd2, 0x1fd3, 0x1fd6, 0x1fd7, 0x1fe2, 0x1fe3, 0x1fe4, 0x1fe6, 0x1fe7, 0x1ff6]

theorem breaksWord_of_isAscii {c : Char} (hascii : isAscii c = true)
    (hword : isWordChar c = true) : breaksWord c = false := by
  have hcodes : ∀ n < 0x80, isWordChar (Char.ofNat n) = true →
      breaksWord (Char.ofNat n) = false := by
    decide +kernel
  exact forall_ascii (P := fun d => isWordChar d = true → breaksWord d = false) hcodes hascii hword

theorem breaksWord_of_singleton {c d : Char} (h : upperChar c = [d]) :
    breaksWord c = !isWordChar d := by
  rw [breaksWord, h]
  rfl

/-- The word characters that break words are few: all others have a capital in one piece, which is
a word character, or an expansion that ends in one. -/
theorem breaksWord_iff {c : Char} (hword : isWordChar c = true) :
    breaksWord c = true ↔ c.toNat ∈ breakingLetters := by
  constructor
  · intro hbreaks
    by_cases hascii : isAscii c = true
    · rw [breaksWord_of_isAscii hascii hword] at hbreaks
      exact absurd hbreaks Bool.false_ne_true
    · have hupper := upperChar_of_not_isAscii hascii
      rcases mapCase_cases upperExpansions upperRuns c.toNat with
        ⟨entry, hentry, hmap, hcode⟩ | ⟨run, hrun, hcovers, hmap⟩ | hmap
      · have hends : ∀ entry ∈ upperExpansions,
            inWordAfter false (entry.2.map Char.ofNat) = false → entry.1 ∈ breakingLetters := by
          decide +kernel
        rw [breaksWord, hupper, hmap, Bool.not_eq_true'] at hbreaks
        rw [← hcode]
        exact hends entry hentry hbreaks
      · rw [hmap, List.map_singleton] at hupper
        rw [breaksWord_of_singleton hupper, isWordChar_image hrun hcovers] at hbreaks
        exact absurd hbreaks Bool.false_ne_true
      · rw [hmap, List.map_singleton, Char.ofNat_toNat] at hupper
        rw [breaksWord_of_singleton hupper, hword] at hbreaks
        exact absurd hbreaks Bool.false_ne_true
  · intro hmem
    have hall : ∀ code ∈ breakingLetters, breaksWord (Char.ofNat code) = true := by decide +kernel
    have hbreaks := hall c.toNat hmem
    rwa [Char.ofNat_toNat] at hbreaks

def OpensAfter (inWord : Bool) (cs : List Char) (c d : Char) : Prop :=
  ∃ before after, cs = before ++ c :: d :: after ∧ inWordAfter inWord before = false ∧
    isWordChar c = true ∧ isWordChar d = true

abbrev Opens (cs : List Char) (c d : Char) : Prop := OpensAfter false cs c d

theorem OpensAfter.isWordChar {inWord : Bool} {cs : List Char} {c d : Char}
    (h : OpensAfter inWord cs c d) : isWordChar c = true := by
  obtain ⟨_, _, _, _, hc, _⟩ := h
  exact hc

theorem opensAfter_cons {inWord : Bool} {x c d : Char} {rest : List Char} :
    OpensAfter inWord (x :: rest) c d ↔
      (inWord = false ∧ x = c ∧ isWordChar c = true ∧ d ∈ rest.head? ∧ isWordChar d = true) ∨
        OpensAfter (isWordChar x) rest c d := by
  constructor
  · rintro ⟨before, after, heq, hstart, hc, hd⟩
    cases before with
    | nil =>
      obtain ⟨rfl, rfl⟩ := List.cons.inj heq
      exact Or.inl ⟨hstart, rfl, hc, rfl, hd⟩
    | cons y before =>
      obtain ⟨rfl, rfl⟩ := List.cons.inj heq
      exact Or.inr ⟨before, after, rfl, hstart, hc, hd⟩
  · rintro (⟨hstart, rfl, hc, hhead, hd⟩ | ⟨before, after, rfl, hstart, hc, hd⟩)
    · obtain ⟨after, rfl⟩ := List.head?_eq_some_iff.1 hhead
      exact ⟨[], after, rfl, hstart, hc, hd⟩
    · exact ⟨x :: before, after, rfl, hstart, hc, hd⟩

theorem forall_opensAfter_cons {Q : Char → Char → Prop} {inWord : Bool} {x : Char}
    {rest : List Char} :
    (∀ c d, OpensAfter inWord (x :: rest) c d → Q c d) ↔
      (inWord = false → isWordChar x = true →
          ∀ d ∈ rest.head?, isWordChar d = true → Q x d) ∧
        ∀ c d, OpensAfter (isWordChar x) rest c d → Q c d := by
  constructor
  · intro h
    refine ⟨fun hstart hx d hhead hd => ?_, fun c d hlater => ?_⟩
    · exact h x d (opensAfter_cons.2 (Or.inl ⟨hstart, rfl, hx, hhead, hd⟩))
    · exact h c d (opensAfter_cons.2 (Or.inr hlater))
  · rintro ⟨hfirst, hrest⟩ c d hopens
    rcases opensAfter_cons.1 hopens with ⟨hstart, rfl, hc, hhead, hd⟩ | hlater
    · exact hfirst hstart hc d hhead hd
    · exact hrest c d hlater

/-- The starts of words are found part by part. -/
theorem wordStartsAfter_append (inWord : Bool) (as bs : List Char) :
    wordStartsAfter inWord (as ++ bs) =
      wordStartsAfter inWord as ++ wordStartsAfter (inWordAfter inWord as) bs := by
  induction as generalizing inWord with
  | nil => rfl
  | cons a as ih =>
    rw [List.cons_append, wordStartsAfter, wordStartsAfter]
    by_cases hstart : (isWordChar a && !inWord) = true
    · have ha : isWordChar a = true := (Bool.and_eq_true_iff.1 hstart).1
      have hafter : inWordAfter inWord (a :: as) = inWordAfter true as := by
        rw [inWordAfter, List.foldl_cons, ha, inWordAfter]
      rw [if_pos hstart, if_pos hstart, ih, hafter, List.cons_append]
    · rw [if_neg hstart, if_neg hstart, ih]
      rfl

theorem mem_of_mem_wordStartsAfter {inWord : Bool} {cs : List Char} {c : Char}
    (h : c ∈ wordStartsAfter inWord cs) : c ∈ cs := by
  induction cs generalizing inWord with
  | nil => exact h
  | cons x rest ih =>
    rw [wordStartsAfter] at h
    split at h
    · rcases List.mem_cons.1 h with rfl | hrest
      · exact List.mem_cons_self
      · exact List.mem_cons_of_mem x (ih hrest)
    · exact List.mem_cons_of_mem x (ih h)

/-- Capitalizing makes no text shorter. -/
theorem length_le_capitalizeWordsAfter (inWord : Bool) (cs : List Char) :
    cs.length ≤ (capitalizeWordsAfter inWord cs).length := by
  induction cs generalizing inWord with
  | nil => exact Nat.le_refl 0
  | cons c rest ih =>
    have hrest := ih (isWordChar c)
    have hfirst : 0 < (if (isWordChar c && !inWord) = true then upperChar c else [c]).length := by
      split
      · exact List.length_pos_iff.2 (upperChar_ne_nil c)
      · exact Nat.zero_lt_one
    rw [capitalizeWordsAfter, List.length_append, List.length_cons]
    omega

/-- A text is capitalized already if every word begins with a character that is its own
capital. -/
theorem capitalizeWordsAfter_eq_self_iff {inWord : Bool} {cs : List Char} :
    capitalizeWordsAfter inWord cs = cs ↔
      ∀ c ∈ wordStartsAfter inWord cs, upperChar c = [c] := by
  induction cs generalizing inWord with
  | nil => exact ⟨fun _ => List.forall_mem_nil _, fun _ => rfl⟩
  | cons c rest ih =>
    rw [capitalizeWordsAfter, wordStartsAfter]
    by_cases hstart : (isWordChar c && !inWord) = true
    · have hc : isWordChar c = true := (Bool.and_eq_true_iff.1 hstart).1
      rw [if_pos hstart, if_pos hstart, List.forall_mem_cons, hc, ← ih]
      constructor
      · intro heq
        have hlength := congrArg List.length heq
        have hlong := length_le_capitalizeWordsAfter true rest
        have hpositive := List.length_pos_iff.2 (upperChar_ne_nil c)
        rw [List.length_append, List.length_cons] at hlength
        have hsingle : (upperChar c).length = [c].length := by
          rw [List.length_singleton]
          omega
        exact List.append_inj heq hsingle
      · rintro ⟨hself, hrest⟩
        rw [hself, hrest, List.singleton_append]
    · rw [if_neg hstart, if_neg hstart, List.singleton_append, List.cons_inj_right]
      exact ih

/-- A property of all characters of capitals holds of all that begin words of the capitalized
text if it holds of those that follow a capital which breaks its word. Within a word of the text,
the scanner of the result may be outside of words: then it has just passed such a capital. -/
theorem forall_wordStartsAfter_iff {P : Char → Prop} (hP : ∀ c, ∀ d ∈ upperChar c, P d)
    {inWord inResult : Bool} (hahead : inResult = true → inWord = true) (cs : List Char) :
    (∀ d ∈ wordStartsAfter inResult (capitalizeWordsAfter inWord cs), P d) ↔
      (inWord = true → inResult = false → ∀ d ∈ cs.head?, isWordChar d = true → P d) ∧
        ∀ c d, OpensAfter inWord cs c d → breaksWord c = true → P d := by
  induction cs generalizing inWord inResult with
  | nil =>
    refine ⟨fun _ => ⟨fun _ _ d hd => (nomatch hd), ?_⟩, fun _ => List.forall_mem_nil _⟩
    rintro c d ⟨before, after, heq, _⟩
    exact absurd heq (by simp)
  | cons x rest ih =>
    rw [forall_opensAfter_cons]
    cases hx : isWordChar x with
    | false =>
      have hrest := @ih false false id
      have hresult : wordStartsAfter inResult (capitalizeWordsAfter inWord (x :: rest)) =
          wordStartsAfter false (capitalizeWordsAfter false rest) := by
        simp [capitalizeWordsAfter, wordStartsAfter, hx]
      rw [hresult, hrest]
      simp [hx]
    | true =>
      cases inWord with
      | false =>
        -- The capital of a word's first character is written, and the word goes on behind it.
        obtain rfl : inResult = false := by simpa using hahead
        have hrest := @ih true (inWordAfter false (upperChar x)) fun _ => rfl
        have hresult : wordStartsAfter false (capitalizeWordsAfter false (x :: rest)) =
            wordStartsAfter false (upperChar x) ++
              wordStartsAfter (inWordAfter false (upperChar x))
                (capitalizeWordsAfter true rest) := by
          rw [capitalizeWordsAfter, hx, ← wordStartsAfter_append]
          rfl
        have hcapital : ∀ d ∈ wordStartsAfter false (upperChar x), P d :=
          fun d hd => hP x d (mem_of_mem_wordStartsAfter hd)
        rw [hresult, List.forall_mem_append, hrest]
        constructor
        · rintro ⟨_, hhead, hlater⟩
          refine ⟨fun h => (nomatch h), fun _ _ d hd hword hbreaks => ?_, hlater⟩
          exact hhead rfl (by simpa [breaksWord] using hbreaks) d hd hword
        · rintro ⟨_, hhead, hlater⟩
          refine ⟨hcapital, fun _ houtside d hd hword => ?_, hlater⟩
          exact hhead rfl rfl d hd hword (by rw [breaksWord, houtside]; rfl)
      | true =>
        -- Inside of a word the character stays, and both scanners are in a word behind it.
        have hrest := @ih true true id
        have hkept : capitalizeWordsAfter true (x :: rest) =
            x :: capitalizeWordsAfter true rest := by
          rw [capitalizeWordsAfter, hx]
          rfl
        rw [hkept]
        cases inResult with
        | true =>
          have hresult : wordStartsAfter true (x :: capitalizeWordsAfter true rest) =
              wordStartsAfter true (capitalizeWordsAfter true rest) := by
            rw [wordStartsAfter, hx]
            rfl
          rw [hresult, hrest]
          simp
        | false =>
          have hresult : wordStartsAfter false (x :: capitalizeWordsAfter true rest) =
              x :: wordStartsAfter true (capitalizeWordsAfter true rest) := by
            rw [wordStartsAfter, hx]
            rfl
          rw [hresult, List.forall_mem_cons, hrest]
          simp [hx]

/-- What starts a word in a capitalized text, other than a capital, followed a breaking letter. -/
theorem forall_wordStarts_iff {P : Char → Prop} (hP : ∀ c, ∀ d ∈ upperChar c, P d)
    (cs : List Char) :
    (∀ d ∈ wordStarts (capitalizeWords cs), P d) ↔
      ∀ c d, Opens cs c d → c.toNat ∈ breakingLetters → P d := by
  rw [wordStarts, capitalizeWords, forall_wordStartsAfter_iff hP (id : false = true → _)]
  constructor
  · rintro ⟨_, h⟩ c d hopens hmem
    exact h c d hopens ((breaksWord_iff hopens.isWordChar).2 hmem)
  · intro h
    refine ⟨fun hstart => (nomatch hstart), fun c d hopens hbreaks => ?_⟩
    exact h c d hopens ((breaksWord_iff hopens.isWordChar).1 hbreaks)

/-- No word of the capitalized text begins with a small ASCII letter, unless one follows a capital
that breaks its word. -/
theorem isTitled_capitalizeWords_iff (cs : List Char) :
    isTitled (capitalizeWords cs) = true ↔
      ∀ c d, Opens cs c d → c.toNat ∈ breakingLetters → d.isLower = false := by
  have hcapital : ∀ c, ∀ d ∈ upperChar c, d.isLower = false :=
    fun _ _ hd => not_isLower_of_upperChar (upperChar_of_mem_upperChar hd)
  rw [← forall_wordStarts_iff hcapital, isTitled, Bool.not_eq_true', List.any_eq_false]
  simp only [Bool.not_eq_true]

/-- Capitalizing a second time changes nothing, unless a character that is not its own capital
follows a capital that breaks its word. -/
theorem capitalizeWords_capitalizeWords_iff (cs : List Char) :
    capitalizeWords (capitalizeWords cs) = capitalizeWords cs ↔
      ∀ c d, Opens cs c d → c.toNat ∈ breakingLetters → upperChar d = [d] := by
  have hcapital : ∀ c, ∀ d ∈ upperChar c, upperChar d = [d] :=
    fun _ _ hd => upperChar_of_mem_upperChar hd
  rw [← forall_wordStarts_iff hcapital]
  exact capitalizeWordsAfter_eq_self_iff

end Text

namespace Value

theorem lookup_capitalized (s : String) :
    (Value.str s).lookup "title" = some (.str (String.ofList (Text.capitalizeWords s.toList))) :=
  rfl

theorem lookup_isTitled (s : String) :
    (Value.str s).lookup "istitle" = some (.bool (Text.isTitled s.toList)) :=
  rfl

/-- Capitalizing the words of a text gives a text that passes the test for capitalized words unless
a word of the first text begins with a letter whose capital does not end in a word character, and
goes on with a small ASCII letter. It gives a text that stays as it is when its words are
capitalized again unless such a letter is followed by any word character that is not its own
capital. -/
theorem lookup_title (s : String) :
    ∃ t, (Value.str s).lookup "title" = some (.str t) ∧
      (Value.safe s).lookup "title" = some (.str t) ∧
      ((Value.str t).lookup "istitle" = some (.bool true) ↔
        ∀ c d, Text.Opens s.toList c d → c.toNat ∈ Text.breakingLetters → d.isLower = false) ∧
      ((Value.str t).lookup "title" = some (.str t) ↔
        ∀ c d, Text.Opens s.toList c d → c.toNat ∈ Text.breakingLetters →
          Text.upperChar d = [d]) := by
  refine ⟨String.ofList (Text.capitalizeWords s.toList), lookup_capitalized s, rfl, ?_, ?_⟩
  · rw [← Text.isTitled_capitalizeWords_iff, lookup_isTitled, String.toList_ofList,
      Option.some_inj, Value.bool.injEq]
  · rw [← Text.capitalizeWords_capitalizeWords_iff, lookup_capitalized, String.toList_ofList,
      Option.some_inj, Value.str.injEq, String.ofList_inj]

/-- The capital of the first letter ends in a mark that is no word character, and so the small
letter behind it begins a word of the result. -/
theorem lookup_title_broken :
    (Value.str "\u01f0a").lookup "title" = some (.str "J\u030ca") ∧
      (Value.str "J\u030ca").lookup "istitle" = some (.bool false) ∧
      (Value.str "J\u030ca").lookup "title" = some (.str "J\u030cA") ∧
      "J\u030cA" ≠ "J\u030ca" := by
  have hfirst : Text.capitalizeWords "\u01f0a".toList = "J\u030ca".toList := by decide +kernel
  have htest : Text.isTitled "J\u030ca".toList = false := by decide +kernel
  have hsecond : Text.capitalizeWords "J\u030ca".toList = "J\u030cA".toList := by decide +kernel
  rw [lookup_capitalized, lookup_isTitled, lookup_capitalized, hfirst, htest, hsecond,
    String.ofList_toList, String.ofList_toList]
  exact ⟨rfl, rfl, rfl, by decide⟩

end Value

end TextTemplate
