import TextTemplate.Proofs.ShieldedExpressions

/-!
Chains of filters. A chain that stands behind an expression is divided at its bars as it would
be by itself, since an expression closes its quotations. So the filters of the chain come behind
those of the expression, and are applied to its value.
-/
namespace TextTemplate

open Text Source

/-- Behind a text that closes its quotations a separator divides, whatever the text holds. -/
theorem Source.splitFrom_append_sep {sep : Char} (hsep : Quotation.isQuote sep = false)
    {state : Quotation} {cs : List Char} (hclosed : state.after cs = .outside)
    (rest : List Char) :
    splitFrom sep state (cs ++ sep :: rest) =
      ((splitFrom sep state cs).1,
        (splitFrom sep state cs).2 ++
          (splitUnquoted sep rest).1 :: (splitUnquoted sep rest).2) := by
  induction cs generalizing state with
  | nil =>
    obtain rfl : state = .outside := hclosed
    exact splitFrom_append hsep (quotedOnly_nil _ _) rfl rest
  | cons c cs ih =>
    have hrest : (state.next c).after cs = .outside := hclosed
    rw [List.cons_append, splitFrom, ih hrest, splitFrom]
    dsimp only
    split
    · rfl
    · rfl

namespace Expression

variable {filters : FilterTable}

def ofPath (names : List String) : Expression :=
  ⟨String.intercalate "." names, .path names, []⟩

/-- Filters written behind an expression, each behind a bar; there may be none. -/
def IsChain (chain : String) : Prop := chain = "" ∨ ∃ rest, chain = "|" ++ rest

/-- The text around a filter is told in messages only. -/
theorem readCall_of_readCall {text part : List Char} {call : FilterCall}
    (h : readCall filters text part = .ok call) (text' : List Char) :
    readCall filters text' part = .ok call := by
  unfold readCall at h ⊢
  dsimp only at h ⊢
  split at h
  · rename_i hname
    rw [if_pos hname]
    exact h
  · simp at h

theorem mapM_readCall_of_mapM {text : List Char} {parts : List (List Char)}
    {calls : List FilterCall} (h : parts.mapM (readCall filters text) = .ok calls)
    (text' : List Char) : parts.mapM (readCall filters text') = .ok calls :=
  mapM_eq_ok_of_imp (fun _ _ hread => readCall_of_readCall hread text') h

theorem splitUnquoted_append_chain {text chain : String} (hclosed : closesQuotes text.toList)
    (hchain : IsChain chain) :
    splitUnquoted '|' (text ++ chain).toList =
      ((splitUnquoted '|' text.toList).1,
        (splitUnquoted '|' text.toList).2 ++ (splitUnquoted '|' chain.toList).2) := by
  rcases hchain with rfl | ⟨rest, rfl⟩
  · rw [String.append_empty]
    exact congrArg (Prod.mk _) (List.append_nil _).symm
  · have htext : (text ++ ("|" ++ rest)).toList = text.toList ++ '|' :: rest.toList := by
      simp
    have hbar : ("|" ++ rest).toList = '|' :: rest.toList := by simp
    have hnothing : splitUnquoted '|' ('|' :: rest.toList) =
        ([], (splitUnquoted '|' rest.toList).1 :: (splitUnquoted '|' rest.toList).2) :=
      splitUnquoted_append (by decide) ⟨quotedOnly_nil _ _, rfl⟩ rest.toList
    rw [htext, hbar, hnothing]
    exact splitFrom_append_sep (by decide) hclosed _

/-- An expression with a chain behind it is read if the filters of the chain are, which come
behind its own. -/
theorem read_append_iff {text chain : String} {e g : Expression}
    (h : read filters text = .ok e) (hchain : IsChain chain) :
    read filters (text ++ chain) = .ok g ↔
      ∃ later, (splitUnquoted '|' chain.toList).2.mapM (readCall filters []) = .ok later ∧
        g = ⟨String.ofList (trim (text ++ chain).toList), e.head, e.calls ++ later⟩ := by
  obtain ⟨hhead, hcalls, _⟩ := read_eq_ok_iff.1 h
  have hsplit := splitUnquoted_append_chain (shields_of_read h).closed hchain
  rw [read_eq_ok_iff, hsplit, hhead, mapM_append_eq_ok_iff]
  constructor
  · rintro ⟨hsame, ⟨calls, later, hfirst, hlater, hboth⟩, hsource⟩
    have hown := mapM_readCall_of_mapM hcalls (text ++ chain).toList
    obtain rfl := Except.ok.inj (hown.symm.trans hfirst)
    refine ⟨later, mapM_readCall_of_mapM hlater [], ?_⟩
    rw [Except.ok.inj hsame, ← hboth, ← hsource]
  · rintro ⟨later, hlater, rfl⟩
    exact ⟨rfl, ⟨e.calls, later, mapM_readCall_of_mapM hcalls _, mapM_readCall_of_mapM hlater _,
      rfl⟩, rfl⟩

theorem not_isDigit_of_isName {c : Char} {rest : List Char} (h : isName (c :: rest) = true) :
    c.isDigit = false := by
  cases hdigit : c.isDigit with
  | false => rfl
  | true =>
    have hcode : 48 ≤ c.val.toNat ∧ c.val.toNat ≤ 57 := Char.isDigit_iff_toNat.1 hdigit
    have hascii : isAscii c = true := decide_eq_true (show c.val.toNat < 128 by omega)
    have hletter : c.isAlpha = false := by
      have hdigits : ∀ n < 58, 48 ≤ n → (Char.ofNat n).isAlpha = false := by decide
      have hbound : c.toNat < 58 := Nat.lt_succ_of_le hcode.2
      rw [← Char.ofNat_toNat c]
      exact hdigits c.toNat hbound hcode.1
    have hunderscore : (c == '_') = false := by
      rw [beq_eq_false_iff_ne]
      rintro rfl
      exact absurd hdigit (by decide)
    rw [isName, isAlphabetic, hascii, if_pos rfl, hletter, hunderscore] at h
    exact absurd h Bool.false_ne_true

/-- Without marks, spaces and bars there are no filters. -/
theorem read_of_isPlain (filters : FilterTable) {text : String} {v : Variable}
    (hplain : ∀ c ∈ text.toList, Variable.IsPlain c)
    (hread : Variable.readTrimmed text.toList = .ok v) :
    read filters text = .ok ⟨text, v, []⟩ := by
  have htrim := Variable.trim_of_isPlain hplain
  have hsplit : splitUnquoted '|' text.toList = (text.toList, []) :=
    splitUnquoted_of_shields (Variable.shields_of_isPlain hplain (divides_of_mem '|' (by decide)))
  refine read_eq_ok_iff.2 ?_
  rw [hsplit, htrim, String.ofList_toList, Variable.read, htrim]
  exact ⟨hread, rfl, rfl⟩

theorem read_name (filters : FilterTable) {name : String} (h : isName name.toList = true) :
    read filters name = .ok ⟨name, .path [name], []⟩ := by
  have hplain : ∀ c ∈ name.toList, Variable.IsPlain c :=
    fun c hc => Or.inl (isWordChar_of_isName h c hc)
  have hpath : Variable.IsPath [name] := by
    refine ⟨List.cons_ne_nil _ _, List.forall_mem_singleton.2 ⟨?_, isWordChar_of_isName h⟩, ?_⟩
    · intro hempty
      rw [hempty] at h
      exact absurd h Bool.false_ne_true
    · intro other hother c hc
      obtain rfl := Option.mem_some_iff.1 hother
      obtain ⟨rest, hrest⟩ := List.head?_eq_some_iff.1 hc
      rw [hrest] at h
      exact not_isDigit_of_isName h
  have htext : Variable.pathText [name] = name.toList := List.intercalate_singleton
  have hread := Variable.readTrimmed_path hpath
  rw [htext] at hread
  exact read_of_isPlain filters hplain hread

theorem applyCalls_append (scope : Scope) (input : Value) (calls later : List FilterCall) :
    applyCalls scope input (calls ++ later) =
      match applyCalls scope input calls with
      | .error e => .error e
      | .ok output => applyCalls scope output later := by
  induction calls generalizing input with
  | nil => rfl
  | cons call calls ih =>
    rw [List.cons_append, applyCalls, applyCalls]
    cases applyCall scope input call with
    | error e => rfl
    | ok output => exact ih output

/-- The value of an expression with further filters behind its own. -/
theorem resolve_append (scope : Scope) (e : Expression) (source : String)
    (later : List FilterCall) :
    (⟨source, e.head, e.calls ++ later⟩ : Expression).resolve scope =
      match e.resolve scope with
      | .error err => .error err
      | .ok value => applyCalls scope value later := by
  rw [resolve, resolve]
  cases e.head.resolve scope with
  | error err => rfl
  | ok value => exact applyCalls_append scope value e.calls later

end Expression

end TextTemplate
