import TextTemplate.Unicode.Alphabetic
import TextTemplate.Unicode.CaseIgnorable
import TextTemplate.Unicode.Cased
import TextTemplate.Unicode.Numeric
import TextTemplate.Unicode.Ranges
import TextTemplate.Unicode.Uppercase

/-!
Character classes. ASCII characters are decided by comparison, all others by the
tables of the corresponding Unicode property. Spaces form a short list of their own,
and no space is a word character.
-/
namespace TextTemplate.Text

open Unicode

/-- Ranges of the property White_Space. -/
def spaceRanges : List (Nat × Nat) :=
  [(0x9, 0xd), (0x20, 0x20), (0x85, 0x85), (0xa0, 0xa0), (0x1680, 0x1680), (0x2000, 0x200a),
   (0x2028, 0x2029), (0x202f, 0x202f), (0x205f, 0x205f), (0x3000, 0x3000)]

def isSpace (c : Char) : Bool := inRanges spaceRanges c.toNat

def isAscii (c : Char) : Bool := decide (c.toNat < 0x80)

def isAlphabetic (c : Char) : Bool :=
  if isAscii c then c.isAlpha else inRanges alphabeticRanges c.toNat

def isNumeric (c : Char) : Bool :=
  if isAscii c then c.isDigit else inRanges numericRanges c.toNat

def isAlphanumeric (c : Char) : Bool := isAlphabetic c || isNumeric c

def isUppercase (c : Char) : Bool :=
  if isAscii c then c.isUpper else inStrides uppercaseStrides c.toNat

/-- Letters, digits and the underscore make up words and names. -/
def isWordChar (c : Char) : Bool := isAlphanumeric c || c == '_'

def isCased (c : Char) : Bool :=
  if isAscii c then c.isAlpha else inRanges casedRanges c.toNat

def isCaseIgnorable (c : Char) : Bool :=
  if isAscii c then ['\x27', '.', ':', '^', '\x60'].contains c
  else inRanges caseIgnorableRanges c.toNat

/-- A name starts with a letter or an underscore and goes on with word characters. -/
def isName : List Char → Bool
  | [] => false
  | c :: rest => (isAlphabetic c || c == '_') && rest.all isWordChar

theorem isAscii_iff {c : Char} : isAscii c = true ↔ c.toNat < 0x80 := by
  rw [isAscii, decide_eq_true_eq]

/-- What holds of all ASCII codes holds of all ASCII characters. -/
theorem forall_ascii {P : Char → Prop} (h : ∀ n < 0x80, P (Char.ofNat n)) {c : Char}
    (hc : isAscii c = true) : P c := by
  have hcode := h c.toNat (isAscii_iff.1 hc)
  rwa [Char.ofNat_toNat] at hcode

theorem isWordChar_of_isName {cs : List Char} (h : isName cs = true) :
    ∀ c ∈ cs, isWordChar c = true := by
  cases cs with
  | nil => exact List.forall_mem_nil _
  | cons c rest =>
    rw [isName, Bool.and_eq_true, List.all_eq_true] at h
    obtain ⟨hfirst, hrest⟩ := h
    refine List.forall_mem_cons.2 ⟨?_, hrest⟩
    rw [isWordChar, isAlphanumeric]
    rcases Bool.or_eq_true _ _ ▸ hfirst with hletter | hunderscore
    · rw [hletter, Bool.true_or, Bool.true_or]
    · rw [hunderscore, Bool.or_true]

/-- A space character and its code point are listed together. -/
theorem isSpace_eq_true_iff {c : Char} :
    isSpace c = true ↔ ∃ range ∈ spaceRanges, range.1 ≤ c.toNat ∧ c.toNat ≤ range.2 :=
  inRanges_eq_true_iff

/-- No space is a word character: the few spaces are tried one by one. -/
theorem isWordChar_of_isSpace {c : Char} (h : isSpace c = true) : isWordChar c = false := by
  obtain ⟨range, hmem, hlow, hhigh⟩ := isSpace_eq_true_iff.1 h
  have hranges : ∀ range ∈ spaceRanges, ∀ k < range.2 + 1 - range.1,
      isWordChar (Char.ofNat (range.1 + k)) = false := by
    decide +kernel
  have hlt : c.toNat - range.1 < range.2 + 1 - range.1 := by omega
  have hword := hranges range hmem _ hlt
  have hcode : range.1 + (c.toNat - range.1) = c.toNat := by omega
  rwa [hcode, Char.ofNat_toNat] at hword

end TextTemplate.Text
