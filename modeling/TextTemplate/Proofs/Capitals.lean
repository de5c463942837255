import Mathlib.Tactic.MkIffOfInductiveProp
import TextTemplate.Text.Case

/-!
Capitals. Every character of a capital is its own capital, which is read off the tables run by
run: a run leads either to a stretch of code points that no letter of the tables lies in, or to
the gaps between letters of a run that alternates. So no capital is a small ASCII letter.
-/
namespace TextTemplate

namespace Unicode

namespace CaseRun

def lowest (run : CaseRun) : Nat := ((run.first : Int) + run.shift).toNat

def highest (run : CaseRun) : Nat := ((run.last : Int) + run.shift).toNat

/-- The run leads to no letter of the other one: it leads to code points in front of them, behind
them, or between them where every second code point is a letter. -/
def avoids (run other : CaseRun) : Bool :=
  Nat.blt run.highest other.first || Nat.blt other.last run.lowest ||
    (Nat.beq other.stride 2 && (Nat.beq run.stride 2 || Nat.beq run.first run.last) &&
      !Nat.beq (run.lowest % 2) (other.first % 2))

theorem covers_iff {run : CaseRun} {code : Nat} :
    run.covers code = true ↔
      run.first ≤ code ∧ code ≤ run.last ∧ (code - run.first) % run.stride = 0 := by
  rw [covers, Bool.and_eq_true, Bool.and_eq_true, decide_eq_true_eq, decide_eq_true_eq,
    decide_eq_true_eq, and_assoc]

theorem lowest_le_image {run : CaseRun} {code : Nat} (h : run.covers code = true) :
    run.lowest ≤ ((code : Int) + run.shift).toNat ∧
      ((code : Int) + run.shift).toNat ≤ run.highest := by
  obtain ⟨hfirst, hlast, _⟩ := covers_iff.1 h
  unfold lowest highest
  omega

theorem not_covers_image {run other : CaseRun} (h : run.avoids other = true)
    (hpositive : 0 < run.lowest) {code : Nat} (hcode : run.covers code = true) :
    other.covers ((code : Int) + run.shift).toNat = false := by
  obtain ⟨hlow, hhigh⟩ := lowest_le_image hcode
  obtain ⟨hfirst, hlast, hstep⟩ := covers_iff.1 hcode
  rw [← Bool.not_eq_true, covers_iff]
  rintro ⟨hfirst', hlast', hstep'⟩
  simp only [avoids, Bool.or_eq_true, Bool.and_eq_true, Bool.not_eq_true', Nat.blt_eq,
    Nat.beq_eq] at h
  rcases h with (hfront | hbehind) | ⟨⟨hother, hown⟩, hbetween⟩
  · omega
  · omega
  · -- All images of the run are an even distance away from its lowest one.
    have heven : (code - run.first) % 2 = 0 := by
      rcases hown with hstride | hsingle
      · rwa [hstride] at hstep
      · omega
    have hdistance : ((code : Int) + run.shift).toNat = run.lowest + (code - run.first) := by
      unfold lowest at hpositive ⊢
      omega
    rw [hother] at hstep'
    have hparity : run.lowest % 2 ≠ other.first % 2 := by
      intro hsame
      rw [hsame, Nat.beq_refl] at hbetween
      exact absurd hbetween (by decide)
    omega

end CaseRun

def expansionRun (entry : Nat × List Nat) : CaseRun := ⟨entry.1, entry.1, 1, 0⟩

/-- What the tables say of where a run of capitals leads to: to no letter of a run or of an
expansion, and to characters. If it leads to ASCII, then to a single letter, and it leads into a
stretch of letters or else to few word characters. -/
@[mk_iff]
structure LeadsToCapitals (run : CaseRun) : Prop where
  runs : upperRuns.all run.avoids = true
  expansions : (upperExpansions.all fun entry => run.avoids (expansionRun entry)) = true
  positive : 0 < run.lowest
  valid : run.highest < 0xd800 ∨ 0xdfff < run.lowest ∧ run.highest < 0x110000
  ascii : run.lowest < 0x80 → run.highest = run.lowest ∧
    Text.upperChar (Char.ofNat run.lowest) = [Char.ofNat run.lowest]
  words : 0x80 ≤ run.lowest ∧ (alphabeticRanges.any fun range =>
      Nat.ble range.1 run.lowest && Nat.ble run.highest range.2) = true ∨
    run.last - run.first < 7 ∧ ∀ step < 7, step % run.stride = 0 → run.first + step ≤ run.last →
      Text.isWordChar (Char.ofNat (((run.first + step : Nat) : Int) + run.shift).toNat) = true

instance (run : CaseRun) : Decidable (LeadsToCapitals run) :=
  decidable_of_iff _ (leadsToCapitals_iff run).symm

/-- The table of capitals is gone through once. -/
theorem leadsToCapitals_of_mem : ∀ run ∈ upperRuns, LeadsToCapitals run := by
  decide +kernel

theorem upperExpansions_fixed : ∀ entry ∈ upperExpansions, entry.2 ≠ [] ∧
    ∀ code ∈ entry.2, Text.upperChar (Char.ofNat code) = [Char.ofNat code] := by
  decide +kernel

/-- No table speaks of the code points that a run leads to. -/
theorem mapCase_image {run : CaseRun} (hrun : run ∈ upperRuns) {code : Nat}
    (hcode : run.covers code = true) :
    mapCase upperExpansions upperRuns ((code : Int) + run.shift).toNat =
      [((code : Int) + run.shift).toNat] := by
  have hleads := leadsToCapitals_of_mem run hrun
  apply mapCase_eq_self
  · intro entry hentry heq
    have havoids := List.all_eq_true.1 hleads.expansions entry hentry
    have hcovers := CaseRun.not_covers_image havoids hleads.positive hcode
    rw [← heq] at hcovers
    have hself : (expansionRun entry).covers entry.1 = true :=
      CaseRun.covers_iff.2 ⟨Nat.le_refl _, Nat.le_refl _, Nat.mod_one _⟩
    exact Bool.false_ne_true (hcovers.symm.trans hself)
  · intro other hother
    have havoids := List.all_eq_true.1 hleads.runs other hother
    exact CaseRun.not_covers_image havoids hleads.positive hcode

end Unicode

namespace Text

open Unicode

/-- Among the ASCII characters, capitals stay as they are, and small letters do not. -/
theorem upperChar_ascii {c : Char} (h : isAscii c = true) :
    upperChar c.toUpper = [c.toUpper] ∧ (c.isLower = true → upperChar c ≠ [c]) := by
  have hcodes : ∀ n < 0x80, upperChar (Char.ofNat n).toUpper = [(Char.ofNat n).toUpper] ∧
      ((Char.ofNat n).isLower = true → upperChar (Char.ofNat n) ≠ [Char.ofNat n]) := by
    decide +kernel
  exact forall_ascii (P := fun d => upperChar d.toUpper = [d.toUpper] ∧
    (d.isLower = true → upperChar d ≠ [d])) hcodes h

theorem toNat_image {run : CaseRun} (hrun : run ∈ upperRuns) {code : Nat}
    (hcode : run.covers code = true) :
    (Char.ofNat ((code : Int) + run.shift).toNat).toNat = ((code : Int) + run.shift).toNat := by
  have hvalid : ((code : Int) + run.shift).toNat.isValidChar := by
    have hbounds := (leadsToCapitals_of_mem run hrun).valid
    have hbetween := CaseRun.lowest_le_image hcode
    unfold Nat.isValidChar
    omega
  rw [Char.ofNat, dif_pos hvalid]
  rfl

/-- The capital of a letter is its own capital. -/
theorem upperChar_image {run : CaseRun} (hrun : run ∈ upperRuns) {code : Nat}
    (hcode : run.covers code = true) :
    upperChar (Char.ofNat ((code : Int) + run.shift).toNat) =
      [Char.ofNat ((code : Int) + run.shift).toNat] := by
  obtain ⟨hlow, hhigh⟩ := CaseRun.lowest_le_image hcode
  by_cases hbelow : run.lowest < 0x80
  · obtain ⟨hsingle, hfixed⟩ := (leadsToCapitals_of_mem run hrun).ascii hbelow
    have himage : ((code : Int) + run.shift).toNat = run.lowest := by omega
    rwa [himage]
  · have hcodeOf := toNat_image hrun hcode
    have hother : ¬ isAscii (Char.ofNat ((code : Int) + run.shift).toNat) = true := by
      rw [isAscii_iff, hcodeOf]
      omega
    rw [upperChar, if_neg hother, hcodeOf, mapCase_image hrun hcode, List.map_singleton]

theorem isWordChar_image {run : CaseRun} (hrun : run ∈ upperRuns) {code : Nat}
    (hcode : run.covers code = true) :
    isWordChar (Char.ofNat ((code : Int) + run.shift).toNat) = true := by
  obtain ⟨hlow, hhigh⟩ := CaseRun.lowest_le_image hcode
  have hcodeOf := toNat_image hrun hcode
  rcases (leadsToCapitals_of_mem run hrun).words with ⟨hnotAscii, hstretch⟩ | hsingly
  · obtain ⟨range, hrange, hinside⟩ := List.any_eq_true.1 hstretch
    rw [Bool.and_eq_true, Nat.ble_eq, Nat.ble_eq] at hinside
    have halphabetic : inRanges alphabeticRanges ((code : Int) + run.shift).toNat = true :=
      inRanges_eq_true_iff.2 ⟨range, hrange, by omega, by omega⟩
    have hother : ¬ isAscii (Char.ofNat ((code : Int) + run.shift).toNat) = true := by
      rw [isAscii_iff, hcodeOf]
      omega
    rw [isWordChar, isAlphanumeric, isAlphabetic, if_neg hother, hcodeOf, halphabetic,
      Bool.true_or, Bool.true_or]
  · obtain ⟨hshort, hwords⟩ := hsingly
    obtain ⟨hfirst, hlast, hstep⟩ := CaseRun.covers_iff.1 hcode
    have hword := hwords (code - run.first) (by omega) hstep (by omega)
    rwa [Nat.add_sub_cancel' hfirst] at hword

theorem upperChar_of_not_isAscii {c : Char} (h : ¬ isAscii c = true) :
    upperChar c = (mapCase upperExpansions upperRuns c.toNat).map Char.ofNat := by
  rw [upperChar, if_neg h]

/-- The characters of a capital are capitals themselves. -/
theorem upperChar_of_mem_upperChar {c d : Char} (h : d ∈ upperChar c) : upperChar d = [d] := by
  by_cases hascii : isAscii c = true
  · rw [upperChar, if_pos hascii, List.mem_singleton] at h
    rw [h]
    exact (upperChar_ascii hascii).1
  · have hupper := upperChar_of_not_isAscii hascii
    rcases mapCase_cases upperExpansions upperRuns c.toNat with
      ⟨entry, hentry, hmap, _⟩ | ⟨run, hrun, hcovers, hmap⟩ | hmap
    · rw [hupper, hmap] at h
      obtain ⟨n, hn, rfl⟩ := List.mem_map.1 h
      exact (upperExpansions_fixed entry hentry).2 n hn
    · rw [hupper, hmap, List.map_singleton, List.mem_singleton] at h
      rw [h]
      exact upperChar_image hrun hcovers
    · rw [hmap, List.map_singleton, Char.ofNat_toNat] at hupper
      rw [hupper, List.mem_singleton] at h
      rw [h, hupper]

theorem upperChar_ne_nil (c : Char) : upperChar c ≠ [] := by
  by_cases hascii : isAscii c = true
  · rw [upperChar, if_pos hascii]
    exact List.cons_ne_nil _ _
  · rw [upperChar_of_not_isAscii hascii, Ne, List.map_eq_nil_iff]
    rcases mapCase_cases upperExpansions upperRuns c.toNat with
      ⟨entry, hentry, hmap, _⟩ | ⟨run, _, _, hmap⟩ | hmap
    · rw [hmap]
      exact (upperExpansions_fixed entry hentry).1
    · rw [hmap]
      exact List.cons_ne_nil _ _
    · rw [hmap]
      exact List.cons_ne_nil _ _

/-- A small ASCII letter is not its own capital. -/
theorem not_isLower_of_upperChar {c : Char} (h : upperChar c = [c]) : c.isLower = false := by
  rw [← Bool.not_eq_true]
  intro hlower
  have hascii : isAscii c = true := by
    have hbound : c.val.toNat ≤ 122 := of_decide_eq_true (Bool.and_eq_true_iff.1 hlower).2
    rw [isAscii_iff, Char.toNat]
    omega
  exact (upperChar_ascii hascii).2 hlower h

end Text

end TextTemplate
