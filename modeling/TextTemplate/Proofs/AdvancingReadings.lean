import TextTemplate.Proofs.ParallelReadings
import TextTemplate.Proofs.ReadingSteps

/-!
Readings advance. Whatever is asked of a reader, and whether it succeeds or fails, the reader
has then read tokens off the front, has the line of the last of them, and has the same tags
open as before. A standard tag only asks for bodies and skips to the end of a comment, so
this passes from the bodies to the tag, and by induction on the budget to all items.
-/
namespace TextTemplate

open Tags

namespace Reader

def lineAfter (line : Nat) (ts : List Token) : Nat := (ts.getLast?.map Token.line).getD line

theorem lineAfter_append (line : Nat) (as bs : List Token) :
    lineAfter line (as ++ bs) = lineAfter (lineAfter line as) bs := by
  unfold lineAfter
  rw [List.getLast?_append]
  cases bs.getLast? <;> rfl

structure AdvancesBy (r : Reader) (ts : List Token) (r' : Reader) : Prop where
  tokens : r.tokens = ts ++ r'.tokens
  line : r'.lastLine = lineAfter r.lastLine ts
  openTags : r'.openTags = r.openTags

def Advances (r r' : Reader) : Prop := ∃ ts, r.AdvancesBy ts r'

theorem Advances.refl (r : Reader) : r.Advances r := ⟨[], rfl, rfl, rfl⟩

theorem Advances.trans {r₁ r₂ r₃ : Reader} (h : r₁.Advances r₂) (h' : r₂.Advances r₃) :
    r₁.Advances r₃ := by
  obtain ⟨as, ha⟩ := h
  obtain ⟨bs, hb⟩ := h'
  refine ⟨as ++ bs, ?_, ?_, hb.openTags.trans ha.openTags⟩
  · rw [ha.tokens, hb.tokens, List.append_assoc]
  · rw [hb.line, ha.line, lineAfter_append]

/-- What is left after reading is a suffix of what was there before. -/
theorem Advances.isSuffix {r r' : Reader} (h : r.Advances r') : r'.tokens <:+ r.tokens := by
  obtain ⟨ts, hadvances⟩ := h
  exact ⟨ts, hadvances.tokens.symm⟩

theorem advances_past {r : Reader} {t : Token} {rest : List Token} (h : r.tokens = t :: rest) :
    r.Advances (r.past t rest) :=
  ⟨[t], h, rfl, rfl⟩

/-- Looking for a block reads the tokens up to it, or all of them. -/
theorem tokensPast_advances (name : String) (line : Nat) (ts : List Token) :
    ∃ read, ts = read ++ (tokensPast name line ts).2.2 ∧
      (tokensPast name line ts).2.1 = lineAfter line read := by
  induction ts generalizing line with
  | nil => exact ⟨[], rfl, rfl⟩
  | cons t ts ih =>
    rw [tokensPast]
    by_cases hname : t.tagName? = some name
    · rw [if_pos hname]
      exact ⟨[t], rfl, rfl⟩
    · rw [if_neg hname]
      obtain ⟨read, hts, hline⟩ := ih t.line
      refine ⟨t :: read, congrArg (t :: ·) hts, hline.trans ?_⟩
      exact (lineAfter_append line [t] read).symm

end Reader

open Reader

def Reading.Advances {α : Type} (m : Reading α) : Prop :=
  ∀ r : Reader, r.Advances (m r).2

namespace Reading

variable {α β : Type}

theorem advances_of_unchanged {m : Reading α} (h : ∀ r, (m r).2 = r) : Reading.Advances m :=
  fun r => (h r).symm ▸ Reader.Advances.refl r

/-- A computation that only reads tokens may be followed by another one. -/
theorem Advances.bind {m : Reading α} {f : α → Reading β} (hm : Reading.Advances m)
    (hf : ∀ a, Reading.Advances (f a)) : Reading.Advances (m >>= f) := by
  intro r
  have hfirst := hm r
  rcases hrun : m r with ⟨outcome, r₁⟩
  rw [hrun] at hfirst
  cases outcome with
  | error e =>
    rw [Attempt.bind_of_error hrun]
    exact hfirst
  | ok a =>
    rw [Attempt.bind_of_ok hrun]
    exact hfirst.trans (hf a r₁)

theorem atTag_unchanged (outcome : Except SyntaxFault α) (r : Reader) :
    (Reading.atTag outcome r).2 = r := by
  cases outcome <;> rfl

theorem atLine_unchanged (line : Nat) (outcome : Except SyntaxFault α) (r : Reader) :
    (Reading.atLine line outcome r).2 = r := by
  cases outcome <;> rfl

/-- One token is taken off, and its line is remembered. -/
theorem next_advances : Reading.Advances Reading.next := by
  intro r
  cases htokens : r.tokens with
  | nil =>
    rw [Reading.next_eq_of_nil htokens]
    exact .refl r
  | cons t rest =>
    rw [Reading.next_eq_of_cons htokens]
    exact advances_past htokens

theorem skipPast_advances (name : String) : Reading.Advances (Reading.skipPast name) := by
  intro r
  obtain ⟨read, htokens, hline⟩ := tokensPast_advances name r.lastLine r.tokens
  unfold Reading.skipPast
  dsimp only
  split
  · exact ⟨read, htokens, hline, rfl⟩
  · exact ⟨read, htokens, hline, rfl⟩

theorem Advances.inTag {m : Reading α} (h : Reading.Advances m) (name : String) (line : Nat) :
    Reading.Advances (Reading.inTag name line m) := by
  intro r
  obtain ⟨ts, htokens, hline, _⟩ := h { r with openTags := (name, line) :: r.openTags }
  exact ⟨ts, htokens, hline, rfl⟩

end Reading

/-- The states of the reader while a tag is being read: the one in which the tag starts, and
each one in which a body or a skip that the tag asked for, successful or not, leaves it. -/
inductive TagReader.Visits (reader : TagReader) (r : Reader) : Reader → Prop where
  | start : Visits reader r r
  | body {s : Reader} (stops : List String) (h : Visits reader r s) :
      Visits reader r (reader.body stops s).2
  | skipPast {s : Reader} (name : String) (h : Visits reader r s) :
      Visits reader r (Reading.skipPast name s).2

namespace TagReader

variable {reader : TagReader} {r s s' : Reader}

theorem Visits.trans (h : reader.Visits r s) (h' : reader.Visits s s') : reader.Visits r s' := by
  induction h' with
  | start => exact h
  | body stops _ ih => exact .body stops ih
  | skipPast name _ ih => exact .skipPast name ih

theorem body_advances {stops : List String} (h : Reading.Advances (reader.items stops)) :
    Reading.Advances (reader.body stops) := by
  refine h.bind ?_
  intro ended
  obtain ⟨nodes, stop⟩ := ended
  cases stop with
  | some stop => exact Reading.advances_of_unchanged fun _ => rfl
  | none => exact Reading.advances_of_unchanged fun _ => rfl

/-- Each state that a tag leads to has read tokens and done nothing else. -/
theorem Visits.advances (hitems : ∀ stops, Reading.Advances (reader.items stops))
    (h : reader.Visits r s) : r.Advances s := by
  induction h with
  | start => exact .refl r
  | body stops _ ih => exact ih.trans (body_advances (hitems stops) _)
  | skipPast name _ ih => exact ih.trans (Reading.skipPast_advances name _)

/-- Each step of a standard tag takes it from one of these states to another. -/
theorem visits_parallel (reader : TagReader) :
    Reading.Parallel reader reader fun _ m _ => ∀ r, reader.Visits r (m r).2 where
  bind {_ _ m _ f _} hm hf := by
    intro r
    have hfirst := hm r
    rcases hrun : m r with ⟨outcome, r₁⟩
    rw [hrun] at hfirst
    cases outcome with
    | error e =>
      rw [Attempt.bind_of_error hrun]
      exact hfirst
    | ok a =>
      rw [Attempt.bind_of_ok hrun]
      exact hfirst.trans (hf a r₁)
  atTag _ _ := by
    intro r
    rw [Reading.atTag_unchanged]
    exact .start
  skipPast name _ := .skipPast name .start
  body stops _ := .body stops .start
  uneven hne := absurd rfl hne

end TagReader

/-- A standard tag leaves the reader in a state that its bodies and skips lead to. -/
theorem Tag.visits_of_standard {name : String} {tag : Tag}
    (htag : Entries.get? Tags.all name = some tag) (reader : TagReader) (args : String)
    (r : Reader) : reader.Visits r (tag.read reader args r).2 :=
  reader.visits_parallel.standardTag htag args r

namespace Catalog

variable {catalog : Catalog}

theorem failUnknown_unchanged (name : String) (line : Nat) (stops : List String) (r : Reader) :
    (failUnknown name line stops r).2 = r := by
  unfold failUnknown
  split <;> rfl

theorem advances_parallel (catalog : Catalog) :
    Catalog.Parallel catalog catalog fun _ m _ => Reading.Advances m where
  bind hm hf := hm.bind hf
  atTag _ _ := Reading.advances_of_unchanged (Reading.atTag_unchanged _)
  atLine _ _ _ := Reading.advances_of_unchanged (Reading.atLine_unchanged _ _)
  next := Reading.next_advances
  skipPast := Reading.skipPast_advances
  unclosed _ := Reading.advances_of_unchanged fun _ => rfl
  inTag name line hm := hm.inTag name line
  tags _ _ htag := htag
  unknown _ _ _ _ := Reading.advances_of_unchanged (failUnknown_unchanged _ _ _)

/-- Reading items, successful or not, takes tokens off and changes nothing else. -/
theorem readItems_advances (hcatalog : catalog.IsMadeOfStandardTags) (budget : Nat)
    (stops : List String) : Reading.Advances (catalog.readItems budget stops) :=
  (advances_parallel catalog).readItems hcatalog budget stops

end Catalog

end TextTemplate
