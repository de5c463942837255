import Mathlib.Algebra.GroupWithZero.Nat
import TextTemplate.Engine.Context
import TextTemplate.Proofs.RenderClosure

/-!
Outputs with limited room. A rendering is compared with the same rendering to an output that
never fills up. What the second writes is a list of pieces. If they fit, the first ends in the
same way with the same pieces; otherwise it fails at the first piece that does not fit, with
the pieces before that one. In a sequence the second part has the room that the first part
leaves, so that the comparison passes on to every rendering.
-/
namespace TextTemplate

namespace Piece

def bytes (pieces : List Piece) : Nat := (pieces.map (·.text.utf8ByteSize)).sum

theorem bytes_append (left right : List Piece) :
    bytes (left ++ right) = bytes left + bytes right := by
  simp [bytes]

end Piece

namespace Output

theorem utf8ByteSize_text (out : Output) : out.text.utf8ByteSize = Piece.bytes out.pieces := by
  have hjoin : ∀ texts : List String,
      (String.join texts).utf8ByteSize = (texts.map String.utf8ByteSize).sum := by
    intro texts
    induction texts with
    | nil => rfl
    | cons text texts ih => simp [ih]
  simp [text, hjoin, Piece.bytes, Function.comp_def]

/-- Later pieces only lengthen the text. -/
theorem text_of_append {out out' : Output} (later : List Piece)
    (h : out'.pieces = later ++ out.pieces) :
    out'.text = out.text ++ String.join (later.reverse.map (·.text)) := by
  simp [text, h]

end Output

namespace RenderState

def withRoom (s : RenderState) (n : Nat) : RenderState :=
  { s with output := { s.output with room := some n } }

end RenderState

namespace Render

variable {α β : Type}

/-- A run that adds the given pieces, last first, next to one from the same state with room for
`n` bytes only. -/
structure Fits (s : RenderState) (n : Nat) (added : List Piece)
    (free bounded : Except Error α × RenderState) : Prop where
  output : free.2.output = { s.output with pieces := added ++ s.output.pieces }
  same : Piece.bytes added ≤ n → bounded = (free.1, free.2.withRoom (n - Piece.bytes added))
  full : n < Piece.bytes added → bounded.1 = .error .output ∧
    ∃ left kept, added = left ++ kept ∧ Piece.bytes kept ≤ n ∧
      bounded.2.output.pieces = kept ++ s.output.pieces

def IsBounded (m : Render α) : Prop :=
  ∀ s n, s.output.room = none → ∃ added, Fits s n added (m s) (m (s.withRoom n))

theorem isBounded_ofScope (f : Scope → Except Error α) : IsBounded (ofScope f) := by
  intro s n _
  refine ⟨[], rfl, fun _ => rfl, ?_⟩
  intro hfull
  simp [Piece.bytes] at hfull

/-- A single write fits, or the output stays as it is and is full. -/
theorem isBounded_write (origin : Origin) (text : String) : IsBounded (write origin text) := by
  intro s n hroom
  by_cases hrefuses : s.output.refuses s.output.pieces ⟨origin, text⟩ = true
  · refine ⟨[], ?_, ?_, ?_⟩
    · simp [write, Output.add, hrefuses]
    · intro _
      simp [write, Output.add, RenderState.withRoom, hrefuses, Piece.bytes]
    · intro hfull
      simp [Piece.bytes] at hfull
  · have hbytes : Piece.bytes [⟨origin, text⟩] = text.utf8ByteSize := by simp [Piece.bytes]
    refine ⟨[⟨origin, text⟩], ?_, ?_, ?_⟩
    · simp [write, Output.add, hrefuses, hroom]
    · intro hfits
      rw [hbytes] at hfits
      simp [write, Output.add, RenderState.withRoom, hrefuses, hroom, hfits, hbytes]
    · intro hfull
      rw [hbytes] at hfull
      refine ⟨?_, [⟨origin, text⟩], [], rfl, Nat.zero_le n, ?_⟩
      all_goals simp [write, Output.add, RenderState.withRoom, hrefuses, Nat.not_le.2 hfull]

/-- The second part has the room that the first part leaves. -/
theorem IsBounded.bind {m : Render α} {f : α → Render β} (hm : IsBounded m)
    (hf : ∀ a, IsBounded (f a)) : IsBounded (m >>= f) := by
  intro s n hroom
  obtain ⟨first, hfirst⟩ := hm s n hroom
  rcases Attempt.bind_run_cases m f s with ⟨a, s', hrun, heq⟩ | ⟨e, s', hrun, heq⟩
  · rw [hrun] at hfirst
    have hroom' : s'.output.room = none := by rw [hfirst.output, hroom]
    obtain ⟨second, hsecond⟩ := hf a s' (n - Piece.bytes first) hroom'
    have htotal : Piece.bytes (second ++ first) = Piece.bytes second + Piece.bytes first :=
      Piece.bytes_append second first
    refine ⟨second ++ first, ?_, ?_, ?_⟩
    · rw [heq, hsecond.output, hfirst.output, List.append_assoc]
    · intro hfits
      rw [Attempt.bind_of_ok (hfirst.same (by omega)), hsecond.same (by omega), heq, htotal]
      congr 2
      omega
    · intro hfull
      by_cases hfits : Piece.bytes first ≤ n
      · rw [Attempt.bind_of_ok (hfirst.same hfits)]
        obtain ⟨hfailed, left, kept, hsplit, hkept, hpieces⟩ := hsecond.full (by omega)
        refine ⟨hfailed, left, kept ++ first, by rw [hsplit, List.append_assoc], ?_, ?_⟩
        · rw [Piece.bytes_append]
          omega
        · rw [hpieces, hfirst.output, List.append_assoc]
      · obtain ⟨hfailed, left, kept, hsplit, hkept, hpieces⟩ := hfirst.full (by omega)
        rw [Attempt.bind_of_error (Prod.ext hfailed rfl)]
        refine ⟨rfl, second ++ left, kept, by rw [hsplit, List.append_assoc], hkept, hpieces⟩
  · rw [hrun] at hfirst
    refine ⟨first, ?_, ?_, ?_⟩
    · rw [heq]
      exact hfirst.output
    · intro hfits
      rw [Attempt.bind_of_error (hfirst.same hfits), heq]
    · intro hfull
      obtain ⟨hfailed, hkept⟩ := hfirst.full hfull
      rw [Attempt.bind_of_error (Prod.ext hfailed rfl)]
      exact ⟨rfl, hkept⟩

theorem IsBounded.within {m : Render α} (hm : IsBounded m) (frame : Frame) :
    IsBounded (within frame m) := by
  intro s n hroom
  obtain ⟨added, hadded⟩ := hm { s with scope := s.scope.push frame } n hroom
  refine ⟨added, hadded.output, ?_, hadded.full⟩
  intro hfits
  have hsame := hadded.same hfits
  change (fun r => (r.1, { r.2 with scope := r.2.scope.truncate s.scope.depth }))
    (m (RenderState.withRoom { s with scope := s.scope.push frame } n)) = _
  rw [hsame]
  rfl

theorem isBounded_closed : Closed @IsBounded where
  pure a := isBounded_ofScope fun _ => .ok a
  fail e := isBounded_ofScope fun _ => .error e
  write := isBounded_write
  writeValue _ s := isBounded_write _ _ s
  evaluate e := isBounded_ofScope fun scope => e.resolve scope
  decide c := isBounded_ofScope fun scope => c.holds scope
  valueOf name := isBounded_ofScope fun scope => .ok (Value.ofOption (scope.lookup name))
  bindings names := isBounded_ofScope fun scope => Node.resolveBindings scope [] names
  bind hm hf := hm.bind hf
  within frame _ hm := hm.within frame

end Render

namespace Engine

/-- In the templates that the engine finds, the nodes of the host program keep to limited room
if their bodies do: a write that is refused ends them. -/
def KeepsToRoom (engine : Engine) : Prop :=
  ∀ name template, engine.load name = .ok (some template) →
    ∀ node ∈ template.nodes, node.Every (Node.HandsOn @Render.IsBounded)

/-- The standard tags make no nodes of the host program. -/
theorem keepsToRoom_of_standard {engine : Engine}
    (h : engine.catalog.HasOnlyStandardTags) : engine.KeepsToRoom := by
  intro name template hload node hmem
  obtain ⟨source, hcompile⟩ := firstTemplate_compile hload
  have hstandard := Catalog.isStandard_of_compile h hcompile node hmem
  exact hstandard.mono fun _ => Node.IsStandard.handsOn

end Engine

namespace Context

variable {ctx : Context}

theorem isBounded_fetch (hengine : ∀ engine ∈ ctx.engine, engine.KeepsToRoom) (depth : Nat)
    (name : String) : Render.IsBounded (ctx.fetch depth name) := by
  unfold fetch
  cases hsome : ctx.engine with
  | none => exact Render.isBounded_closed.fail _
  | some engine =>
    exact Render.isBounded_closed.renderNamed_of_handsOn (hengine engine hsome) depth name

/-- With room for the whole text of a rendering, its outcome and its text are those of a
rendering without a limit. With less room it fails because of the output, and what has been
written is a beginning of that text for which there was room. -/
theorem renderTo_room (hengine : ∀ engine ∈ ctx.engine, engine.KeepsToRoom)
    {catalog : Catalog} (hcatalog : catalog.HasOnlyStandardTags) {trim : Bool} {source : String}
    {nodes : List Node} (hcompile : catalog.compile trim source = .ok nodes) (depth n : Nat) :
    let free := ctx.renderTo depth nodes {}
    let bounded := ctx.renderTo depth nodes { room := some n }
    (free.2.1.text.utf8ByteSize ≤ n →
        bounded.1 = free.1 ∧ bounded.2.1.text = free.2.1.text) ∧
      (n < free.2.1.text.utf8ByteSize →
        bounded.1 = .error .output ∧ bounded.2.1.text.utf8ByteSize ≤ n ∧
          ∃ rest, free.2.1.text = bounded.2.1.text ++ rest) := by
  intro free bounded
  have hnodes : Render.IsBounded (Node.renderAll (ctx.fetch depth) nodes) :=
    Render.isBounded_closed.renderAll_compile hcatalog hcompile (isBounded_fetch hengine depth)
  obtain ⟨added, hadded⟩ := hnodes ⟨ctx.scope, {}⟩ n rfl
  have hpieces : free.2.1.pieces = added := by
    have houtput : free.2.1 = { pieces := added ++ [] } := hadded.output
    rw [houtput, List.append_nil]
  have hsize : free.2.1.text.utf8ByteSize = Piece.bytes added := by
    rw [Output.utf8ByteSize_text, hpieces]
  rw [hsize]
  constructor
  · intro hfits
    have hsame := hadded.same hfits
    have houtcome : bounded.1 = free.1 := congrArg (fun run => run.1) hsame
    have houtput : bounded.2.1 = { free.2.1 with room := some (n - Piece.bytes added) } :=
      congrArg (fun run => run.2.output) hsame
    refine ⟨houtcome, ?_⟩
    rw [houtput]
    rfl
  · intro hfull
    obtain ⟨hfailed, left, kept, hsplit, hkept, hbounded⟩ := hadded.full hfull
    have hkeptPieces : bounded.2.1.pieces = kept := by
      rw [← List.append_nil kept]
      exact hbounded
    refine ⟨hfailed, ?_, ?_⟩
    · rw [Output.utf8ByteSize_text, hkeptPieces]
      exact hkept
    · refine ⟨_, Output.text_of_append left ?_⟩
      rw [hpieces, hkeptPieces, hsplit]

/-- There is no room for what an included template writes second. -/
theorem renderTo_room_included :
    let engine := Engine.withDefaults.addLoader (Loader.memory [("b", "({{ x }})")])
    let ctx : Context :=
      { scope := { root := [("x", .str "é"), ("name", .str "b")] }, engine := some engine }
    let source := "{{ x }}{% include name %}"
    ∃ nodes, Engine.withDefaults.catalog.compile false source = .ok nodes ∧
      (ctx.renderTo 2 nodes {}).2.1.text = "é(é)" ∧
      (ctx.renderTo 2 nodes { room := some 4 }).1 = .error .output ∧
      (ctx.renderTo 2 nodes { room := some 4 }).2.1.text.utf8ByteSize ≤ 4 ∧
      ∃ rest, "é(é)" = (ctx.renderTo 2 nodes { room := some 4 }).2.1.text ++ rest := by
  intro engine ctx source
  have hcatalog := Engine.withDefaults_hasStandardTags.only
  have hengine : ∀ engine ∈ ctx.engine, engine.KeepsToRoom := by
    intro engine hsome
    obtain rfl := Option.mem_some_iff.1 hsome
    exact Engine.keepsToRoom_of_standard hcatalog
  let x : Expression := { source := "x", head := .path ["x"], calls := [] }
  let name : Expression := { source := "name", head := .path ["name"], calls := [] }
  have hcompile : Engine.withDefaults.catalog.compile false source =
      .ok [.expression x, .inclusion name] := by
    have htokens : Token.scan false source =
        [⟨.tag .expression, "x", 1⟩, ⟨.tag .block, "include name", 1⟩] := by
      decide +kernel
    rw [Catalog.compile, htokens]
    rfl
  have htext : (ctx.renderTo 2 [.expression x, .inclusion name] {}).2.1.text = "é(é)" := by
    decide +kernel
  have hroom := (renderTo_room hengine hcatalog hcompile 2 4).2
  simp only [htext] at hroom
  exact ⟨_, hcompile, htext, hroom (by decide)⟩

end Context

end TextTemplate
