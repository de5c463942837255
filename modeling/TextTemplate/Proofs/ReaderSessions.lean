import TextTemplate.Proofs.ExhaustedTokens

/-!
A reader that is asked for several things in turn, also after a failure. What is asked for
either puts a token back or advances the reader, and a standard tag that is being read only
advances it. So between two requests no tag is open and the reader knows the line of the token
read last; by induction on the requests this holds after all of them, whatever has failed on
the way.
-/
namespace TextTemplate

open Item Tags Reader

inductive Request where
  | all
  | upTo (stops : List String)
  | past (name : String)
  | next
  | prepend (t : Token)
  | expression (source : String)

def Request.run (catalog : Catalog) (r : Reader) : Request → Reader
  | .all => (catalog.readAll r).2
  | .upTo stops => (catalog.readUntil stops r).2
  | .past name => (Reading.skipPast name r).2
  | .next => (Reading.next r).2
  | .prepend t => (Reading.prepend t r).2
  | .expression source => (catalog.readText source r).2

structure Session where
  reader : Reader
  read : List Token

namespace Session

def start (ts : List Token) : Session := { reader := { tokens := ts }, read := [] }

/-- The tokens that a request has read are those by which it made the list shorter. -/
def serve (catalog : Catalog) (s : Session) (request : Request) : Session :=
  let after := request.run catalog s.reader
  { reader := after
    read := s.read ++ s.reader.tokens.take (s.reader.tokens.length - after.tokens.length) }

def serveAll (catalog : Catalog) (s : Session) (requests : List Request) : Session :=
  requests.foldl (serve catalog) s

end Session

namespace Catalog

variable {catalog : Catalog} {r r' : Reader}

theorem readAll_advances (hcatalog : catalog.IsMadeOfStandardTags) :
    Reading.Advances catalog.readAll := by
  intro r
  have hitems := readItems_advances hcatalog r.budget []
  exact hitems.bind (fun _ => Reading.advances_of_unchanged fun _ => rfl) r

theorem readUntil_advances (hcatalog : catalog.IsMadeOfStandardTags) (stops : List String) :
    Reading.Advances (catalog.readUntil stops) := by
  intro r
  have hitems : Reading.Advances ((catalog.reader r.budget).items stops) :=
    readItems_advances hcatalog r.budget stops
  exact TagReader.body_advances hitems r

/-- What has been read up to a block that must come is items, and that block. -/
theorem readUntil_sound (hcatalog : catalog.HasOnlyStandardTags) {stops : List String}
    {nodes : List Node} {stop : Token}
    (h : catalog.readUntil stops r = (.ok (nodes, stop), r')) :
    ∃ items name, AllWellFormed catalog.filter? items ∧ Item.nodes items = nodes ∧
      r.tokens = allTokens items ++ stop :: r'.tokens ∧ name ∈ stops ∧
      stop.tagName? = some name := by
  have hreads : ReadsDerivations (catalog.reader r.budget).filters
      (catalog.reader r.budget).items := readItems_sound hcatalog r.budget
  exact body_sound hreads h

/-- Every request but the one that puts a token back only goes forwards. -/
theorem run_advances (hcatalog : catalog.IsMadeOfStandardTags) {request : Request}
    (h : ∀ t, request ≠ .prepend t) (r : Reader) : r.Advances (request.run catalog r) := by
  cases request with
  | all => exact readAll_advances hcatalog r
  | upTo stops => exact readUntil_advances hcatalog stops r
  | past name => exact Reading.skipPast_advances name r
  | next => exact Reading.next_advances r
  | prepend t => exact absurd rfl (h t)
  | expression source => exact Reading.advances_of_unchanged (Reading.atTag_unchanged _) r

end Catalog

theorem Reader.AdvancesBy.take {r r' : Reader} {ts : List Token} (h : r.AdvancesBy ts r') :
    r.tokens.take (r.tokens.length - r'.tokens.length) = ts := by
  have hlength : r.tokens.length - r'.tokens.length = ts.length := by
    rw [h.tokens, List.length_append]
    omega
  rw [hlength, h.tokens, List.take_left]

namespace Session

variable {catalog : Catalog} {s : Session}

/-- No tag is open, and the reader knows the line of the token read last. -/
structure Tracks (s : Session) : Prop where
  closed : s.reader.openTags = []
  line : s.reader.lastLine = lineAfter 1 s.read

theorem tracks_start (ts : List Token) : (start ts).Tracks := ⟨rfl, rfl⟩

/-- One request keeps the line of the token read last, however it ends. -/
theorem Tracks.serve (h : s.Tracks) (hcatalog : catalog.IsMadeOfStandardTags)
    (request : Request) : (s.serve catalog request).Tracks := by
  by_cases hprepend : ∃ t, request = .prepend t
  · obtain ⟨t, rfl⟩ := hprepend
    have hnone : (s.serve catalog (.prepend t)).read = s.read := by
      have hlength : s.reader.tokens.length - (t :: s.reader.tokens).length = 0 := by
        rw [List.length_cons]
        omega
      change s.read ++ s.reader.tokens.take
        (s.reader.tokens.length - (t :: s.reader.tokens).length) = s.read
      rw [hlength, List.take_zero, List.append_nil]
    exact ⟨h.closed, h.line.trans (congrArg (lineAfter 1) hnone.symm)⟩
  · have hother : ∀ t, request ≠ .prepend t := fun t heq => hprepend ⟨t, heq⟩
    obtain ⟨ts, hadvances⟩ := Catalog.run_advances hcatalog hother s.reader
    refine ⟨hadvances.openTags.trans h.closed, ?_⟩
    change (request.run catalog s.reader).lastLine = lineAfter 1 (s.read ++ _)
    rw [hadvances.take, lineAfter_append, ← h.line]
    exact hadvances.line

/-- Any requests in turn keep the line of the token read last. -/
theorem Tracks.serveAll (h : s.Tracks) (hcatalog : catalog.IsMadeOfStandardTags)
    (requests : List Request) : (s.serveAll catalog requests).Tracks := by
  induction requests generalizing s with
  | nil => exact h
  | cons request requests ih => exact ih (h.serve hcatalog request)

structure Settled (catalog : Catalog) (s : Session) : Prop where
  closed : s.reader.openTags = []
  /-- Faults are reported on the line of the token read last, or on the first line. -/
  line : s.reader.currentLine = lineAfter 1 s.read
  /-- A body that nothing ends has the template end on the line of its last token. -/
  readUntil_ends : ∀ stops line expected,
    (catalog.readUntil stops s.reader).1 = .error (.tagSyntax line (.unexpectedEnd expected)) ↔
      RunsOut catalog.filter? stops s.reader.tokens ∧ expected = stops ∧
        line = lineAfter 1 (s.read ++ s.reader.tokens)
  skipPast_ends : ∀ name line expected,
    (Reading.skipPast name s.reader).1 = .error (.tagSyntax line (.unexpectedEnd expected)) ↔
      (∀ t ∈ s.reader.tokens, t.tagName? ≠ some name) ∧ expected = [name] ∧
        line = lineAfter 1 (s.read ++ s.reader.tokens)
  suffix : ∀ request : Request, (∀ t, request ≠ .prepend t) →
    (request.run catalog s.reader).tokens <:+ s.reader.tokens
  /-- The tokens that are left are those after the block that ended the body. -/
  readUntil_leaves : ∀ stops nodes stop r',
    catalog.readUntil stops s.reader = (.ok (nodes, stop), r') →
      ∃ items name, AllWellFormed catalog.filter? items ∧ Item.nodes items = nodes ∧
        s.reader.tokens = allTokens items ++ stop :: r'.tokens ∧ name ∈ stops ∧
        stop.tagName? = some name

theorem Tracks.settled (h : s.Tracks) (hcatalog : catalog.HasStandardTags) :
    s.Settled catalog where
  closed := h.closed
  line := by rw [Reader.currentLine, h.closed, h.line]
  readUntil_ends stops line expected := by
    rw [lineAfter_append, ← h.line]
    exact Catalog.readUntil_unexpectedEnd_iff hcatalog h.closed line expected
  skipPast_ends name line expected := by
    rw [lineAfter_append, ← h.line]
    exact Reading.skipPast_unexpectedEnd_iff h.closed line expected
  suffix request hrequest :=
    (Catalog.run_advances hcatalog.only.isMadeOfStandardTags hrequest s.reader).isSuffix
  readUntil_leaves _ _ _ _ hread := Catalog.readUntil_sound hcatalog.only hread

end Session

/-- Whatever a tag has asked for so far, it is still the innermost open tag. -/
theorem Catalog.openTags_of_visits {catalog : Catalog} (hcatalog : catalog.IsMadeOfStandardTags)
    {budget : Nat} {r r' : Reader} (h : (catalog.reader budget).Visits r r') :
    r'.openTags = r.openTags := by
  obtain ⟨ts, hadvances⟩ := h.advances (readItems_advances hcatalog budget)
  exact hadvances.openTags

/-- A reader with the standard tags is settled after any requests, granted or failed. While one
of the tags is read, it reports its faults on its own line after all that it asks for. -/
theorem Session.settled_serveAll {catalog : Catalog} (hcatalog : catalog.HasStandardTags)
    (ts : List Token) (requests : List Request) :
    ((start ts).serveAll catalog requests).Settled catalog ∧
      (∀ expected, (SyntaxFault.unexpectedEnd expected).message =
        "unexpected end of template; " ++ SyntaxFault.expectedText expected) ∧
      ∀ name tag, catalog.tag? name = some tag → ∀ budget args line (r : Reader),
        let inner : Reader := { r with openTags := (name, line) :: r.openTags }
        (catalog.reader budget).Visits inner (tag.read (catalog.reader budget) args inner).2 ∧
          ∀ r', (catalog.reader budget).Visits inner r' →
            r'.openTags = (name, line) :: r.openTags ∧ r'.currentLine = line := by
  have hstandard := hcatalog.only.isMadeOfStandardTags
  refine ⟨((tracks_start ts).serveAll hstandard requests).settled hcatalog, fun _ => rfl, ?_⟩
  intro name tag htag budget args line r inner
  refine ⟨Tag.visits_of_standard (hcatalog.only name tag htag) _ args inner, ?_⟩
  intro r' hvisits
  have hopen : r'.openTags = (name, line) :: r.openTags :=
    Catalog.openTags_of_visits hstandard hvisits
  exact ⟨hopen, by rw [Reader.currentLine, hopen]⟩

/-- A body fails at the end of another one. The token read next is on the third line, and the
template then ends on the fourth. -/
theorem Session.settled_serveAll_mismatched :
    Engine.withDefaults.catalog.HasStandardTags ∧
      ∃ s : Session, s = (start (Token.scan false
          "{% if x %}\n{% for a in b %}\n{% endif %}\n{{ y }}")).serveAll
          Engine.withDefaults.catalog [.upTo ["endif"], .next] ∧
        s.reader.currentLine = 3 ∧
        (Engine.withDefaults.catalog.readUntil ["endif"] s.reader).1 =
          .error (.tagSyntax 4 (.unexpectedEnd ["endif"])) := by
  have hcatalog := Engine.withDefaults_hasStandardTags
  obtain ⟨s, hs⟩ : ∃ s : Session, s = (start (Token.scan false
      "{% if x %}\n{% for a in b %}\n{% endif %}\n{{ y }}")).serveAll
      Engine.withDefaults.catalog [.upTo ["endif"], .next] := ⟨_, rfl⟩
  have hsettled : s.Settled Engine.withDefaults.catalog :=
    hs ▸ (settled_serveAll hcatalog _ _).1
  let y : Token := ⟨.tag .expression, "y", 4⟩
  have htokens : s.reader.tokens = [y] := by
    rw [hs]
    decide +kernel
  have hread : lineAfter 1 s.read = 3 := by
    rw [hs]
    decide +kernel
  refine ⟨hcatalog, s, hs, ?_⟩
  refine ⟨hsettled.line.trans hread, (hsettled.readUntil_ends _ _ _).2 ?_⟩
  let e : Expression := { source := "y", head := .path ["y"], calls := [] }
  have hexpr : Expression.read Engine.withDefaults.catalog.filter? "y" = .ok e := by rfl
  have hrunsOut : RunsOut Engine.withDefaults.catalog.filter? ["endif"] [y] := by
    refine ⟨[.expression y e], ⟨⟨⟨rfl, hexpr⟩, trivial⟩, rfl⟩, ?_⟩
    intro item hitem hstops
    obtain rfl := List.mem_singleton.1 hitem
    obtain ⟨t, rest, name, htokens, hname, _⟩ := hstops
    obtain ⟨rfl, _⟩ := List.cons.inj htokens
    cases hname
  rw [htokens]
  exact ⟨hrunsOut, rfl, (lineAfter_append 1 _ [y]).symm⟩

end TextTemplate
