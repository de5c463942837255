import TextTemplate.Engine.Basic

/-!
Contexts. A context is a scope together with the engine that inclusions ask for templates,
if there is one. An included template is rendered in a frame of its own. Inclusions may
nest, also in themselves, down to a given depth, which serves only to give a template that
includes itself for ever an outcome.
-/
namespace TextTemplate

structure Context where
  scope : Scope := .empty
  engine : Option Engine := none

namespace Engine

/-- Renders the template of a name in a new frame. The first argument is the number of
further inclusions that may be under way at the same time. -/
def renderNamed (engine : Engine) : Nat → String → Render Unit
  | 0, name => Attempt.fail (.includeDepth name)
  | depth + 1, name =>
    match engine.load name with
    | .error e => Attempt.fail e
    | .ok none => Attempt.fail (.templateNotFound name)
    | .ok (some template) =>
      Render.within [] (Node.renderAll (engine.renderNamed depth) template.nodes)

/-- The depth to which inclusions may nest, far more than a rendering that ends can need. -/
def includeDepth : Nat := 0xffffffff

/-- An empty scope with the flags that the configuration asks for. -/
def scope (engine : Engine) : Scope :=
  { Scope.empty with
    autoescape := engine.config.autoescape
    strict := engine.config.strictVariables }

/-- A context without an engine, so that templates in it cannot include others. -/
def context (engine : Engine) : Context := { scope := engine.scope }

/-- A context with the engine attached. -/
def sharedContext (engine : Engine) : Context :=
  { scope := engine.scope, engine := some engine }

end Engine

namespace Context

/-- What an inclusion renders in a context: nothing can be included without an engine. -/
def fetch (ctx : Context) (depth : Nat) (name : String) : Render Unit :=
  match ctx.engine with
  | none => Attempt.fail (.templateNotFound name)
  | some engine => engine.renderNamed depth name

/-- Renders nodes and adds them to an output. The results are the outcome, the output, and
the context afterwards. -/
def renderTo (ctx : Context) (depth : Nat) (nodes : List Node) (output : Output) :
    Except Error Unit × Output × Context :=
  let (outcome, after) := Node.renderAll (ctx.fetch depth) nodes ⟨ctx.scope, output⟩
  (outcome, after.output, { ctx with scope := after.scope })

/-- The text that nodes render to, and the context afterwards. -/
def render (ctx : Context) (nodes : List Node) : Except Error String × Context :=
  let (outcome, output, after) := ctx.renderTo Engine.includeDepth nodes {}
  (outcome.map fun _ => output.text, after)

/-- Reads a text with the default libraries and renders it. -/
def renderText (ctx : Context) (source : String) : Except Error String × Context :=
  match Engine.withDefaults.compile "<string>" source with
  | .error e => (.error e, ctx)
  | .ok template => ctx.render template.nodes

def outline (ctx : Context) : String :=
  Outline.record "Context"
    [("scopes", ctx.scope.framesOutline),
      ("autoescape", Outline.bool ctx.scope.autoescape),
      ("strict", Outline.bool ctx.scope.strict),
      ("engine", Outline.optional (ctx.engine.map Engine.outline))]

end Context

end TextTemplate
