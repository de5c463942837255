import TextTemplate.Tags.Choice
import TextTemplate.Tags.Loop

/-!
The two standard libraries of tags: bindings, choices, loops and comments in the first, and
in the second the inclusion of other templates.
-/
namespace TextTemplate.Tags

/-- The tag `comment`, which discards all tokens up to its end. -/
def commentTag : Tag where
  read _ _ := do
    Reading.skipPast "endcomment"
    pure .comment

/-- The tag `include`, whose only argument is an expression for a template's name. -/
def includeTag : Tag where
  read reader args :=
    match Source.words args with
    | [word] => do
      let name ← reader.expression word
      pure (.inclusion name)
    | _ => Reading.failAtTag .includeUsage

def standard : Library where
  tags := [("with", withTag), ("if", ifTag), ("for", forTag), ("comment", commentTag)]

def loading : Library where
  tags := [("include", includeTag)]

end TextTemplate.Tags
