/-!
HTML escaping. The five characters that HTML treats specially are written as entities
and every other character stands for itself, so escaping works character by character.
-/
namespace TextTemplate.Text

/-- The entity of a special character, or the character itself. -/
def escapeChar : Char → List Char
  | '&' => ['&', 'a', 'm', 'p', ';']
  | '<' => ['&', 'l', 't', ';']
  | '>' => ['&', 'g', 't', ';']
  | '"' => ['&', 'q', 'u', 'o', 't', ';']
  | '\x27' => ['&', '#', '3', '9', ';']
  | c => [c]

def escape (cs : List Char) : List Char := cs.flatMap escapeChar

/-- Escaping of a whole text. -/
def escapeHtml (s : String) : String := String.ofList (escape s.toList)

theorem escape_append (a b : List Char) : escape (a ++ b) = escape a ++ escape b := by
  simp [escape]

end TextTemplate.Text
