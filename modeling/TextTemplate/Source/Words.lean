import TextTemplate.Source.Quotation
import TextTemplate.Text.Class

/-!
The words of a tag. Words are divided by spaces, and a quotation belongs to its word
together with its marks and with all the spaces in it. A quotation that is never closed
extends to the end of the text.
-/
namespace TextTemplate.Source

open Text

/-- Puts a word before the others, unless it has no characters. -/
def addWord (word : List Char) (words : List (List Char)) : List (List Char) :=
  if word.isEmpty then words else word :: words

/-- The rest of the word that the text begins in, and the words after it. -/
def wordsFrom (state : Quotation) : List Char → List Char × List (List Char)
  | [] => ([], [])
  | c :: rest =>
    let (word, words) := wordsFrom (state.next c) rest
    if state = .outside ∧ isSpace c = true then ([], addWord word words)
    else (c :: word, words)

def splitWords (cs : List Char) : List (List Char) :=
  let (word, words) := wordsFrom .outside cs
  addWord word words

/-- The words of a text. -/
def words (s : String) : List String := (splitWords s.toList).map String.ofList

end TextTemplate.Source
