import SqlScript.Text.Letter
import SqlScript.Text.SameLetter

/-!
# Words of a script

The two questions that reading a script asks of the text ahead: whether one of the words that open a
block stands there, and whether the `END;` that closes one does. Letters are compared without their
case. An opener stands as a whole word, so no character of a name may follow it; that none goes
before it is for the reader to see, who knows what was read last.

Openers that agree in all but their last character are looked for as one word that ends in a set of
characters. The letters of the script are put in lower case when they are looked up there, and so
are the members of the set, but only those of the basic plane. A capital from beyond it is thus met
by nothing, and its word opens no block.
-/

namespace SqlScript.Word

open SqlScript.Text

/-- Whether a text begins with a character of a name. -/
def startsName (text : Text) : Bool := text.head?.any isNameChar

/-- Whether `text` begins with `word` and the word ends there. -/
def standsAt (word text : Text) : Bool :=
  startsWithLetters word text && !startsName (text.drop word.length)

/-- Whether words, of which two at least are different, agree in all but their last character. -/
def endInSet : List Text → Bool
  | [] => false
  | word :: words =>
    !word.isEmpty && words.all (fun other => !other.isEmpty && other.dropLast == word.dropLast) &&
      words.any (· != word)

/-- The words that can be met in a text: all of them, unless they end in a set. -/
def inUse (words : List Text) : List Text :=
  if endInSet words then words.filter fun word => !word.getLast?.any isHighCapital else words

/-- The length of the first of the words that stands at the beginning of the text. -/
def opener? (words : List Text) (text : Text) : Option Nat :=
  ((inUse words).find? (standsAt · text)).map List.length

/-- Whether the text begins with `END`, any spaces and tabs, and a semicolon. -/
def closesBlock (text : Text) : Bool :=
  startsWithLetters ['E', 'N', 'D'] text &&
    ((text.drop 3).dropWhile fun c => c = ' ' || c = '\t').head? == some ';'

end SqlScript.Word
