import SqlScript.Text.Basic

/-!
# Escape sequences

The sequences by which a terminal is told to change colours, move its cursor and the like. An escape
character and an opening bracket begin one; parameters follow, from `0` to `?` in ASCII, then
intermediates, from the space to `/`, and a final character, from `@` to `~`, ends it. The three
ranges share no character, so a sequence can be read in one way only, and where no final character
stands there is no sequence. What is written to a file or a pipe is written without them.
-/

namespace SqlScript.Text

/-- Whether a character can stand among the parameters of an escape sequence. -/
def isParameter (c : Char) : Bool := '0' ≤ c && c ≤ '?'

/-- Whether a character can stand between the parameters and the end of an escape sequence. -/
def isIntermediate (c : Char) : Bool := ' ' ≤ c && c ≤ '/'

/-- Whether a character ends an escape sequence. -/
def isFinal (c : Char) : Bool := '@' ≤ c && c ≤ '~'

/-- The length of the escape sequence that a text begins with, or 0. -/
def escapeLength : Text → Nat
  | '\x1b' :: '[' :: rest =>
    let behind := rest.dropWhile isParameter
    if (behind.dropWhile isIntermediate).head?.any isFinal then
      (rest.takeWhile isParameter).length + (behind.takeWhile isIntermediate).length + 3
    else 0
  | _ => 0

/-- The text without its escape sequences, when its first `owed` characters belong to one. -/
def withoutEscapesFrom : (owed : Nat) → Text → Text
  | _, [] => []
  | owed + 1, _ :: cs => withoutEscapesFrom owed cs
  | 0, c :: cs =>
    match escapeLength (c :: cs) with
    | 0 => c :: withoutEscapesFrom 0 cs
    | length + 1 => withoutEscapesFrom length cs

/-- The text without its escape sequences. -/
def withoutEscapes (t : Text) : Text := withoutEscapesFrom 0 t

end SqlScript.Text
