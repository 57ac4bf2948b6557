import SqlScript.Statement
import SqlScript.Text.Blank

/-!
# Pieces of a script

Reading a script cuts it into pieces, each a body and the mark that was cut away behind it: the
semicolon after a simple statement, a line that holds only a slash, or nothing where an `END;` or
the end of the script ends the piece. Bodies and marks put together are the script again, so
nothing is lost by cutting; a statement is what is left of a body when it is cleaned, if anything
is.
-/

namespace SqlScript

open SqlScript.Text

/-- A stretch of a script up to a place where it is cut. -/
structure Piece where
  /-- Whether a block was open at the cut. -/
  kind : Kind
  /-- The characters before the cut. -/
  body : Text
  /-- The characters cut away. -/
  mark : Text
  deriving DecidableEq, Repr

namespace Piece

/-- The characters of the script that the piece covers. -/
def span (p : Piece) : Text := p.body ++ p.mark

/-- The trimmed text without the given character at its end, trimmed again there. -/
def dropMark (mark : Char) (t : Text) : Text :=
  if t.getLast? = some mark then trimEnd t.dropLast else t

/-- What is executed: the body trimmed, without one slash at its end, and without one semicolon
behind that unless the piece is a block, which needs the one of its `END;`. -/
def text (p : Piece) : Text :=
  let bare := dropMark '/' (trim p.body)
  match p.kind with
  | .simple => dropMark ';' bare
  | .block => bare

/-- The statement that a piece holds when it begins at `start`, unless nothing is left of it. -/
def statement? (start : Nat) (p : Piece) : Option Statement :=
  if p.text.isEmpty then none
  else some ⟨p.text, p.kind, start + (p.body.takeWhile isBlank).length⟩

/-- The statements of pieces that follow one another from `start` on. -/
def statements (start : Nat) : List Piece → List Statement
  | [] => []
  | p :: rest => (p.statement? start).toList ++ statements (start + p.span.length) rest

end Piece

end SqlScript
