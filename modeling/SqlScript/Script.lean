import SqlScript.Log
import SqlScript.Reader

/-!
# Splitting a script

A script is split in three steps: its directive lines are removed, the rest is cut into pieces, and
the pieces are cleaned and placed. The offset of a statement counts the characters before it in the
script without directive lines, of which its text is a slice.
-/

namespace SqlScript.Script

/-- The pieces of a text that holds no directive lines any more. -/
def pieces (openers : List Text) (text : Text) : List Piece :=
  (Reader.readLines openers (Text.lines text) {} text).pieces

/-- The pieces together are the text: cutting loses nothing. -/
theorem span_pieces (openers : List Text) (text : Text) :
    (pieces openers text).flatMap Piece.span = text := by
  have h := Reader.covered_readLines openers (Text.lines text) {}
  rw [Text.flatten_lines] at h
  simpa [pieces, Reader.covered] using h

/-- The script without its directive lines. -/
def source (dialect : Dialect) (script : Text) : Text :=
  Directive.strip dialect.directives dialect.boundaryOnly script

/-- The statements of a script, in order. -/
def split (dialect : Dialect) (script : Text) : List Statement :=
  Piece.statements 0 (pieces dialect.openers (source dialect script))

/-- What is said about a script that has been split. -/
def splitRecord (statements : List Statement) : Log.Record where
  severity := .debug
  source := "plscript.splitter"
  message :=
    "split script into " ++ Text.ofNat statements.length ++ " statements (" ++
      Text.ofNat (statements.countP Statement.isBlock) ++ " blocks)"

end SqlScript.Script
