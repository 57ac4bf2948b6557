import SqlScript.Dialect
import SqlScript.Text.Blank
import SqlScript.Text.Lines
import SqlScript.Text.Case

/-!
# Directive lines

A directive is a line addressed to the client, such as `SET ECHO ON`, and no part of any statement.
It is known by how it begins, in upper case and after trimming; `REMARK` is a directive because it
begins with `REM`. Directive lines are removed before a script is read, and every other line is kept
with its line break. In boundary-only mode a line is removed only where a statement may begin: at
the start, or after a kept line that ends with `;` or is `/`. Blank lines do not change that, and
neither do removed ones. This keeps the `SET` clause of an `UPDATE` that has a line of its own.
-/

namespace SqlScript.Directive

open SqlScript.Text

/-- Whether a line is a directive: in upper case and trimmed, it is not empty and begins with the
upper-case form of one of the given words. -/
def isDirective (directives : List Text) (line : Text) : Bool :=
  let shown := upper (trim line)
  !shown.isEmpty && directives.any fun word => (upper word).isPrefixOf shown

/-- Whether a line, trimmed, is a lone slash. -/
def isLoneSlash (line : Text) : Bool := trim line == ['/']

/-- Whether a statement may begin after this line, if one might begin before it. -/
def boundaryAfter (atBoundary : Bool) (line : Text) : Bool :=
  if (trim line).isEmpty then atBoundary
  else (trim line).getLast? == some ';' || isLoneSlash line

/-- Whether a line is removed where `atBoundary` says whether a statement may begin. -/
def removes (directives : List Text) (boundaryOnly atBoundary : Bool) (line : Text) : Bool :=
  (atBoundary || !boundaryOnly) && isDirective directives line

/-- The lines that are kept, when `atBoundary` says whether a statement may begin at the first. -/
def kept (directives : List Text) (boundaryOnly : Bool) :
    (atBoundary : Bool) → List Text → List Text
  | _, [] => []
  | atBoundary, line :: rest =>
    if removes directives boundaryOnly atBoundary line then
      kept directives boundaryOnly atBoundary rest
    else line :: kept directives boundaryOnly (boundaryAfter atBoundary line) rest

/-- The text without its directive lines. -/
def strip (directives : List Text) (boundaryOnly : Bool) (text : Text) : Text :=
  (kept directives boundaryOnly true (lines text)).flatten

end SqlScript.Directive
