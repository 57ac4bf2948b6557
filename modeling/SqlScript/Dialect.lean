import SqlScript.Text.Basic

/-!
# Dialects

What a script is read under: which lines are directives to the client rather than statements, where
such lines are recognised, and which words open a block. Everything else about a script is fixed.
-/

namespace SqlScript

/-- The words and the line rule that a script is read under. -/
structure Dialect where
  /-- The beginnings of a directive line. -/
  directives : List Text :=
    [['S', 'E', 'T'], ['P', 'R', 'O', 'M', 'P', 'T'], ['C', 'O', 'L', 'U', 'M', 'N'],
     ['C', 'O', 'M', 'P', 'U', 'T', 'E'], ['R', 'E', 'M']]
  /-- The words that open a block. -/
  openers : List Text :=
    [['D', 'E', 'C', 'L', 'A', 'R', 'E'], ['B', 'E', 'G', 'I', 'N']]
  /-- Whether a directive is recognised only where a statement may begin. -/
  boundaryOnly : Bool := false
  deriving DecidableEq, Repr

end SqlScript
