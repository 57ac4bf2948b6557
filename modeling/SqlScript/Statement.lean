import SqlScript.Text.Basic

/-!
# Statements

A statement is one unit that can be executed: its text, whether it is a simple statement or a block,
and where its text begins in the script it was cut from.
-/

namespace SqlScript

/-- The two kinds of statement. -/
inductive Kind where
  /-- A statement that ends at a semicolon outside quotes, which is no part of it. -/
  | simple
  /-- A statement that holds a block, which keeps the semicolon of its `END;`. -/
  | block
  deriving DecidableEq, Repr

namespace Kind

/-- The name of a kind. -/
def name : Kind → Text
  | simple => "Simple"
  | block => "Block"

end Kind

/-- A unit that can be executed, and where it begins. -/
structure Statement where
  /-- What is sent to the database. -/
  text : Text
  /-- Simple or block. -/
  kind : Kind := .simple
  /-- The number of characters before it in the script without directive lines. -/
  offset : Int := 0
  deriving DecidableEq, Repr

namespace Statement

/-- Whether the statement is a block. -/
def isBlock (s : Statement) : Bool := s.kind == .block

end Statement

end SqlScript
