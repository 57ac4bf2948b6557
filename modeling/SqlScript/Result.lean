import SqlScript.Database.Session
import SqlScript.Statement

/-!
# Results

What came of a statement: the columns and rows that it returned, or what is said about it if it
returned none, or why it failed. Results are shown as their outcomes. A single one is shown bare,
and several are each shown under the text of their statement, with a blank line between them. The
values of the rows are written for this one after another, and where one cannot be written nothing
is shown at all.
-/

namespace SqlScript

/-- What came of a statement. -/
structure Result (ν : Type) where
  /-- The statement. -/
  statement : Statement
  /-- The names of its columns. -/
  columns : List Text := []
  /-- Its rows. -/
  rows : List (Row ν) := []
  /-- What is said about it when there are no rows. -/
  message : Option Text := none
  /-- Why it failed. -/
  error : Option Text := none
  deriving DecidableEq, Repr

variable {σ κ ν : Type}

/-- How the place of a value is shown: by the value, and by nothing if there is none. -/
def Session.cell (db : Session σ κ ν) : Option ν → Asking σ Text
  | none => return []
  | some value => db.write value

namespace Result

/-- Whether the statement did not fail. -/
def ok (r : Result ν) : Bool := r.error.isNone

/-- A table: the names of the columns and then the rows, with tabs between the places of a line. -/
def table (db : Session σ κ ν) (columns : List Text) (rows : List (Row ν)) : Asking σ Text := do
  let lines ← rows.mapM fun row => row.mapM db.cell
  return ['\n'].intercalate ((columns :: lines).map fun line => ['\t'].intercalate line)

/-- How a result is shown: why it failed, or else its rows, or else what is said about it. -/
def outcome (db : Session σ κ ν) (r : Result ν) : Asking σ Text :=
  match r.error, r.rows with
  | some error, _ => return "ERROR: " ++ error
  | none, [] => return r.message.getD []
  | none, rows => table db r.columns rows

/-- How a result is shown among others: under the text of its statement. -/
def entry (db : Session σ κ ν) (r : Result ν) : Asking σ Text := do
  return r.statement.text ++ "\n--\n" ++ (← r.outcome db)

/-- How results are shown. -/
def shown (db : Session σ κ ν) : List (Result ν) → Asking σ Text
  | [r] => r.outcome db
  | results => do return ['\n', '\n'].intercalate (← results.mapM (entry db))

end Result

end SqlScript
