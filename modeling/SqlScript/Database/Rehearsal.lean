import SqlScript.Database.Cell

/-!
# Rehearsals

A rehearsal is a database that plays back prepared answers, with plain values in their rows. For
each statement text it holds a queue of them: executing the text takes the first one, and the last
one is given again and again. A text without a queue is executed without rows. Cursors are numbered
from 1 in the order in which they are asked for, and a plan may let the opening or the closing of
certain ones fail, as well as connecting, committing and closing the connection. What was done can
be read off the state afterwards.
-/

namespace SqlScript

/-- A prepared answer. -/
structure Answer where
  /-- The fault that executing raises. -/
  error : Option Fault := none
  /-- The names of the columns. -/
  columns : List Text := []
  /-- The rows. -/
  rows : List (Row Cell) := []
  /-- The fault that fetching raises. -/
  fetchError : Option Fault := none

/-- The faults that are planned beside those of the answers. -/
structure Plan where
  /-- Cursors that cannot be opened, by number. -/
  cursorErrors : List (Nat × Fault) := []
  /-- Cursors that cannot be closed, by number. -/
  cursorCloseErrors : List (Nat × Fault) := []
  /-- The fault of committing. -/
  commitError : Option Fault := none
  /-- The fault of closing the connection. -/
  closeError : Option Fault := none
  /-- The fault of connecting. -/
  connectError : Option Fault := none

/-- The state of a rehearsal. -/
structure Rehearsal where
  /-- The answers that are left, each with its text, in order. -/
  answers : List (Text × Answer) := []
  /-- What was executed last. -/
  current : Answer := {}
  /-- The texts that were executed, newest first. -/
  executed : List Text := []
  /-- How many cursors were asked for. -/
  opened : Nat := 0
  /-- How many cursors were closed. -/
  closed : Nat := 0
  /-- How the connection was asked for. -/
  connectedAs : Option Credentials := none
  /-- Whether the work was committed. -/
  committed : Bool := false
  /-- Whether the connection was closed. -/
  disconnected : Bool := false

namespace Rehearsal

/-- The next answer to a text, and the answers that are left then: it is taken out of them unless it
is the last one for that text. -/
def take (sql : Text) : List (Text × Answer) → Answer × List (Text × Answer)
  | [] => ({}, [])
  | entry :: rest =>
    if entry.1 = sql then
      (entry.2, if rest.any (·.1 = sql) then rest else entry :: rest)
    else
      let (answer, left) := take sql rest
      (answer, entry :: left)

/-- The answer of a call that may be planned to fail, and otherwise leaves the second state. -/
def planned {α : Type} (fault : Option Fault) (value : α) (failed done : Rehearsal) :
    Except Fault α × Rehearsal :=
  match fault with
  | some f => (.error f, failed)
  | none => (.ok value, done)

/-- The database that rehearses a plan. Its cursors are their numbers. -/
def server (plan : Plan) : Server Rehearsal Nat Cell where
  openCursor r :=
    let next := { r with opened := r.opened + 1 }
    planned (plan.cursorErrors.lookup next.opened) next.opened next next
  execute _ sql r :=
    let (answer, left) := take sql r.answers
    let next := { r with answers := left, current := answer, executed := sql :: r.executed }
    planned answer.error answer.columns next next
  fetch _ r := planned r.current.fetchError r.current.rows r r
  closeCursor number r :=
    planned (plan.cursorCloseErrors.lookup number) () r { r with closed := r.closed + 1 }
  commit r := planned plan.commitError () r { r with committed := true }
  close r := planned plan.closeError () r { r with disconnected := true }
  write value r := (value.written, r)
  connect credentials r :=
    let next := { r with connectedAs := some credentials }
    planned plan.connectError () next next

end Rehearsal

end SqlScript
