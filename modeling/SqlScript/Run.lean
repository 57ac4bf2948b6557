import SqlScript.Log
import SqlScript.Result
import SqlScript.Wording

/-!
# Running statements

The statements of a script are executed one after another, since later ones may depend on earlier
ones, each on a cursor of its own that is closed whatever happens. A fault is recorded in the result
of its statement, and the run goes on, unless the fault tells that the connection is lost, or faults
are to end the run. Only a fault in closing a cursor is not recorded but raised.
-/

namespace SqlScript

open SqlScript.Text

/-- How statements are run. -/
structure Policy where
  /-- How statements without rows are spoken of. -/
  wording : Wording := {}
  /-- Whether a statement that fails ends the run. -/
  stopOnError : Bool := false
  /-- The codes by which a fault tells that the connection is lost. -/
  markers : List Text :=
    ["ORA-03113", "ORA-03114", "ORA-03135", "ORA-12514", "ORA-12541", "ORA-12170", "ORA-01012",
      "DPI-1080", "DPY-4011"]

namespace Policy

/-- Whether a reason tells that the connection is lost: one of the codes stands in it, in whatever
letter case. -/
def isConnectionError (p : Policy) (reason : Text) : Bool :=
  p.markers.any fun marker => (upper marker).occursIn (upper reason)

/-- Whether the last of the results tells that the connection is lost. -/
def lost {ν : Type} (p : Policy) (results : List (Result ν)) : Bool :=
  results.getLast?.any fun r => p.isConnectionError (r.error.getD [])

/-- Whether a reason ends the run. -/
def stopsAt (p : Policy) (reason : Text) : Bool := p.isConnectionError reason || p.stopOnError

end Policy

/-! ### One statement -/

variable {σ κ ν : Type}

/-- Execute a statement on a cursor and fetch its rows. What has been stored before a fault stays.
-/
def Session.perform (db : Session σ κ ν) (wording : Wording) (statement : Statement) (cursor : κ)
    (state : σ) : Result ν × σ :=
  match db.execute cursor statement.text state with
  | (.error fault, state) => ({ statement, error := fault.reason }, state)
  | (.ok [], state) => ({ statement, message := wording.message statement.text }, state)
  | (.ok columns, state) =>
    match db.fetch cursor state with
    | (.error fault, state) => ({ statement, columns, error := fault.reason }, state)
    | (.ok [], state) => ({ statement, columns, message := wording.message statement.text }, state)
    | (.ok rows, state) => ({ statement, columns, rows }, state)

/-- Execute a statement on a cursor of its own. -/
def Session.attempt (db : Session σ κ ν) (wording : Wording) (statement : Statement) (state : σ) :
    Except Fault (Result ν) × σ :=
  match db.openCursor state with
  | (.error fault, state) => (.ok { statement, error := fault.reason }, state)
  | (.ok cursor, state) =>
    let (result, state) := db.perform wording statement cursor state
    match db.closeCursor cursor state with
    | (.error fault, state) => (.error fault, state)
    | (.ok (), state) => (.ok result, state)

/-! ### A whole run -/

/-- What is said before the statement with this number is executed. -/
def executingRecord (number : Nat) (statement : Statement) : Log.Record where
  severity := .info
  source := "plscript.runner"
  message := "executing statement " ++ ofNat number ++ " (" ++ statement.kind.name ++ [')']

/-- What is said about the statement with this number when it has failed. -/
def failedRecord (number : Nat) (reason : Text) : Log.Record where
  severity := .warning
  source := "plscript.runner"
  message := "statement " ++ ofNat number ++ " failed: " ++ reason

/-- What is said when the connection is lost. -/
def lostRecord : Log.Record where
  severity := .warning
  source := "plscript.runner"
  message := "connection lost, skipping remaining statements"

/-- What is said after the statement with this number has failed. -/
def Policy.failureRecords (p : Policy) (number : Nat) (reason : Text) : List Log.Record :=
  failedRecord number reason :: if p.isConnectionError reason then [lostRecord] else []

/-- How a run ended. -/
structure Run (σ ν : Type) where
  /-- The results of the statements that were attempted, or the fault that was raised. -/
  results : Except Fault (List (Result ν))
  /-- The state of the database. -/
  state : σ
  /-- What was said. -/
  log : List Log.Record

/-- A run that begins with one more result. -/
def Run.after (result : Result ν) (log : List Log.Record) (run : Run σ ν) : Run σ ν :=
  { run with results := run.results.map (result :: ·), log := log ++ run.log }

/-- Run statements, the first of which has the given number. -/
def Session.run (db : Session σ κ ν) (p : Policy) (number : Nat) :
    (statements : List Statement) → (state : σ) → Run σ ν
  | [], state => ⟨.ok [], state, []⟩
  | statement :: rest, state =>
    let begun := [executingRecord number statement]
    match db.attempt p.wording statement state with
    | (.error fault, state) => ⟨.error fault, state, begun⟩
    | (.ok result, state) =>
      match result.error with
      | none => (db.run p (number + 1) rest state).after result begun
      | some reason =>
        let log := begun ++ p.failureRecords number reason
        if p.stopsAt reason then ⟨.ok [result], state, log⟩
        else (db.run p (number + 1) rest state).after result log

end SqlScript
