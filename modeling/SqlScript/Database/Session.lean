import SqlScript.Text.Blank

/-!
# Sessions

A session is what a database offers a program that is connected to it: cursors are opened, execute
a statement, give the rows of their answer and are closed, and the work as a whole is committed
and the connection closed. What the values in the rows are is the database's affair. They know how
to write themselves, and may have to ask the database for what they write, so writing one is a call
too, even where the connection is closed already. Every one of these calls may raise a fault, and
the database goes on from whatever state the call leaves it in. Nothing else is assumed, so what is
shown of all sessions holds of any database, however it behaves.
-/

namespace SqlScript

open SqlScript.Text

/-! ### Faults -/

/-- The kinds of fault. -/
inductive FaultKind where
  /-- A fault of the database that has no closer name. -/
  | error
  /-- A fault inside the database. -/
  | databaseError
  /-- A fault of the program's side of the connection. -/
  | interfaceError
  /-- A fault of the database's surroundings. -/
  | operationalError
  /-- Something the database does not offer. -/
  | notSupportedError
  /-- A fault that is none of the database's. -/
  | runtimeError
  /-- A value that cannot be used. -/
  | valueError
  /-- A fault of the machine that the program runs on. -/
  | systemError
  /-- A fault of any other kind, which has a name, a single word, and may be one of the database's.
  -/
  | other (name : Text) (named : name ≠ [] ∧ ∀ c ∈ name, isBlank c = false) (isDatabase : Bool)
  deriving DecidableEq, Repr

namespace FaultKind

/-- The name of a kind. -/
def name : FaultKind → Text
  | error => "Error"
  | databaseError => "DatabaseError"
  | interfaceError => "InterfaceError"
  | operationalError => "OperationalError"
  | notSupportedError => "NotSupportedError"
  | runtimeError => "RuntimeError"
  | valueError => "ValueError"
  | systemError => "OSError"
  | other name _ _ => name

/-- Whether faults of this kind are the database's. -/
def ofDatabase : FaultKind → Bool
  | runtimeError => false
  | valueError => false
  | systemError => false
  | other _ _ isDatabase => isDatabase
  | _ => true

end FaultKind

/-- Something that went wrong in a call. -/
structure Fault where
  /-- What kind of thing. -/
  kind : FaultKind
  /-- The words it came with, which may be none. -/
  message : Text
  deriving DecidableEq, Repr

/-- What a fault is recorded as: its words, trimmed, or the name of its kind when nothing is left.
-/
def Fault.reason (f : Fault) : Text :=
  if (trim f.message).isEmpty then f.kind.name else trim f.message

/-! ### Calls -/

/-- A row of an answer, with values of type `ν`. A column may be without one. -/
abbrev Row (ν : Type) := List (Option ν)

/-- What is asked of a database in a state of type `σ`. It gives an answer, or a fault, and the
state it leaves. Behind an answer more can be asked, and behind a fault nothing is. -/
abbrev Asking (σ : Type) := ExceptT Fault (StateM σ)

/-- The calls that a database in a state of type `σ` offers, with cursors of type `κ` and values of
type `ν`. Each gives its answer, or a fault, and the state it leaves. -/
structure Session (σ κ ν : Type) where
  /-- Open a cursor. -/
  openCursor : σ → Except Fault κ × σ
  /-- Execute a statement. The answer is the names of the columns, of which there are none unless
  there are rows to be fetched. -/
  execute : κ → Text → σ → Except Fault (List Text) × σ
  /-- Fetch all rows. -/
  fetch : κ → σ → Except Fault (List (Row ν)) × σ
  /-- Close a cursor. -/
  closeCursor : κ → σ → Except Fault Unit × σ
  /-- Commit what was done. -/
  commit : σ → Except Fault Unit × σ
  /-- Close the connection. -/
  close : σ → Except Fault Unit × σ
  /-- Write a value. -/
  write : ν → σ → Except Fault Text × σ

/-- Who connects, and to what. -/
structure Credentials where
  /-- The user. -/
  user : Option Text
  /-- The password. -/
  password : Option Text
  /-- The place of the database. -/
  dsn : Text
  deriving DecidableEq, Repr

/-- A database that can be connected to. -/
structure Server (σ κ ν : Type) extends Session σ κ ν where
  /-- Connect. -/
  connect : Credentials → σ → Except Fault Unit × σ

end SqlScript
