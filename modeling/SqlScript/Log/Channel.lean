import SqlScript.Log
import SqlScript.Settings

/-!
# Channels

A channel takes log records and hands them to its handlers, if they are severe enough. One of them
may be the console handler, which is known by its name and writes to the output that it was set up
with last; handlers that others have added write nothing of ours, and those with other names are
left alone. Setting a channel up again changes its level and redirects the console, and a name that
is no level changes nothing. A level of 0 stands for no choice, and lets through what is at least a
warning.
-/

namespace SqlScript.Log

open SqlScript.Text

/-- A handler of a channel whose outputs are of type `ω`. -/
inductive Handler (ω : Type) where
  /-- The console handler, with its output. -/
  | console (output : ω)
  /-- A handler that someone else has added, with its name if it has one. -/
  | foreign (name : Option Text)
  deriving DecidableEq, Repr

/-- The name that the console handler is known by. -/
def consoleName : Text := "plscript-stderr"

namespace Handler

variable {ω : Type}

/-- The name of a handler, if it has one. -/
def name : Handler ω → Option Text
  | console _ => some consoleName
  | foreign name => name

/-- Whether a handler has the name of the console. -/
def isNamed (handler : Handler ω) : Bool := handler.name == some consoleName

/-- The handler with its output replaced, if it is one of ours. -/
def directedTo (output : ω) : Handler ω → Handler ω
  | console _ => console output
  | foreign name => foreign name

end Handler

/-- What takes records. -/
structure Channel (ω : Type) where
  /-- The least rank that is let through, or 0. -/
  level : Nat := 0
  /-- Who gets the records. -/
  handlers : List (Handler ω) := []
  deriving DecidableEq, Repr

/-- The names of levels. -/
def levels : List (Text × Nat) :=
  [("CRITICAL", 50), ("FATAL", 50), ("ERROR", 40), ("WARN", 30), ("WARNING", 30), ("INFO", 20),
   ("DEBUG", 10), ("NOTSET", 0)]

/-- The level of a name, in any letter case and with blank characters around it. -/
def level? (name : Text) : Option Nat := levels.lookup (upper (trim name))

namespace Channel

variable {ω : Type}

/-- The handlers with the first that has the name of the console directed to an output, or with a
console added at the end if none has. -/
def redirect (output : ω) : List (Handler ω) → List (Handler ω)
  | [] => [.console output]
  | handler :: rest =>
    if handler.isNamed then handler.directedTo output :: rest
    else handler :: redirect output rest

/-- Set up a channel with the name of a level and the output of its console. -/
def setup (channel : Channel ω) (name : Text) (output : ω) : Except SettingError (Channel ω) :=
  match level? name with
  | none => .error (.unknownLevel name)
  | some level => .ok ⟨level, redirect output channel.handlers⟩

/-- The least rank that is let through. -/
def threshold (channel : Channel ω) : Nat :=
  if channel.level = 0 then Severity.warning.rank else channel.level

/-- Whether a record is severe enough. -/
def passes (channel : Channel ω) (record : Record) : Bool :=
  channel.threshold ≤ record.severity.rank

/-- What is written, and where, when a record is given to the channel. -/
def deliver (channel : Channel ω) (record : Record) : List (ω × Record) :=
  if channel.passes record then
    channel.handlers.filterMap fun
      | .console output => some (output, record)
      | .foreign _ => none
  else []

end Channel

/-- The line that the console writes for a record at a time. -/
def Record.line (time : Text) (record : Record) : Text := time ++ ' ' :: record.text ++ ['\n']

end SqlScript.Log
