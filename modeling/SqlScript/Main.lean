import Std.Time.Format
import SqlScript.Command.Program

/-!
# The program on a real machine

The outer layer: the words of the command line, the variables of the environment and the files
that the words name are handed to the program, and what it gives is printed. No database driver is
linked, so connecting always fails.
-/

namespace SqlScript.Main

/-- The variables that the program looks at. -/
def variableNames : List String :=
  ["PLSCRIPT_DIRECTIVES", "PLSCRIPT_DIRECTIVE_BOUNDARY_ONLY", "PLSCRIPT_STOP_ON_ERROR",
   "PLSCRIPT_LOG_LEVEL", "ORACLE_DSN", "ORACLE_USER", "ORACLE_PASSWORD"]

/-- The variables that are set, with their values. -/
def environment : IO Environment := do
  let found ← variableNames.mapM fun name => return (name, ← IO.getEnv name)
  return found.filterMap fun (name, value) => value.map fun v => (name.toList, v.toList)

/-- The number by which the system tells that a path is too long. -/
def tooLongCode : UInt32 := 36

/-- What a path names. -/
def entry (path : String) : IO Entry := do
  try
    return .file (← IO.FS.readBinFile path).toList
  catch
    | .inappropriateType .. => return .directory
    | .invalidArgument _ code _ => return if code = tooLongCode then .tooLong else .missing
    | _ => return .missing

/-- The part of the disk that the words of a command line name. -/
def disk (words : List String) : IO Disk := do
  let paths := words ++ words.map fun word => String.ofList (Path.tidy word.toList)
  let entries ← paths.mapM fun path => return (path.toList, ← entry path)
  return fun path => (entries.lookup path).getD .missing

/-- A database that cannot be connected to. -/
def unavailable : Server Unit Unit Empty :=
  let fault : Fault := ⟨.notSupportedError, "no database driver is linked"⟩
  { openCursor := fun s => (.error fault, s)
    execute := fun _ _ s => (.error fault, s)
    fetch := fun _ s => (.error fault, s)
    closeCursor := fun _ s => (.error fault, s)
    commit := fun s => (.error fault, s)
    close := fun s => (.error fault, s)
    write := fun value _ => value.elim
    connect := fun _ s => (.error fault, s) }

end SqlScript.Main

/-- Run the program on the words of the command line. -/
def main (words : List String) : IO UInt32 := do
  let start : SqlScript.Command.Invocation := {
    words := words.map String.toList
    env := ← SqlScript.Main.environment
    disk := ← SqlScript.Main.disk words }
  let ending := SqlScript.Command.start SqlScript.Main.unavailable start ()
  let now ← Std.Time.PlainDateTime.now
  let time := now.format "uuuu-MM-dd HH:mm:ss"
  IO.print (String.ofList ending.output)
  IO.eprint (String.ofList (ending.errorOutput time.toList))
  if let some fault := ending.escaped then
    IO.eprintln (String.ofList (fault.kind.name ++ ':' :: ' ' :: fault.message))
  return UInt32.ofNat ending.status
