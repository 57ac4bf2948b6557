import SqlScript.Command.Page
import SqlScript.Database.Session
import SqlScript.Log.Channel
import SqlScript.Run
import SqlScript.Script
import SqlScript.Source
import SqlScript.Text.EscapeSequence

/-!
# The program

What the program does with a command line, as a function: it gives what is printed and logged, in
order, the exit status, and the state in which the database is left. Faults that are none of the
database's are not reported but escape, as does a fault in closing a cursor or in writing a value.

The command `split` prints the statements of a script so that the output can be split again, and
`classify` what is said about a single statement. The command `run` connects to a database and
runs a script. It commits unless the connection is lost, closes the connection, and then prints
the results; its status is 0 when every statement and the commit succeeded.
-/

namespace SqlScript.Command

open SqlScript.Text

/-! ### What a command line leads to -/

/-- Something that is printed or logged. -/
inductive Emission where
  /-- A line of output. -/
  | out (line : Text)
  /-- A line of error output. -/
  | err (line : Text)
  /-- A record. -/
  | log (record : Log.Record)
  deriving DecidableEq, Repr

/-- How the program ends. -/
structure Ending (σ : Type) where
  /-- What is printed and logged, in order. -/
  emitted : List Emission
  /-- The exit status. -/
  status : Nat
  /-- The fault that escaped. -/
  escaped : Option Fault := none
  /-- The state of the database. -/
  state : σ

namespace Ending

variable {σ : Type}

/-- The same ending after something else was printed or logged. -/
def after (emitted : List Emission) (ending : Ending σ) : Ending σ :=
  { ending with emitted := emitted ++ ending.emitted }

/-- The end by a fault that nobody catches. -/
def escape (fault : Fault) (state : σ) : Ending σ :=
  { emitted := [], status := 1, escaped := some fault, state }

/-- The end with a line of error output and a status. -/
def complain (status : Nat) (line : Text) (state : σ) : Ending σ :=
  { emitted := [.err line], status, state }

/-- The end by a command line that is wrong. -/
def misuse (page : Page) (error : UsageError) (state : σ) : Ending σ :=
  complain 2 (page.complaint error) state

/-- The end by showing a page. -/
def showHelp (page : Page) (state : σ) : Ending σ :=
  { emitted := [.out page.text], status := 0, state }

/-- A line as it is printed where there is no terminal. -/
def printed (line : Text) : Text := withoutEscapes (line ++ ['\n'])

/-- The output. -/
def output (ending : Ending σ) : Text :=
  ending.emitted.flatMap fun
    | .out line => printed line
    | _ => []

/-- The error output, in which each record has the given time. -/
def errorOutput (time : Text) (ending : Ending σ) : Text :=
  ending.emitted.flatMap fun
    | .out _ => []
    | .err line => printed line
    | .log record => record.line time

end Ending

variable {σ κ ν : Type}

/-! ### The command line of a command -/

/-- The fault of asking for a path that no disk can have. -/
def nullInPath : Fault := ⟨.valueError, "embedded null byte"⟩

/-- Go on with the path among the arguments of a command, if there is one. It must name a file. -/
def withPath (page : Page) (disk : Disk) (words : List Text) (state : σ)
    (next : Option Text → Ending σ) : Ending σ :=
  match words with
  | [] => next none
  | path :: extra =>
    if path.contains '\x00' then .escape nullInPath state
    else
      match disk path with
      | .missing => .misuse page (.noSuchFile path) state
      | .tooLong => .misuse page (.noSuchFile path) state
      | .directory => .misuse page (.notAFile path) state
      | .file _ => if extra.isEmpty then next path else .misuse page (.extraArguments extra) state

/-- Go on with the words of a command, sorted, unless its page is asked for. -/
def withArguments (page : Page) (words : List Text) (state : σ) (next : Arguments → Ending σ) :
    Ending σ :=
  match Arguments.read page.options true {} words with
  | .error error => .misuse page error state
  | .ok arguments =>
    if arguments.has Page.help.long then .showHelp page state else next arguments

/-- The end by a script that a command does not get. A path that is too long is not reported as a
mistake of the caller: it is a fault of the machine, and escapes. -/
def withoutScript (command : Text) (error : SourceError) (state : σ) : Ending σ :=
  match error with
  | .tooLong _ => .escape ⟨.systemError, error.message⟩ state
  | _ => .complain 1 (command ++ " failed: " ++ error.message) state

/-! ### Splitting -/

/-- How a script is printed: each statement, under its kind and offset if they are asked for, and a
slash behind it. -/
def printedStatements (showKind : Bool) (statements : List Statement) : List Text :=
  statements.flatMap fun s =>
    (if showKind then ["-- " ++ s.kind.name ++ " @" ++ ofInt s.offset] else []) ++ [s.text, ['/']]

/-- Print the statements of a script. -/
def split (settings : Settings) (disk : Disk) (query path : Option Text) (showKind : Bool)
    (state : σ) : Ending σ :=
  match Source.load disk query path with
  | .error error => withoutScript "Split" error state
  | .ok source =>
    let statements := Script.split settings.dialect source.text
    { emitted :=
        source.log.map .log ++ .log (Script.splitRecord statements) ::
          (printedStatements showKind statements).map .out
      status := 0
      state }

/-! ### Running -/

/-- What is said about a connection that cannot be closed. -/
def closeRecord (fault : Fault) : Log.Record where
  severity := .warning
  source := "plscript.cli"
  message := "could not close connection: " ++ fault.message

/-- Print the results, and give the status. If a value cannot be written, nothing is printed. -/
def report (server : Server σ κ ν) (results : List (Result ν)) (commitFailed : Bool) (state : σ) :
    Ending σ :=
  let status := if !commitFailed && results.all Result.ok then 0 else 1
  if results.isEmpty then { emitted := [], status, state }
  else
    match Result.shown server.toSession results state with
    | (.ok text, state) => { emitted := [.out text], status, state }
    | (.error fault, state) => .escape fault state

/-- Close the connection and print the results. -/
def conclude (server : Server σ κ ν) (results : List (Result ν)) (commitFailed : Bool)
    (state : σ) : Ending σ :=
  match server.close state with
  | (.ok (), state) => report server results commitFailed state
  | (.error fault, state) =>
    if fault.kind.ofDatabase then
      (report server results commitFailed state).after [.log (closeRecord fault)]
    else .escape fault state

/-- Commit, unless the connection is lost, and conclude. A lost connection leaves nothing to be
committed, and its results are not all good. -/
def commitAndConclude (server : Server σ κ ν) (policy : Policy) (results : List (Result ν))
    (state : σ) : Ending σ :=
  if policy.lost results then conclude server results false state
  else
    match server.commit state with
    | (.ok (), state) => conclude server results false state
    | (.error fault, state) =>
      if fault.kind.ofDatabase then
        (conclude server results true state).after [.err ("Commit failed: " ++ fault.message)]
      else .escape fault state

/-- Run statements on a database that is connected. -/
def runConnected (server : Server σ κ ν) (policy : Policy) (statements : List Statement)
    (state : σ) : Ending σ :=
  let run := server.run policy 1 statements state
  let ending : Ending σ := match run.results with
    | .error fault => .escape fault run.state
    | .ok results => commitAndConclude server policy results run.state
  ending.after (run.log.map .log)

/-- Connect and run statements. -/
def runStatements (server : Server σ κ ν) (policy : Policy) (credentials : Credentials)
    (statements : List Statement) (state : σ) : Ending σ :=
  match server.connect credentials state with
  | (.error fault, state) =>
    if fault.kind.ofDatabase then .complain 1 ("Run failed: " ++ fault.message) state
    else .escape fault state
  | (.ok (), state) => runConnected server policy statements state

/-- The value that was given, unless it is empty, or else that of the settings. -/
def chosen (given setting : Option Text) : Option Text :=
  (given.filter (!·.isEmpty)).or setting

/-- Whether a statement that fails ends the run: the last of the two options that was given says so,
or else the settings do. -/
def stops (arguments : Arguments) (settings : Settings) : Bool :=
  let said := arguments.given.reverse.find? fun entry =>
    entry.1 == Page.stopOnError.long || entry.1 == Page.continueOnError.long
  match said with
  | some entry => entry.1 == Page.stopOnError.long
  | none => settings.stopOnError

/-- Run a script. -/
def run (server : Server σ κ ν) (settings : Settings) (disk : Disk) (arguments : Arguments)
    (path : Option Text) (state : σ) : Ending σ :=
  match Source.load disk (arguments.value? Page.query.long) path with
  | .error error => withoutScript "Run" error state
  | .ok source =>
    let dsn := chosen (arguments.value? Page.dsn.long) settings.dsn
    let ending : Ending σ := match dsn.filter (!·.isEmpty) with
      | none => .complain 1 "Run failed: no DSN given (--dsn or ORACLE_DSN)" state
      | some dsn =>
        let statements := Script.split settings.dialect source.text
        let credentials : Credentials := {
          user := chosen (arguments.value? Page.user.long) settings.user
          password := chosen (arguments.value? Page.password.long) settings.password
          dsn }
        let policy : Policy := { stopOnError := stops arguments settings }
        (runStatements server policy credentials statements state).after
          [.log (Script.splitRecord statements)]
    ending.after (source.log.map .log)

/-! ### The whole program -/

/-- What the program is started with. -/
structure Invocation where
  /-- The words of the command line. -/
  words : List Text
  /-- The environment. -/
  env : Environment := []
  /-- The disk. -/
  disk : Disk := fun _ => .missing

/-- Do what a command is asked to. -/
def perform (server : Server σ κ ν) (page : Page) (settings : Settings) (disk : Disk)
    (words : List Text) (state : σ) : Ending σ :=
  withArguments page words state fun arguments =>
    match page with
    | .program => .misuse .program .missingCommand state
    | .split =>
      withPath page disk arguments.words state fun path =>
        split settings disk (arguments.value? Page.query.long) path
          (arguments.has Page.showKind.long) state
    | .classify =>
      match arguments.words with
      | [] => .misuse page (.missingArgument "STATEMENT") state
      | [statement] => { emitted := [.out (({} : Wording).message statement)], status := 0, state }
      | _ :: extra => .misuse page (.extraArguments extra) state
    | .run =>
      withPath page disk arguments.words state fun path =>
        run server settings disk arguments path state

/-- Make the settings, set up the log, and do what the command is asked to. Only records that the
log lets through are kept. -/
def configured (server : Server σ κ ν) (page : Page) (start : Invocation) (level : Option Text)
    (words : List Text) (state : σ) : Ending σ :=
  let fail (error : SettingError) : Ending σ :=
    .complain 1 ("Invalid configuration: " ++ error.message) state
  match Settings.ofEnvironment start.env with
  | .error error => fail error
  | .ok settings =>
    let given := level.or (start.env.nonEmpty? "PLSCRIPT_LOG_LEVEL")
    let name := ((given.filter (!·.isEmpty)).map upper).getD settings.logLevel
    match Log.Channel.setup {} name () with
    | .error error => fail error
    | .ok channel =>
      let ending := perform server page settings start.disk words state
      { ending with
        emitted := ending.emitted.filter fun
          | .log record => channel.passes record
          | _ => true }

/-- The end by a word that is no command. An option that was taken for one, because it stands behind
the end of the options, is read as an option after all. -/
def unknownCommand (name : Text) (words : List Text) (state : σ) : Ending σ :=
  match Arguments.read Page.program.options false {} (name :: words) with
  | .error error => .misuse .program error state
  | .ok arguments =>
    if arguments.has Page.help.long then .showHelp .program state
    else .misuse .program (.noSuchCommand name (similarTo name (Page.commands.map (·.1)))) state

/-- What the program does. Without any word it shows its help as an error. -/
def start (server : Server σ κ ν) (start : Invocation) (state : σ) : Ending σ :=
  if start.words.isEmpty then .complain 2 Page.program.text state
  else
    match Arguments.read Page.program.options false {} start.words with
    | .error error => .misuse .program error state
    | .ok arguments =>
      if arguments.has Page.help.long then .showHelp .program state
      else
        match arguments.words with
        | [] => .misuse .program .missingCommand state
        | name :: words =>
          match Page.ofCommand? name with
          | some page =>
            configured server page start (arguments.value? Page.logLevel.long) words state
          | none => unknownCommand name words state

end SqlScript.Command
