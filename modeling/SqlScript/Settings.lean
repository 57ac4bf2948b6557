import SqlScript.Dialect
import SqlScript.Text.Blank
import SqlScript.Text.Case
import SqlScript.Text.Quoted

/-!
# Settings

The settings of a run come from variables of its environment. Each variable that is absent leaves a
default, and a connection variable that is empty counts as absent. The directive words are checked
first, then the boundary flag, then the stop flag; the level of the log is checked only when it is
put to use.
-/

namespace SqlScript

open SqlScript.Text

/-- What can be wrong with a setting. -/
inductive SettingError where
  /-- The value of a flag is none of the words for yes and no. -/
  | notAFlag (name value : Text)
  /-- A list of directive words holds none. -/
  | noDirectives
  /-- A level of the log has a name that is not known. -/
  | unknownLevel (name : Text)
  deriving DecidableEq, Repr

/-- What is said about a setting that is wrong. -/
def SettingError.message : SettingError → Text
  | notAFlag name value => name ++ " must be a boolean flag, got " ++ quoted value
  | noDirectives => "PLSCRIPT_DIRECTIVES must name at least one prefix"
  | unknownLevel name => "Unknown log level: " ++ quoted name

/-- The variables of an environment with their values. -/
abbrev Environment := List (Text × Text)

namespace Environment

/-- The value of a variable, if it is set. -/
def value? (env : Environment) (name : Text) : Option Text := env.lookup name

/-- The value of a variable, unless it is absent or empty. -/
def nonEmpty? (env : Environment) (name : Text) : Option Text :=
  (env.value? name).filter (!·.isEmpty)

end Environment

/-- What the environment says about a run. -/
structure Settings where
  /-- What scripts are read under. -/
  dialect : Dialect := {}
  /-- Whether a statement that fails ends the run. -/
  stopOnError : Bool := false
  /-- The name of the least severity that is shown. -/
  logLevel : Text := "WARNING"
  /-- Where the database is. -/
  dsn : Option Text := none
  /-- Who connects to it. -/
  user : Option Text := none
  /-- The password of that user. -/
  password : Option Text := none
  deriving DecidableEq, Repr

namespace Settings

/-! ### Single values -/

/-- The value of a flag. An empty one is a no. -/
def parseFlag (name value : Text) : Except SettingError Bool :=
  let word := lower (trim value)
  if [("1" : Text), "true", "yes", "on"].contains word then .ok true
  else if [("0" : Text), "false", "no", "off", ""].contains word then .ok false
  else .error (.notAFlag name value)

/-- The words of a list between commas, trimmed and in upper case. Blank ones are left out, but one
must remain. -/
def parseDirectives (value : Text) : Except SettingError (List Text) :=
  match (value.splitOn ',').filterMap fun piece =>
      if (trim piece).isEmpty then none else some (upper (trim piece)) with
  | [] => .error .noDirectives
  | found => .ok found

/-! ### The environment -/

/-- The value of a flag that is a variable. -/
def flag (env : Environment) (name : Text) : Except SettingError Bool :=
  parseFlag name ((env.value? name).getD "0")

/-- The settings that an environment gives. -/
def ofEnvironment (env : Environment) : Except SettingError Settings := do
  let usual : Dialect := {}
  let directives ← match env.value? "PLSCRIPT_DIRECTIVES" with
    | none => pure usual.directives
    | some value => parseDirectives value
  let boundaryOnly ← flag env "PLSCRIPT_DIRECTIVE_BOUNDARY_ONLY"
  let stopOnError ← flag env "PLSCRIPT_STOP_ON_ERROR"
  return {
    dialect := { directives, boundaryOnly }
    stopOnError
    logLevel := upper ((env.value? "PLSCRIPT_LOG_LEVEL").getD "WARNING")
    dsn := env.nonEmpty? "ORACLE_DSN"
    user := env.nonEmpty? "ORACLE_USER"
    password := env.nonEmpty? "ORACLE_PASSWORD" }

end Settings

end SqlScript
