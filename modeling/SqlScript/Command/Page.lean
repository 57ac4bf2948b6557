import SqlScript.Command.Arguments

/-!
# Pages of help

Each command has a page: how it is used, which options it knows, and what its help says.
-/

namespace SqlScript.Command

/-- The commands, and the program itself. -/
inductive Page where
  /-- The program itself. -/
  | program
  /-- Print the statements of a script. -/
  | split
  /-- Print what is said about a statement without rows. -/
  | classify
  /-- Execute the statements of a script. -/
  | run
  deriving DecidableEq, Repr

namespace Page

/-- The words by which a page is called. -/
def path : Page → Text
  | program => "plscript"
  | split => "plscript split"
  | classify => "plscript classify"
  | run => "plscript run"

/-- What may follow those words. -/
def operands : Page → Text
  | program => "[OPTIONS] COMMAND [ARGS]..."
  | split => "[OPTIONS] [PATH]"
  | classify => "[OPTIONS] STATEMENT"
  | run => "[OPTIONS] [PATH]"

/-- The names of the commands. -/
def commands : List (Text × Page) := [("split", split), ("classify", classify), ("run", run)]

/-- The command of a name. -/
def ofCommand? (name : Text) : Option Page := commands.lookup name

/-! ### Options -/

/-- The option that shows a page. -/
def help : OptionSpec := { long := "--help", takesValue := false }

/-- The option that gives the level of the log. -/
def logLevel : OptionSpec := { long := "--log-level" }

/-- The option that gives the script itself. -/
def query : OptionSpec := { long := "--query", short := 'q' }

/-- The option that shows the kinds of statements. -/
def showKind : OptionSpec := { long := "--show-kind", takesValue := false }

/-- The option that gives the place of the database. -/
def dsn : OptionSpec := { long := "--dsn" }

/-- The option that gives the user. -/
def user : OptionSpec := { long := "--user" }

/-- The option that gives the password. -/
def password : OptionSpec := { long := "--password" }

/-- The option by which a statement that fails ends the run. -/
def stopOnError : OptionSpec := { long := "--stop-on-error", takesValue := false }

/-- The option by which the run goes on after a statement that fails. -/
def continueOnError : OptionSpec := { long := "--continue-on-error", takesValue := false }

/-- The options that a page knows. -/
def options : Page → List OptionSpec
  | program => [logLevel, help]
  | split => [query, showKind, help]
  | classify => [help]
  | run => [query, dsn, user, password, stopOnError, continueOnError, help]

/-! ### Texts -/

/-- How a page is used. -/
def usage (page : Page) : Text := "Usage: " ++ page.path ++ ' ' :: page.operands

/-- What the help of a page says below its usage. -/
def description : Page → List Text
  | program => [
      "  plscript CLI",
      "",
      "  한국어 주석: SQL*Plus 스타일 스크립트를 실행 가능한 문장 단위로 분할합니다.",
      "",
      "Options:",
      "  --log-level TEXT  로그 레벨 (기본 WARNING)",
      "  --help            Show this message and exit.",
      "",
      "Commands:",
      "  classify  Print the status message for a statement that returned no rows.",
      "  run       Execute every statement of a script in order against an Oracle...",
      "  split     Print the statements of a script, one after another, separated..."]
  | split => [
      "  Print the statements of a script, one after another, separated by \"/\" lines.",
      "",
      "Options:",
      "  -q, --query TEXT  스크립트 텍스트를 직접 전달 (PATH 대신)",
      "  --show-kind       각 문장의 종류(Simple/Block)를 함께 출력",
      "  --help            Show this message and exit."]
  | classify => [
      "  Print the status message for a statement that returned no rows.",
      "",
      "Options:",
      "  --help  Show this message and exit."]
  | run => [
      "  Execute every statement of a script in order against an Oracle database.",
      "",
      "  한국어 주석: 연결 계열 오류(ORA-03113 등)는 항상 실행을 중단합니다.",
      "",
      "Options:",
      "  -q, --query TEXT                스크립트 텍스트를 직접 전달 (PATH 대신)",
      "  --dsn TEXT                      host:port/service",
      "  --user TEXT",
      "  --password TEXT",
      "  --stop-on-error / --continue-on-error",
      "                                  오류 발생 시 중단 여부 (기본값은 PLSCRIPT_STOP_ON_ERROR)",
      "  --help                          Show this message and exit."]

/-- The help of a page. -/
def text (page : Page) : Text :=
  ['\n'].intercalate (page.usage :: [] :: page.description)

/-- What is said about a command line of this page that is wrong. -/
def complaint (page : Page) (error : UsageError) : Text :=
  let reason := "Error: " ++ error.message
  if error.isBare then reason
  else
    page.usage ++ "\nTry '" ++ page.path ++ " --help' for help.\n\n" ++ reason

end Page

end SqlScript.Command
