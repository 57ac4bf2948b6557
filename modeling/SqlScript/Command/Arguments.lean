import SqlScript.Text.Quoted
import SqlScript.Text.Similar

/-!
# Arguments of a command line

The words of a command line are options with their values and arguments. An option has a long name
behind two dashes, and may have a short one behind a single dash. The value of an option is the
next word, whatever it looks like, or stands behind an equals sign after the long name, or
directly behind the short name. A word of two dashes ends the options, and a single dash is an
argument. Where arguments and options may not be mixed, the first argument ends the options too.
-/

namespace SqlScript.Command

open SqlScript.Text

/-- What can be wrong with the words of a command line. -/
inductive UsageError where
  /-- There is no option of this name, but there are similar ones. -/
  | noSuchOption (name : Text) (similar : List Text)
  /-- The value of this option is missing. -/
  | missingValue (name : Text)
  /-- This option has no value. -/
  | unwantedValue (name : Text)
  /-- There is no command of this name, but there are similar ones. -/
  | noSuchCommand (name : Text) (similar : List Text)
  /-- There is no command. -/
  | missingCommand
  /-- This argument is missing. -/
  | missingArgument (name : Text)
  /-- These arguments are too many. -/
  | extraArguments (words : List Text)
  /-- This path names nothing. -/
  | noSuchFile (path : Text)
  /-- This path names a directory. -/
  | notAFile (path : Text)
  deriving DecidableEq, Repr

namespace UsageError

/-- What is said about similar names, behind a space. -/
def suggestion : List Text → Text
  | [] => []
  | [name] => " Did you mean " ++ quoted name ++ ['?']
  | names =>
    " (Did you mean one of: " ++ [',', ' '].intercalate (names.map quoted) ++ ['?', ')']

/-- What is said about words that are wrong. -/
def message : UsageError → Text
  | noSuchOption name similar =>
    "No such option " ++ quoted name ++ '.' :: suggestion similar
  | missingValue name => "Option " ++ quoted name ++ " requires an argument."
  | unwantedValue name => "Option " ++ quoted name ++ " does not take a value."
  | noSuchCommand name similar =>
    "No such command " ++ quoted name ++ '.' :: suggestion similar
  | missingCommand => "Missing command."
  | missingArgument name => "Missing argument '" ++ name ++ "'."
  | extraArguments [word] => "Got unexpected extra argument (" ++ word ++ [')']
  | extraArguments words =>
    "Got unexpected extra arguments (" ++ [' '].intercalate words ++ [')']
  | noSuchFile path => "Invalid value for '[PATH]': File " ++ quoted path ++ " does not exist."
  | notAFile path => "Invalid value for '[PATH]': File " ++ quoted path ++ " is a directory."

/-- Whether the message stands alone, without a reminder of how the command is used. -/
def isBare : UsageError → Bool
  | missingValue _ => true
  | unwantedValue _ => true
  | _ => false

end UsageError

/-- An option that a command knows. -/
structure OptionSpec where
  /-- Its long name, with the dashes. -/
  long : Text
  /-- Its short name, without the dash. Only an option with a value has one. -/
  short : Option Char := none
  /-- Whether it has a value. -/
  takesValue : Bool := true
  deriving DecidableEq, Repr

/-- The words of a command line, sorted. -/
structure Arguments where
  /-- The options that were given, by their long names, with their values, in order. -/
  given : List (Text × Text) := []
  /-- The arguments, in order. -/
  words : List Text := []
  deriving DecidableEq, Repr

namespace Arguments

/-- Whether an option was given. -/
def has (a : Arguments) (long : Text) : Bool := a.given.any (·.1 == long)

/-- The value of an option that was given, the last one if it was repeated. -/
def value? (a : Arguments) (long : Text) : Option Text := a.given.reverse.lookup long

/-- With one more option. -/
def give (a : Arguments) (long value : Text) : Arguments :=
  { a with given := a.given ++ [(long, value)] }

/-- With more arguments. -/
def add (a : Arguments) (words : List Text) : Arguments := { a with words := a.words ++ words }

/-! ### Single words -/

/-- What a word of a command line is. -/
inductive Word where
  /-- An argument. -/
  | argument
  /-- An option with its value, which is empty if the option has none. -/
  | complete (long value : Text)
  /-- An option whose value is the next word, and the name it is called by. -/
  | owesValue (long called : Text)
  /-- Nothing that the command knows. -/
  | wrong (error : UsageError)

/-- What a word is that begins with a dash and is no long name of an option. -/
def shortWord (specs : List OptionSpec) (word : Text) : Word :=
  match word with
  | '-' :: '-' :: _ =>
    let name := word.takeWhile (· ≠ '=')
    .wrong (.noSuchOption name (similarTo name (specs.map (·.long))))
  | '-' :: c :: rest =>
    match specs.find? (·.short = some c) with
    | none => .wrong (.noSuchOption ['-', c] [])
    | some spec => if rest.isEmpty then .owesValue spec.long ['-', c] else .complete spec.long rest
  | _ => .argument

/-- What a word is, for a command with these options. -/
def Word.of (specs : List OptionSpec) (word : Text) : Word :=
  let name := word.takeWhile (· ≠ '=')
  let behind := word.dropWhile (· ≠ '=')
  match specs.find? (·.long = name) with
  | none => shortWord specs word
  | some spec =>
    match behind with
    | [] => if spec.takesValue then .owesValue spec.long name else .complete spec.long []
    | _ :: value =>
      if spec.takesValue then .complete spec.long value else .wrong (.unwantedValue name)

/-! ### All words -/

/-- Sort the words of a command line behind those that are sorted already. -/
def read (specs : List OptionSpec) (mixed : Bool) (sorted : Arguments) :
    List Text → Except UsageError Arguments
  | [] => .ok sorted
  | ['-', '-'] :: rest => .ok (sorted.add rest)
  | word :: rest =>
    match Word.of specs word with
    | .argument =>
      if mixed then read specs mixed (sorted.add [word]) rest else .ok (sorted.add (word :: rest))
    | .complete long value => read specs mixed (sorted.give long value) rest
    | .owesValue long called =>
      match rest with
      | [] => .error (.missingValue called)
      | value :: rest => read specs mixed (sorted.give long value) rest
    | .wrong error => .error error

end Arguments

end SqlScript.Command
