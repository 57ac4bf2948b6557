import SqlScript.Log
import SqlScript.Path
import SqlScript.Text.Blank
import SqlScript.Text.Lines

/-!
# Where a script comes from

A script is given either as a text or as the path of a file, and not as both. A text is taken as it
is. A file holds UTF-8; its line breaks of the forms CR LF and CR are read as LF, and the script is
what it holds without the blank characters at its two ends. A path that names no file is told apart
from one that is too long for any file to have.
-/

namespace SqlScript

open SqlScript.Text

/-- Why there is no script. -/
inductive SourceError where
  /-- A text and a path are given. -/
  | bothGiven
  /-- Neither a text nor a path is given. -/
  | noneGiven
  /-- The path names no file. -/
  | notFound (path : Text)
  /-- The path or a name on it is too long for the disk. -/
  | tooLong (path : Text)
  /-- The file holds something other than UTF-8. -/
  | unreadable (path : Text) (cause : Utf8.Malformed)
  deriving DecidableEq, Repr

/-- What is said when there is no script. -/
def SourceError.message : SourceError → Text
  | bothGiven => "Give either a query or a file path, not both"
  | noneGiven => "Give a query or a file path"
  | notFound path => "Script file not found: " ++ path
  | tooLong path => "[Errno 36] File name too long: " ++ quoted path
  | unreadable path cause => "Could not read " ++ path ++ ": " ++ cause.message

/-- A script as it was given. -/
structure Source where
  /-- The text of the script. -/
  text : Text
  /-- What is said about how it was read. -/
  log : List Log.Record
  deriving DecidableEq, Repr

namespace Source

/-- The script of a file. Its characters are counted before the ends are trimmed. -/
def ofFile (path : Text) (content : Utf8.Bytes) : Except SourceError Source :=
  match Utf8.decode content with
  | .error cause => .error (.unreadable path cause)
  | .ok decoded =>
    let text := unifyBreaks decoded
    .ok {
      text := trim text
      log := [{
        severity := .debug
        source := "plscript.loader"
        message := "loaded " ++ ofNat text.length ++ " characters from " ++ path }] }

/-- The script that a text or a path gives. -/
def load (disk : Disk) : (query path : Option Text) → Except SourceError Source
  | some _, some _ => .error .bothGiven
  | none, none => .error .noneGiven
  | some query, none => .ok ⟨query, []⟩
  | none, some path =>
    match disk (Path.tidy path) with
    | .file content => ofFile (Path.tidy path) content
    | .tooLong => .error (.tooLong (Path.tidy path))
    | _ => .error (.notFound (Path.tidy path))

end Source

end SqlScript
