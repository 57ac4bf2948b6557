import SqlScript.Text.Basic

/-!
# Log records

What the program has to say beside its output is a list of records. A record has a severity, the
name of the part of the program it comes from, and a message. Severities are places on a scale, six
of which have a name.
-/

namespace SqlScript.Log

/-- How severe a record is: a place on the scale that thresholds are given on. -/
structure Severity where
  /-- The place on the scale. -/
  rank : Nat
  deriving DecidableEq, Repr

namespace Severity

/-- Details for whoever looks for a mistake. -/
def debug : Severity := ⟨10⟩

/-- What is being done. -/
def info : Severity := ⟨20⟩

/-- Something that may need attention. -/
def warning : Severity := ⟨30⟩

/-- The name of a severity. One without a name of its own is written as its place on the scale. -/
def name (s : Severity) : Text :=
  match s.rank with
  | 0 => "NOTSET"
  | 10 => "DEBUG"
  | 20 => "INFO"
  | 30 => "WARNING"
  | 40 => "ERROR"
  | 50 => "CRITICAL"
  | rank => "Level " ++ Text.ofNat rank

end Severity

/-- Something said beside the output. -/
structure Record where
  /-- How severe it is. -/
  severity : Severity
  /-- Which part of the program says it. -/
  source : Text
  /-- What it says. -/
  message : Text
  deriving DecidableEq, Repr

/-- A record without its time: its severity, its source and, behind a colon, its message. -/
def Record.text (r : Record) : Text := r.severity.name ++ ' ' :: r.source ++ ": " ++ r.message

end SqlScript.Log
