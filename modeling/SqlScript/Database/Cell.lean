import SqlScript.Database.Session
import SqlScript.Number.Shortest
import SqlScript.Text.Utf8

/-!
# Cells

The plain values that rows are made of where no database is at hand, and how they are written: the
digits of a number, a text as it is, bytes between quotes behind a `b`, and a moment with its date
and time of day. All of them are at hand, so nothing is asked for, and all can be written but one
kind: the digits of a whole number are not worked out if there are too many of them.
-/

namespace SqlScript

open SqlScript.Text

/-- A point in time, as a calendar and a clock show it. -/
structure Moment where
  /-- The year. -/
  year : Nat
  /-- The month of the year. -/
  month : Nat
  /-- The day of the month. -/
  day : Nat
  /-- The hour of the day. -/
  hour : Nat
  /-- The minute of the hour. -/
  minute : Nat
  /-- The second of the minute. -/
  second : Nat
  /-- The microsecond of the second. -/
  microsecond : Nat
  deriving DecidableEq, Repr

/-- A plain value. -/
inductive Cell where
  /-- A truth value. -/
  | bool (value : Bool)
  /-- A whole number. -/
  | int (value : Int)
  /-- A floating-point number. -/
  | float (value : Number.Binary64)
  /-- A text. -/
  | text (value : Text)
  /-- A sequence of bytes. -/
  | bytes (value : Utf8.Bytes)
  /-- A point in time. -/
  | moment (value : Moment)
  deriving DecidableEq, Repr

/-- The digits of a number, with zeros before them up to a width. -/
def Text.padded (width n : Nat) : Text :=
  List.replicate (width - (Text.ofNat n).length) '0' ++ Text.ofNat n

/-- Date and time of day, and the microseconds unless there are none. -/
def Moment.written (m : Moment) : Text :=
  padded 4 m.year ++ '-' :: padded 2 m.month ++ '-' :: padded 2 m.day ++ ' ' :: padded 2 m.hour ++
    ':' :: padded 2 m.minute ++ ':' :: padded 2 m.second ++
    (if m.microsecond = 0 then [] else '.' :: padded 6 m.microsecond)

namespace Cell

/-- The greatest number of digits that a whole number is written with. -/
def digitLimit : Nat := 4300

/-- The fault of writing a whole number that has more digits. -/
def tooManyDigits : Fault where
  kind := .valueError
  message := "Exceeds the limit (4300 digits) for integer string conversion; " ++
    "use sys.set_int_max_str_digits() to increase the limit"

/-- How bytes are written: those of printable ASCII characters as the characters. -/
def bytesWritten (bytes : Utf8.Bytes) : Text :=
  'b' :: quotedBy (fun c => 0x20 ≤ c.toNat && c.toNat < 0x7F)
    (bytes.map fun b => Char.ofNat b.toNat)

/-- How a value is written. -/
def written : Cell → Except Fault Text
  | bool value => .ok (if value then "True" else "False")
  | int value =>
    if value.natAbs < Nat.pow 10 digitLimit then .ok (ofInt value) else .error tooManyDigits
  | float value => .ok value.text
  | text value => .ok value
  | bytes value => .ok (bytesWritten value)
  | moment value => .ok value.written

end Cell

end SqlScript
