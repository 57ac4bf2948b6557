import SqlScript.Directive
import SqlScript.Piece
import SqlScript.Word

/-!
# Reading a script

The reader goes through a script one character at a time and cuts it into pieces. It is in plain
text, inside a literal, or inside a block, and quotes do no more than switch between the sides of a
literal, so a doubled quote leaves and enters it again. In plain text a semicolon cuts, and a word
that opens a block begins one, which takes what was read since the last cut as its head. A block is
opaque: it runs to the first `END;` outside quotes, and blocks do not nest. Whatever is open, a line
that holds only a slash cuts, and the reader is in plain text after it.

The reader looks ahead only for whole words, so each step takes one character and reading ends with
the text. The characters of an opener that are still to come are counted off in `Mode.block`; a word
that runs over the end of a line is cut short there.
-/

namespace SqlScript

open SqlScript.Text SqlScript.Word

/-- Where the reader stands. -/
inductive Mode where
  /-- Outside quotes and blocks. -/
  | plain
  /-- Inside a literal. -/
  | literal
  /-- Inside a block: `owed` characters of its opener are still to be read, and then the quotes
  count and say whether a literal inside the block is open. -/
  | block (owed : Nat) (quoted : Bool)
  /-- Inside the `END;` that closes a block. -/
  | closing
  deriving DecidableEq, Repr

namespace Mode

/-- The kind of a piece that is cut in this mode. -/
def kind : Mode → Kind
  | plain => .simple
  | literal => .simple
  | block _ _ => .block
  | closing => .block

/-- The mode at the beginning of the next line: an opener is not read on over the end of a line. -/
def endLine : Mode → Mode
  | block _ quoted => block 0 quoted
  | mode => mode

/-- The mode after the character `c`, which `rest` follows, when `afterName` says whether a
character of a name goes before it. -/
def next (openers : List Text) (afterName : Bool) (c : Char) (rest : Text) : Mode → Mode
  | plain =>
    if c = '\'' then literal
    else if isLetter c && !afterName then
      match opener? openers (c :: rest) with
      | some length => block (length - 1) false
      | none => plain
    else plain
  | literal => if c = '\'' then plain else literal
  | block (owed + 1) quoted => block owed quoted
  | block 0 quoted =>
    if c = '\'' then block 0 (!quoted)
    else if !quoted && !afterName && closesBlock (c :: rest) then closing
    else block 0 quoted
  | closing => if c = ';' then plain else closing

end Mode

/-- What the reader knows: where it stands, what it has read since the last cut, and the pieces it
has cut. Both lists have the newest first. -/
structure Reader where
  /-- Where the reader stands. -/
  mode : Mode := .plain
  /-- The characters since the last cut. -/
  body : Text := []
  /-- The pieces before the last cut. -/
  cuts : List Piece := []
  deriving DecidableEq, Repr

namespace Reader

/-- Whether the last character read is a character of a name. A cut never follows one. -/
def afterName (r : Reader) : Bool := startsName r.body

/-- Cut away `mark`, and go on in plain text. -/
def cut (r : Reader) (mark : Text) : Reader :=
  ⟨.plain, [], ⟨r.mode.kind, r.body.reverse, mark⟩ :: r.cuts⟩

/-- Read the character `c`, which `rest` follows. A semicolon in plain text is cut away, and the one
of a closing `END;` is the last character of its piece. -/
def read (openers : List Text) (r : Reader) (c : Char) (rest : Text) : Reader :=
  let passed : Reader := { r with body := c :: r.body }
  match r.mode, c with
  | .plain, ';' => r.cut [';']
  | .closing, ';' => passed.cut []
  | mode, c => { passed with mode := mode.next openers r.afterName c rest }

/-- Read the line that `text` begins with. -/
def readLine (openers : List Text) : (line : Text) → Reader → (text : Text) → Reader
  | _ :: line, r, c :: text => readLine openers line (r.read openers c text) text
  | _, r, _ => { r with mode := r.mode.endLine }

/-- Read the lines that `text` consists of. -/
def readLines (openers : List Text) : (lines : List Text) → Reader → (text : Text) → Reader
  | [], r, _ => r
  | line :: rest, r, text =>
    readLines openers rest
      (if Directive.isLoneSlash line then r.cut line else readLine openers line r text)
      (text.drop line.length)

/-- All pieces, the last of which ends where the script does. -/
def pieces (r : Reader) : List Piece := (r.cut []).cuts.reverse

/-! ### Nothing is lost

What the reader has covered, the spans of its pieces and the characters since the last cut, is what
it has read. -/

/-- The characters that the reader has covered, in the order of the script. -/
def covered (r : Reader) : Text := r.cuts.reverse.flatMap Piece.span ++ r.body.reverse

/-- Cutting covers the mark that is cut away. -/
@[simp] theorem covered_cut (r : Reader) (mark : Text) :
    (r.cut mark).covered = r.covered ++ mark := by
  simp [covered, cut, Piece.span]

/-- Reading a character covers it. -/
@[simp] theorem covered_read (openers : List Text) (r : Reader) (c : Char) (rest : Text) :
    (r.read openers c rest).covered = r.covered ++ [c] := by
  unfold read
  split
  · exact covered_cut r [';']
  · rw [covered_cut]
    simp [covered]
  · simp [covered]

/-- Reading a line covers it. -/
theorem covered_readLine (openers : List Text) (line : Text) (r : Reader) (rest : Text) :
    (readLine openers line r (line ++ rest)).covered = r.covered ++ line := by
  induction line generalizing r with
  | nil => simp [readLine, covered]
  | cons c line ih => simp [readLine, ih]

/-- Reading lines covers them. -/
theorem covered_readLines (openers : List Text) (lines : List Text) (r : Reader) :
    (readLines openers lines r lines.flatten).covered = r.covered ++ lines.flatten := by
  induction lines generalizing r with
  | nil => simp [readLines]
  | cons line rest ih =>
    rw [readLines, List.flatten_cons, List.drop_left, ih]
    split
    · simp
    · simp [covered_readLine]

/-- The pieces together are what the reader has covered. -/
@[simp] theorem span_pieces (r : Reader) : r.pieces.flatMap Piece.span = r.covered := by
  simp [pieces, cut, covered, Piece.span]

end Reader

end SqlScript
