import SqlScript.Text.Basic

/-!
# Blank characters, trimming and words

The blank characters are the ASCII controls from tab to carriage return, the four separators below
the space, the space, and the spaces and separators of Unicode. The zero-width space and the byte
order mark are not blank. Trimming removes blank characters from the ends of a text, and the words
of a text are the longest stretches without one.
-/

namespace SqlScript.Text

/-- The blank characters. -/
def blanks : List (Nat × Nat) :=
  [(0x9, 0xD), (0x1C, 0x20), (0x85, 0x85), (0xA0, 0xA0), (0x1680, 0x1680), (0x2000, 0x200A),
   (0x2028, 0x2029), (0x202F, 0x202F), (0x205F, 0x205F), (0x3000, 0x3000)]

/-- Whether a character is blank. -/
def isBlank (c : Char) : Bool := covers blanks c.toNat

/-- The text without the blank characters it ends with. -/
def trimEnd (t : Text) : Text := (t.reverse.dropWhile isBlank).reverse

/-- The text without the blank characters at its two ends. -/
def trim (t : Text) : Text := trimEnd (t.dropWhile isBlank)

/-- The words of a text: its longest stretches without a blank character, in order. -/
def words (t : Text) : List Text := (t.splitOnP isBlank).filter (!·.isEmpty)

end SqlScript.Text
