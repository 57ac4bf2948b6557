import SqlScript.Text.Basic

/-!
# Lines

The lines of a text, each with the line break that ends it. A line break is one of the eleven that
Unicode text knows: line feed, carriage return, the two together as one break, vertical tab, form
feed, the file, group and record separators, the next-line control, and the line and paragraph
separators. Nothing is lost: the lines put together again are the text (`flatten_lines`).
-/

namespace SqlScript.Text

/-- The characters that end a line. A carriage return followed by a line feed ends it only once. -/
def lineBreaks : List (Nat × Nat) := [(0xA, 0xD), (0x1C, 0x1E), (0x85, 0x85), (0x2028, 0x2029)]

/-- Whether a character ends a line. -/
def isLineBreak (c : Char) : Bool := covers lineBreaks c.toNat

/-- The lines of `text` when `line` and `before`, both with the newest first, have been read
already: the characters of the line that is open and the lines that are complete. -/
def linesFrom (line : Text) (before : List Text) : Text → List Text
  | [] => (if line.isEmpty then before else line.reverse :: before).reverse
  | '\r' :: '\n' :: cs => linesFrom [] (('\n' :: '\r' :: line).reverse :: before) cs
  | c :: cs =>
    if isLineBreak c then linesFrom [] ((c :: line).reverse :: before) cs
    else linesFrom (c :: line) before cs

/-- The lines of a text, each with its line break. The last one may have none, and there is no empty
line after a line break at the end. -/
def lines (text : Text) : List Text := linesFrom [] [] text

/-- Reading on from an open line loses nothing. -/
theorem flatten_linesFrom (line : Text) (before : List Text) (text : Text) :
    (linesFrom line before text).flatten = before.reverse.flatten ++ line.reverse ++ text := by
  fun_induction linesFrom line before text with
  | case1 line before =>
    by_cases h : line.isEmpty
    · simp_all
    · simp [h]
  | case2 line before cs ih => rw [ih]; simp
  | case3 line before c cs _ hc ih => rw [ih]; simp
  | case4 line before c cs _ hc ih => rw [ih]; simp

/-- The lines put together again are the text. -/
@[simp] theorem flatten_lines (text : Text) : (lines text).flatten = text := by
  simp [lines, flatten_linesFrom]

/-- The text with every line break of the forms CR LF and CR written as LF. -/
def unifyBreaks : Text → Text
  | [] => []
  | '\r' :: '\n' :: cs => '\n' :: unifyBreaks cs
  | c :: cs => (if c = '\r' then '\n' else c) :: unifyBreaks cs

end SqlScript.Text
