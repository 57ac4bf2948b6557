import SqlScript.Text.Printable

/-!
# Quoted texts

A text as it is shown inside a message: between quotes, on one line, and with nothing invisible in
it. The quote is the apostrophe, or the quotation mark for a text that holds an apostrophe and no
quotation mark. A backslash and the quote in use are written after a backslash; tab, line feed and
carriage return as `\t`, `\n` and `\r`; and any other character that is not printable by its code
point in lower-case hexadecimal, as `\x` with two digits, `\u` with four or `\U` with eight.
-/

namespace SqlScript.Text

/-- The last `width` hexadecimal digits of `n`, in lower case. -/
def hex (width n : Nat) : Text :=
  match width with
  | 0 => []
  | w + 1 => hex w (n / 16) ++ [Nat.digitChar (n % 16)]

/-- The quote that a text is shown between. -/
def quoteFor (t : Text) : Char := if t.contains '\'' && !t.contains '"' then '"' else '\''

/-- A character that is not printable, by its code point. -/
def codeEscape (n : Nat) : Text :=
  if n < 0x100 then '\\' :: 'x' :: hex 2 n
  else if n < 0x10000 then '\\' :: 'u' :: hex 4 n
  else '\\' :: 'U' :: hex 8 n

/-- How a character is written between two `quote`s, when `plain` says which characters stand for
themselves. -/
def escaped (plain : Char → Bool) (quote c : Char) : Text :=
  if c = quote ∨ c = '\\' then ['\\', c]
  else if c = '\t' then ['\\', 't']
  else if c = '\n' then ['\\', 'n']
  else if c = '\r' then ['\\', 'r']
  else if plain c then [c]
  else codeEscape c.toNat

/-- A text between quotes, when `plain` says which characters stand for themselves. -/
def quotedBy (plain : Char → Bool) (t : Text) : Text :=
  quoteFor t :: t.flatMap (escaped plain (quoteFor t)) ++ [quoteFor t]

/-- A text between quotes, with every printable character as it is. -/
def quoted (t : Text) : Text := quotedBy isPrintable t

end SqlScript.Text
