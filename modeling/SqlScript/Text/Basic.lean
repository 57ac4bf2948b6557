/-!
# Texts and tables of code points

A text is the list of its characters, and every position or count in this library is a number of
characters. What the library knows about letters is kept in ascending tables of code points, read by
two functions: `covers` for a set given as ranges, and `follow` for a one-to-one map given as runs.
Both walk their table from the left and stop as soon as the ranges begin above the code point asked
for, so an ASCII character costs a step or two whatever the size of the table.
-/

namespace SqlScript

/-- A text, as the list of its characters. -/
abbrev Text := List Char

/-- A literal text is read as the list of its characters. -/
scoped instance : Coe String Text := ⟨String.toList⟩

namespace Text

/-- The decimal digits of a natural number. -/
def ofNat (n : Nat) : Text := Nat.toDigits 10 n

/-- The decimal digits of an integer, after `-` if it is negative. -/
def ofInt : Int → Text
  | .ofNat n => ofNat n
  | .negSucc n => '-' :: ofNat (n + 1)

/-! ### Sets of code points -/

/-- Whether one of the ranges `(first, last)` of an ascending table holds `n`. -/
def covers : List (Nat × Nat) → Nat → Bool
  | [], _ => false
  | (first, last) :: rest, n =>
    if n < first then false else if n ≤ last then true else covers rest n

/-! ### Maps of code points -/

/-- The code points `first`, `first + stride`, …, `last`, sent in order to
`image`, `image + stride`, …. -/
structure Run where
  /-- The least code point that moves. -/
  first : Nat
  /-- The greatest code point that moves. -/
  last : Nat
  /-- The distance between neighbours, 1 or 2: with 2 the capital and small forms alternate. -/
  stride : Nat
  /-- Where `first` goes. -/
  image : Nat

/-- The image of `n` under an ascending table of runs, if one of them moves it. -/
def follow : List Run → Nat → Option Nat
  | [], _ => none
  | r :: rest, n =>
    if n < r.first then none
    else if n ≤ r.last then
      if (n - r.first) % r.stride = 0 then some (r.image + (n - r.first)) else follow rest n
    else follow rest n

/-- The entry of `n` in an ascending table of single code points. -/
def valueAt? {α : Type} : List (Nat × α) → Nat → Option α
  | [], _ => none
  | (key, value) :: rest, n =>
    if n < key then none else if n = key then some value else valueAt? rest n

/-! ### Searching -/

/-- Whether `sought` stands somewhere in the text. -/
def occursIn (sought : Text) : Text → Bool
  | [] => sought.isEmpty
  | c :: cs => sought.isPrefixOf (c :: cs) || occursIn sought cs

end Text

end SqlScript
