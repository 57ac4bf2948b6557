import SqlScript.Text.CaseTable

/-!
# Upper, lower and title case

The full case mappings of texts, in which one character may become several. Upper case is taken
character by character. Lower case looks at the neighbours for one letter only: a capital sigma
becomes `ς` at the end of a word and `σ` elsewhere. In title case the first cased character of a
stretch of cased characters is in title case and the others are in lower case.
-/

namespace SqlScript.Text

/-- The form of a character that two tables give, the long forms first, or the character itself. -/
def mapped (long : List (Nat × List Nat)) (short : List Run) (c : Char) : Text :=
  match valueAt? long c.toNat with
  | some form => form.map Char.ofNat
  | none =>
    match follow short c.toNat with
    | some n => [Char.ofNat n]
    | none => [c]

/-! ### Upper case -/

/-- The upper-case form of a character. -/
def upperOf (c : Char) : Text := mapped longUpper upperRuns c

/-- The text in upper case. -/
def upper (t : Text) : Text := t.flatMap upperOf

/-! ### Lower case -/

/-- The lower-case form of a character that does not depend on its neighbours. -/
def lowerOf (c : Char) : Text := mapped longLower lowerRuns c

/-- Whether a character has the property Cased. -/
def isCased (c : Char) : Bool := covers casedRanges c.toNat

/-- Whether a character is skipped when the neighbours of a letter are looked for. -/
def isCaseIgnorable (c : Char) : Bool := covers ignorableRanges c.toNat

/-- Whether the nearest character that is not skipped is cased. -/
def meetsCased (t : Text) : Bool := (t.dropWhile isCaseIgnorable).head?.any isCased

/-- The lower-case form of a character between the text before it, nearest character first, and the
text after it. -/
def lowerBetween (before : Text) (c : Char) (after : Text) : Text :=
  if c = 'Σ' then
    if meetsCased before && !meetsCased after then ['ς'] else ['σ']
  else lowerOf c

/-- The text in lower case, when `before` stands before it with the nearest character first. -/
def lowerAfter (before : Text) : Text → Text
  | [] => []
  | c :: cs => lowerBetween before c cs ++ lowerAfter (c :: before) cs

/-- The text in lower case. -/
def lower (t : Text) : Text := lowerAfter [] t

/-! ### Title case -/

/-- The title-case form of a character. -/
def titleOf (c : Char) : Text :=
  match valueAt? ownTitle c.toNat with
  | some form => form.map Char.ofNat
  | none => upperOf c

/-- The text in title case, when `before` stands before it with the nearest character first. -/
def titleAfter (before : Text) : Text → Text
  | [] => []
  | c :: cs =>
    (if before.head?.any isCased then lowerBetween before c cs else titleOf c) ++
      titleAfter (c :: before) cs

/-- The text in title case: a cased character that follows a cased one is in lower case, and every
other in title case. -/
def title (t : Text) : Text := titleAfter [] t

end SqlScript.Text
