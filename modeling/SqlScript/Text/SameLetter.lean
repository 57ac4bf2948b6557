import SqlScript.Text.Case

/-!
# Letters compared without their case

Two characters are the same letter when the first characters of their lower-case forms agree, or are
variants of each other: the dotless `ı` of `i`, the long `ſ` of `s`, the micro sign of `μ`, the
final `ς` of `σ`, and the like. Each set of variants is represented by its least member, so that
being the same letter is an equivalence by construction. The comparison is one-to-one: `ß` is not
the same as `ss`.
-/

namespace SqlScript.Text

/-- The small letters that are variants of another, with that other. -/
def variants : List (Nat × Nat) :=
  [(0x131, 0x69), (0x17F, 0x73), (0x3B9, 0x345), (0x3BC, 0xB5), (0x3C3, 0x3C2), (0x3D0, 0x3B2),
   (0x3D1, 0x3B8), (0x3D5, 0x3C6), (0x3D6, 0x3C0), (0x3F0, 0x3BA), (0x3F1, 0x3C1), (0x3F5, 0x3B5),
   (0x1C80, 0x432), (0x1C81, 0x434), (0x1C82, 0x43E), (0x1C83, 0x441), (0x1C84, 0x442),
   (0x1C85, 0x442), (0x1C86, 0x44A), (0x1C87, 0x463), (0x1E9B, 0x1E61), (0x1FBE, 0x345),
   (0x1FD3, 0x390), (0x1FE3, 0x3B0), (0xA64B, 0x1C88), (0xFB06, 0xFB05)]

/-- What a character is compared by: the first character of its lower-case form, or the character of
which that is a variant. -/
def letterKey (c : Char) : Nat :=
  let small := ((lowerOf c).head?.getD c).toNat
  (valueAt? variants small).getD small

/-- Whether two characters are the same letter but for their case. -/
def sameLetter (a b : Char) : Bool := letterKey a == letterKey b

/-- Whether a character is a capital beyond the basic plane, the first 65536 code points. -/
def isHighCapital (c : Char) : Bool := 0x10000 ≤ c.toNat && lowerOf c != [c]

/-- Whether `text` begins with `word`, letters compared without their case. -/
def startsWithLetters : (word text : Text) → Bool
  | [], _ => true
  | _ :: _, [] => false
  | w :: word, c :: text => sameLetter w c && startsWithLetters word text

end SqlScript.Text
