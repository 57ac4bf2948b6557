import SqlScript.Text.Basic

/-!
# Similar texts

What a mistyped word may have been meant to be. Two texts are compared by their matching
characters: the longest stretch that stands in both, and then the matching characters to the left
of it and to the right of it. Of stretches of one length the first is taken. Their similarity is
the share of matching characters in both texts together, and texts are similar from a share of
three fifths on.
-/

namespace SqlScript.Text

/-- The length of the common beginning of two texts. -/
def commonLength : Text → Text → Nat
  | a :: as, b :: bs => if a = b then commonLength as bs + 1 else 0
  | _, _ => 0

/-- A stretch that stands in two texts: where it begins in each, and its length. -/
structure Stretch where
  /-- Where it begins in the first text. -/
  left : Nat
  /-- Where it begins in the second text. -/
  right : Nat
  /-- How long it is. -/
  length : Nat

/-- The longest stretch that stands in both texts, the first one of several. -/
def longestStretch (a b : Text) : Stretch :=
  let starts := (List.range a.length).flatMap fun i => (List.range b.length).map fun j => (i, j)
  starts.foldl
    (fun best start =>
      let length := commonLength (a.drop start.1) (b.drop start.2)
      if best.length < length then ⟨start.1, start.2, length⟩ else best)
    ⟨0, 0, 0⟩

/-- The number of matching characters of two texts. -/
def matching (a b : Text) : Nat :=
  match longestStretch a b with
  | ⟨left, right, length⟩ =>
    if length = 0 ∨ a.length < left + length then 0
    else
      length + matching (a.take left) (b.take right) +
        matching (a.drop (left + length)) (b.drop (right + length))
termination_by a.length
decreasing_by all_goals simp only [List.length_take, List.length_drop]; omega

/-- The similarity of two texts, as a quotient. -/
def similarity (a b : Text) : Nat × Nat := (2 * matching a b, a.length + b.length)

/-- Whether two texts are of lengths at which they can be similar: no more characters match than the
shorter text has. -/
def nearInLength (a b : Text) : Bool :=
  3 * (a.length + b.length) ≤ 10 * min a.length b.length

/-- Whether the first quotient is the greater one. -/
def greaterShare (a b : Nat × Nat) : Bool := b.1 * a.2 < a.1 * b.2

/-- Whether the first of two texts is the second or comes before it, character by character. -/
def inOrder : Text → Text → Bool
  | [], _ => true
  | _ :: _, [] => false
  | a :: as, b :: bs => a.toNat < b.toNat || a = b && inOrder as bs

/-- The words that are similar to a text, in order; at most three of them, and those the most
similar ones, of which the later in the order come first where they are equally so. -/
def similarTo (text : Text) (words : List Text) : List Text :=
  let compared := (words.filter (nearInLength text)).map fun word => (similarity word text, word)
  let near := compared.filter fun e => 3 * e.1.2 ≤ 5 * e.1.1
  let ranked := near.mergeSort fun a b =>
    greaterShare a.1 b.1 || !greaterShare b.1 a.1 && inOrder b.2 a.2
  ((ranked.take 3).map (·.2)).mergeSort inOrder

end SqlScript.Text
