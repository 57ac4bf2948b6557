import Mathlib.Data.List.Find
import Mathlib.Data.List.Forall2
import Mathlib.Data.List.TakeWhile
import SqlScript.Dialect
import SqlScript.Proofs.Delimiters
import SqlScript.Word

/-!
# What stands at a place of a script

The two questions that the reader asks of the text ahead, answered in terms of the text itself: a
word opens a block where some stretch spells it (`Word.opener?_eq_some`), and a block closes where a
stretch is a block end (`Word.closesBlock_iff`).

What matters about both is how far they look. A block end lies on one line and its semicolon is the
first, so what follows a line break or a slash has no part in it. Openers that consist of name
characters (`Word.Named`) are cut off by any delimiter (`Word.opener?_append`), so where a text ends
or meets a delimiter the openers in it are the same as those of the longer text.
-/

namespace SqlScript.Word

open SqlScript.Text

/-! ### Spelling -/

/-- **`front` spells `word`**: the same letters in the same order, but for their case. -/
def Spells (word front : Text) : Prop :=
  List.Forall₂ (fun w c => sameLetter w c = true) word front

theorem startsWithLetters_iff {word text : Text} :
    startsWithLetters word text = true ↔
      ∃ front rest, text = front ++ rest ∧ Spells word front := by
  induction word generalizing text with
  | nil => exact ⟨fun _ => ⟨[], text, rfl, .nil⟩, fun _ => by simp [startsWithLetters]⟩
  | cons w word ih =>
    cases text with
    | nil =>
      constructor
      · intro h
        simp [startsWithLetters] at h
      · rintro ⟨front, rest, h, hs⟩
        obtain ⟨rfl, -⟩ := List.nil_eq_append_iff.mp h
        cases hs
    | cons c text =>
      rw [startsWithLetters, Bool.and_eq_true, ih]
      constructor
      · rintro ⟨hc, front, rest, rfl, hs⟩
        exact ⟨c :: front, rest, rfl, .cons hc hs⟩
      · rintro ⟨front, rest, h, hs⟩
        cases hs with
        | cons hc hs =>
          rw [List.cons_append, List.cons.injEq] at h
          obtain ⟨rfl, rfl⟩ := h
          exact ⟨hc, _, rest, rfl, hs⟩

theorem Spells.length_eq {word front : Text} (h : Spells word front) :
    word.length = front.length :=
  List.Forall₂.length_eq h

/-- What spells a word of name characters holds no delimiter. -/
theorem Spells.isDelimiter_eq_false {word front : Text} (h : Spells word front)
    (hw : ∀ w ∈ word, isNameChar w = true) : ∀ c ∈ front, isDelimiter c = false := by
  induction h with
  | nil => simp
  | @cons w c word front hc _ ih =>
    intro d hd
    rcases List.mem_cons.mp hd with rfl | hd
    · by_contra hdel
      rw [sameLetter_delimiter (hw w List.mem_cons_self) (Bool.not_eq_false _ ▸ hdel)] at hc
      exact Bool.false_ne_true hc
    · exact ih (fun w hw' => hw w (List.mem_cons_of_mem _ hw')) d hd

/-! ### Openers -/

/-- **The words consist of name characters.** -/
def Named (words : List Text) : Prop := ∀ word ∈ words, ∀ c ∈ word, isNameChar c = true

/-- The words that open a block by default consist of letters. -/
theorem named_default : Named ({} : Dialect).openers := by
  have hall : (({} : Dialect).openers.all fun word => word.all isNameChar) = true := by
    decide +kernel
  intro word hword c hc
  exact List.all_eq_true.mp (List.all_eq_true.mp hall word hword) c hc

theorem standsAt_iff {word text : Text} :
    standsAt word text = true ↔
      ∃ front rest, text = front ++ rest ∧ Spells word front ∧ startsName rest = false := by
  rw [standsAt, Bool.and_eq_true, Bool.not_eq_true', startsWithLetters_iff]
  constructor
  · rintro ⟨⟨front, rest, rfl, hs⟩, hname⟩
    rw [hs.length_eq, List.drop_left] at hname
    exact ⟨front, rest, rfl, hs, hname⟩
  · rintro ⟨front, rest, rfl, hs, hname⟩
    refine ⟨⟨front, rest, rfl, hs⟩, ?_⟩
    rwa [hs.length_eq, List.drop_left]

theorem mem_of_mem_inUse {words : List Text} {word : Text} (h : word ∈ inUse words) :
    word ∈ words := by
  rw [inUse] at h
  split_ifs at h
  · exact (List.mem_filter.mp h).1
  · exact h

/-- **An opener is spelled by the front of the text**, and the rest does not begin with a name
character. -/
theorem opener?_eq_some {words : List Text} {text : Text} {n : Nat}
    (h : opener? words text = some n) :
    ∃ word ∈ words, ∃ front rest, text = front ++ rest ∧ front.length = n ∧ Spells word front ∧
      startsName rest = false := by
  rw [opener?, Option.map_eq_some_iff] at h
  obtain ⟨word, hfind, rfl⟩ := h
  obtain ⟨front, rest, htext, hs, hname⟩ := standsAt_iff.mp (by simpa using List.find?_some hfind)
  exact ⟨word, mem_of_mem_inUse (List.mem_of_find?_eq_some hfind), front, rest, htext,
    hs.length_eq.symm, hs, hname⟩

/-- An opener of name characters holds no delimiter, and it is not empty where a name begins. -/
theorem opener?_front {words : List Text} (hwords : Named words) {text : Text} {n : Nat}
    (h : opener? words text = some n) (hname : startsName text = true) :
    0 < n ∧ n ≤ text.length ∧ ∀ c ∈ text.take n, isDelimiter c = false := by
  obtain ⟨word, hword, front, rest, rfl, rfl, hs, hrest⟩ := opener?_eq_some h
  refine ⟨?_, by simp, ?_⟩
  · rcases front with _ | ⟨c, front⟩
    · rw [List.nil_append, hrest] at hname
      exact absurd hname Bool.false_ne_true
    · exact Nat.succ_pos _
  · rw [List.take_left]
    exact hs.isDelimiter_eq_false (hwords word hword)

/-! ### How far an opener looks -/

/-- **No word goes over the cut between `u` and `v`**: there is nothing behind it, or a delimiter on
one of its sides. -/
def Apart (u v : Text) : Prop :=
  v = [] ∨ (∃ c ∈ v.head?, isDelimiter c = true) ∨ ∃ c ∈ u.getLast?, isDelimiter c = true

theorem apart_of_head {u v : Text} {c : Char} (hc : c ∈ v.head?) (h : isDelimiter c = true) :
    Apart u v :=
  Or.inr (Or.inl ⟨c, hc, h⟩)

/-- Only the end of what is before a cut matters. -/
theorem Apart.suffix {x y v : Text} (h : Apart (x ++ y) v) (hy : y ≠ []) : Apart y v := by
  rwa [Apart, List.getLast?_append_of_ne_nil x hy] at h

/-- A stretch without a delimiter that ends behind a cut does not begin before it. -/
theorem prefix_of_apart {u v front rest : Text} (hcut : Apart u v) (h : u ++ v = front ++ rest)
    (hfront : ∀ c ∈ front, isDelimiter c = false) : ∃ y, u = front ++ y ∧ rest = y ++ v := by
  rcases List.append_eq_append_iff.mp h with ⟨x, rfl, hv⟩ | ⟨y, rfl, hrest⟩
  · rcases x with _ | ⟨c, x⟩
    · exact ⟨[], by simp, by simpa using hv.symm⟩
    · -- the stretch would go over the cut, and there is a delimiter at the cut
      exfalso
      rcases hcut with rfl | ⟨d, hd, hdel⟩ | ⟨d, hd, hdel⟩
      · simp at hv
      · obtain rfl : c = d := by simpa [hv] using hd
        rw [hfront c (by simp)] at hdel
        exact Bool.false_ne_true hdel
      · rw [hfront d (List.mem_append_left _ (List.mem_of_getLast? hd))] at hdel
        exact Bool.false_ne_true hdel
  · exact ⟨y, rfl, hrest⟩

theorem startsName_append {y v u : Text} (hcut : Apart (u ++ y) v)
    (hu : ∀ c ∈ u, isDelimiter c = false) : startsName (y ++ v) = startsName y := by
  rcases y with _ | ⟨c, y⟩
  · rw [List.nil_append]
    rcases hcut with rfl | ⟨d, hd, hdel⟩ | ⟨d, hd, hdel⟩
    · rfl
    · rw [startsName, Option.mem_def.mp hd, Option.any_some, isNameChar_of_isDelimiter hdel]
      rfl
    · rw [List.append_nil] at hd
      rw [hu d (List.mem_of_getLast? hd)] at hdel
      exact absurd hdel Bool.false_ne_true
  · rfl

theorem standsAt_append {word u v : Text} (hword : ∀ c ∈ word, isNameChar c = true)
    (hcut : Apart u v) : standsAt word (u ++ v) = standsAt word u := by
  rw [Bool.eq_iff_iff, standsAt_iff, standsAt_iff]
  constructor
  · rintro ⟨front, rest, h, hs, hname⟩
    have hfront := hs.isDelimiter_eq_false hword
    obtain ⟨y, rfl, rfl⟩ := prefix_of_apart hcut h hfront
    exact ⟨front, y, rfl, hs, by rwa [startsName_append hcut hfront] at hname⟩
  · rintro ⟨front, y, rfl, hs, hname⟩
    have hfront := hs.isDelimiter_eq_false hword
    exact ⟨front, y ++ v, by simp, hs, by rwa [startsName_append hcut hfront]⟩

/-- **The opener at a place does not depend on what stands behind a cut that no word goes over.** -/
theorem opener?_append {words : List Text} (hwords : Named words) {u v : Text} (hcut : Apart u v) :
    opener? words (u ++ v) = opener? words u := by
  rw [opener?, opener?]
  refine congrArg _ (List.find?_congr fun word hword => ?_)
  exact standsAt_append (hwords word (mem_of_mem_inUse hword)) hcut

/-! ### Block ends -/

/-- **A block end**: the letters of `END`, any spaces and tabs, and a semicolon. -/
def IsBlockEnd (e : Text) : Prop :=
  ∃ word gap, e = word ++ gap ++ [';'] ∧ Spells ['E', 'N', 'D'] word ∧
    ∀ c ∈ gap, c = ' ' ∨ c = '\t'

/-- **A block closes where a block end stands.** -/
theorem closesBlock_iff {text : Text} :
    closesBlock text = true ↔ ∃ e rest, text = e ++ rest ∧ IsBlockEnd e := by
  rw [closesBlock, Bool.and_eq_true, startsWithLetters_iff, beq_iff_eq]
  constructor
  · rintro ⟨⟨word, rest, rfl, hs⟩, hhead⟩
    have hlen : word.length = 3 := hs.length_eq.symm
    rw [← hlen, List.drop_left] at hhead
    obtain ⟨tail, htail⟩ := List.head?_eq_some_iff.mp hhead
    refine ⟨word ++ rest.takeWhile (fun c => c = ' ' || c = '\t') ++ [';'], tail, ?_, word, _, rfl,
      hs, fun c hc => by simpa using List.mem_takeWhile_imp hc⟩
    have hrest := List.takeWhile_append_dropWhile (p := fun c => c = ' ' || c = '\t') (l := rest)
    conv_lhs => rw [← hrest, htail]
    simp
  · rintro ⟨e, rest, rfl, word, gap, rfl, hs, hgap⟩
    have hlen : word.length = 3 := hs.length_eq.symm
    refine ⟨⟨word, gap ++ [';'] ++ rest, by simp, hs⟩, ?_⟩
    rw [List.append_assoc, List.append_assoc, ← hlen, List.drop_left,
      List.dropWhile_append_of_pos fun c hc => by simpa using hgap c hc]
    simp

/-- What spells `END` holds no delimiter. -/
theorem isDelimiter_of_spells_end {word : Text} (h : Spells ['E', 'N', 'D'] word) :
    ∀ c ∈ word, isDelimiter c = false := by
  have hall : (['E', 'N', 'D'].all isNameChar) = true := by decide +kernel
  exact h.isDelimiter_eq_false (List.all_eq_true.mp hall)

/-- What a block end holds before its semicolon. -/
theorem IsBlockEnd.eq_append {e : Text} (h : IsBlockEnd e) :
    ∃ init, e = init ++ [';'] ∧ 3 ≤ init.length ∧
      ∀ c ∈ init, c ≠ ';' ∧ c ≠ '/' ∧ c ≠ '\'' ∧ isLineBreak c = false := by
  obtain ⟨word, gap, rfl, hs, hgap⟩ := h
  refine ⟨word ++ gap, rfl, ?_, ?_⟩
  · rw [List.length_append, ← hs.length_eq]
    simp
  · intro c hc
    rcases List.mem_append.mp hc with hc | hc
    · have hdel := isDelimiter_of_spells_end hs c hc
      have hblank : isLineBreak c = false := isLineBreak_of_not_isDelimiter hdel
      refine ⟨?_, ?_, ?_, hblank⟩ <;> rintro rfl <;> exact absurd hdel (by decide)
    · rcases hgap c hc with rfl | rfl <;> decide

/-- A block end begins with a letter. -/
theorem IsBlockEnd.exists_head {e : Text} (h : IsBlockEnd e) :
    ∃ c, e.head? = some c ∧ isDelimiter c = false := by
  obtain ⟨word, gap, rfl, hs, -⟩ := h
  have hnone := isDelimiter_of_spells_end hs
  cases hs with
  | @cons _ c _ word _ _ => exact ⟨c, rfl, hnone c List.mem_cons_self⟩

theorem IsBlockEnd.getLast? {e : Text} (h : IsBlockEnd e) : e.getLast? = some ';' := by
  obtain ⟨init, rfl, -⟩ := h.eq_append
  simp

theorem IsBlockEnd.ne_nil {e : Text} (h : IsBlockEnd e) : e ≠ [] := by
  obtain ⟨init, rfl, -⟩ := h.eq_append
  simp

/-- No block closes at a delimiter. -/
theorem closesBlock_cons {c : Char} (hc : isDelimiter c = true) (rest : Text) :
    closesBlock (c :: rest) = false := by
  rw [Bool.eq_false_iff]
  intro h
  obtain ⟨e, rest', heq, he⟩ := closesBlock_iff.mp h
  obtain ⟨d, hd, hdel⟩ := he.exists_head
  obtain ⟨e, rfl⟩ := List.head?_eq_some_iff.mp hd
  rw [List.cons_append, List.cons.injEq] at heq
  rw [heq.1, hdel] at hc
  exact Bool.false_ne_true hc

/-- A longer text has the block ends of the shorter one. -/
theorem closesBlock_append_of {u : Text} (h : closesBlock u = true) (v : Text) :
    closesBlock (u ++ v) = true := by
  obtain ⟨e, rest, rfl, he⟩ := closesBlock_iff.mp h
  exact closesBlock_iff.mpr ⟨e, rest ++ v, by simp, he⟩

/-- A text has the block ends of its front if none goes over the end of that. -/
theorem closesBlock_append_of_not_isBlockEnd {u v : Text}
    (h : ∀ x y, v = x ++ y → x ≠ [] → ¬IsBlockEnd (u ++ x)) :
    closesBlock (u ++ v) = closesBlock u := by
  rw [Bool.eq_iff_iff]
  refine ⟨fun hclose => ?_, fun hclose => closesBlock_append_of hclose v⟩
  obtain ⟨e, rest, heq, he⟩ := closesBlock_iff.mp hclose
  rcases List.append_eq_append_iff.mp heq with ⟨x, rfl, hv⟩ | ⟨y, rfl, -⟩
  · rcases eq_or_ne x [] with rfl | hx
    · exact closesBlock_iff.mpr ⟨_, [], by simp, he⟩
    · exact absurd he (h x rest hv hx)
  · exact closesBlock_iff.mpr ⟨e, y, rfl, he⟩

/-- **A line break or a slash cuts off a block end.** -/
theorem closesBlock_append {u v : Text}
    (hv : ∀ c ∈ v.head?, isLineBreak c = true ∨ c = '/') :
    closesBlock (u ++ v) = closesBlock u := by
  refine closesBlock_append_of_not_isBlockEnd fun x y hxy hx he => ?_
  -- the block end would hold the first character of `v`
  obtain ⟨c, x, rfl⟩ := List.exists_cons_of_ne_nil hx
  have hc := hv c (by rw [hxy]; rfl)
  obtain ⟨init, heq, -, hinit⟩ := he.eq_append
  have hmem : c ∈ init ++ [';'] := by
    rw [← heq]
    simp
  rcases List.mem_append.mp hmem with hmem | hmem
  · rcases hc with hbreak | hslash
    · rw [(hinit c hmem).2.2.2] at hbreak
      exact Bool.false_ne_true hbreak
    · exact (hinit c hmem).2.1 hslash
  · rw [List.mem_singleton.mp hmem] at hc
    exact absurd hc (by decide)

/-- What holds no semicolon does not go on with a block end. -/
theorem closesBlock_append_of_no_semicolon {u v : Text} (hv : ';' ∉ v) :
    closesBlock (u ++ v) = closesBlock u := by
  refine closesBlock_append_of_not_isBlockEnd fun x y hxy hx he => hv ?_
  have hlast := he.getLast?
  rw [List.getLast?_append_of_ne_nil u hx] at hlast
  rw [hxy]
  exact List.mem_append_left y (List.mem_of_getLast? hlast)

end SqlScript.Word
