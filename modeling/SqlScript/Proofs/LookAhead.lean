import SqlScript.Proofs.Reading
import SqlScript.Proofs.Trimming

/-!
# How far the reader looks ahead

The reader takes one character at a time, and of what follows it asks only two things: whether an
opener stands there, and whether a block end does. So a text can go on behind a place without a
difference to how what stands before that place is read, if no word goes over it. This file says
where that is so (`OutOfSight`): before a line break or a slash, before blank characters that are
all that follows, and behind the line break that ends a line (`Reader.readLines_of_breaks`).

A blank character is no part of any word, so reading it asks nothing at all. It joins the stretch
that is being read and leaves open what is open (`Reader.read_blank`).
-/

namespace SqlScript

open SqlScript.Text SqlScript.Word

/-! ### What the reader does not look at -/

/-- **`v` is out of sight** of everything that is read before it. -/
def OutOfSight (openers : List Text) (v : Text) : Prop :=
  ∀ (mode : Mode) (afterName : Bool) (c : Char) (rest : Text),
    mode.next openers afterName c (rest ++ v) = mode.next openers afterName c rest

/-- Only the two questions about words look at what follows. -/
theorem Mode.next_append {openers : List Text} (hopeners : Named openers) {c : Char} {rest v : Text}
    (hcut : Apart (c :: rest) v) (hclose : closesBlock (c :: rest ++ v) = closesBlock (c :: rest))
    (mode : Mode) (afterName : Bool) :
    mode.next openers afterName c (rest ++ v) = mode.next openers afterName c rest := by
  cases mode with
  | plain => simp only [next, ← List.cons_append, opener?_append hopeners hcut]
  | literal => rfl
  | closing => rfl
  | block owed quoted =>
    cases owed with
    | zero => simp only [next, ← List.cons_append, hclose]
    | succ owed => rfl

/-- Names do not go on over a delimiter. -/
theorem apart_of_forall_head {v : Text} (hv : ∀ c ∈ v.head?, isDelimiter c = true) (u : Text) :
    Apart u v := by
  rcases hhead : v.head? with _ | d
  · exact Or.inl (List.head?_eq_none_iff.mp hhead)
  · exact apart_of_head hhead (hv d hhead)

section OutOfSight

variable {openers : List Text} (hopeners : Named openers) {v : Text}

include hopeners

/-- **What begins with a line break or a slash** is out of sight. -/
theorem outOfSight_of_head (hv : ∀ c ∈ v.head?, isLineBreak c = true ∨ c = '/') :
    OutOfSight openers v := by
  intro mode afterName c rest
  refine Mode.next_append hopeners (apart_of_forall_head (fun d hd => ?_) _)
    (closesBlock_append hv) mode afterName
  rcases hv d hd with hbreak | rfl
  · exact isDelimiter_of_isBlank (isBlank_of_isLineBreak hbreak)
  · rfl

/-- **Blank characters** that nothing follows are out of sight. -/
theorem outOfSight_of_blank (hv : ∀ c ∈ v, isBlank c = true) : OutOfSight openers v := by
  intro mode afterName c rest
  refine Mode.next_append hopeners (apart_of_forall_head (fun d hd => ?_) _)
    (closesBlock_append_of_no_semicolon fun hsemi => ?_) mode afterName
  · exact isDelimiter_of_isBlank (hv d (List.mem_of_mem_head? hd))
  · exact absurd (hv _ hsemi) (by decide)

end OutOfSight

/-! ### Blank characters -/

/-- The mode behind a blank character: only an opener that is being read goes on. -/
def Mode.pass : Mode → Mode
  | block (owed + 1) quoted => block owed quoted
  | mode => mode

@[simp] theorem Mode.kind_pass (mode : Mode) : mode.pass.kind = mode.kind := by
  rcases mode with _ | _ | ⟨_ | owed, quoted⟩ | _ <;> rfl

@[simp] theorem Mode.endLine_pass (mode : Mode) : mode.pass.endLine = mode.endLine := by
  rcases mode with _ | _ | ⟨_ | owed, quoted⟩ | _ <;> rfl

@[simp] theorem Mode.endLine_endLine (mode : Mode) : mode.endLine.endLine = mode.endLine := by
  cases mode <;> rfl

/-- A delimiter is no letter. -/
theorem isLetter_of_isDelimiter {c : Char} (hc : isDelimiter c = true) : isLetter c = false := by
  rw [Bool.eq_false_iff]
  intro hletter
  have hname := isNameChar_of_isLetter hletter
  rw [isNameChar_of_isDelimiter hc] at hname
  exact Bool.false_ne_true hname

/-- A blank character is no letter. -/
theorem isLetter_of_isBlank {c : Char} (hc : isBlank c = true) : isLetter c = false :=
  isLetter_of_isDelimiter (isDelimiter_of_isBlank hc)

/-- **A blank character asks nothing of what follows.** -/
theorem Mode.next_blank {c : Char} (hc : isBlank c = true) (openers : List Text) (mode : Mode)
    (afterName : Bool) (rest : Text) : mode.next openers afterName c rest = mode.pass := by
  have hquote : c ≠ '\'' := by
    rintro rfl
    exact absurd hc (by decide)
  have hsemi : c ≠ ';' := by
    rintro rfl
    exact absurd hc (by decide)
  rcases mode with _ | _ | ⟨_ | owed, quoted⟩ | _
  · simp [next, pass, hquote, isLetter_of_isBlank hc]
  · simp [next, pass, hquote]
  · simp [next, pass, hquote, closesBlock_cons (isDelimiter_of_isBlank hc)]
  · rfl
  · simp [next, pass, hsemi]

namespace Reader

/-- **Reading a blank character** adds it to the stretch. -/
theorem read_blank {c : Char} (hc : isBlank c = true) (openers : List Text) (r : Reader)
    (rest : Text) : r.read openers c rest = ⟨r.mode.pass, c :: r.body, r.cuts⟩ := by
  have hcuts : r.mode.cuts c = false := by
    rw [Bool.eq_false_iff]
    intro h
    obtain ⟨-, rfl⟩ := Mode.cuts_eq_true h
    exact absurd hc (by decide)
  rw [read_of_not_cuts openers hcuts, Mode.next_blank hc]

/-- Blank characters at the end of a line only join the stretch. -/
theorem endLine_scan_blank {w : Text} (hw : ∀ c ∈ w, isBlank c = true) (openers : List Text)
    (r : Reader) (rest : Text) :
    (scan openers w r rest).endLine = ⟨r.mode.endLine, w.reverse ++ r.body, r.cuts⟩ := by
  induction w generalizing r with
  | nil => rfl
  | cons c w ih =>
    obtain ⟨hc, hw⟩ := List.forall_mem_cons.mp hw
    rw [scan, read_blank hc, ih hw, Mode.endLine_pass, List.reverse_cons, List.append_assoc]
    rfl

/-! ### Stretches and lines -/

section OutOfSight

variable {openers : List Text} {v : Text} (hv : OutOfSight openers v)

include hv

theorem read_lookAhead (r : Reader) (c : Char) (rest : Text) :
    r.read openers c (rest ++ v) = r.read openers c rest := by
  unfold read
  split
  · rfl
  · rfl
  · rw [hv]

theorem scan_lookAhead (front : Text) (r : Reader) (rest : Text) :
    scan openers front r (rest ++ v) = scan openers front r rest := by
  induction front generalizing r with
  | nil => rfl
  | cons c front ih => rw [scan, scan, ← List.append_assoc, read_lookAhead hv, ih]

/-- **What is out of sight does not change how the lines before it are read.** -/
theorem readLines_lookAhead (ls : List Text) (r : Reader) (rest : Text) :
    readLines openers ls r (ls.flatten ++ (rest ++ v)) =
      readLines openers ls r (ls.flatten ++ rest) := by
  induction ls generalizing r with
  | nil => rfl
  | cons line ls ih =>
    rw [List.flatten_cons, List.append_assoc, List.append_assoc, readLines_cons, readLines_cons,
      ← List.append_assoc, scan_lookAhead hv, List.append_assoc, ih]

end OutOfSight

section Breaks

variable {openers : List Text} (hopeners : Named openers)

include hopeners

/-- Behind its line break a line is not looked on. -/
theorem scan_of_break {line : Text} {c : Char} (hc : c ∈ line.getLast?)
    (hbreak : isLineBreak c = true) (r : Reader) (rest : Text) :
    scan openers line r rest = scan openers line r [] := by
  have hsight : ∀ rest, OutOfSight openers ([c] ++ rest) := fun rest => by
    refine outOfSight_of_head hopeners ?_
    rintro d ⟨⟩
    exact Or.inl hbreak
  have hfront : ∀ rest, scan openers line.dropLast r ([c] ++ rest) =
      scan openers line.dropLast r [] := fun rest => by
    rw [← List.nil_append ([c] ++ rest), scan_lookAhead (hsight rest)]
  rw [← List.dropLast_append_getLast? c hc, scan_append, scan_append, hfront, hfront]
  simp only [scan, read_blank (isBlank_of_isLineBreak hbreak)]

/-- **Lines that end with line breaks are read alike whatever follows them.** -/
theorem readLines_of_breaks {ls : List Text}
    (hls : ∀ l ∈ ls, ∃ c ∈ l.getLast?, isLineBreak c = true) (r : Reader) (rest : Text) :
    readLines openers ls r (ls.flatten ++ rest) = readLines openers ls r ls.flatten := by
  induction ls generalizing r with
  | nil => rfl
  | cons line ls ih =>
    obtain ⟨⟨c, hc, hbreak⟩, hls⟩ := List.forall_mem_cons.mp hls
    rw [List.flatten_cons, List.append_assoc, readLines_cons, readLines_cons,
      scan_of_break hopeners hc hbreak, scan_of_break hopeners hc hbreak r ls.flatten, ih hls]

end Breaks

end Reader

end SqlScript
