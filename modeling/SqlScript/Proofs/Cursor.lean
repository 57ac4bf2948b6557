import SqlScript.Proofs.Reading

/-!
# A cursor in a script

The reader takes one character at a time, so there is nothing to ask about how it gets on. A cursor
goes through a text by itself. At each turn of its loop it looks at the character where it stands
and at the one before; if a word that opens a block stands there, or a block end, it jumps behind
it, and else it goes on by one. It keeps the place where the pending statement begins, and cuts the
statement out of the text when it meets its end. At the end of a line it goes on at the beginning
of the next one, wherever a jump may have taken it.

Nothing in these definitions says that a jump goes forward, that a place is inside the text or that
the loops come to an end. A turn that looks at a place outside the text fails
(`Cursor.Step.outside`), and how many steps are made is for the caller to say (`Cursor.steps`). It
is proved here that every turn goes forward inside the text (`Cursor.Inside.exists_turn`), whatever
words open a block. An empty word would hold the cursor where it is, and of no words at all an empty
one is made; but the cursor looks for words at letters only, and behind the empty word the letter
would follow, which is a character of a name.
-/

namespace SqlScript

open SqlScript.Text SqlScript.Word

/-! ### Words at the cursor -/

namespace Word

/-- The words that open a block as the alternatives of one pattern. Of no words at all there is one
alternative, which is empty. -/
def alternatives : List Text → List Text
  | [] => [[]]
  | words => words

/-- The length of the block end at the beginning of the text, if one stands there. -/
def blockEnd? (text : Text) : Option Nat :=
  if closesBlock text then
    some (3 + ((text.drop 3).takeWhile fun c => c = ' ' || c = '\t').length + 1)
  else none

end Word

/-- What a cursor stands in. -/
inductive Region where
  /-- Plain text. -/
  | plain
  /-- A literal. -/
  | literal
  /-- A block; the quotes count and say whether a literal inside the block is open. -/
  | block (quoted : Bool)
  deriving DecidableEq, Repr

namespace Region

/-- The kind of a statement that ends in this region. -/
def kind : Region → Kind
  | block _ => .block
  | _ => .simple

/-- The region behind a character that is passed: a quote is the border of a literal. -/
def next (c : Char) : Region → Region
  | plain => if c = '\'' then literal else plain
  | literal => if c = '\'' then plain else literal
  | block quoted => if c = '\'' then block !quoted else block quoted

/-- The length of the word that is jumped over where the text goes on with `onward`, of which `c` is
the first character: a word that opens a block in plain text, and a block end in a block. No name
may go before either. -/
def word? (openers : List Text) (afterName : Bool) (c : Char) (onward : Text) :
    Region → Option Nat
  | plain =>
    if isLetter c && !afterName then opener? (alternatives openers) onward else none
  | literal => none
  | block quoted =>
    if !quoted && (c = 'e' || c = 'E') && !afterName then blockEnd? onward else none

end Region

/-- A cursor in a text, and what it has found. -/
structure Cursor where
  /-- What it stands in. -/
  region : Region := .plain
  /-- Where it stands: the number of the characters before it. -/
  place : Nat := 0
  /-- Where its line ends. -/
  lineEnd : Nat := 0
  /-- The lines behind its line. -/
  ahead : List Text := []
  /-- Where the pending statement begins, if a character of it has been met. -/
  start : Option Nat := none
  /-- The statements that have been cut out, the newest first. -/
  found : List Statement := []
  deriving DecidableEq, Repr

namespace Cursor

/-- The cursor before the first line of a text. -/
def ofText (text : Text) : Cursor := { ahead := lines text }

/-- The statement between two places of the text, unless nothing is left of it when it is
cleaned. -/
def statementAt? (text : Text) (kind : Kind) (start stop : Nat) : Option Statement :=
  let cleaned := Piece.text ⟨kind, (text.take stop).drop start, []⟩
  if cleaned.isEmpty then none else some ⟨cleaned, kind, start⟩

/-- Cut out the pending statement, which ends at `stop`. -/
def emit (text : Text) (stop : Nat) (kind : Kind) (k : Cursor) : Cursor :=
  { k with
    start := none
    found := (k.start.bind fun start => statementAt? text kind start stop).toList ++ k.found }

/-! ### A turn of the loop over a line -/

/-- Whether the character before a place belongs to a name. Where there is no such character there
is no answer, but the text begins behind no name. -/
def afterName? (text : Text) (place : Nat) : Option Bool :=
  if place = 0 then some false else text[place - 1]?.map isNameChar

/-- A statement begins at the first character in plain text that is not blank. -/
def begin (c : Char) (k : Cursor) : Cursor :=
  if k.region = .plain ∧ k.start = none ∧ isBlank c = false then { k with start := some k.place }
  else k

/-- Jump over a word. A block is opened by one and closed by the other. -/
def jump (text : Text) (length : Nat) (k : Cursor) : Cursor :=
  match k.region with
  | .block _ =>
    { k.emit text (k.place + length) .block with region := .plain, place := k.place + length }
  | _ => { k with region := .block false, place := k.place + length }

/-- Pass a character. A semicolon in plain text ends the pending statement, which stops before
it. -/
def pass (text : Text) (c : Char) (k : Cursor) : Cursor :=
  let passed := { k with region := k.region.next c, place := k.place + 1 }
  if k.region = .plain ∧ c = ';' then passed.emit text k.place .simple else passed

/-- **A turn of the loop over a line.** It fails where a place outside the text is looked at. -/
def turn (openers : List Text) (text : Text) (k : Cursor) : Option Cursor := do
  let c ← text[k.place]?
  let afterName ← afterName? text k.place
  match k.region.word? openers afterName c (text.drop k.place) with
  | some length => return (k.begin c).jump text length
  | none => return (k.begin c).pass text c

/-! ### The loop over the lines -/

/-- Go on to the next line. A line that holds only a slash ends the pending statement and is
skipped. -/
def nextLine (text line : Text) (ahead : List Text) (k : Cursor) : Cursor :=
  let stop := k.lineEnd + line.length
  if Directive.isLoneSlash line then
    { k.emit text k.lineEnd k.region.kind with
      region := .plain, place := stop, lineEnd := stop, ahead }
  else { k with place := k.lineEnd, lineEnd := stop, ahead }

/-- What comes of a step. -/
inductive Step where
  /-- The cursor goes on. -/
  | goesOn (k : Cursor)
  /-- The text is read, and these are its statements. -/
  | ends (statements : List Statement)
  /-- A place outside the text was looked at. -/
  | outside
  deriving DecidableEq, Repr

/-- A step: a turn inside a line, or the way to the next line, and behind the last one the end. -/
def step (openers : List Text) (text : Text) (k : Cursor) : Step :=
  if k.place < k.lineEnd then
    match k.turn openers text with
    | some k' => .goesOn k'
    | none => .outside
  else
    match k.ahead with
    | line :: ahead => .goesOn (k.nextLine text line ahead)
    | [] => .ends (k.emit text text.length k.region.kind).found.reverse

/-- What comes of so many steps. -/
def steps (openers : List Text) (text : Text) : Nat → Cursor → Step
  | 0, k => .goesOn k
  | n + 1, k =>
    match k.step openers text with
    | .goesOn k' => steps openers text n k'
    | outcome => outcome

variable {openers : List Text} {text : Text}

end Cursor

/-! ### No word is empty -/

namespace Word

/-- Where a name begins the empty word does not stand. -/
theorem opener?_alternatives (words : List Text) {text : Text} (h : startsName text = true) :
    opener? (alternatives words) text = opener? words text := by
  cases words with
  | nil => simp [alternatives, opener?, inUse, endInSet, standsAt, startsWithLetters, h]
  | cons word words => rfl

/-- **A word is not empty where a name begins**, whatever the words are, and it does not go beyond
the text. -/
theorem opener?_bounds {words : List Text} {text : Text} {n : Nat} (h : opener? words text = some n)
    (hname : startsName text = true) : 0 < n ∧ n ≤ text.length := by
  obtain ⟨word, -, front, rest, rfl, rfl, -, hrest⟩ := opener?_eq_some h
  refine ⟨List.length_pos_of_ne_nil ?_, by simp⟩
  rintro rfl
  rw [List.nil_append, hrest] at hname
  exact Bool.false_ne_true hname

theorem blockEnd?_eq_some {text : Text} {n : Nat} (h : blockEnd? text = some n) :
    ∃ e rest, text = e ++ rest ∧ IsBlockEnd e ∧ e.length = n := by
  rw [blockEnd?] at h
  split_ifs at h with hclose
  obtain ⟨e, rest, rfl, word, gap, rfl, hs, hgap⟩ := closesBlock_iff.mp hclose
  refine ⟨_, rest, rfl, ⟨word, gap, rfl, hs, hgap⟩, ?_⟩
  -- behind `END` the spaces and tabs go up to the semicolon and no further
  have hlen : word.length = 3 := hs.length_eq.symm
  rw [List.append_assoc, List.append_assoc, ← hlen, List.drop_left,
    List.takeWhile_append_of_pos fun c hc => by simpa using hgap c hc] at h
  simp only [List.singleton_append, List.takeWhile_cons, Option.some.injEq] at h
  rw [← h]
  simp
  omega

end Word

/-- **The words that the cursor jumps over are not empty**, whatever words open a block, and they
do not go beyond the text. -/
theorem Region.word?_bounds {openers : List Text} {region : Region} {afterName : Bool} {c : Char}
    {rest : Text} {n : Nat} (h : region.word? openers afterName c (c :: rest) = some n) :
    0 < n ∧ n ≤ (c :: rest).length := by
  rcases region with _ | _ | quoted
  · rw [word?] at h
    split_ifs at h with hletter
    rw [Bool.and_eq_true] at hletter
    exact opener?_bounds h (isNameChar_of_isLetter hletter.1)
  · simp [word?] at h
  · rw [word?] at h
    split_ifs at h
    obtain ⟨e, rest', heq, he, rfl⟩ := blockEnd?_eq_some h
    exact ⟨List.length_pos_of_ne_nil he.ne_nil, by simp [heq]⟩

/-! ### What a turn changes -/

namespace Cursor

variable {openers : List Text} {text : Text} {k k' : Cursor}

@[simp] theorem region_begin (c : Char) : (k.begin c).region = k.region := by
  unfold begin
  split <;> rfl

@[simp] theorem place_begin (c : Char) : (k.begin c).place = k.place := by
  unfold begin
  split <;> rfl

@[simp] theorem lineEnd_begin (c : Char) : (k.begin c).lineEnd = k.lineEnd := by
  unfold begin
  split <;> rfl

@[simp] theorem ahead_begin (c : Char) : (k.begin c).ahead = k.ahead := by
  unfold begin
  split <;> rfl

@[simp] theorem found_begin (c : Char) : (k.begin c).found = k.found := by
  unfold begin
  split <;> rfl

@[simp] theorem place_jump (n : Nat) : (k.jump text n).place = k.place + n := by
  unfold jump
  split <;> rfl

@[simp] theorem lineEnd_jump (n : Nat) : (k.jump text n).lineEnd = k.lineEnd := by
  unfold jump
  split <;> rfl

@[simp] theorem ahead_jump (n : Nat) : (k.jump text n).ahead = k.ahead := by
  unfold jump
  split <;> rfl

@[simp] theorem place_pass (c : Char) : (k.pass text c).place = k.place + 1 := by
  unfold pass
  split <;> rfl

@[simp] theorem lineEnd_pass (c : Char) : (k.pass text c).lineEnd = k.lineEnd := by
  unfold pass
  split <;> rfl

@[simp] theorem ahead_pass (c : Char) : (k.pass text c).ahead = k.ahead := by
  unfold pass
  split <;> rfl

theorem start_begin_subset {c : Char} : ∀ i ∈ (k.begin c).start, i ∈ k.start ∨ i = k.place := by
  intro i hi
  unfold begin at hi
  split at hi
  · exact Or.inr (Option.some.inj hi).symm
  · exact Or.inl hi

theorem start_jump_subset {n : Nat} : ∀ i ∈ (k.jump text n).start, i ∈ k.start := by
  intro i hi
  unfold jump at hi
  split at hi
  · simp [emit] at hi
  · exact hi

theorem start_pass_subset {c : Char} : ∀ i ∈ (k.pass text c).start, i ∈ k.start := by
  intro i hi
  unfold pass at hi
  split at hi
  · simp [emit] at hi
  · exact hi

/-- **A turn inside the text** does not fail. -/
theorem turn_eq (openers : List Text) {before rest : Text} {c : Char}
    (htext : text = before ++ c :: rest) (hplace : k.place = before.length) :
    k.turn openers text =
      match k.region.word? openers (endsName before) c (c :: rest) with
      | some length => some ((k.begin c).jump text length)
      | none => some ((k.begin c).pass text c) := by
  have hc : text[k.place]? = some c := by simp [htext, hplace]
  have hdrop : text.drop k.place = c :: rest := by rw [htext, hplace, List.drop_left]
  have hname : afterName? text k.place = some (endsName before) := by
    rw [afterName?, hplace]
    rcases List.eq_nil_or_concat before with rfl | ⟨before, d, rfl⟩
    · rfl
    · rw [List.concat_eq_append] at htext ⊢
      simp [htext, endsName]
  rw [turn, hc, hname, hdrop]
  simp only [Option.bind_eq_bind, Option.bind_some]
  split <;> rfl

/-! ### The cursor goes forward -/

/-- **The cursor is inside the text**: its line and the lines behind it end where the text ends, and
the pending statement begins before the cursor and on this line or an earlier one. -/
structure Inside (text : Text) (k : Cursor) : Prop where
  /-- The lines that are left end where the text ends. -/
  lineEnd_add : k.lineEnd + k.ahead.flatten.length = text.length
  /-- The pending statement has begun. -/
  start_lt : ∀ i ∈ k.start, i < k.place ∧ i < k.lineEnd

/-- **A turn goes forward**, from a place in the text to a later one, which may be its end. -/
structure Forward (k : Cursor) (openers : List Text) (text : Text) (k' : Cursor) : Prop where
  /-- The character that is looked at is one of the text. -/
  place_lt : k.place < text.length
  /-- The pending statement begins before it. -/
  start_lt : ∀ i ∈ k.start, i < k.place
  /-- A word that is jumped over is not empty, and it ends inside the text. -/
  word_pos : ∀ afterName c rest n, text.drop k.place = c :: rest →
    k.region.word? openers afterName c (c :: rest) = some n → 0 < n ∧ k.place + n ≤ text.length
  /-- The cursor moves on. -/
  lt_place : k.place < k'.place
  /-- It stays inside the text. -/
  place_le : k'.place ≤ text.length

/-- The words that are jumped over end inside the text. -/
theorem word_bounds {place : Nat} {c : Char} {rest : Text} (hdrop : text.drop place = c :: rest)
    {region : Region} {afterName : Bool} {n : Nat}
    (hword : region.word? openers afterName c (c :: rest) = some n) :
    0 < n ∧ place + n ≤ text.length := by
  obtain ⟨hpos, hle⟩ := Region.word?_bounds hword
  rw [← hdrop, List.length_drop] at hle
  exact ⟨hpos, by omega⟩

/-- A later place in the text, with a statement that begins where the cursor stands or stood, is
forward and inside the text. -/
theorem Inside.forward (h : Inside text k) (hlt : k.place < k.lineEnd) {c : Char}
    (hlineEnd : k'.lineEnd = k.lineEnd) (hahead : k'.ahead = k.ahead)
    (hnext : k.place < k'.place) (hle : k'.place ≤ text.length)
    (hstart : ∀ i ∈ k'.start, i ∈ (k.begin c).start) :
    k.Forward openers text k' ∧ Inside text k' := by
  constructor
  · exact ⟨by omega, fun i hi => (h.start_lt i hi).1,
      fun _ _ _ _ hdrop hword => word_bounds hdrop hword, hnext, hle⟩
  · refine ⟨by rw [hlineEnd, hahead, h.lineEnd_add], fun i hi => ?_⟩
    -- the statement had begun, or it begins in this turn
    rcases start_begin_subset i (hstart i hi) with hi | rfl
    · have := h.start_lt i hi
      omega
    · omega

/-- **The step inside a line**: a turn does not fail, and it goes forward. -/
theorem Inside.exists_turn (openers : List Text) (h : Inside text k) (hlt : k.place < k.lineEnd) :
    ∃ k', k.turn openers text = some k' ∧ k.Forward openers text k' ∧ Inside text k' := by
  have hplace : k.place < text.length := by
    have := h.lineEnd_add
    omega
  obtain ⟨c, rest, hdrop⟩ : ∃ c rest, text.drop k.place = c :: rest :=
    ⟨_, _, List.drop_eq_getElem_cons hplace⟩
  have htext : text = text.take k.place ++ c :: rest := by
    rw [← hdrop, List.take_append_drop]
  have hturn := turn_eq openers htext (List.length_take_of_le hplace.le).symm
  rcases hword : k.region.word? openers (endsName (text.take k.place)) c (c :: rest) with _ | n
  · rw [hword] at hturn
    exact ⟨_, hturn, h.forward hlt (by simp) (by simp) (by simp)
      (by rw [place_pass, place_begin]; omega) start_pass_subset⟩
  · rw [hword] at hturn
    obtain ⟨hpos, hle⟩ := word_bounds hdrop hword
    exact ⟨_, hturn, h.forward hlt (by simp) (by simp) (by simp [hpos]) (by simpa using hle)
      start_jump_subset⟩

/-- The way to the next line stays inside the text. -/
theorem Inside.nextLine {line : Text} {ahead : List Text} (h : Inside text k)
    (hahead : k.ahead = line :: ahead) : Inside text (k.nextLine text line ahead) := by
  have hlines := h.lineEnd_add
  rw [hahead, List.flatten_cons, List.length_append, ← Nat.add_assoc] at hlines
  by_cases hslash : Directive.isLoneSlash line = true
  · rw [Cursor.nextLine, if_pos hslash]
    exact ⟨hlines, by simp [emit]⟩
  · rw [Cursor.nextLine, if_neg hslash]
    refine ⟨hlines, fun i hi => ?_⟩
    have := (h.start_lt i hi).2
    exact ⟨this, by simp only; omega⟩

/-- A step from inside the text stays there. -/
theorem Inside.step (h : Inside text k) (hstep : k.step openers text = .goesOn k') :
    Inside text k' := by
  by_cases hlt : k.place < k.lineEnd
  · obtain ⟨k₁, hturn, -, hinside⟩ := h.exists_turn openers hlt
    rw [Cursor.step, if_pos hlt, hturn, Step.goesOn.injEq] at hstep
    rwa [← hstep]
  · rw [Cursor.step, if_neg hlt] at hstep
    rcases hahead : k.ahead with _ | ⟨line, ahead⟩ <;> rw [hahead] at hstep
    · simp at hstep
    · rw [Step.goesOn.injEq] at hstep
      rw [← hstep]
      exact h.nextLine hahead

theorem Inside.step_ne_outside (h : Inside text k) : k.step openers text ≠ .outside := by
  by_cases hlt : k.place < k.lineEnd
  · obtain ⟨k₁, hturn, -⟩ := h.exists_turn openers hlt
    simp [Cursor.step, hlt, hturn]
  · rw [Cursor.step, if_neg hlt]
    split <;> simp

/-- **Wherever the cursor comes, it is inside the text.** -/
theorem Inside.steps {n : Nat} (h : Inside text k) (hsteps : steps openers text n k = .goesOn k') :
    Inside text k' := by
  induction n generalizing k with
  | zero =>
    obtain rfl : k = k' := by simpa [Cursor.steps] using hsteps
    exact h
  | succ n ih =>
    rw [Cursor.steps] at hsteps
    rcases hstep : k.step openers text with k₁ | _ | _ <;> rw [hstep] at hsteps
    · exact ih (h.step hstep) hsteps
    · simp at hsteps
    · simp at hsteps

/-- **No place outside the text is looked at.** -/
theorem Inside.steps_ne_outside (h : Inside text k) (n : Nat) :
    Cursor.steps openers text n k ≠ .outside := by
  induction n generalizing k with
  | zero => simp [Cursor.steps]
  | succ n ih =>
    rw [Cursor.steps]
    rcases hstep : k.step openers text with k₁ | statements | _
    · exact ih (h.step hstep)
    · simp
    · exact absurd hstep h.step_ne_outside

theorem inside_ofText (text : Text) : Inside text (ofText text) :=
  ⟨by simp [ofText], by simp [ofText]⟩

end Cursor

end SqlScript
