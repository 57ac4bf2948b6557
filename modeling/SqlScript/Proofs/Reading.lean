import SqlScript.Proofs.Lines
import SqlScript.Proofs.Words
import SqlScript.Script

/-!
# What reading keeps

Everything that is proved about the pieces of a script is proved in the same way: something is known
of the stretch that is being read, every character keeps it, and when the stretch is cut it becomes
known of the piece. This file does that once. An invariant (`Reader.Invariant`) speaks of the mode,
of the characters since the last cut and of the characters to come, and need not mention the reader,
its lines or the pieces cut before. `Reader.cutOff_of_pieces_eq` then says of every piece of a
script in which of four ways it was cut, and what the invariant said at that moment: at a semicolon,
behind a block end, at a line with a lone slash, or where the script ends.

The lone slashes are known from the other side too: every such line is the mark of a piece
(`Script.exists_piece_of_isLoneSlash`).
-/

namespace SqlScript

open SqlScript.Text SqlScript.Word

/-- Whether a text ends with a character of a name. -/
def Word.endsName (before : Text) : Bool := before.getLast?.any isNameChar

theorem Word.endsName_append {a b : Text} (hb : b ≠ []) : endsName (a ++ b) = endsName b := by
  rw [endsName, endsName, List.getLast?_append_of_ne_nil a hb]

/-- What ends no name makes no difference before a text. -/
theorem Word.endsName_append_of_not {a : Text} (ha : endsName a = false) (b : Text) :
    endsName (a ++ b) = endsName b := by
  rcases eq_or_ne b [] with rfl | hb
  · rw [List.append_nil]
    exact ha
  · exact endsName_append hb

theorem Word.endsName_of_blank {t : Text} (h : ∀ c ∈ t, isBlank c = true) :
    endsName t = false := by
  rw [endsName, Option.any_eq_false]
  intro c hc
  rw [isNameChar_of_isDelimiter (isDelimiter_of_isBlank (h c (List.mem_of_getLast? hc)))]

namespace Mode

/-- Whether a character cuts. -/
def cuts : Mode → Char → Bool
  | plain, c => c = ';'
  | closing, c => c = ';'
  | _, _ => false

theorem cuts_eq_true {mode : Mode} {c : Char} (h : mode.cuts c = true) :
    (mode = plain ∨ mode = closing) ∧ c = ';' := by
  cases mode <;> simp_all [cuts]

/-! ### Inside a block end -/

/-- **The reader is inside a block end** that begins behind `u`: some of it has been read, and the
rest of it comes next. -/
def InBlockEnd (u before rest : Text) : Prop :=
  ∃ v w rest', before = u ++ v ∧ rest = w ++ rest' ∧ v ≠ [] ∧ w ≠ [] ∧ IsBlockEnd (v ++ w)

theorem InBlockEnd.start {c : Char} {rest : Text} (h : closesBlock (c :: rest) = true)
    (before : Text) : InBlockEnd before (before ++ [c]) rest := by
  obtain ⟨e, rest', heq, he⟩ := closesBlock_iff.mp h
  obtain ⟨init, rfl, hlen, -⟩ := he.eq_append
  rcases init with _ | ⟨d, init⟩
  · simp at hlen
  · rw [List.cons_append, List.cons_append, List.cons.injEq] at heq
    obtain ⟨rfl, rfl⟩ := heq
    exact ⟨[c], init ++ [';'], rest', rfl, rfl, by simp, by simp, he⟩

theorem InBlockEnd.step {u before rest : Text} {c : Char} (h : InBlockEnd u before (c :: rest))
    (hc : c ≠ ';') : InBlockEnd u (before ++ [c]) rest := by
  obtain ⟨v, w, rest', rfl, hrest, hv, hw, he⟩ := h
  obtain ⟨d, w, rfl⟩ := List.exists_cons_of_ne_nil hw
  rw [List.cons_append, List.cons.injEq] at hrest
  obtain ⟨rfl, rfl⟩ := hrest
  refine ⟨v ++ [c], w, rest', by simp, rfl, by simp, ?_, by simpa using he⟩
  rintro rfl
  obtain ⟨init, heq, -⟩ := he.eq_append
  exact hc (by simpa using (List.append_inj' heq rfl).2)

/-- The first semicolon is the last character of the block end. -/
theorem InBlockEnd.finish {u before rest : Text} (h : InBlockEnd u before (';' :: rest)) :
    ∃ e, before ++ [';'] = u ++ e ∧ IsBlockEnd e := by
  obtain ⟨v, w, rest', rfl, hrest, hv, hw, he⟩ := h
  obtain ⟨d, w, rfl⟩ := List.exists_cons_of_ne_nil hw
  rw [List.cons_append, List.cons.injEq] at hrest
  obtain ⟨rfl, rfl⟩ := hrest
  obtain ⟨init, heq, -, hinit⟩ := he.eq_append
  rcases List.eq_nil_or_concat w with rfl | ⟨w', d, rfl⟩
  · exact ⟨v ++ [';'], by simp, he⟩
  · -- a semicolon before the last character of a block end
    exfalso
    rw [List.concat_eq_append, ← List.cons_append, ← List.append_assoc] at heq
    have hinit' := (List.append_inj' heq rfl).1
    exact (hinit ';' (by simp [← hinit'])).1 rfl

/-- A block end is begun where it stands, outside quotes and not behind a name, and it is gone
through until its semicolon. -/
theorem next_eq_closing {openers : List Text} {mode : Mode} {afterName : Bool} {c : Char}
    {rest : Text} (h : mode.next openers afterName c rest = closing) :
    (mode = closing ∧ c ≠ ';') ∨
      (mode = block 0 false ∧ c ≠ '\'' ∧ afterName = false ∧ closesBlock (c :: rest) = true) := by
  cases mode with
  | plain =>
    rw [next] at h
    split_ifs at h
    split at h <;> simp at h
  | literal =>
    rw [next] at h
    split_ifs at h
  | closing =>
    rw [next] at h
    split_ifs at h with hc
    exact Or.inl ⟨rfl, hc⟩
  | block owed quoted =>
    cases owed with
    | succ owed => simp [next] at h
    | zero =>
      rw [next] at h
      split_ifs at h with hc hclose
      right
      simp only [Bool.and_eq_true, Bool.not_eq_true'] at hclose
      obtain ⟨⟨rfl, hname⟩, hend⟩ := hclose
      exact ⟨rfl, hc, hname, hend⟩

end Mode

namespace Reader

/-! ### Single steps -/

/-- The reader at the end of a line. -/
def endLine (r : Reader) : Reader := { r with mode := r.mode.endLine }

/-- Read characters one after the other, `rest` behind them. -/
def scan (openers : List Text) : (front : Text) → Reader → (rest : Text) → Reader
  | [], r, _ => r
  | c :: front, r, rest => scan openers front (r.read openers c (front ++ rest)) rest

variable (openers : List Text)

theorem afterName_eq (r : Reader) : r.afterName = endsName r.body.reverse := by
  rw [afterName, startsName, endsName, List.getLast?_reverse]

/-- A semicolon in plain text is cut away. -/
theorem read_plain {r : Reader} (h : r.mode = .plain) (rest : Text) :
    r.read openers ';' rest = ⟨.plain, [], ⟨.simple, r.body.reverse, [';']⟩ :: r.cuts⟩ := by
  simp [read, cut, h, Mode.kind]

/-- The semicolon of a block end is the last character of its piece. -/
theorem read_closing {r : Reader} (h : r.mode = .closing) (rest : Text) :
    r.read openers ';' rest = ⟨.plain, [], ⟨.block, r.body.reverse ++ [';'], []⟩ :: r.cuts⟩ := by
  simp [read, cut, h, Mode.kind]

/-- Any other character is added to the stretch that is read. -/
theorem read_of_not_cuts {r : Reader} {c : Char} (h : r.mode.cuts c = false) (rest : Text) :
    r.read openers c rest =
      ⟨r.mode.next openers (endsName r.body.reverse) c rest, c :: r.body, r.cuts⟩ := by
  rw [← afterName_eq]
  unfold read
  split
  · next hm => simp [hm, Mode.cuts] at h
  · next hm => simp [hm, Mode.cuts] at h
  · rfl

theorem scan_append (a b : Text) (r : Reader) (rest : Text) :
    scan openers (a ++ b) r rest = scan openers b (scan openers a r (b ++ rest)) rest := by
  induction a generalizing r with
  | nil => rfl
  | cons c a ih => rw [List.cons_append, scan, scan, ih, List.append_assoc]

theorem readLine_append (line : Text) (r : Reader) (rest : Text) :
    readLine openers line r (line ++ rest) = (scan openers line r rest).endLine := by
  induction line generalizing r with
  | nil => rw [List.nil_append, readLine, scan, endLine]; simp
  | cons c line ih => rw [List.cons_append, readLine, scan, ih]

theorem readLines_cons (line : Text) (ls : List Text) (r : Reader) (rest : Text) :
    readLines openers (line :: ls) r (line ++ rest) =
      readLines openers ls
        (if Directive.isLoneSlash line then r.cut line else (scan openers line r rest).endLine)
        rest := by
  rw [readLines, List.drop_left, readLine_append]

theorem readLines_singleton (line : Text) (r : Reader) :
    readLines openers [line] r line =
      if Directive.isLoneSlash line then r.cut line else (scan openers line r []).endLine := by
  have h := readLines_cons openers line [] r []
  rwa [List.append_nil] at h

theorem readLines_append (la lb : List Text) (r : Reader) (rest : Text) :
    readLines openers (la ++ lb) r (la.flatten ++ rest) =
      readLines openers lb (readLines openers la r (la.flatten ++ rest)) rest := by
  induction la generalizing r with
  | nil => rfl
  | cons line la ih =>
    rw [List.cons_append, List.flatten_cons, List.append_assoc, readLines_cons, readLines_cons, ih]

/-! ### The pieces cut before

The reader never looks back at them. -/

/-- The reader with pieces cut before all of its own. -/
def atop (r : Reader) (older : List Piece) : Reader := { r with cuts := r.cuts ++ older }

theorem cut_atop (r : Reader) (older : List Piece) (mark : Text) :
    (r.atop older).cut mark = (r.cut mark).atop older := rfl

theorem read_atop (r : Reader) (older : List Piece) (c : Char) (rest : Text) :
    (r.atop older).read openers c rest = (r.read openers c rest).atop older := by
  cases hcuts : r.mode.cuts c with
  | false =>
    rw [read_of_not_cuts openers hcuts, read_of_not_cuts openers (r := r.atop older) hcuts]
    rfl
  | true =>
    obtain ⟨hmode | hmode, rfl⟩ := Mode.cuts_eq_true hcuts
    · rw [read_plain openers hmode, read_plain openers (r := r.atop older) hmode]
      rfl
    · rw [read_closing openers hmode, read_closing openers (r := r.atop older) hmode]
      rfl

theorem scan_atop (front : Text) (r : Reader) (older : List Piece) (rest : Text) :
    scan openers front (r.atop older) rest = (scan openers front r rest).atop older := by
  induction front generalizing r with
  | nil => rfl
  | cons c front ih => rw [scan, scan, read_atop, ih]

/-- **What was cut before does not change how lines are read.** -/
theorem readLines_atop (ls : List Text) (r : Reader) (older : List Piece) (rest : Text) :
    readLines openers ls (r.atop older) (ls.flatten ++ rest) =
      (readLines openers ls r (ls.flatten ++ rest)).atop older := by
  induction ls generalizing r with
  | nil => rfl
  | cons line ls ih =>
    rw [List.flatten_cons, List.append_assoc, readLines_cons, readLines_cons, scan_atop, cut_atop,
      ← ih]
    split_ifs <;> rfl

theorem pieces_atop (r : Reader) (older : List Piece) :
    (r.atop older).pieces = older.reverse ++ r.pieces := by
  rw [pieces, pieces, cut_atop, atop, List.reverse_append]

/-! ### Invariants -/

/-- **An invariant of reading** speaks of the mode, of the characters since the last cut and of the
characters to come. -/
structure Invariant (I : Mode → Text → Text → Prop) : Prop where
  /-- It holds where a stretch begins. -/
  start : ∀ rest, I .plain [] rest
  /-- A character that does not cut keeps it. -/
  step : ∀ mode before c rest, mode.cuts c = false → I mode before (c :: rest) →
    I (mode.next openers (endsName before) c rest) (before ++ [c]) rest
  /-- The end of a line keeps it. -/
  endLine : ∀ mode before rest, (rest = [] ∨ ∃ c ∈ before.getLast?, isLineBreak c = true) →
    I mode before rest → I mode.endLine before rest

variable (I : Mode → Text → Text → Prop) (text : Text)

/-- **How a piece is cut off**, when `before` is the part of `text` in front of it and `rest` the
part behind it, and what an invariant says at that moment. -/
inductive CutOff (before : Text) : Piece → (rest : Text) → Prop
  /-- At a semicolon in plain text. -/
  | semicolon {body rest : Text} (h : I .plain body (';' :: rest)) :
    CutOff before ⟨.simple, body, [';']⟩ rest
  /-- Behind a block end. -/
  | blockEnd {body rest : Text} (h : I .closing body (';' :: rest)) :
    CutOff before ⟨.block, body ++ [';'], []⟩ rest
  /-- At a line that holds only a slash. -/
  | slash {mode : Mode} {body line rest : Text} {la lb : List Text} (h : I mode body (line ++ rest))
    (hline : Directive.isLoneSlash line = true) (hlines : lines text = la ++ line :: lb)
    (hbefore : la.flatten = before ++ body) : CutOff before ⟨mode.kind, body, line⟩ rest
  /-- Where the script ends. -/
  | ending {mode : Mode} {body : Text} (h : I mode body []) : CutOff before ⟨mode.kind, body, []⟩ []

/-- What is known of a reader that has `rest` still to read. -/
structure Reading (r : Reader) (rest : Text) : Prop where
  /-- Nothing is lost. -/
  covered : r.covered ++ rest = text
  /-- The invariant holds of the stretch that is read. -/
  stretch : I r.mode r.body.reverse rest
  /-- It was kept until each piece was cut off. -/
  pieces : ∀ ps p qs, r.cuts.reverse = ps ++ p :: qs →
    CutOff I text (ps.flatMap Piece.span) p (qs.flatMap Piece.span ++ r.body.reverse ++ rest)

variable {openers I text}

/-- **The step that cuts.** -/
theorem Reading.push (hI : Invariant openers I) {r : Reader} {p : Piece} {rest rest' : Text}
    (h : Reading I text r rest) (hspan : p.span ++ rest' = r.body.reverse ++ rest)
    (hcut : CutOff I text (r.cuts.reverse.flatMap Piece.span) p rest') :
    Reading I text ⟨.plain, [], p :: r.cuts⟩ rest' := by
  refine ⟨?_, hI.start rest', fun ps q qs hq => ?_⟩
  · rw [← h.covered, Reader.covered, Reader.covered, List.append_assoc _ _ rest, ← hspan]
    simp
  · rw [List.reverse_cons] at hq
    -- the new piece is the last one; for the others more of the text is behind them now
    rcases List.eq_nil_or_concat qs with rfl | ⟨qs', q', rfl⟩
    · obtain ⟨rfl, hp⟩ := List.append_inj' hq rfl
      obtain rfl : p = q := by simpa using hp
      simpa using hcut
    · rw [List.concat_eq_append, ← List.cons_append, ← List.append_assoc] at hq
      obtain ⟨hqs, hp⟩ := List.append_inj' hq rfl
      obtain rfl : p = q' := by simpa using hp
      have hold := h.pieces ps q qs' hqs
      rw [List.append_assoc _ _ rest, ← hspan] at hold
      simpa using hold

/-- **The step that reads on.** -/
theorem Reading.read (hI : Invariant openers I) {r : Reader} {c : Char} {rest : Text}
    (h : Reading I text r (c :: rest)) : Reading I text (r.read openers c rest) rest := by
  cases hcuts : r.mode.cuts c with
  | false =>
    rw [read_of_not_cuts openers hcuts]
    refine ⟨?_, ?_, fun ps p qs hp => ?_⟩
    · rw [← h.covered]
      simp [Reader.covered]
    · rw [List.reverse_cons]
      exact hI.step _ _ _ _ hcuts h.stretch
    · simpa using h.pieces ps p qs hp
  | true =>
    -- the only characters that cut are two semicolons
    obtain ⟨hmode | hmode, rfl⟩ := Mode.cuts_eq_true hcuts
    · rw [read_plain openers hmode]
      exact h.push hI (by simp [Piece.span]) (.semicolon (hmode ▸ h.stretch))
    · rw [read_closing openers hmode]
      exact h.push hI (by simp [Piece.span]) (.blockEnd (hmode ▸ h.stretch))

theorem Reading.scan (hI : Invariant openers I) {front rest : Text} {r : Reader}
    (h : Reading I text r (front ++ rest)) : Reading I text (scan openers front r rest) rest := by
  induction front generalizing r with
  | nil => exact h
  | cons c front ih => exact ih (h.read hI)

/-- A line break is the last character read when the line is over: it does not cut. -/
theorem getLast?_scan {line rest : Text} {r : Reader} {c : Char} (hc : c ∈ line.getLast?)
    (hbreak : isLineBreak c = true) :
    c ∈ (scan openers line r rest).body.reverse.getLast? := by
  have hsemi : c ≠ ';' := by
    rintro rfl
    exact absurd hbreak (by decide)
  rw [← List.dropLast_append_getLast? c hc, scan_append, Reader.scan, Reader.scan,
    read_of_not_cuts openers]
  · simp
  · cases (scan openers line.dropLast r ([c] ++ rest)).mode <;> simp [Mode.cuts, hsemi]

/-- **The run over the lines.** The induction is on the lines that are still to be read; those
before them say where a lone slash stands. -/
theorem Reading.readLines (hI : Invariant openers I) (la : List Text) {lb lc : List Text}
    (hlines : lines text = la ++ (lb ++ lc)) {r : Reader}
    (h : Reading I text r (lb.flatten ++ lc.flatten)) :
    Reading I text (readLines openers lb r (lb.flatten ++ lc.flatten)) lc.flatten := by
  induction lb generalizing la r with
  | nil => exact h
  | cons line lb ih =>
    have hcovered : r.covered = la.flatten := by
      have htext := h.covered
      rw [← flatten_lines text, hlines] at htext
      simpa using htext
    rw [List.flatten_cons, List.append_assoc] at h ⊢
    rw [readLines_cons]
    refine ih (la ++ [line]) (by simpa using hlines) ?_
    split_ifs with hslash
    · refine h.push hI (by simp [Piece.span]) (.slash h.stretch hslash hlines ?_)
      rw [← hcovered, Reader.covered]
    · have hscan := h.scan hI
      refine ⟨hscan.covered, hI.endLine _ _ _ ?_ hscan.stretch, hscan.pieces⟩
      rcases eq_or_ne (lb ++ lc) [] with hnil | hne
      · left
        rw [← List.flatten_append, hnil, List.flatten_nil]
      · right
        obtain ⟨c, hc, hbreak⟩ := break_of_lines_eq (by simpa using hlines) hne
        exact ⟨c, getLast?_scan hc hbreak, hbreak⟩

/-- **How the pieces of a script are cut off**, for every invariant of reading. -/
theorem cutOff_of_pieces_eq (hI : Invariant openers I) {ps qs : List Piece} {p : Piece}
    (h : Script.pieces openers text = ps ++ p :: qs) :
    CutOff I text (ps.flatMap Piece.span) p (qs.flatMap Piece.span) := by
  have hstart : Reading I text {} ((lines text).flatten ++ ([] : List Text).flatten) := by
    refine ⟨by simp [Reader.covered], hI.start _, fun ps p qs hp => ?_⟩
    simp at hp
  have hread := hstart.readLines hI [] (by simp)
  have hend := hread.push hI (p := ⟨_, _, []⟩) (by simp [Piece.span]) (.ending hread.stretch)
  have hpieces := hend.pieces ps p qs
  rw [List.flatten_nil, List.append_nil, flatten_lines] at hpieces
  simpa using hpieces h

end Reader

/-! ### Lone slashes -/

namespace Script

open Reader

variable (openers : List Text) {text line : Text} {la lb : List Text}

/-- **A line that holds only a slash cuts a script in two.** The reader that has read the lines
before it gives the pieces before it and the piece that it ends; the pieces behind it are those of
what stands behind it. -/
theorem pieces_slash (hlines : lines text = la ++ line :: lb)
    (hslash : Directive.isLoneSlash line = true) :
    pieces openers text =
      ((readLines openers la {} text).cut line).cuts.reverse ++ pieces openers lb.flatten := by
  have htext : text = la.flatten ++ (line ++ lb.flatten) := by
    rw [← flatten_lines text, hlines, List.flatten_append, List.flatten_cons]
  have hlb : lines lb.flatten = lb := (lines_eq_cons (lines_eq_append hlines).2.1).2.1
  set r := readLines openers la {} text with hr
  have hatop := readLines_atop openers lb {} (r.cut line).cuts []
  rw [List.append_nil] at hatop
  have hread : readLines openers (lines text) {} text =
      (readLines openers lb {} lb.flatten).atop (r.cut line).cuts := by
    rw [hlines, htext, readLines_append, ← htext, ← hr, readLines_cons, if_pos hslash, ← hatop]
    rfl
  rw [pieces, hread, pieces_atop, pieces, hlb]

/-- **Every line that holds only a slash is the mark of a piece**, which ends where it begins. -/
theorem exists_piece_of_isLoneSlash (hlines : lines text = la ++ line :: lb)
    (hslash : Directive.isLoneSlash line = true) :
    ∃ ps p qs, pieces openers text = ps ++ p :: qs ∧ p.mark = line ∧
      ps.flatMap Piece.span ++ p.body = la.flatten := by
  have htrue : Invariant openers fun _ _ _ => True := ⟨by simp, by simp, by simp⟩
  have htext : text = la.flatten ++ (line :: lb).flatten := by
    rw [← flatten_lines text, hlines, List.flatten_append]
  have hstart : Reading (fun _ _ _ => True) text {} (la.flatten ++ (line :: lb).flatten) :=
    ⟨by simp [covered, htext], trivial, fun ps p qs hp => by simp at hp⟩
  have hread := (hstart.readLines htrue [] hlines).covered
  rw [← htext] at hread
  have hcovered : (readLines openers la {} text).covered = la.flatten :=
    List.append_cancel_right (hread.trans htext)
  have hpieces := pieces_slash openers hlines hslash
  rw [cut, List.reverse_cons, List.append_assoc, List.singleton_append] at hpieces
  exact ⟨_, _, _, hpieces, rfl, hcovered⟩

end Script

end SqlScript
