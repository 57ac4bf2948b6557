import SqlScript.Proofs.Cursor
import SqlScript.Proofs.Keywords
import SqlScript.Proofs.LookAhead
import SqlScript.Proofs.Slices

/-!
# Splitting comes to its end

The cursor finds in a script what the reader finds, and it does so in a number of steps that the
text bounds: one for each of its characters at most, one for each of its lines, and one for the end
(`Cursor.exists_steps_eq_split`). Together with what is known of its turns, that they go forward
inside the text, this is `Script.split_terminates`.

The two do not move alike. Where the cursor jumps over a word, the reader takes its characters one
by one, and what ties them is a relation between their states that holds before and behind the word
(`Cursor.Follows`). A word that opens a block may run over the end of its line. The cursor is then
behind the end and leaves the loop over the line; the reader stops at the end with characters of the
word still owed, and drops them. From there both go on at the beginning of the next line. A block
end has no line break in it, so it cannot run over the end of a line (`Word.IsBlockEnd.length_le`).

The cursor remembers where the pending statement begins and the reader does not: it keeps all
characters since the last cut and trims them later. So the relation says of that place that nothing
but blank characters lies between the last cut and it (`StartsAt`).
-/

namespace SqlScript

open SqlScript.Text SqlScript.Word

/-! ### Words that the reader goes through -/

/-- A block end begins with an `e` or an `E`. -/
theorem Word.head_of_closesBlock {c : Char} {rest : Text} (h : closesBlock (c :: rest) = true) :
    c = 'e' ∨ c = 'E' := by
  have hkey : letterKey 'E' = 0x65 := by decide
  have hsmall : 0x65 ∈ smallLetters := by decide
  rw [closesBlock, startsWithLetters, Bool.and_eq_true, Bool.and_eq_true, sameLetter,
    beq_iff_eq, hkey] at h
  have hmet := mem_metAs_of_letterKey (h.1.1 ▸ hsmall)
  rw [← h.1.1] at hmet
  have hchars : c.toNat = 0x65 ∨ c.toNat = 0x45 := by simpa [metAs] using hmet
  rcases hchars with hc | hc
  · exact Or.inl (Char.toNat_inj.mp hc)
  · exact Or.inr (Char.toNat_inj.mp hc)

/-- **A block end does not go over the end of a line**, nor over that of the text. -/
theorem Word.IsBlockEnd.length_le {e rest front behind : Text} (he : IsBlockEnd e)
    (h : e ++ rest = front ++ behind) (hne : front ≠ [])
    (hbreak : behind ≠ [] → ∀ c ∈ front.getLast?, isLineBreak c = true) :
    e.length ≤ front.length := by
  by_contra hlt
  rcases List.append_eq_append_iff.mp h with ⟨x, rfl, -⟩ | ⟨x, rfl, hx⟩
  · simp at hlt
  · -- the end of the line would stand inside the block end, before its semicolon
    rcases List.eq_nil_or_concat x with rfl | ⟨x, d, rfl⟩
    · simp at hlt
    · obtain ⟨init, heq, -, hinit⟩ := he.eq_append
      rw [List.concat_eq_append, ← List.append_assoc] at heq
      rw [← (List.append_inj' heq rfl).1] at hinit
      have hlast := List.getLast?_eq_some_getLast hne
      have hend := hbreak (by simp [hx]) _ hlast
      rw [(hinit _ (List.mem_append_left _ (List.mem_of_getLast? hlast))).2.2.2] at hend
      exact Bool.false_ne_true hend

namespace Region

/-- The mode of a reader that has no word to go on with. -/
def mode : Region → Mode
  | plain => .plain
  | literal => .literal
  | block quoted => .block 0 quoted

@[simp] theorem kind_mode (region : Region) : region.mode.kind = region.kind := by
  cases region <;> rfl

@[simp] theorem endLine_mode (region : Region) : region.mode.endLine = region.mode := by
  cases region <;> rfl

variable {openers : List Text} {region : Region} {afterName : Bool} {c : Char} {rest : Text}

/-- Where there is no word to jump over, the reader does not enter a block or a block end. -/
theorem mode_next (h : region.word? openers afterName c (c :: rest) = none) :
    region.mode.next openers afterName c rest = (region.next c).mode := by
  rcases region with _ | _ | quoted
  · by_cases hquote : c = '\''
    · simp [mode, Mode.next, next, hquote]
    · rw [word?] at h
      rw [mode, Mode.next, if_neg hquote, next, if_neg hquote]
      split_ifs at h ⊢ with hletter
      · rw [Bool.and_eq_true] at hletter
        have hname : startsName (c :: rest) = true := isNameChar_of_isLetter hletter.1
        rw [opener?_alternatives openers hname] at h
        rw [h]
        rfl
      · rfl
  · simp only [mode, Mode.next, next]
    split_ifs <;> rfl
  · by_cases hquote : c = '\''
    · simp [mode, Mode.next, next, hquote]
    · rw [mode, Mode.next, if_neg hquote, next, if_neg hquote, if_neg]
      · rfl
      · -- where the reader enters a block end, the cursor has one to jump over
        intro hclose
        simp only [Bool.and_eq_true, Bool.not_eq_true'] at hclose
        obtain ⟨⟨rfl, rfl⟩, hend⟩ := hclose
        have hc := head_of_closesBlock hend
        simp [word?, blockEnd?, hend, hc] at h

end Region

namespace Reader

variable (openers : List Text)

/-- The characters of an opener are counted off. -/
theorem scan_owed (front : Text) {m : Nat} {quoted : Bool} {r : Reader}
    (h : r.mode = .block (m + front.length) quoted) (rest : Text) :
    scan openers front r rest = ⟨.block m quoted, front.reverse ++ r.body, r.cuts⟩ := by
  induction front generalizing r with
  | nil =>
    have hmode : r.mode = .block m quoted := h
    rw [scan, List.reverse_nil, List.nil_append, ← hmode]
  | cons c front ih =>
    have hnext : r.mode.next openers (endsName r.body.reverse) c (front ++ rest) =
        .block (m + front.length) quoted := by
      rw [h]
      rfl
    rw [scan, read_of_not_cuts openers (by rw [h]; rfl), hnext, ih rfl]
    simp

/-- Up to its semicolon a block end is gone through. -/
theorem scan_closing {front : Text} (hfront : ∀ c ∈ front, c ≠ ';') {r : Reader}
    (h : r.mode = .closing) (rest : Text) :
    scan openers front r rest = ⟨.closing, front.reverse ++ r.body, r.cuts⟩ := by
  induction front generalizing r with
  | nil =>
    rw [scan, List.reverse_nil, List.nil_append, ← h]
  | cons c front ih =>
    obtain ⟨hc, hrest⟩ := List.forall_mem_cons.mp hfront
    have hnext : r.mode.next openers (endsName r.body.reverse) c (front ++ rest) = .closing := by
      rw [h, Mode.next, if_neg hc]
    rw [scan, read_of_not_cuts openers (by simp [h, Mode.cuts, hc]), hnext, ih hrest rfl]
    simp

@[simp] theorem covered_scan (front : Text) (r : Reader) (rest : Text) :
    (scan openers front r rest).covered = r.covered ++ front := by
  induction front generalizing r with
  | nil => simp [scan]
  | cons c front ih => simp [scan, ih]

/-- **An opener is read up to a place in it**, and then the rest of it is owed. -/
theorem scan_opener {c : Char} {rest front behind : Text} {n : Nat} {r : Reader}
    (hmode : r.mode = .plain) (hletter : isLetter c = true)
    (hname : endsName r.body.reverse = false) (hopener : opener? openers (c :: rest) = some n)
    (hrest : c :: rest = front ++ behind) (hne : front ≠ []) (hle : front.length ≤ n) :
    scan openers front r behind =
      ⟨.block (n - front.length) false, front.reverse ++ r.body, r.cuts⟩ := by
  obtain ⟨d, front, rfl⟩ := List.exists_cons_of_ne_nil hne
  rw [List.cons_append, List.cons.injEq] at hrest
  obtain ⟨rfl, rfl⟩ := hrest
  have hmark : ∀ d, isDelimiter d = true → c ≠ d := by
    rintro d hd rfl
    rw [isLetter_of_isDelimiter hd] at hletter
    exact Bool.false_ne_true hletter
  have hquote : c ≠ '\'' := hmark _ (by decide)
  have hsemi : c ≠ ';' := hmark _ (by decide)
  have hnext : r.mode.next openers (endsName r.body.reverse) c (front ++ behind) =
      .block (n - 1) false := by
    rw [hmode, Mode.next, if_neg hquote, if_pos (by simp [hletter, hname]), hopener]
  rw [List.length_cons] at hle
  rw [scan, read_of_not_cuts openers (by simp [hmode, Mode.cuts, hsemi]), hnext,
    scan_owed openers front (m := n - (front.length + 1)) (by simp only; congr; omega)]
  simp

/-- **A block end is read** and cuts behind its semicolon. -/
theorem scan_blockEnd {e behind : Text} (he : IsBlockEnd e) {r : Reader}
    (hmode : r.mode = .block 0 false) (hname : endsName r.body.reverse = false) :
    scan openers e r behind =
      ⟨.plain, [], ⟨.block, r.body.reverse ++ e, []⟩ :: r.cuts⟩ := by
  obtain ⟨init, rfl, hlen, hinit⟩ := he.eq_append
  obtain ⟨c, init, rfl⟩ := List.exists_cons_of_ne_nil (l := init) (by rintro rfl; simp at hlen)
  have hclose : closesBlock (c :: (init ++ ([';'] ++ behind))) = true :=
    closesBlock_iff.mpr ⟨_, behind, by simp, he⟩
  have hnext : r.mode.next openers (endsName r.body.reverse) c (init ++ ([';'] ++ behind)) =
      .closing := by
    rw [hmode, Mode.next, if_neg (hinit c List.mem_cons_self).2.2.1, hname, hclose]
    rfl
  have hscan : scan openers (c :: init) r ([';'] ++ behind) =
      ⟨.closing, (c :: init).reverse ++ r.body, r.cuts⟩ := by
    rw [scan, read_of_not_cuts openers (by rw [hmode]; rfl), hnext,
      scan_closing openers (fun d hd => (hinit d (List.mem_cons_of_mem _ hd)).1) rfl]
    simp
  rw [scan_append, hscan, scan, scan, read_closing openers rfl]
  simp

end Reader

/-! ### The pending statement -/

/-- **Where a statement begins** in a stretch that begins at `base`: at the first character that is
not blank, if there is one. -/
inductive StartsAt (base : Nat) (body : Text) : Option Nat → Prop
  /-- All characters are blank. -/
  | blank (h : ∀ c ∈ body, isBlank c = true) : StartsAt base body none
  /-- There is a first character that is not. -/
  | first {lead w : Text} (hbody : body = lead ++ w) (hlead : ∀ c ∈ lead, isBlank c = true)
    (hw : ∃ c ∈ w.head?, isBlank c = false) : StartsAt base body (some (base + lead.length))

namespace StartsAt

variable {base : Nat} {body : Text} {start : Option Nat}

theorem append (h : StartsAt base body start) (hne : start ≠ none) (t : Text) :
    StartsAt base (body ++ t) start := by
  cases h with
  | blank => exact absurd rfl hne
  | @first lead w hbody hlead hw =>
    obtain ⟨c, hc, hblank⟩ := hw
    obtain ⟨w', rfl⟩ := List.head?_eq_some_iff.mp hc
    exact .first (w := c :: w' ++ t) (by rw [hbody]; simp) hlead ⟨c, rfl, hblank⟩

theorem concat_blank (h : StartsAt base body none) {c : Char} (hc : isBlank c = true) :
    StartsAt base (body ++ [c]) none := by
  cases h with
  | blank hblank => exact .blank (by simpa [or_imp, forall_and] using ⟨hblank, hc⟩)

theorem concat_first (h : StartsAt base body none) {c : Char} (hc : isBlank c = false) :
    StartsAt base (body ++ [c]) (some (base + body.length)) := by
  cases h with
  | blank hblank => exact .first rfl hblank ⟨c, rfl, hc⟩

/-- **The statement that is cut out of the text is that of the piece**, even if it begins behind the
piece, for then nothing is left of either. -/
theorem statementAt?_eq {pre body t : Text} {start : Option Nat}
    (h : StartsAt pre.length (body ++ t) start) (rest : Text) (kind : Kind) (mark : Text) :
    (start.bind fun i =>
      Cursor.statementAt? (pre ++ body ++ rest) kind i (pre ++ body).length) =
      (⟨kind, body, mark⟩ : Piece).statement? pre.length := by
  have hblank : ∀ b : Text, (∀ c ∈ b, isBlank c = true) →
      ∀ m, (⟨kind, b, m⟩ : Piece).text = [] := by
    intro b hb m
    have htext : (⟨kind, b, m⟩ : Piece).text = (⟨kind, [], []⟩ : Piece).text :=
      Piece.text_congr kind (trim_of_blank hb) m []
    rw [htext]
    cases kind <;> rfl
  cases h with
  | blank hbody =>
    rw [Option.bind_none, Piece.statement?, hblank body (fun c hc => hbody c (by simp [hc]))]
    rfl
  | @first lead w hbody hlead hw =>
    have hslice : ((pre ++ body ++ rest).take (pre ++ body).length).drop
        (pre.length + lead.length) = body.drop lead.length := by
      rw [List.take_left, List.drop_append]
      simp
    rw [Option.bind_some, Cursor.statementAt?, hslice, Piece.statement?]
    rcases List.append_eq_append_iff.mp hbody with ⟨x, rfl, -⟩ | ⟨y, rfl, rfl⟩
    · -- the piece ends before the statement begins
      rw [hblank body fun c hc => hlead c (by simp [hc]), List.drop_eq_nil_of_le (by simp),
        hblank [] (List.forall_mem_nil _)]
      rfl
    · rw [List.drop_left, Piece.text_congr kind (trim_blank_append hlead y).symm [] mark]
      rcases y with _ | ⟨c, y⟩
      · rw [List.append_nil, hblank lead hlead]
        rfl
      · have hc : isBlank c = false := by simpa using hw
        rw [List.takeWhile_append_of_pos hlead, List.takeWhile_cons_of_neg (by simp [hc])]
        simp

end StartsAt

/-! ### The cursor and the reader -/

namespace Cursor

variable {openers : List Text} {text : Text} {k k' : Cursor} {r : Reader}

/-- **The cursor knows what the reader knows**: what they stand in, where the pending statement
begins, and the statements before it. -/
structure Follows (k : Cursor) (r : Reader) : Prop where
  /-- They stand in the same region. -/
  mode : r.mode = k.region.mode
  /-- The pending statement begins in the stretch that the reader has not cut off yet. -/
  start : StartsAt (r.cuts.reverse.flatMap Piece.span).length r.body.reverse k.start
  /-- Outside plain text there is a pending statement. -/
  begun : k.start = none → k.region = .plain
  /-- The statements are those of the pieces. -/
  found : k.found.reverse = Piece.statements 0 r.cuts.reverse
  /-- No name goes over a cut. -/
  afterName : endsName r.covered = endsName r.body.reverse

namespace Follows

/-- The first character of a statement is where the cursor stands. -/
theorem start_begin (h : Follows k r) (hplace : k.place = r.covered.length) (c : Char) :
    StartsAt (r.cuts.reverse.flatMap Piece.span).length (r.body.reverse ++ [c])
      (k.begin c).start := by
  have hstart := h.start
  rcases hk : k.start with _ | i
  · rw [hk] at hstart
    rcases hc : isBlank c with _ | _
    · rw [begin, if_pos ⟨h.begun hk, hk, hc⟩, hplace, Reader.covered, List.length_append]
      exact hstart.concat_first hc
    · rw [begin, if_neg (by simp [hc]), hk]
      exact hstart.concat_blank hc
  · rw [begin, if_neg (by simp [hk]), hk]
    exact (hk ▸ hstart).append (by simp) [c]

theorem begun_begin (h : Follows k r) {c : Char} (hnone : (k.begin c).start = none) :
    k.region = .plain ∧ isBlank c = true := by
  rcases hk : k.start with _ | i
  · refine ⟨h.begun hk, ?_⟩
    by_contra hc
    rw [begin, if_pos ⟨h.begun hk, hk, Bool.eq_false_iff.mpr hc⟩] at hnone
    simp at hnone
  · rw [begin, if_neg (by simp [hk]), hk] at hnone
    simp at hnone

/-- Reading on without a cut. -/
theorem extend (h : Follows k r) (front : Text) (hne : front ≠ []) {mode : Mode}
    (hmode : mode = k'.region.mode)
    (hstart : StartsAt (r.cuts.reverse.flatMap Piece.span).length (r.body.reverse ++ front)
      k'.start)
    (hbegun : k'.start = none → k'.region = .plain) (hfound : k'.found = k.found) :
    Follows k' ⟨mode, front.reverse ++ r.body, r.cuts⟩ := by
  refine ⟨hmode, by simpa using hstart, hbegun, by rw [hfound, h.found], ?_⟩
  simp only [Reader.covered, List.reverse_append, List.reverse_reverse]
  rw [← List.append_assoc, endsName_append hne, endsName_append hne]

/-- A cut behind something that is no name. -/
theorem of_cut {p : Piece} {cuts : List Piece} (hregion : k'.region = .plain)
    (hstart : k'.start = none)
    (hfound : k'.found.reverse = Piece.statements 0 (p :: cuts).reverse)
    (hname : endsName p.span = false) (hne : p.span ≠ []) :
    Follows k' ⟨.plain, [], p :: cuts⟩ := by
  refine ⟨by rw [hregion]; rfl, by rw [hstart]; exact .blank (by simp), fun _ => hregion, hfound,
    ?_⟩
  simp only [Reader.covered, List.reverse_cons, List.flatMap_append, List.flatMap_singleton,
    List.reverse_nil, List.append_nil]
  rw [endsName_append hne, hname]
  rfl

/-- **The statement that is cut out is that of the new piece.** -/
theorem found_emit {cuts : List Piece} {body t rest : Text} {k : Cursor}
    (hfound : k.found.reverse = Piece.statements 0 cuts.reverse)
    (hstart : StartsAt (cuts.reverse.flatMap Piece.span).length (body ++ t) k.start)
    (htext : text = cuts.reverse.flatMap Piece.span ++ body ++ rest) {stop : Nat}
    (hstop : stop = (cuts.reverse.flatMap Piece.span ++ body).length) (kind : Kind)
    (mark : Text) :
    (k.emit text stop kind).found.reverse =
      Piece.statements 0 (⟨kind, body, mark⟩ :: cuts).reverse := by
  have hnew := hstart.statementAt?_eq rest kind mark
  rw [← htext, ← hstop] at hnew
  simp only [emit, List.reverse_append, hfound, hnew, List.reverse_cons, Piece.statements_append,
    Nat.zero_add, Piece.statements, List.append_nil]
  congr 1
  cases Piece.statement? _ _ <;> rfl

/-- **Passing a character is reading it.** -/
theorem pass (h : Follows k r) {c : Char} {rest : Text} (htext : text = r.covered ++ c :: rest)
    (hplace : k.place = r.covered.length)
    (hword : k.region.word? openers (endsName r.covered) c (c :: rest) = none) :
    Follows ((k.begin c).pass text c) (r.read openers c rest) := by
  have hstart := h.start_begin hplace c
  rw [h.afterName] at hword
  by_cases hcut : k.region = .plain ∧ c = ';'
  · -- the semicolon ends the statement before it
    obtain ⟨hregion, rfl⟩ := hcut
    rw [Reader.read_plain openers (by rw [h.mode, hregion]; rfl), Cursor.pass,
      if_pos ⟨by rw [region_begin, hregion], rfl⟩]
    have hspan : endsName (r.body.reverse ++ [';']) = false := by
      rw [endsName_append (by simp), endsName, List.getLast?_singleton, Option.any_some]
      exact isNameChar_of_isDelimiter (by decide)
    refine of_cut ?_ rfl ?_ hspan (by simp [Piece.span])
    · simp [emit, hregion, Region.next]
    · refine found_emit (by simp [h.found]) hstart htext ?_ _ _
      rw [place_begin, hplace, Reader.covered]
  · have hcuts : r.mode.cuts c = false := by
      rw [h.mode]
      rcases hregion : k.region with _ | _ | quoted
      · simpa [Region.mode, Mode.cuts, hregion] using hcut
      · rfl
      · rfl
    rw [Reader.read_of_not_cuts openers hcuts, Cursor.pass, if_neg (by simpa using hcut)]
    refine h.extend [c] (by simp) ?_ hstart (fun hnone => ?_) (found_begin c)
    · rw [h.mode, Region.mode_next hword, region_begin]
    · obtain ⟨hregion, hblank⟩ := h.begun_begin hnone
      have hquote : c ≠ '\'' := by
        rintro rfl
        exact absurd hblank (by decide)
      simp [hregion, Region.next, hquote]

/-- **A jump over an opener** goes to its end; the reader gets there by reading it, or at the end of
the line, where it does not read on. -/
theorem jump_opener (h : Follows k r) {c : Char} {rest : Text} (hplace : k.place = r.covered.length)
    (hregion : k.region = .plain) {n : Nat}
    (hword : k.region.word? openers (endsName r.covered) c (c :: rest) = some n)
    {front behind : Text} (hrest : c :: rest = front ++ behind) (hne : front ≠ [])
    (hle : front.length ≤ n) :
    Reader.scan openers front r behind =
        ⟨.block (n - front.length) false, front.reverse ++ r.body, r.cuts⟩ ∧
      Follows ((k.begin c).jump text n) ⟨.block 0 false, front.reverse ++ r.body, r.cuts⟩ := by
  rw [h.afterName, hregion, Region.word?] at hword
  split_ifs at hword with hletter
  simp only [Bool.and_eq_true, Bool.not_eq_true'] at hletter
  have hname : startsName (c :: rest) = true := isNameChar_of_isLetter hletter.1
  rw [opener?_alternatives openers hname] at hword
  have hmode : r.mode = .plain := by
    rw [h.mode, hregion]
    rfl
  have hfirst : (k.begin c).start ≠ none := by
    intro hnone
    have hblank := isLetter_of_isBlank (h.begun_begin hnone).2
    rw [hletter.1] at hblank
    exact Bool.false_ne_true hblank.symm
  obtain ⟨tail, htail⟩ : ∃ tail, front = [c] ++ tail := by
    obtain ⟨d, tail, rfl⟩ := List.exists_cons_of_ne_nil hne
    rw [List.cons_append, List.cons.injEq] at hrest
    exact ⟨tail, by rw [hrest.1]; rfl⟩
  have hstart := (h.start_begin hplace c).append hfirst tail
  rw [List.append_assoc, ← htail] at hstart
  refine ⟨Reader.scan_opener openers hmode hletter.1 hletter.2 hword hrest hne hle, ?_⟩
  have hjump : (k.begin c).jump text n =
      { k.begin c with region := .block false, place := k.place + n } := by
    rw [jump, region_begin, hregion, place_begin]
  rw [hjump]
  exact h.extend front hne rfl hstart (fun hnone => absurd hnone hfirst) (found_begin c)

/-- **A jump over a block end is its reading.** -/
theorem jump_blockEnd (h : Follows k r) {c : Char} {e behind : Text} {quoted : Bool}
    (htext : text = r.covered ++ e ++ behind) (hplace : k.place = r.covered.length)
    (hregion : k.region = .block quoted)
    (hword : k.region.word? openers (endsName r.covered) c (e ++ behind) = some e.length)
    (he : IsBlockEnd e) :
    Follows ((k.begin c).jump text e.length) (Reader.scan openers e r behind) := by
  rw [h.afterName, hregion, Region.word?] at hword
  split_ifs at hword with hword'
  simp only [Bool.and_eq_true, Bool.not_eq_true'] at hword'
  obtain ⟨⟨rfl, -⟩, hname⟩ := hword'
  have hmode : r.mode = .block 0 false := by
    rw [h.mode, hregion]
    rfl
  have hbegun : k.start ≠ none := fun hnone => by
    have := h.begun hnone
    simp [hregion] at this
  have hbegin : k.begin c = k := by
    rw [begin, if_neg (by simp [hregion])]
  have hstart := h.start.append hbegun e
  rw [← List.append_nil (r.body.reverse ++ e)] at hstart
  have hspan : endsName (r.body.reverse ++ e ++ []) = false := by
    rw [List.append_nil, endsName_append he.ne_nil, endsName, he.getLast?,
      Option.any_some]
    exact isNameChar_of_isDelimiter (by decide)
  rw [Reader.scan_blockEnd openers he hmode hname, hbegin, Cursor.jump, hregion]
  have hcovered : text =
      r.cuts.reverse.flatMap Piece.span ++ (r.body.reverse ++ e) ++ behind := by
    rw [htext, Reader.covered, List.append_assoc _ _ e]
  refine of_cut rfl rfl ?_ hspan (by simp [Piece.span, he.ne_nil])
  refine found_emit h.found hstart hcovered ?_ _ _
  rw [hplace, Reader.covered, ← List.append_assoc, ← List.length_append]

/-- **A jump is the reading of the word**, or of what the line holds of it if it goes over the end
of the line. -/
theorem jump (h : Follows k r) {c : Char} {rest : Text} (htext : text = r.covered ++ c :: rest)
    (hplace : k.place = r.covered.length) {n : Nat}
    (hword : k.region.word? openers (endsName r.covered) c (c :: rest) = some n)
    {front behind : Text} (hrest : c :: rest = front ++ behind) (hne : front ≠ []) :
    (front.length = n → Follows ((k.begin c).jump text n) (Reader.scan openers front r behind)) ∧
      (front.length < n → (behind ≠ [] → ∀ d ∈ front.getLast?, isLineBreak d = true) →
        Follows ((k.begin c).jump text n) (Reader.scan openers front r behind).endLine) := by
  rcases hregion : k.region with _ | _ | quoted
  · constructor
    · intro hlen
      obtain ⟨hscan, hfollows⟩ := h.jump_opener hplace hregion hword hrest hne hlen.le
      rw [hlen, Nat.sub_self] at hscan
      rwa [hscan]
    · intro hlt _
      obtain ⟨hscan, hfollows⟩ := h.jump_opener hplace hregion hword hrest hne hlt.le
      rwa [hscan]
  · simp [hregion, Region.word?] at hword
  · have hend := hword
    rw [hregion, Region.word?] at hend
    split_ifs at hend
    obtain ⟨e, rest', heq, he, hlen⟩ := blockEnd?_eq_some hend
    have hcut : e ++ rest' = front ++ behind := heq.symm.trans hrest
    constructor
    · intro hlen'
      obtain ⟨rfl, rfl⟩ := List.append_inj hcut (by rw [hlen, hlen'])
      rw [← hlen']
      refine h.jump_blockEnd (by rw [htext, hrest, List.append_assoc]) hplace hregion ?_ he
      rw [← hrest, hword, hlen']
    · intro hlt hbreak
      have hle := he.length_le hcut hne hbreak
      omega

end Follows

/-! ### The loops come to their ends -/

theorem steps_succ_of {n : Nat} (h : k.step openers text = .goesOn k') :
    steps openers text (n + 1) k = steps openers text n k' := by
  rw [steps, h]

theorem steps_add_of {m : Nat} (h : steps openers text m k = .goesOn k') (n : Nat) :
    steps openers text (m + n) k = steps openers text n k' := by
  induction m generalizing k with
  | zero =>
    obtain rfl : k = k' := by simpa [steps] using h
    rw [Nat.zero_add]
  | succ m ih =>
    rw [steps] at h
    rcases hstep : k.step openers text with k₁ | _ | _ <;> rw [hstep] at h
    · rw [Nat.succ_add, steps_succ_of hstep, ih h]
    · simp at h
    · simp at h

theorem step_of_turn (hlt : k.place < k.lineEnd) (h : k.turn openers text = some k') :
    k.step openers text = .goesOn k' := by
  rw [step, if_pos hlt, h]

theorem Follows.endLine_eq (h : Follows k r) : r.endLine = r := by
  rw [Reader.endLine, h.mode, Region.endLine_mode, ← h.mode]

/-- What a turn does: **it goes forward**, over some characters of the line that the reader reads,
or over all that is left of it. -/
theorem Follows.exists_turn (openers : List Text) (h : Follows k r) {c : Char} {front behind : Text}
    (htext : text = r.covered ++ (c :: front) ++ behind) (hplace : k.place = r.covered.length)
    (hbreak : behind ≠ [] → ∀ d ∈ (c :: front).getLast?, isLineBreak d = true) :
    ∃ k', k.turn openers text = some k' ∧ k'.lineEnd = k.lineEnd ∧ k'.ahead = k.ahead ∧
      ((∃ word others, word ≠ [] ∧ c :: front = word ++ others ∧
          k'.place = k.place + word.length ∧
          Follows k' (Reader.scan openers word r (others ++ behind))) ∨
        (k.place + (c :: front).length ≤ k'.place ∧
          Follows k' (Reader.scan openers (c :: front) r behind).endLine)) := by
  have htext' : text = r.covered ++ c :: (front ++ behind) := by rw [htext]; simp
  have hturn := turn_eq openers htext' hplace
  rcases hword : k.region.word? openers (endsName r.covered) c (c :: (front ++ behind)) with _ | n
  · rw [hword] at hturn
    exact ⟨_, hturn, by simp, by simp, Or.inl ⟨[c], front, by simp, rfl, by simp,
      h.pass htext' hplace hword⟩⟩
  · rw [hword] at hturn
    obtain ⟨hpos, -⟩ := Region.word?_bounds hword
    refine ⟨_, hturn, by simp, by simp, ?_⟩
    rcases Nat.lt_or_ge (c :: front).length n with hlt | hge
    · right
      have hrest : c :: (front ++ behind) = (c :: front) ++ behind := rfl
      refine ⟨by rw [place_jump, place_begin]; omega, ?_⟩
      exact (h.jump htext' hplace hword hrest (by simp)).2 hlt hbreak
    · left
      have hlen : ((c :: front).take n).length = n := List.length_take_of_le hge
      refine ⟨(c :: front).take n, (c :: front).drop n, ?_, (List.take_append_drop n _).symm,
        by rw [place_jump, place_begin, hlen], ?_⟩
      · rw [← List.length_pos_iff, hlen]
        exact hpos
      · refine (h.jump htext' hplace hword ?_ ?_).1 hlen
        · rw [← List.append_assoc, List.take_append_drop]
          rfl
        · rw [← List.length_pos_iff, hlen]
          exact hpos

/-- **The loop over a line** comes to its end, and there the cursor knows what the reader knows at
the end of the line. The induction is on what is left of the line. -/
theorem Follows.exists_steps_line (openers : List Text) {behind : Text} (front : Text)
    (h : Follows k r)
    (htext : text = r.covered ++ front ++ behind) (hplace : k.place = r.covered.length)
    (hline : k.lineEnd = k.place + front.length)
    (hbreak : behind ≠ [] → ∀ d ∈ front.getLast?, isLineBreak d = true) :
    ∃ n ≤ front.length, ∃ k', steps openers text n k = .goesOn k' ∧ k'.lineEnd = k.lineEnd ∧
      k'.ahead = k.ahead ∧ k'.lineEnd ≤ k'.place ∧
      Follows k' (Reader.scan openers front r behind).endLine := by
  induction hlen : front.length using Nat.strong_induction_on generalizing k r front with
  | _ length ih =>
    rcases front with _ | ⟨c, front⟩
    · refine ⟨0, Nat.zero_le _, k, rfl, rfl, rfl, by simp [hline], ?_⟩
      rw [Reader.scan, h.endLine_eq]
      exact h
    · obtain ⟨k₁, hturn, hlineEnd, hahead, hcases⟩ := h.exists_turn openers htext hplace hbreak
      have hstep := step_of_turn (by rw [hline]; simp) hturn
      rcases hcases with ⟨word, others, hne, hfront, hplace₁, hfollows⟩ | ⟨hover, hfollows⟩
      · -- the turn ends on the line, and what is left of it is shorter
        have hwordlen : 0 < word.length := List.length_pos_of_ne_nil hne
        have hlength : length = word.length + others.length := by
          rw [← hlen, hfront, List.length_append]
        have hcovered : text = (Reader.scan openers word r (others ++ behind)).covered ++ others ++
            behind := by
          rw [htext, hfront, Reader.covered_scan, ← List.append_assoc]
        have hbreak' : behind ≠ [] → ∀ d ∈ others.getLast?, isLineBreak d = true := by
          intro hne' d hd
          refine hbreak hne' d ?_
          rw [hfront, List.getLast?_append, Option.mem_def.mp hd]
          rfl
        obtain ⟨n, hn, k', hsteps, hlineEnd', hahead', hle, hfollows'⟩ :=
          ih others.length (by omega) others hfollows hcovered
            (by rw [hplace₁, hplace, Reader.covered_scan, List.length_append])
            (by rw [hlineEnd, hline, hplace₁, hfront, List.length_append, Nat.add_assoc])
            hbreak' rfl
        refine ⟨n + 1, by omega, k', ?_, hlineEnd'.trans hlineEnd, hahead'.trans hahead, hle, ?_⟩
        · rw [steps_succ_of hstep, hsteps]
        · rwa [hfront, Reader.scan_append]
      · -- the turn went over the end of the line, so it was the last one
        refine ⟨1, by simp at hlen; omega, k₁, ?_, hlineEnd, hahead, ?_, hfollows⟩
        · rw [steps_succ_of hstep, steps]
        · rw [hlineEnd, hline]
          exact hover

/-- **A line that holds only a slash** is skipped, and cut off by the reader. -/
theorem Follows.nextLine_slash (h : Follows k r) {line rest : Text}
    (hslash : Directive.isLoneSlash line = true) (htext : text = r.covered ++ line ++ rest)
    (hend : k.lineEnd = r.covered.length) (ahead : List Text) :
    Follows (k.nextLine text line ahead) (r.cut line) := by
  obtain ⟨lead, trail, hline, -⟩ := Directive.exists_of_isLoneSlash hslash
  have hne : line ≠ [] := by
    rw [hline]
    simp
  have hname : endsName (r.body.reverse ++ line) = false := by
    rw [endsName_append hne, endsName, List.getLast?_eq_some_getLast hne, Option.any_some]
    refine isNameChar_of_isDelimiter (isDelimiter_of_isSeparator ?_)
    exact Directive.isSeparator_of_isLoneSlash hslash _ (List.getLast_mem hne)
  have hstart := h.start
  rw [← List.append_nil r.body.reverse] at hstart
  have hfound : (k.emit text k.lineEnd k.region.kind).found.reverse =
      Piece.statements 0 (⟨k.region.kind, r.body.reverse, line⟩ :: r.cuts).reverse :=
    found_emit h.found hstart (by rw [htext, Reader.covered, List.append_assoc]) hend _ _
  rw [nextLine, if_pos hslash, Reader.cut, h.mode, Region.kind_mode]
  exact of_cut rfl rfl hfound hname (by simp [Piece.span, hne])

/-- **The way through the next line**, whether it is read or skipped. -/
theorem Follows.exists_steps_next (openers : List Text) (h : Follows k r) {line : Text}
    {ahead : List Text} (htext : text = r.covered ++ line ++ ahead.flatten)
    (hahead : k.ahead = line :: ahead) (hend : k.lineEnd = r.covered.length)
    (hover : k.lineEnd ≤ k.place)
    (hbreak : ahead.flatten ≠ [] → ∀ d ∈ line.getLast?, isLineBreak d = true) :
    ∃ n ≤ line.length + 1, ∃ k', steps openers text n k = .goesOn k' ∧ k'.ahead = ahead ∧
      k'.lineEnd = (r.covered ++ line).length ∧ k'.lineEnd ≤ k'.place ∧
      Follows k' (if Directive.isLoneSlash line then r.cut line
        else (Reader.scan openers line r ahead.flatten).endLine) := by
  have hstep : k.step openers text = .goesOn (k.nextLine text line ahead) := by
    rw [step, if_neg (Nat.not_lt.mpr hover), hahead]
  rw [List.length_append, ← hend]
  by_cases hslash : Directive.isLoneSlash line = true
  · have hnext := h.nextLine_slash hslash htext hend ahead
    refine ⟨1, by omega, k.nextLine text line ahead, by rw [steps_succ_of hstep, steps], ?_⟩
    rw [if_pos hslash]
    rw [nextLine, if_pos hslash] at hnext ⊢
    exact ⟨rfl, rfl, le_rfl, hnext⟩
  · have hnext : k.nextLine text line ahead =
        { k with place := k.lineEnd, lineEnd := k.lineEnd + line.length, ahead } := by
      rw [nextLine, if_neg hslash]
    rw [hnext] at hstep
    -- the relation does not say where the cursor stands
    have hline : Follows
        { k with place := k.lineEnd, lineEnd := k.lineEnd + line.length, ahead } r :=
      ⟨h.mode, h.start, h.begun, h.found, h.afterName⟩
    obtain ⟨n, hn, k', hsteps, hlineEnd, hahead', hover', hfollows⟩ :=
      hline.exists_steps_line openers line htext hend rfl hbreak
    refine ⟨n + 1, by omega, k', by rw [steps_succ_of hstep, hsteps], hahead', hlineEnd, hover', ?_⟩
    rwa [if_neg hslash]

/-- **The loop over the lines** comes to its end, and there the cursor knows what the reader knows
when all lines are read. -/
theorem Follows.exists_steps_lines (openers : List Text) (ls la : List Text) (h : Follows k r)
    (hlines : lines text = la ++ ls) (hcovered : r.covered = la.flatten) (hahead : k.ahead = ls)
    (hend : k.lineEnd = r.covered.length) (hover : k.lineEnd ≤ k.place) :
    ∃ n ≤ ls.length + ls.flatten.length, ∃ k', steps openers text n k = .goesOn k' ∧
      k'.ahead = [] ∧ k'.lineEnd ≤ k'.place ∧
      Follows k' (Reader.readLines openers ls r ls.flatten) := by
  induction ls generalizing la k r with
  | nil => exact ⟨0, le_rfl, k, rfl, hahead, hover, h⟩
  | cons line ls ih =>
    have htext : text = r.covered ++ line ++ ls.flatten := by
      rw [hcovered, ← flatten_lines text, hlines, List.flatten_append, List.flatten_cons,
        List.append_assoc]
    have hbreak : ls.flatten ≠ [] → ∀ d ∈ line.getLast?, isLineBreak d = true := by
      intro hne d hd
      have hls : ls ≠ [] := by
        rintro rfl
        exact hne rfl
      obtain ⟨d', hd', hbreak⟩ := break_of_lines_eq hlines hls
      rwa [Option.mem_unique hd hd']
    rw [List.flatten_cons, Reader.readLines_cons]
    set r₁ := if Directive.isLoneSlash line then r.cut line
      else (Reader.scan openers line r ls.flatten).endLine with hr₁
    have hcovered₁ : r₁.covered = r.covered ++ line := by
      rw [hr₁]
      split
      · exact Reader.covered_cut r line
      · exact Reader.covered_scan openers line r ls.flatten
    obtain ⟨n₁, hn₁, k₁, hsteps₁, hahead₁, hend₁, hover₁, hfollows₁⟩ :=
      h.exists_steps_next openers htext hahead hend hover hbreak
    obtain ⟨n₂, hn₂, k', hsteps₂, hrest⟩ := ih (la ++ [line]) hfollows₁ (by rw [hlines]; simp)
      (by rw [hcovered₁, hcovered]; simp) hahead₁ (by rw [hend₁, hcovered₁]) hover₁
    refine ⟨n₁ + n₂, ?_, k', by rw [steps_add_of hsteps₁, hsteps₂], hrest⟩
    rw [List.length_cons, List.length_append]
    omega

/-- **The cursor comes to its end, and it has found the statements that the reader finds.** -/
theorem exists_steps_eq_split (dialect : Dialect) (script : Text) :
    ∃ n ≤ (lines (Script.source dialect script)).length + (Script.source dialect script).length + 1,
      steps dialect.openers (Script.source dialect script) n
        (ofText (Script.source dialect script)) = .ends (Script.split dialect script) := by
  set text := Script.source dialect script with htext
  have hstart : Follows (ofText text) {} :=
    ⟨rfl, .blank (by simp), fun _ => rfl, rfl, rfl⟩
  obtain ⟨n, hn, k', hsteps, hahead, hover, hfollows⟩ :=
    hstart.exists_steps_lines dialect.openers (lines text) [] rfl rfl rfl rfl le_rfl
  rw [flatten_lines] at hn hfollows
  set r := Reader.readLines dialect.openers (lines text) {} text with hr
  have hcovered : r.covered = text := by
    have h := Reader.covered_readLines dialect.openers (lines text) {}
    rw [flatten_lines, ← hr] at h
    simpa [Reader.covered] using h
  -- the last statement ends where the text does
  have hbody := hfollows.start
  rw [← List.append_nil r.body.reverse] at hbody
  have hfound : (k'.emit text text.length k'.region.kind).found.reverse =
      Script.split dialect script := by
    have hwhole : text = r.cuts.reverse.flatMap Piece.span ++ r.body.reverse ++ [] := by
      rw [List.append_nil, ← Reader.covered, hcovered]
    have hemit := Follows.found_emit hfollows.found hbody hwhole
      (by rw [← Reader.covered, hcovered]) k'.region.kind []
    rw [hemit, Script.split, ← htext, Script.pieces, ← hr, Reader.pieces, Reader.cut, hfollows.mode,
      Region.kind_mode]
  refine ⟨n + 1, by omega, ?_⟩
  rw [steps_add_of hsteps, steps, step, if_neg (Nat.not_lt.mpr hover), hahead, hfound]

end Cursor

/-! ### Splitting -/

namespace Script

/-- **Splitting always makes progress and comes to its end**, whatever the words are that open a
block. A turn inside a line goes forward, so no word that is jumped over is empty; no place outside
the text is ever looked at; and after so many steps as the lines and the characters of the text
allow the statements are there. -/
theorem split_terminates (dialect : Dialect) (script : Text) :
    let text := source dialect script
    let steps := Cursor.steps dialect.openers text
    (∀ n k, steps n (Cursor.ofText text) = .goesOn k → k.place < k.lineEnd →
        ∃ k', k.turn dialect.openers text = some k' ∧ k.Forward dialect.openers text k') ∧
      (∀ n, steps n (Cursor.ofText text) ≠ .outside) ∧
      ∃ n ≤ (lines text).length + text.length + 1,
        steps n (Cursor.ofText text) = .ends (split dialect script) := by
  intro text steps
  have hinside : Cursor.Inside text (Cursor.ofText text) := Cursor.inside_ofText text
  refine ⟨fun n k hsteps hlt => ?_, fun n => hinside.steps_ne_outside n,
    Cursor.exists_steps_eq_split dialect script⟩
  obtain ⟨k', hturn, hforward, -⟩ := (hinside.steps hsteps).exists_turn dialect.openers hlt
  exact ⟨k', hturn, hforward⟩

/-- Among words of which one is empty and one has a line break in it, the turn goes over the end of
the line. -/
theorem split_terminates_over :
    let dialect : Dialect := { openers := [[], "a\nb".toList] }
    let script : Text := "A\nb; end;".toList
    let steps := Cursor.steps dialect.openers script
    let k : Cursor := { lineEnd := 2, ahead := ["b; end;".toList] }
    steps 1 (Cursor.ofText script) = .goesOn k ∧ k.place < k.lineEnd ∧
      (∃ k', k.turn dialect.openers script = some k' ∧ k.Forward dialect.openers script k' ∧
        k.lineEnd < k'.place) ∧
      ∃ n ≤ 12, steps n (Cursor.ofText script) = .ends [⟨script, .block, 0⟩] := by
  intro dialect script steps k
  have hsource : source dialect script = script := by decide +kernel
  have hsplit : split dialect script = [⟨script, .block, 0⟩] := by decide +kernel
  have hsteps : steps 1 (Cursor.ofText script) = .goesOn k := by decide +kernel
  obtain ⟨hturns, -, n, hn, hends⟩ := split_terminates dialect script
  rw [hsource] at hturns hn hends
  rw [hsplit] at hends
  obtain ⟨k', hturn, hforward⟩ := hturns 1 k hsteps (by decide)
  have hover : ∀ k' ∈ k.turn dialect.openers script, k.lineEnd < k'.place := by decide +kernel
  exact ⟨hsteps, by decide, ⟨k', hturn, hforward, hover k' hturn⟩, n, hn, hends⟩

end Script

end SqlScript
