import SqlScript.Proofs.Composition
import SqlScript.Proofs.Returns

/-!
# Blank characters that make no difference

Two changes of a text are looked at here: a carriage return is left out in front of a line feed
(`Script.outline_pieces_feed`), and a blank character is left out at the beginning
(`Script.outline_pieces_cons`). They move the statements and may take carriage returns out of them,
and that is all that they do: what is left if neither counts, the outline of the statements, is the
same.

Behind the change the two texts go on alike, and a reader asks what follows and whether a name was
read last, but not what stands in the stretch that it is in. So two readers that stand alike before
the same lines (`Reader.Alike`) stand alike behind them, and cut off pieces of the same outline.
What has to be said of the two stretches is that they come to the same when they are trimmed,
however they go on (`Kin`).
-/

namespace SqlScript

open SqlScript.Text SqlScript.Word

/-! ### Outlines -/

/-- What a statement is if neither its place nor its carriage returns count. -/
def Statement.outline (s : Statement) : Kind × Text := (s.kind, dropReturns s.text)

/-- What a piece is if only the statement in it counts, without carriage returns. -/
def Piece.outline (p : Piece) : Kind × Text := (p.kind, dropReturns p.text)

/-- **Pieces of the same outline hold statements of the same outline**, wherever they begin. -/
theorem Piece.outline_statements (n : Nat) (ps : List Piece) :
    (statements n ps).map Statement.outline = (ps.map outline).filter (!·.2.isEmpty) := by
  induction ps generalizing n with
  | nil => rfl
  | cons p ps ih =>
    obtain ⟨-, -, -, htight⟩ := p.exists_text
    rw [statements, List.map_append, ih, List.map_cons, List.filter_cons, statement?]
    -- a tight text is not made up of carriage returns, so both sides leave out the same pieces
    rcases eq_or_ne p.text [] with hnil | hne
    · have houtline : p.outline.2 = [] := by rw [outline, hnil, dropReturns_nil]
      simp [hnil, houtline]
    · have hleft : dropReturns p.text ≠ [] := fun h => hne ((dropReturns_eq_nil htight).mp h)
      simp [hne, hleft, Statement.outline, outline]

/-- **Two stretches are kin** if they come to the same but for carriage returns when they are
trimmed, however they go on. -/
def Kin (b b' : Text) : Prop := ∀ t, dropReturns (trim (b ++ t)) = dropReturns (trim (b' ++ t))

theorem Kin.append {b b' : Text} (h : Kin b b') (t : Text) : Kin (b ++ t) (b' ++ t) := by
  intro u
  rw [List.append_assoc, List.append_assoc]
  exact h (t ++ u)

/-- Texts that differ by carriage returns are kin. -/
theorem Kin.of_dropReturns {b b' : Text} (h : dropReturns b = dropReturns b') : Kin b b' := by
  intro t
  rw [dropReturns_trim, dropReturns_trim, dropReturns_append, dropReturns_append, h]

/-- Blank characters at the beginning do not count. -/
theorem Kin.of_blank {b : Text} (h : ∀ c ∈ b, isBlank c = true) : Kin b [] := by
  intro t
  rw [trim_blank_append h, List.nil_append]

/-- Pieces have the same outline if their bodies are kin. -/
theorem Kin.outline {b b' : Text} (h : Kin b b') (kind : Kind) (mark mark' : Text) :
    Piece.outline ⟨kind, b, mark⟩ = Piece.outline ⟨kind, b', mark'⟩ := by
  have htrim : trim (dropReturns b) = trim (dropReturns b') := by
    rw [← dropReturns_trim, ← dropReturns_trim]
    simpa using h []
  rw [Piece.outline, Piece.outline, Piece.dropReturns_text, Piece.dropReturns_text,
    Piece.text_congr kind htrim mark mark']

/-! ### Readers that stand alike -/

/-- **Two readers stand alike**: what is open is the same, and what they have cut off has the same
outline. -/
structure Reader.Alike (r r' : Reader) : Prop where
  /-- They are in the same mode. -/
  mode : r.mode = r'.mode
  /-- A name was read last by both or by neither. -/
  afterName : r.afterName = r'.afterName
  /-- The stretches they are in are kin. -/
  stretch : Kin r.body.reverse r'.body.reverse
  /-- The pieces behind them have the same outline. -/
  cuts : r.cuts.map Piece.outline = r'.cuts.map Piece.outline

namespace Reader.Alike

variable {r r' : Reader}

theorem refl (r : Reader) : Alike r r := ⟨rfl, rfl, fun _ => rfl, rfl⟩

/-- **A cut keeps to it** if the bodies are kin. -/
theorem push (h : Alike r r') {b b' : Text} (hb : Kin b b') (kind : Kind) (mark mark' : Text) :
    Alike ⟨.plain, [], ⟨kind, b, mark⟩ :: r.cuts⟩ ⟨.plain, [], ⟨kind, b', mark'⟩ :: r'.cuts⟩ := by
  refine ⟨rfl, rfl, fun _ => rfl, ?_⟩
  rw [List.map_cons, List.map_cons, h.cuts, hb.outline kind mark mark']

theorem cut (h : Alike r r') (mark mark' : Text) : Alike (r.cut mark) (r'.cut mark') := by
  rw [Reader.cut, Reader.cut, h.mode]
  exact h.push h.stretch _ mark mark'

/-- **Reading a character keeps to it.** -/
theorem read (h : Alike r r') (openers : List Text) (c : Char) (rest : Text) :
    Alike (r.read openers c rest) (r'.read openers c rest) := by
  cases hcuts : r.mode.cuts c with
  | false =>
    have hcuts' : r'.mode.cuts c = false := h.mode ▸ hcuts
    rw [read_of_not_cuts openers hcuts, read_of_not_cuts openers hcuts', ← afterName_eq,
      ← afterName_eq, h.mode, h.afterName]
    refine ⟨rfl, rfl, ?_, h.cuts⟩
    rw [List.reverse_cons, List.reverse_cons]
    exact h.stretch.append [c]
  | true =>
    obtain ⟨hmode | hmode, rfl⟩ := Mode.cuts_eq_true hcuts
    · have hmode' : r'.mode = .plain := h.mode ▸ hmode
      rw [read_plain openers hmode, read_plain openers hmode']
      exact h.push h.stretch _ _ _
    · have hmode' : r'.mode = .closing := h.mode ▸ hmode
      rw [read_closing openers hmode, read_closing openers hmode']
      exact h.push (h.stretch.append [';']) _ _ _

theorem scan (h : Alike r r') (openers : List Text) (front rest : Text) :
    Alike (Reader.scan openers front r rest) (Reader.scan openers front r' rest) := by
  induction front generalizing r r' with
  | nil => exact h
  | cons c front ih => exact ih (h.read openers c (front ++ rest))

theorem endLine (h : Alike r r') : Alike r.endLine r'.endLine :=
  ⟨congrArg Mode.endLine h.mode, h.afterName, h.stretch, h.cuts⟩

/-- **Readers that stand alike before the same lines stand alike behind them.** -/
theorem readLines (h : Alike r r') (openers ls : List Text) :
    Alike (Reader.readLines openers ls r ls.flatten)
      (Reader.readLines openers ls r' ls.flatten) := by
  induction ls generalizing r r' with
  | nil => exact h
  | cons line ls ih =>
    rw [List.flatten_cons, readLines_cons, readLines_cons]
    split_ifs
    · exact ih (h.cut line line)
    · exact ih (h.scan openers line ls.flatten).endLine

theorem outline_pieces (h : Alike r r') :
    r.pieces.map Piece.outline = r'.pieces.map Piece.outline := by
  rw [pieces, pieces, List.map_reverse, List.map_reverse, (h.cut [] []).cuts]

end Reader.Alike

/-! ### Line breaks with and without a carriage return -/

/-- **A line break that ends with a line feed.** -/
def Feed (w : Text) : Prop := w = ['\n'] ∨ w = ['\r', '\n']

namespace Feed

variable {w w' : Text}

theorem lines_eq (hw : Feed w) : lines w = [w] := by
  rcases hw with rfl | rfl
  · exact lines_singleton '\n'
  · exact lines_crlf []

theorem blank (hw : Feed w) : ∀ c ∈ w, isBlank c = true := by
  rcases hw with rfl | rfl
  · exact isBlank_newline
  · exact List.forall_mem_cons.mpr ⟨isBlank_return, isBlank_newline⟩

theorem lineStart (hw : Feed w) (u v : Text) : LineStart (u ++ w) v := by
  rcases hw with rfl | rfl
  · exact lineStart_newline u v
  · rw [List.append_cons]
    exact lineStart_newline (u ++ ['\r']) v

theorem outOfSight {openers : List Text} (hopeners : Named openers) (hw : Feed w) (v : Text) :
    OutOfSight openers (w ++ v) := by
  refine outOfSight_of_head hopeners ?_
  rcases hw with rfl | rfl <;> rintro c ⟨⟩ <;> exact Or.inl (by decide)

theorem dropReturns_eq (hw : Feed w) : dropReturns w = ['\n'] := by
  rcases hw with rfl | rfl <;> rfl

/-- Behind a line break no name was read last. -/
theorem startsName_reverse (hw : Feed w) (t : Text) : startsName (w.reverse ++ t) = false := by
  have hfeed : isNameChar '\n' = false := isNameChar_of_isDelimiter (by decide)
  rcases hw with rfl | rfl <;> exact hfeed

end Feed

namespace Reader

/-- **A line is read alike with either line break.** -/
theorem Alike.feed {w w' : Text} (hw : Feed w) (hw' : Feed w') (openers : List Text) (r : Reader)
    (v : Text) :
    Alike (Reader.scan openers w r v).endLine (Reader.scan openers w' r v).endLine := by
  rw [endLine_scan_blank hw.blank, endLine_scan_blank hw'.blank]
  refine ⟨rfl, ?_, Kin.of_dropReturns ?_, rfl⟩
  · rw [Reader.afterName, Reader.afterName, hw.startsName_reverse, hw'.startsName_reverse]
  · simp [hw.dropReturns_eq, hw'.dropReturns_eq]

end Reader

namespace Script

open Reader

/-- The text before a line break is read as if nothing followed it, and then the line break and the
lines behind it are read. -/
theorem pieces_append_feed {openers : List Text} (hopeners : Named openers) {la : List Text}
    {l w : Text} (hw : Feed w)
    (hlines : lines (la.flatten ++ l ++ w) = la ++ [l ++ w]) (v : Text) :
    let r := Reader.readLines openers la {} (la.flatten ++ l)
    pieces openers (la.flatten ++ l ++ w ++ v) =
      (Reader.readLines openers (lines v)
        (if Directive.isLoneSlash l then r.cut (l ++ w)
          else (scan openers w (scan openers l r []) v).endLine) v).pieces := by
  intro r
  have hsight : OutOfSight openers (w ++ v) := hw.outOfSight hopeners v
  have hwhole : la.flatten ++ l ++ w ++ v = la.flatten ++ (l ++ (w ++ v)) := by simp
  have hfront : scan openers l r (w ++ v) = scan openers l r [] := by
    simpa using scan_lookAhead hsight l r []
  have hslash : Directive.isLoneSlash (l ++ w) = Directive.isLoneSlash l :=
    Directive.isLoneSlash_congr (trim_append_blank l hw.blank)
  rw [pieces, lines_append (hw.lineStart _ v), hlines, hwhole, List.append_assoc, readLines_append,
    readLines_lookAhead hsight, List.singleton_append, ← List.append_assoc l, readLines_cons,
    scan_append, hslash, hfront]

/-- **The pieces of a text have the same outline with either line break.** -/
theorem outline_pieces_feed {openers : List Text} (hopeners : Named openers) {u w w' : Text}
    (hu : u.getLast? ≠ some '\r') (hw : Feed w) (hw' : Feed w') (v : Text) :
    (pieces openers (u ++ w ++ v)).map Piece.outline =
      (pieces openers (u ++ w' ++ v)).map Piece.outline := by
  obtain ⟨la, l, rfl, hlines⟩ := lines_append_break hu
  rw [pieces_append_feed hopeners hw (hlines w hw.lines_eq),
    pieces_append_feed hopeners hw' (hlines w' hw'.lines_eq)]
  -- the same lines follow, so it is enough that the two stand alike before them
  have hread := fun {r r' : Reader} (h : Alike r r') => h.readLines openers (lines v)
  rw [flatten_lines] at hread
  refine (hread ?_).outline_pieces
  split_ifs
  · exact (Alike.refl _).cut _ _
  · exact .feed hw hw' openers _ v

/-! ### Blank characters at the beginning -/

/-- **A blank character at the beginning of a text changes no outline.** -/
theorem outline_pieces_cons (openers : List Text) {c : Char} (hc : isBlank c = true) (t : Text) :
    (pieces openers (c :: t)).map Piece.outline = (pieces openers t).map Piece.outline := by
  have hblank : ∀ d ∈ [c], isBlank d = true := List.forall_mem_singleton.mpr hc
  have hname : startsName [c] = false := isNameChar_of_isDelimiter (isDelimiter_of_isBlank hc)
  have hfirst : Alike ⟨.plain, [c], []⟩ {} := ⟨rfl, hname, Kin.of_blank hblank, rfl⟩
  have hflat := flatten_lines t
  rcases lines_cons_cases c t with hlines | ⟨l, ls, hlines, hlines'⟩
  · -- a blank line before the lines of the text
    have halike := hfirst.readLines openers (lines t)
    have hcons := readLines_cons openers [c] (lines t) {} t
    rw [Directive.isLoneSlash_of_blank hblank, if_neg Bool.false_ne_true,
      endLine_scan_blank hblank] at hcons
    rw [hflat] at halike
    rw [pieces, pieces, hlines]
    exact hcons ▸ halike.outline_pieces
  · -- the first line is longer, but it is the same when it is trimmed
    have hslash : Directive.isLoneSlash (c :: l) = Directive.isLoneSlash l :=
      Directive.isLoneSlash_congr (trim_blank_append hblank l)
    have hread : Reader.read openers {} c (l ++ ls.flatten) = ⟨.plain, [c], []⟩ :=
      read_blank hc openers {} _
    rw [hlines, List.flatten_cons] at hflat
    rw [pieces, pieces, hlines', hlines, ← hflat, ← List.cons_append, readLines_cons,
      readLines_cons, hslash, scan, hread]
    refine (Alike.readLines ?_ openers ls).outline_pieces
    split_ifs
    · exact (Alike.refl {}).cut _ _
    · exact (hfirst.scan openers l _).endLine

end Script

end SqlScript
