import SqlScript.Proofs.DirectiveLines
import SqlScript.Proofs.LookAhead
import SqlScript.Proofs.Slices

/-!
# A lone slash divides a script

Whatever is open where a line with a lone slash stands, a quote, a block or a statement, the line
ends it, and what stands behind the line is read as if it were a script by itself. So a script with
such a line in it splits into the statements of its two parts (`Script.split_append_slashLine`), the
second part moved by the length of the first, and the same lines of both are removed.

Behind the line this is how the reader works (`Script.pieces_slash`). Before it three things could
make a difference, and each is shown to make none. The reader looks ahead, but openers of name
characters are cut off by the slash, and so is a block end (`outOfSight_of_head`). The line feed
before the slash belongs to the first part, in which it is one more blank character or one more
blank line (`Script.statements_append_blank`). And if the line that it ends is a directive, it is
removed with that line; then the slash stands behind another line break, or at the start
(`Script.source_append_blank`).
-/

namespace SqlScript

open SqlScript.Text SqlScript.Word

/-! ### Statements that are moved -/

/-- The statement `n` characters further on. -/
def Statement.shift (n : Nat) (s : Statement) : Statement := { s with offset := s.offset + n }

namespace Piece

theorem statements_shift (n m : Nat) (ps : List Piece) :
    statements (n + m) ps = (statements n ps).map (Statement.shift m) := by
  induction ps generalizing n with
  | nil => rfl
  | cons p ps ih =>
    have hhead : p.statement? (n + m) = (p.statement? n).map (Statement.shift m) := by
      rw [statement?, statement?]
      split_ifs
      · rfl
      · simp only [Option.map_some, Statement.shift]
        congr 2
        omega
    rw [statements, statements, List.map_append, hhead, Nat.add_right_comm, ih]
    cases p.statement? n <;> rfl

/-- Neither its mark nor blank characters at its end make a difference to the statement of a
piece. -/
theorem statement?_congr (n : Nat) (kind : Kind) (body : Text) {u : Text}
    (hu : ∀ c ∈ u, isBlank c = true) (mark mark' : Text) :
    statement? n ⟨kind, body ++ u, mark'⟩ = statement? n ⟨kind, body, mark⟩ := by
  have htext := text_congr kind (trim_append_blank body hu) mark' mark
  rw [statement?, statement?, htext]
  split_ifs with hempty
  · rfl
  · have hfront : (body ++ u).takeWhile isBlank = body.takeWhile isBlank := by
      rw [List.takeWhile_append]
      split_ifs with hall
      · -- a body that is all blank has no text
        exfalso
        obtain ⟨junk, hbody, -⟩ := exists_text ⟨kind, body, mark⟩
        have hlen := congrArg List.length hbody
        simp only [List.length_append] at hlen
        exact hempty (List.isEmpty_iff_length_eq_zero.mpr (by omega))
      · rfl
    rw [hfront]

end Piece

namespace Reader

/-- A reader that has read some blank characters more cuts off the same statement. -/
theorem statements_cut (r r' : Reader) (hcuts : r'.cuts = r.cuts)
    (hkind : r'.mode.kind = r.mode.kind) {u : Text} (hu : ∀ c ∈ u, isBlank c = true)
    (hbody : r'.body.reverse = r.body.reverse ++ u) (mark mark' : Text) :
    Piece.statements 0 (r'.cut mark').cuts.reverse =
      Piece.statements 0 (r.cut mark).cuts.reverse := by
  simp only [cut, List.reverse_cons, hcuts, hkind, hbody, Piece.statements_append, Piece.statements,
    List.append_nil]
  rw [Piece.statement?_congr _ _ _ hu mark]

theorem pieces_endLine (r : Reader) : r.endLine.pieces = r.pieces := by
  rw [pieces, pieces, cut, cut, endLine]
  cases r.mode <;> rfl

/-- Nothing is left for a piece behind a cut. -/
theorem statements_pieces_cut (r : Reader) (mark : Text) :
    Piece.statements 0 (r.cut mark).pieces = Piece.statements 0 (r.cut mark).cuts.reverse := by
  have hnone : ∀ n, Piece.statements n [⟨(r.cut mark).mode.kind, [], []⟩] = [] := fun n => rfl
  rw [pieces, cut, List.reverse_cons, Piece.statements_append]
  simp only [cut, List.reverse_nil] at hnone ⊢
  rw [hnone, List.append_nil]

/-- A blank character at the end of a script changes none of its statements. -/
theorem statements_read_blank {c : Char} (hc : isBlank c = true) (openers : List Text)
    (r : Reader) :
    Piece.statements 0 (r.read openers c []).endLine.pieces = Piece.statements 0 r.pieces := by
  have hbody : (c :: r.body).reverse = r.body.reverse ++ [c] := List.reverse_cons
  rw [read_blank hc, pieces_endLine]
  exact statements_cut r ⟨r.mode.pass, c :: r.body, r.cuts⟩ rfl (Mode.kind_pass r.mode)
    (List.forall_mem_singleton.mpr hc) hbody [] []

end Reader

/-! ### Blank characters at the end -/

namespace Script

/-- **A blank character at the end of a text changes none of its statements.** -/
theorem statements_append_blank {openers : List Text} (hopeners : Named openers) (text : Text)
    {c : Char} (hc : isBlank c = true) :
    Piece.statements 0 (pieces openers (text ++ [c])) =
      Piece.statements 0 (pieces openers text) := by
  have hblank : ∀ d ∈ [c], isBlank d = true := List.forall_mem_singleton.mpr hc
  have hv : OutOfSight openers [c] := outOfSight_of_blank hopeners hblank
  rw [pieces, pieces]
  by_cases hstart : LineStart text [c]
  · -- one more line, and a blank one
    have hfront := Reader.readLines_lookAhead hv (lines text) {} []
    rw [List.nil_append, List.append_nil, flatten_lines] at hfront
    have hlast := Reader.readLines_append openers (lines text) [[c]] {} [c]
    rw [flatten_lines, hfront] at hlast
    rw [lines_append hstart, lines_singleton, hlast, Reader.readLines_singleton,
      Directive.isLoneSlash_of_blank hblank, if_neg Bool.false_ne_true]
    exact Reader.statements_read_blank hc openers _
  · -- the last line is longer, but it is the same when it is trimmed
    obtain ⟨la, l, hlines, hlines'⟩ := lines_append_singleton hstart
    have htext : text = la.flatten ++ l := by
      rw [← flatten_lines text, hlines]
      simp
    have hfront := Reader.readLines_lookAhead hv la {} l
    have htrim : trim (l ++ [c]) = trim l := trim_append_blank l hblank
    have hread := Reader.readLines_append openers la [l] {} l
    have hread' := Reader.readLines_append openers la [l ++ [c]] {} (l ++ [c])
    rw [hlines, hlines', htext, List.append_assoc, hread, hread', hfront]
    generalize Reader.readLines openers la {} (la.flatten ++ l) = r
    have hscan := Reader.scan_lookAhead hv l r []
    rw [Reader.readLines_singleton, Reader.readLines_singleton, Directive.isLoneSlash_congr htrim]
    split_ifs
    · rw [Reader.statements_pieces_cut, Reader.statements_pieces_cut]
      exact Reader.statements_cut (u := []) r r rfl rfl (by simp) (by simp) _ _
    · rw [List.nil_append] at hscan
      rw [Reader.scan_append, List.append_nil, hscan,
        Reader.pieces_endLine (Reader.scan openers l r [])]
      exact Reader.statements_read_blank hc openers _

/-! ### The slash -/

/-- **What stands behind a line with a lone slash is split as if nothing were before it.** -/
theorem statements_slash {openers : List Text} (hopeners : Named openers) {text : Text}
    (htext : ∀ c ∈ text.getLast?, isLineBreak c = true) (rest : Text) :
    Piece.statements 0 (pieces openers (text ++ (['/', '\n'] ++ rest))) =
      Piece.statements 0 (pieces openers text) ++
        (Piece.statements 0 (pieces openers rest)).map (Statement.shift (text.length + 2)) := by
  have hrest : LineStart ['/', '\n'] rest := lineStart_newline ['/'] rest
  have hlines : lines (text ++ (['/', '\n'] ++ rest)) =
      lines text ++ ['/', '\n'] :: lines rest := by
    rw [lines_append (lineStart_of_head_ne htext (by simp)), lines_append hrest]
    rfl
  have hv : ∀ c ∈ (['/', '\n'] ++ rest).head?, isLineBreak c = true ∨ c = '/' := by
    rintro c ⟨⟩
    exact Or.inr rfl
  have hread := Reader.readLines_lookAhead (outOfSight_of_head hopeners hv) (lines text) {} []
  rw [List.nil_append, List.append_nil, flatten_lines] at hread
  rw [pieces_slash openers hlines (by decide), hread, flatten_lines, Piece.statements_append]
  set r := Reader.readLines openers (lines text) {} text with hr
  have hcovered : ((r.cut ['/', '\n']).cuts.reverse.flatMap Piece.span).length =
      text.length + 2 := by
    have h := Reader.covered_readLines openers (lines text) {}
    rw [flatten_lines, ← hr] at h
    have hcut := r.covered_cut ['/', '\n']
    rw [h] at hcut
    simpa [Reader.covered, Reader.cut] using congrArg List.length hcut
  have hfirst : Piece.statements 0 (r.cut ['/', '\n']).cuts.reverse =
      Piece.statements 0 (pieces openers text) :=
    Reader.statements_cut (u := []) r r rfl rfl (by simp) (by simp) _ _
  rw [hcovered, Piece.statements_shift, hfirst]

/-! ### Scripts with directive lines -/

/-- A line with a lone slash, and the end of the line before it. -/
def slashLine : Text := ['\n', '/', '\n']

/-- For each line of a script, whether it is removed. -/
def removals (dialect : Dialect) (script : Text) : List Bool :=
  Directive.removals dialect.directives dialect.boundaryOnly true (lines script)

variable {dialect : Dialect}

theorem lines_append_slashLine (a b : Text) :
    lines (a ++ slashLine ++ b) = lines (a ++ ['\n']) ++ ['/', '\n'] :: lines b := by
  have hsplit : a ++ slashLine ++ b = (a ++ ['\n']) ++ (['/', '\n'] ++ b) := by simp [slashLine]
  have hslash : LineStart ['/', '\n'] b := lineStart_newline ['/'] b
  rw [hsplit, lines_append (lineStart_newline a _), lines_append hslash]
  rfl

/-- **The slash line is kept, and the lines behind it are decided upon as those of a script.** -/
theorem kept_append_slashLine (hslash : Directive.isDirective dialect.directives ['/'] = false)
    (a b : Text) :
    Directive.kept dialect.directives dialect.boundaryOnly true (lines (a ++ slashLine ++ b)) =
      Directive.kept dialect.directives dialect.boundaryOnly true (lines (a ++ ['\n'])) ++
        ['/', '\n'] :: Directive.kept dialect.directives dialect.boundaryOnly true (lines b) := by
  have hline : Directive.isLoneSlash ['/', '\n'] = true := by decide
  rw [lines_append_slashLine, Directive.kept_append, Directive.kept,
    Directive.removes_of_isLoneSlash hslash hline, Directive.boundaryAfter_of_isLoneSlash hline]
  rfl

theorem removals_append_slashLine
    (hslash : Directive.isDirective dialect.directives ['/'] = false) (a b : Text) :
    removals dialect (a ++ slashLine ++ b) =
      removals dialect (a ++ slashLine) ++ removals dialect b := by
  have hline : Directive.isLoneSlash ['/', '\n'] = true := by decide
  have hlines := lines_append_slashLine a []
  rw [List.append_nil, lines_nil] at hlines
  rw [removals, removals, lines_append_slashLine, hlines, List.append_cons,
    Directive.removals_append, Directive.boundary_append,
    Directive.boundary_of_isLoneSlash hslash hline]
  rfl

/-- The source of a script with a slash line in it. -/
theorem source_append_slashLine (hslash : Directive.isDirective dialect.directives ['/'] = false)
    (a b : Text) :
    source dialect (a ++ slashLine ++ b) =
      source dialect (a ++ ['\n']) ++ (['/', '\n'] ++ source dialect b) := by
  rw [source, Directive.strip, kept_append_slashLine hslash, List.flatten_append, List.flatten_cons]
  rfl

/-- **A blank character at the end of a script** stands at the end of its source, or it is removed
with the last line of the script, and then the source ends with a line break if it is not empty. -/
theorem source_append_blank (dialect : Dialect) (a : Text) {c : Char} (hc : isBlank c = true) :
    source dialect (a ++ [c]) = source dialect a ++ [c] ∨
      (source dialect (a ++ [c]) = source dialect a ∧
        ∀ d ∈ (source dialect a).getLast?, isLineBreak d = true) := by
  have hblank : ∀ d ∈ [c], isBlank d = true := List.forall_mem_singleton.mpr hc
  rw [source, source, Directive.strip, Directive.strip]
  by_cases hstart : LineStart a [c]
  · -- one more line, which is blank
    left
    rw [lines_append hstart, lines_singleton, Directive.kept_append, Directive.kept,
      Directive.removes_of_blank hblank, if_neg Bool.false_ne_true, Directive.kept,
      List.flatten_append]
    rfl
  · obtain ⟨la, l, hlines, hlines'⟩ := lines_append_singleton hstart
    have htrim : trim (l ++ [c]) = trim l := trim_append_blank l hblank
    rw [hlines, hlines', Directive.kept_append, Directive.kept_append, Directive.kept,
      Directive.kept, Directive.removes_congr htrim, Directive.kept, Directive.kept]
    split_ifs with h
    · -- the character is removed with the line, and a line break ended the line before
      right
      simp only [Directive.kept, List.append_nil]
      refine ⟨trivial, Directive.isLineBreak_of_kept (fun m hm => ?_) _⟩
      obtain ⟨la₁, la₂, rfl⟩ := List.append_of_mem hm
      have hm : lines a = la₁ ++ m :: (la₂ ++ [l]) := by simpa using hlines
      exact break_of_lines_eq hm (by simp)
    · left
      simp [Directive.kept]

/-- **A blank character at the end of a script changes none of its statements.** -/
theorem split_append_blank (hopeners : Named dialect.openers) (a : Text) {c : Char}
    (hc : isBlank c = true) : split dialect (a ++ [c]) = split dialect a := by
  rw [split, split]
  rcases source_append_blank dialect a hc with h | ⟨h, -⟩
  · rw [h, statements_append_blank hopeners _ hc]
  · rw [h]

/-- The statements of a script with a slash line in it. -/
theorem statements_append_slashLine (hopeners : Named dialect.openers)
    (hslash : Directive.isDirective dialect.directives ['/'] = false) (a b : Text) :
    split dialect (a ++ slashLine ++ b) =
      split dialect a ++
        (split dialect b).map (Statement.shift (source dialect (a ++ slashLine)).length) := by
  have hlength : (source dialect (a ++ slashLine)).length =
      (source dialect (a ++ ['\n'])).length + 2 := by
    have h := source_append_slashLine hslash a []
    rw [List.append_nil] at h
    rw [h, List.length_append]
    rfl
  have hfeed : isBlank '\n' = true := by decide
  have hends : ∀ c ∈ (source dialect (a ++ ['\n'])).getLast?, isLineBreak c = true := by
    rcases source_append_blank dialect a hfeed with h | ⟨h, hbreak⟩
    · rw [h, List.getLast?_append_of_ne_nil _ (by simp)]
      rintro c ⟨⟩
      decide
    · rwa [h]
  have hsame := split_append_blank hopeners a hfeed
  rw [split] at hsame
  rw [split, source_append_slashLine hslash, statements_slash hopeners hends, hsame, hlength]
  rfl

/-- **Splitting is compositional over a lone slash.** Under openers of name characters, and unless a
slash begins a directive, a script with a line in it that holds only a slash has the statements of
the part before that line and those of the part behind it, with their offsets counted from there,
and the lines of the second part are removed that would be removed from it alone. -/
theorem split_append_slashLine (hopeners : Named dialect.openers)
    (hslash : Directive.isDirective dialect.directives ['/'] = false) (a b : Text) :
    split dialect (a ++ slashLine ++ b) =
        split dialect a ++
          (split dialect b).map (Statement.shift (source dialect (a ++ slashLine)).length) ∧
      lines (a ++ slashLine ++ b) = lines (a ++ slashLine) ++ lines b ∧
      removals dialect (a ++ slashLine ++ b) =
        removals dialect (a ++ slashLine) ++ removals dialect b := by
  refine ⟨?_, ?_, removals_append_slashLine hslash a b⟩
  · exact statements_append_slashLine hopeners hslash a b
  · have hlines := lines_append_slashLine a []
    rw [List.append_nil, lines_nil] at hlines
    rw [lines_append_slashLine, hlines, List.append_assoc]
    rfl

/-- A quote and a block that are open before the slash are no part of what stands behind it. -/
theorem split_append_slashLine_openQuote :
    Named ({} : Dialect).openers ∧
      Directive.isDirective ({} : Dialect).directives ['/'] = false ∧
      split {} ("begin x := 'y".toList ++ slashLine ++ "z; set".toList) =
        [⟨"begin x := 'y".toList, .block, 0⟩, ⟨"z".toList, .simple, 16⟩,
          ⟨"set".toList, .simple, 19⟩] := by
  have hopeners : Named ({} : Dialect).openers := named_default
  have hslash : Directive.isDirective ({} : Dialect).directives ['/'] = false := by decide +kernel
  refine ⟨hopeners, hslash, ?_⟩
  rw [(split_append_slashLine hopeners hslash _ _).1]
  decide +kernel

end Script

end SqlScript
