import SqlScript.Proofs.Composition

/-!
# What is finished stays finished

A script may grow at its end, line by line, as one that is typed does. Splitting it again then finds
the statements that were finished before, where they were before (`Script.split_append`): only what
the end of the script had cut off can be different, since it may go on now, and become a block.

The reader takes no cut back (`Reader.suffix_cuts_readLines`), so all that has to be seen is that it
is in the same state at the place where the script ended before. The lines before that place end
with line breaks, and such lines are read alike whatever follows (`Reader.readLines_of_breaks`).
There is one line that may be longer now. Where the last lines of the script were directives and are
removed, its source may end with a carriage return, and if a line feed is appended the two become
one line break; the line is the same when it is trimmed, and the line feed does not cut
(`Script.finished_append`).
-/

namespace SqlScript

open SqlScript.Text SqlScript.Word

/-! ### What reading has finished -/

namespace Reader

/-- The statements that have been cut off. -/
def finished (r : Reader) : List Statement := Piece.statements 0 r.cuts.reverse

/-- **Reading on takes no cut back.** -/
theorem suffix_cuts_readLines (openers ls : List Text) (r : Reader) (rest : Text) :
    r.cuts <:+ (readLines openers ls r (ls.flatten ++ rest)).cuts := by
  have hatop := readLines_atop openers ls ⟨r.mode, r.body, []⟩ r.cuts rest
  have hr : (Reader.mk r.mode r.body []).atop r.cuts = r := rfl
  rw [hr] at hatop
  rw [hatop]
  exact List.suffix_append _ _

/-- At the end of the script one more piece is cut off. -/
theorem statements_pieces (r : Reader) :
    ∃ n, Piece.statements 0 r.pieces =
      r.finished ++ (Piece.statement? n ⟨r.mode.kind, r.body.reverse, []⟩).toList := by
  refine ⟨0 + (r.cuts.reverse.flatMap Piece.span).length, ?_⟩
  rw [pieces, cut, List.reverse_cons, Piece.statements_append, finished, Piece.statements,
    Piece.statements, List.append_nil]

/-- **What is finished stays finished** when more lines are read. -/
theorem finished_prefix (openers ls : List Text) (r : Reader) :
    r.finished <+: Piece.statements 0 (readLines openers ls r ls.flatten).pieces := by
  have hcuts := suffix_cuts_readLines openers ls r []
  rw [List.append_nil] at hcuts
  obtain ⟨newer, hcuts⟩ := hcuts
  obtain ⟨n, hlast⟩ := statements_pieces (readLines openers ls r ls.flatten)
  rw [hlast, finished, finished, ← hcuts, List.reverse_append, Piece.statements_append,
    List.append_assoc]
  exact List.prefix_append _ _

/-- **All statements but the last are finished** when the script ends. -/
theorem dropLast_statements_prefix (r : Reader) :
    (Piece.statements 0 r.pieces).dropLast <+: r.finished := by
  obtain ⟨n, h⟩ := r.statements_pieces
  rw [h]
  cases Piece.statement? n ⟨r.mode.kind, r.body.reverse, []⟩ with
  | none =>
    rw [Option.toList_none, List.append_nil]
    exact List.dropLast_prefix _
  | some s =>
    simp only [Option.toList_some, List.dropLast_concat, List.prefix_rfl]

/-- **A line feed that joins a line break finishes nothing**: the line is the same when it is
trimmed, and the line feed does not cut. -/
theorem finished_newline {openers : List Text} (hopeners : Named openers) {line : Text}
    (hline : ∃ c ∈ line.getLast?, isLineBreak c = true) (r : Reader) (rest : Text) :
    (readLines openers [line ++ ['\n']] r (line ++ ['\n'] ++ rest)).finished =
      (readLines openers [line] r line).finished := by
  obtain ⟨c, hc, hbreak⟩ := hline
  have hslash : Directive.isLoneSlash (line ++ ['\n']) = Directive.isLoneSlash line :=
    Directive.isLoneSlash_congr (trim_append_blank line isBlank_newline)
  rw [readLines_cons, readLines_singleton, hslash]
  split_ifs
  · exact statements_cut (u := []) r r rfl rfl (by simp) (by simp) _ _
  · have hfront := scan_of_break hopeners hc hbreak r (['\n'] ++ rest)
    rw [scan_append, hfront, scan, scan, read_blank (by decide)]
    rfl

end Reader

/-! ### Texts that go on behind a line -/

namespace Script

/-- **What is finished at the end of a line is finished in every text that goes on behind it.** -/
theorem finished_append {openers : List Text} (hopeners : Named openers) {text : Text}
    (htext : ∀ c ∈ text.getLast?, isLineBreak c = true) (rest : Text) :
    (Reader.readLines openers (lines text) {} text).finished <+:
      Piece.statements 0 (pieces openers (text ++ rest)) := by
  have hbreaks : ∀ l ∈ lines text, ∃ c ∈ l.getLast?, isLineBreak c = true := fun l hl =>
    break_of_mem_lines htext hl
  by_cases hstart : LineStart text rest
  · -- the lines of the text, and then those of the rest
    have hfront := Reader.readLines_of_breaks hopeners hbreaks {} rest
    have hread := Reader.readLines_append openers (lines text) (lines rest) {} rest
    rw [hfront, flatten_lines] at hread
    have hprefix := Reader.finished_prefix openers (lines rest)
      (Reader.readLines openers (lines text) {} text)
    rwa [flatten_lines, ← hread, ← lines_append hstart] at hprefix
  · -- the last line has a carriage return, and the line feed behind it is a part of it now
    obtain ⟨rest, rfl⟩ : ∃ rest', rest = '\n' :: rest' := by
      refine List.head?_eq_some_iff.mp ?_
      by_contra hhead
      exact hstart (lineStart_of_head_ne htext hhead)
    obtain ⟨la, l, hlines, hlines'⟩ := lines_append_singleton (a := text) (d := '\n') hstart
    have htext' : text = la.flatten ++ l := by
      rw [← flatten_lines text, hlines]
      simp
    rw [hlines] at hbreaks
    have hla : ∀ m ∈ la, ∃ c ∈ m.getLast?, isLineBreak c = true := fun m hm =>
      hbreaks m (List.mem_append_left _ hm)
    set r := Reader.readLines openers la {} la.flatten with hr
    have hread : Reader.readLines openers (lines text) {} text =
        Reader.readLines openers [l] r l := by
      rw [hlines, htext', Reader.readLines_append, Reader.readLines_of_breaks hopeners hla]
    set r' := Reader.readLines openers [l ++ ['\n']] r (l ++ ['\n'] ++ rest) with hr'
    have hlines'' : lines (text ++ '\n' :: rest) = la ++ ([l ++ ['\n']] ++ lines rest) := by
      rw [List.append_cons, lines_append (lineStart_newline text rest), hlines', List.append_assoc]
    have hread' : Reader.readLines openers (lines (text ++ '\n' :: rest)) {}
        (text ++ '\n' :: rest) = Reader.readLines openers (lines rest) r' rest := by
      have hsplit : text ++ '\n' :: rest = la.flatten ++ (l ++ ['\n'] ++ rest) := by
        rw [htext']
        simp
      have hline := Reader.readLines_append openers [l ++ ['\n']] (lines rest) r rest
      rw [List.flatten_singleton] at hline
      rw [hlines'', hsplit, Reader.readLines_append, Reader.readLines_of_breaks hopeners hla, hline]
    have hprefix := Reader.finished_prefix openers (lines rest) r'
    rwa [flatten_lines, ← hread', hr',
      Reader.finished_newline hopeners (hbreaks l (by simp)), ← hread] at hprefix

variable {dialect : Dialect}

/-- A source ends with a line break if its script does. -/
theorem isLineBreak_of_source {a : Text} (ha : ∀ c ∈ a.getLast?, isLineBreak c = true) :
    ∀ c ∈ (source dialect a).getLast?, isLineBreak c = true :=
  Directive.isLineBreak_of_kept (fun _ hl => break_of_mem_lines ha hl) true

/-- The source of a script begins the source of every script that goes on behind it on a line of its
own. -/
theorem source_prefix {a b : Text} (h : LineStart a b) :
    source dialect a <+: source dialect (a ++ b) := by
  rw [source, source, Directive.strip, Directive.strip, lines_append h, Directive.kept_append,
    List.flatten_append]
  exact List.prefix_append _ _

/-- **Appending to a script changes none of its finished statements.** Where a script is empty or
ends with a line feed, and something is appended, the source goes on behind what it was, and all
statements but the last are the same and stand at the same places. -/
theorem split_append (hopeners : Named dialect.openers) {a : Text} (ha : ∀ c ∈ a.getLast?, c = '\n')
    (b : Text) :
    source dialect a <+: source dialect (a ++ b) ∧
      (split dialect a).dropLast <+: split dialect (a ++ b) := by
  have hfeed : ∀ c ∈ a.getLast?, isLineBreak c = true := by
    intro c hc
    rw [ha c hc]
    decide
  have hstart : LineStart a b := by
    refine fun c hc => ⟨hfeed c hc, ?_⟩
    rintro rfl
    exact absurd (ha _ hc) (by decide)
  have hsource : source dialect a <+: source dialect (a ++ b) := source_prefix hstart
  refine ⟨hsource, ?_⟩
  obtain ⟨rest, hrest⟩ := hsource
  rw [split, split, ← hrest]
  exact (Reader.dropLast_statements_prefix _).trans
    (finished_append hopeners (isLineBreak_of_source hfeed) rest)

/-- The line between a carriage return and a line feed is removed, and the statement that the script
ended with goes on behind the two. -/
theorem split_append_fused :
    let a : Text := "x; begin y\rset z\n".toList
    let b : Text := "\nend; w".toList
    Named ({} : Dialect).openers ∧ (∀ c ∈ a.getLast?, c = '\n') ∧
      split {} a = [⟨"x".toList, .simple, 0⟩, ⟨"begin y".toList, .block, 3⟩] ∧
      source {} a = "x; begin y\r".toList ∧ source {} a <+: source {} (a ++ b) ∧
      [⟨"x".toList, .simple, 0⟩] <+: split {} (a ++ b) := by
  intro a b
  have hlast : a.getLast? = some '\n' := by decide +kernel
  have ha : ∀ c ∈ a.getLast?, c = '\n' := fun c hc => Option.mem_unique hc hlast
  have hsplit : split {} a = [⟨"x".toList, .simple, 0⟩, ⟨"begin y".toList, .block, 3⟩] := by
    decide +kernel
  obtain ⟨hsource, hfinished⟩ := split_append named_default ha b
  rw [hsplit] at hfinished
  exact ⟨named_default, ha, hsplit, by decide +kernel, hsource, hfinished⟩

end Script

end SqlScript
