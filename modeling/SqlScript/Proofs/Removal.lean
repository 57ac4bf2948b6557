import SqlScript.Proofs.DirectiveLines

/-!
# What is left of a script without its directive lines

Which lines are left out can be said without the walk that decides it: the directives, and in
boundary-only mode only those that come where the lines retained before leave off at a place where a
statement may begin. Whether a line is left out thus depends on which lines before it are, and one
choice alone meets this for all lines (`Directive.LeftOut.unique`). The walk makes this choice
(`Directive.leftOut_removals`), though all it remembers of the lines it has kept is one bit.

The source of a script is the text of its retained lines, but these need not be the lines of the
source. Where all lines between a carriage return and a line feed are left out, the two become one
line break. This takes a blank line away and nothing else, so that both have the same contents
(`Directive.contents_lines_flatten`), and nothing is left out of a source a second time.
-/

namespace SqlScript.Directive

open SqlScript.Text

/-! ### The contents of lines -/

/-- The contents of lines: what trimming leaves of them, without those it leaves nothing of. -/
def contents (ls : List Text) : List Text := (ls.map trim).filter (!·.isEmpty)

theorem contents_cons (l : Text) (ls : List Text) :
    contents (l :: ls) = (if trim l = [] then [] else [trim l]) ++ contents ls := by
  rw [contents, List.map_cons, List.filter_cons]
  split_ifs with h1 h2 h2
  · simp [h2] at h1
  · rfl
  · rfl
  · simp [h2] at h1

/-- **Lines of a text, put together again, have the contents they had**, however many of the others
are left out. -/
theorem contents_lines_flatten {text : Text} {all ls : List Text} (hall : lines text = all)
    (h : ls.Sublist all) : contents (lines ls.flatten) = contents ls := by
  induction h generalizing text with
  | slnil => rfl
  | cons line h ih =>
    obtain ⟨-, hrest, -⟩ := lines_eq_cons hall
    exact ih hrest
  | @cons_cons ls rest line h ih =>
    obtain ⟨hline, hrest, hstart⟩ := lines_eq_cons hall
    have hlast : ls.flatten ≠ [] → ∀ c ∈ line.getLast?, isLineBreak c = true := by
      intro hne c hc
      refine (hstart ?_ c hc).1
      rintro rfl
      exact hne (by rw [List.sublist_nil.mp h, List.flatten_nil])
    rw [List.flatten_cons, contents_cons, ← ih hrest]
    rcases lines_line_append hline hlast with hlines | ⟨t, hfeed, hjoined⟩
    · rw [hlines, contents_cons]
    · -- the blank line that is taken away
      rw [hjoined, hfeed, contents_cons, contents_cons, trim_append_blank line isBlank_newline,
        trim_of_blank isBlank_newline, if_pos rfl, List.nil_append]

/-- Three lines are kept here, and the source has two. -/
example :
    let text : Text := "a\rrem b\n\nc".toList
    (kept [['R', 'E', 'M']] false true (lines text)).length = 3 ∧
      lines (strip [['R', 'E', 'M']] false text) = [['a', '\r', '\n'], ['c']] := by
  decide +kernel

/-! ### Which lines are left out -/

/-- The lines that are retained, when `out` tells of each whether it is left out. -/
def retained (ls : List Text) (out : List Bool) : List Text :=
  ((ls.zip out).filter (!·.2)).map Prod.fst

/-- **`out` tells which of the lines are left out**: a directive is, unless in boundary-only mode no
statement may begin behind the lines retained before it. -/
structure LeftOut (directives : List Text) (boundaryOnly : Bool) (ls : List Text)
    (out : List Bool) : Prop where
  /-- It tells it of each line. -/
  length_eq : out.length = ls.length
  /-- What it tells of a line. -/
  iff_directive : ∀ i line, ls[i]? = some line →
    (out[i]? = some true ↔ isDirective directives line = true ∧
      (boundaryOnly = false ∨ MayBegin (retained (ls.take i) (out.take i))))

variable {directives : List Text} {boundaryOnly : Bool} {ls : List Text}

/-- **The walk leaves out the lines that are to be left out.** -/
theorem leftOut_removals :
    LeftOut directives boundaryOnly ls (removals directives boundaryOnly true ls) where
  length_eq := length_removals true ls
  iff_directive i line hline := by
    have hkept : retained (ls.take i) ((removals directives boundaryOnly true ls).take i) =
        kept directives boundaryOnly true (ls.take i) := by
      rw [take_removals, retained, kept_eq_filter]
    rw [hkept, ← boundary_eq_true_iff, getElem?_removals, hline, Option.map_some,
      Option.some_inj, removes, Bool.and_eq_true, Bool.or_eq_true, Bool.not_eq_true', and_comm,
      or_comm]

/-- **There is one way to leave lines out**: what is left out of the first lines decides about the
next one. -/
theorem LeftOut.unique {out out' : List Bool} (h : LeftOut directives boundaryOnly ls out)
    (h' : LeftOut directives boundaryOnly ls out') : out = out' := by
  have htake : ∀ i, out.take i = out'.take i := by
    intro i
    induction i with
    | zero => rfl
    | succ i ih =>
      rw [List.take_add_one, List.take_add_one, ih]
      rcases hline : ls[i]? with _ | line
      · have hlen := List.getElem?_eq_none_iff.mp hline
        rw [List.getElem?_eq_none (h.length_eq.trans_le hlen),
          List.getElem?_eq_none (h'.length_eq.trans_le hlen)]
      · obtain ⟨hi, -⟩ := List.getElem?_eq_some_iff.mp hline
        have hiff : out[i]? = some true ↔ out'[i]? = some true := by
          rw [h.iff_directive i line hline, h'.iff_directive i line hline, ih]
        rw [List.getElem?_eq_getElem (hi.trans_eq h.length_eq.symm),
          List.getElem?_eq_getElem (hi.trans_eq h'.length_eq.symm)] at hiff ⊢
        rw [Option.some_inj, Option.some_inj] at hiff
        rw [Bool.eq_iff_iff.mpr hiff]
  have hall := htake ls.length
  rwa [← h.length_eq, List.take_length, h.length_eq, ← h'.length_eq, List.take_length] at hall

theorem leftOut_iff {out : List Bool} : LeftOut directives boundaryOnly ls out ↔
    out = removals directives boundaryOnly true ls :=
  ⟨fun h => h.unique leftOut_removals, fun h => h ▸ leftOut_removals⟩

/-! ### Sources -/

/-- **Exactly the directive lines are removed.** Which lines are left out is settled; the source is
the others put together; its contents are theirs; and no blank line is left out. -/
theorem strip_eq_retained (directives : List Text) (boundaryOnly : Bool) (text : Text) :
    ∃ out : List Bool, (∀ other, LeftOut directives boundaryOnly (lines text) other ↔ other = out) ∧
      strip directives boundaryOnly text = (retained (lines text) out).flatten ∧
      contents (lines (strip directives boundaryOnly text)) =
        contents (retained (lines text) out) ∧
      ∀ (i : Nat) (line : Text), (lines text)[i]? = some line → trim line = [] →
        out[i]? = some false := by
  have hkept : kept directives boundaryOnly true (lines text) =
      retained (lines text) (removals directives boundaryOnly true (lines text)) :=
    kept_eq_filter true (lines text)
  refine ⟨removals directives boundaryOnly true (lines text), fun other => leftOut_iff, ?_, ?_, ?_⟩
  · rw [strip, hkept]
  · rw [strip, contents_lines_flatten rfl (kept_sublist _ _ _ _), hkept]
  · intro i line hline hblank
    rw [getElem?_removals, hline, Option.map_some,
      removes_of_blank (isBlank_of_trim_eq_nil hblank)]

/-- A source holds no more lines that are to be left out. -/
theorem strip_strip (directives : List Text) (boundaryOnly : Bool) (text : Text) :
    strip directives boundaryOnly (strip directives boundaryOnly text) =
      strip directives boundaryOnly text := by
  rw [strip, strip, kept_lines_flatten true rfl, flatten_lines]

end SqlScript.Directive

namespace SqlScript.Script

/-- **Removing directive lines twice is removing them once**, and so the statements of a script are
those of its source, at the same offsets. -/
theorem split_strip (dialect : Dialect) (script : Text) :
    Directive.strip dialect.directives dialect.boundaryOnly
        (Directive.strip dialect.directives dialect.boundaryOnly script) =
      Directive.strip dialect.directives dialect.boundaryOnly script ∧
    split dialect (Directive.strip dialect.directives dialect.boundaryOnly script) =
      split dialect script := by
  have hstrip := Directive.strip_strip dialect.directives dialect.boundaryOnly script
  refine ⟨hstrip, ?_⟩
  rw [split, split, source, source, hstrip]

end SqlScript.Script
