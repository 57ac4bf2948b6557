import SqlScript.Proofs.Decoding
import SqlScript.Proofs.Likeness
import SqlScript.Source

/-!
# A script from a file

A file is decoded, its line breaks are read as line feeds, and it is trimmed, while a query is taken
as it is. A script is split into the same statements either way (`Script.split_load`): as many, of
the same kinds and in the same order, and where a text has line breaks in it those of the query may
have a carriage return before the line feed.

What the file has undergone is undone one character at a time, and each of these changes leaves the
outline of the statements as it is. The source of the script is changed at the same place, unless
the line of that place is a directive line, and then it is not changed at all
(`Script.source_feed`, `Script.source_cons`). That both sides of the result can be read off the
outline is seen last: the statements of the file hold no carriage returns, and in those of the query
they are paired, since no directive line parts a carriage return from its line feed, and trimming
takes the two away together.
-/

namespace SqlScript.Script

open SqlScript.Text SqlScript.Word

variable {dialect : Dialect}

/-! ### Line breaks -/

/-- **Another line break in a script** is another line break in its source, unless the line that it
ends is removed. -/
theorem source_feed (dialect : Dialect) {u w w' : Text} (hu : '\r' ∉ u) (hw : Feed w)
    (hw' : Feed w') (v : Text) :
    source dialect (u ++ w ++ v) = source dialect (u ++ w' ++ v) ∨
      ∃ u' v', '\r' ∉ u' ∧ source dialect (u ++ w ++ v) = u' ++ w ++ v' ∧
        source dialect (u ++ w' ++ v) = u' ++ w' ++ v' := by
  obtain ⟨la, l, rfl, hlines⟩ :=
    lines_append_break (u := u) fun h => hu (List.mem_of_getLast? h)
  set atBoundary := Directive.boundary dialect.directives dialect.boundaryOnly true la
  set front := (Directive.kept dialect.directives dialect.boundaryOnly true la).flatten with hfront
  have hsource : ∀ {w}, Feed w → source dialect (la.flatten ++ l ++ w ++ v) =
      front ++ (Directive.kept dialect.directives dialect.boundaryOnly atBoundary
        ((l ++ w) :: lines v)).flatten := by
    intro w hw
    rw [source, Directive.strip, lines_append (hw.lineStart _ v), hlines w hw.lines_eq,
      List.append_assoc, Directive.kept_append, List.flatten_append]
    rfl
  have htrim : trim (l ++ w) = trim (l ++ w') := by
    rw [trim_append_blank l hw.blank, trim_append_blank l hw'.blank]
  rw [hsource hw, hsource hw', Directive.kept, Directive.kept, Directive.removes_congr htrim,
    Directive.boundaryAfter_congr htrim]
  split_ifs
  · -- the line is removed with its line break
    exact Or.inl rfl
  · refine Or.inr ⟨front ++ l, (Directive.kept dialect.directives dialect.boundaryOnly
      (Directive.boundaryAfter atBoundary (l ++ w')) (lines v)).flatten, ?_, by simp, by simp⟩
    -- what is kept of a text without a carriage return holds none
    intro hmem
    refine hu ?_
    rcases List.mem_append.mp hmem with hmem | hmem
    · obtain ⟨m, hm, hc⟩ := List.mem_flatten.mp (hfront ▸ hmem)
      exact List.mem_append_left _ (List.mem_flatten_of_mem (Directive.mem_of_mem_kept hm) hc)
    · exact List.mem_append_right _ hmem

/-- **Another line break changes no outline.** -/
theorem outline_split_feed (hopeners : Named dialect.openers) {u w w' : Text} (hu : '\r' ∉ u)
    (hw : Feed w) (hw' : Feed w') (v : Text) :
    (split dialect (u ++ w ++ v)).map Statement.outline =
      (split dialect (u ++ w' ++ v)).map Statement.outline := by
  rw [split, split, Piece.outline_statements, Piece.outline_statements]
  rcases source_feed dialect hu hw hw' v with h | ⟨u', v', hu', h, h'⟩
  · rw [h]
  · have hlast : u'.getLast? ≠ some '\r' := fun hc => hu' (List.mem_of_getLast? hc)
    rw [h, h', outline_pieces_feed hopeners hlast hw hw']

/-- **Leaving out carriage returns changes no outline**, if they are paired. -/
theorem outline_split_dropReturns (hopeners : Named dialect.openers) {u v : Text} (hu : '\r' ∉ u)
    (hv : ReturnsPaired v) :
    (split dialect (u ++ v)).map Statement.outline =
      (split dialect (u ++ dropReturns v)).map Statement.outline := by
  -- `u` is what has been gone through, and the first carriage return behind it is left out next
  induction v generalizing u with
  | nil => rfl
  | cons c v ih =>
    obtain ⟨hc, hv'⟩ := returnsPaired_cons.mp hv
    rcases eq_or_ne c '\r' with rfl | hne
    · obtain ⟨v, rfl⟩ := List.head?_eq_some_iff.mp (hc rfl)
      have hfeed := outline_split_feed hopeners hu (Or.inr rfl) (Or.inl rfl) v
      simp only [List.append_assoc, List.cons_append, List.nil_append] at hfeed
      rw [hfeed, dropReturns_return]
      exact ih hu hv'
    · have hu' : '\r' ∉ u ++ [c] := by
        simp [hu, hne.symm]
      have hstep := ih hu' hv'
      rwa [List.append_assoc, List.append_assoc, List.singleton_append, List.singleton_append,
        ← dropReturns_cons hne] at hstep

/-! ### The two ends -/

/-- **A blank character before a script** stands before its source, unless the first line is
removed. -/
theorem source_cons (dialect : Dialect) {c : Char} (hc : isBlank c = true) (t : Text) :
    source dialect (c :: t) = c :: source dialect t ∨
      source dialect (c :: t) = source dialect t := by
  have hblank : ∀ d ∈ [c], isBlank d = true := List.forall_mem_singleton.mpr hc
  rw [source, source, Directive.strip, Directive.strip]
  rcases lines_cons_cases c t with hlines | ⟨l, ls, hlines, hlines'⟩
  · left
    rw [hlines, Directive.kept, Directive.removes_of_blank hblank, if_neg Bool.false_ne_true,
      Directive.boundaryAfter_of_blank hblank, List.flatten_cons, List.singleton_append]
  · have htrim : trim (c :: l) = trim l := trim_blank_append hblank l
    rw [hlines, hlines', Directive.kept, Directive.kept, Directive.removes_congr htrim,
      Directive.boundaryAfter_congr htrim]
    split_ifs
    · exact Or.inr rfl
    · exact Or.inl rfl

/-- Blank characters before a script change no outline. -/
theorem outline_split_blank_append {lead : Text} (hlead : ∀ c ∈ lead, isBlank c = true) (t : Text) :
    (split dialect (lead ++ t)).map Statement.outline =
      (split dialect t).map Statement.outline := by
  induction lead with
  | nil => rfl
  | cons c lead ih =>
    obtain ⟨hc, hlead⟩ := List.forall_mem_cons.mp hlead
    rw [← ih hlead, List.cons_append, split, split, Piece.outline_statements,
      Piece.outline_statements]
    rcases source_cons dialect hc (lead ++ t) with h | h
    · rw [h, outline_pieces_cons _ hc]
    · rw [h]

/-- Blank characters behind a script change none of its statements. -/
theorem split_append_of_blank (hopeners : Named dialect.openers) (t : Text) {trail : Text}
    (htrail : ∀ c ∈ trail, isBlank c = true) : split dialect (t ++ trail) = split dialect t := by
  induction trail generalizing t with
  | nil => rw [List.append_nil]
  | cons c trail ih =>
    obtain ⟨hc, htrail⟩ := List.forall_mem_cons.mp htrail
    rw [List.append_cons, ih _ htrail, split_append_blank hopeners t hc]

/-- **Trimming a script changes no outline.** -/
theorem outline_split_trim (hopeners : Named dialect.openers) (t : Text) :
    (split dialect (trim t)).map Statement.outline =
      (split dialect t).map Statement.outline := by
  obtain ⟨trail, ht, htrail⟩ := exists_trim t
  conv_rhs => rw [ht, split_append_of_blank hopeners _ htrail,
    outline_split_blank_append isBlank_of_mem_takeWhile]

/-! ### Carriage returns in statements -/

variable {script : Text} {s : Statement}

/-- The characters of a source are characters of its script. -/
theorem mem_of_mem_source (dialect : Dialect) {c : Char} (hc : c ∈ source dialect script) :
    c ∈ script := by
  obtain ⟨l, hl, hc⟩ := List.mem_flatten.mp hc
  rw [← flatten_lines script]
  exact List.mem_flatten_of_mem (Directive.mem_of_mem_kept hl) hc

/-- A script without a carriage return has statements without one. -/
theorem not_mem_of_mem_split (hscript : '\r' ∉ script) (hs : s ∈ split dialect script) :
    '\r' ∉ s.text := by
  intro hc
  obtain ⟨before, after, hsource, -⟩ := (split_slicedInto dialect script).slice s hs
  refine hscript (mem_of_mem_source dialect ?_)
  rw [hsource]
  simp [hc]

/-- **Carriage returns that are paired in a script are paired in its statements.** -/
theorem returnsPaired_of_mem_split (hscript : ReturnsPaired script)
    (hs : s ∈ split dialect script) : ReturnsPaired s.text := by
  have hsource : ReturnsPaired (source dialect script) := ReturnsPaired.flatten fun l hl =>
    hscript.of_mem_lines (Directive.mem_of_mem_kept hl)
  have hsliced := split_slicedInto dialect script
  obtain ⟨before, after, hslice, -⟩ := hsliced.slice s hs
  refine (hslice ▸ hsource).of_append fun hlast => ?_
  exact absurd ((hsliced.tight s hs).2 _ hlast) (by decide)

/-! ### Files and queries -/

/-- **A script gives the same statements from a file as from a query**, where the file holds the
text of the query and every carriage return in it is directly followed by a line feed: as many
statements, of the same kinds in the same order, and each text is that of the query with line feeds
for its line breaks. -/
theorem split_load (hopeners : Named dialect.openers) (hscript : ReturnsPaired script)
    {disk : Disk} {path : Text} (hfile : disk (Path.tidy path) = .file (Utf8.encode script)) :
    ∃ fromFile fromQuery, Source.load disk none (some path) = .ok fromFile ∧
      Source.load disk (some script) none = .ok fromQuery ∧
      (split dialect fromFile.text).map (fun s => (s.kind, s.text)) =
        (split dialect fromQuery.text).map fun s => (s.kind, shortBreaks s.text) := by
  have hload : Source.load disk none (some path) =
      Source.ofFile (Path.tidy path) (Utf8.encode script) := by
    simp only [Source.load, hfile]
  rw [Source.ofFile, Utf8.decode_encode] at hload
  refine ⟨_, _, hload, rfl, ?_⟩
  rw [unifyBreaks_eq_dropReturns hscript]
  have hfeeds : '\r' ∉ trim (dropReturns script) := by
    rw [← dropReturns_trim]
    exact not_mem_dropReturns _
  calc (split dialect (trim (dropReturns script))).map (fun s => (s.kind, s.text))
      = (split dialect (trim (dropReturns script))).map Statement.outline := by
        refine List.map_congr_left fun s hs => ?_
        rw [Statement.outline, dropReturns_of_not_mem (not_mem_of_mem_split hfeeds hs)]
    _ = (split dialect (dropReturns script)).map Statement.outline :=
        outline_split_trim hopeners _
    _ = (split dialect script).map Statement.outline :=
        (outline_split_dropReturns hopeners (u := []) (by simp) hscript).symm
    _ = (split dialect script).map fun s => (s.kind, shortBreaks s.text) := by
        refine List.map_congr_left fun s hs => ?_
        rw [Statement.outline,
          shortBreaks_eq_dropReturns (returnsPaired_of_mem_split hscript hs)]

/-- A directive line, a literal over two lines, and a blank line at each end. -/
theorem split_load_literal :
    let script : Text := "\r\nset x\r\nselect 'é\r\n/ ;' from t;\r\nbegin y;\r\nend;\r\n".toList
    let disk : Disk := FileTree.disk [([['f']], some (Utf8.encode script))]
    Named ({} : Dialect).openers ∧ ReturnsPaired script ∧
      disk (Path.tidy ['f']) = .file (Utf8.encode script) ∧
      ∃ fromFile fromQuery, Source.load disk none (some ['f']) = .ok fromFile ∧
        Source.load disk (some script) none = .ok fromQuery ∧
        (split {} fromFile.text).map (fun s => (s.kind, s.text)) =
          (split {} fromQuery.text).map fun s => (s.kind, shortBreaks s.text) := by
  intro script disk
  have hscript : ReturnsPaired script := by decide +kernel
  have hfile : disk (Path.tidy ['f']) = .file (Utf8.encode script) := by decide +kernel
  exact ⟨named_default, hscript, hfile, split_load named_default hscript hfile⟩

end SqlScript.Script
