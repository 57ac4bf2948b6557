import SqlScript.Command.Program
import SqlScript.Proofs.Composition
import SqlScript.Proofs.Terminators

/-!
# Splitting what was printed

A script is printed as its statements, each with a slash on a line by itself behind it
(`Command.printedStatements`). When that is split again, the same statements are found, where they
were printed: the slashes divide the text (`Script.statements_append_slashLine`), so it is enough
that the text of a statement, read as a script, is that one statement (`Script.split_text`).

Two things have to be shown of such a text, which was cut out of the middle of a script.

* **None of its lines is removed.** Its first line was the end of a line, and that this end is no
  directive has to be assumed. Its other lines are decided upon as in the source, where none of them
  is removed (`Directive.kept_lines_flatten`), for the first line leaves the same memory behind as
  the line it was the end of; and of the last line a part may be missing, but a line that begins as
  a directive is one.
* **It is not cut again, and has the same kind.** The text has the shape that `Shape` describes,
  in which there is no place to cut: whatever mode the reader is in when it would cut off a first
  piece, what that mode stands for contradicts the shape, unless the piece is the whole text
  (`Shape.pieces_eq`).
-/

namespace SqlScript

open SqlScript.Text SqlScript.Word

/-! ### Texts that are read as one piece -/

namespace Shape

variable {openers : List Text} {t : Text}

/-- Two first openers of one text are the same. -/
theorem firstOpener_unique {u v u' v' : Text} {n n' : Nat} (h : FirstOpener openers u v n)
    (h' : FirstOpener openers u' v' n') (hwhole : u ++ v = u' ++ v') : u = u' ∧ n = n' := by
  rcases lt_trichotomy u.length u'.length with hlt | heq | hgt
  · exact absurd (h'.quiet u v hwhole.symm hlt) h.not_quiet
  · obtain ⟨rfl, rfl⟩ := List.append_inj hwhole heq
    exact ⟨rfl, Option.some.inj (h.opens.symm.trans h'.opens)⟩
  · exact absurd (h.quiet u' v' hwhole hgt) h'.not_quiet

/-- A simple text has no first opener. -/
theorem not_firstOpener (h : Shape openers [] .simple t) {u v : Text} {n : Nat}
    (hwhole : t = u ++ v) (hfirst : FirstOpener openers u v n) : False := by
  cases h with
  | simple hquiet =>
    rw [List.append_nil] at hquiet
    obtain ⟨c, v', rfl, -⟩ := hfirst.exists_head
    exact hfirst.not_quiet (hquiet u _ hwhole (by rw [hwhole]; simp))

/-- **A text is not cut at a semicolon in plain text.** -/
theorem not_semicolon {kind : Kind} (h : Shape openers [] kind t) {body rest : Text}
    (hwhole : t = body ++ ';' :: rest) : ¬Standing openers .plain body (';' :: rest) := by
  rintro ⟨hout, hquiet⟩
  cases h with
  | simple hquiet' =>
    rw [List.append_nil] at hquiet'
    exact (hquiet' body _ hwhole (by rw [hwhole]; simp) hout).1 rfl
  | @block _ u v n hwhole' hfirst =>
    rw [List.append_nil, hwhole] at hwhole'
    rcases lt_trichotomy body.length u.length with hlt | heq | hgt
    · exact (hfirst.quiet body _ hwhole'.symm hlt hout).1 rfl
    · obtain ⟨rfl, rfl⟩ := List.append_inj hwhole' heq
      obtain ⟨c, v', hv, hdel⟩ := hfirst.exists_head
      obtain ⟨rfl, -⟩ := List.cons.inj hv
      exact absurd hdel (by decide)
    · exact absurd (hquiet u v hwhole' hgt) hfirst.not_quiet

/-- **A block end is the end of the text.** -/
theorem eq_nil_of_closing {kind : Kind} (h : Shape openers [] kind t) {body rest : Text}
    (hwhole : t = body ++ ';' :: rest) (hstand : Standing openers .closing body (';' :: rest)) :
    kind = .block ∧ rest = [] := by
  cases hstand with
  | @closing n _ _ u v x hwhole' hfirst hend hout hname hlow hopen =>
    obtain ⟨e, hbody, he⟩ := hend.finish
    cases h with
    | simple hquiet =>
      exact absurd hfirst fun h => (Shape.simple hquiet).not_firstOpener (hwhole.trans hwhole') h
    | @block _ u' v' n' hwhole'' hfirst' hlow' hclosed =>
      rw [List.append_nil, hwhole] at hwhole''
      obtain ⟨rfl, rfl⟩ := firstOpener_unique hfirst hfirst' (hwhole'.symm.trans hwhole'')
      refine ⟨rfl, hclosed x e rest ?_ hlow hout hname he⟩
      rw [hwhole, List.append_cons, hbody]

/-- The kind of a text that is not cut at all. -/
theorem kind_eq {kind : Kind} {mode : Mode} (h : Shape openers [] kind t)
    (hstand : Standing openers mode t []) : mode.kind = kind := by
  cases h with
  | simple hquiet =>
    have hnone : ∀ u v n, t ++ [] = u ++ v → ¬FirstOpener openers u v n := by
      intro u v n hwhole hfirst
      rw [List.append_nil] at hwhole
      exact (Shape.simple hquiet).not_firstOpener hwhole hfirst
    cases hstand with
    | plain => rfl
    | literal => rfl
    | opening hwhole hfirst => exact (hnone _ _ _ hwhole hfirst).elim
    | block hwhole hfirst => exact (hnone _ _ _ hwhole hfirst).elim
    | closing hwhole hfirst => exact (hnone _ _ _ hwhole hfirst).elim
  | @block _ u v n hwhole hfirst hlow =>
    -- a text in which nothing counts has no first opener
    have hsome : ¬UpTo (Quiet openers) t.length (t ++ []) := fun hquiet =>
      hfirst.not_quiet (hquiet u v hwhole hlow)
    cases hstand with
    | plain _ hquiet => exact absurd hquiet hsome
    | literal _ hquiet => exact absurd hquiet hsome
    | opening => rfl
    | block => rfl
    | closing => rfl

/-- **A text of either shape is one piece**, if none of its lines holds only a slash. -/
theorem pieces_eq (hopeners : Named openers) {kind : Kind} (h : Shape openers [] kind t)
    (hslash : ∀ l ∈ lines t, Directive.isLoneSlash l = false) :
    ∃ qs, Script.pieces openers t = ⟨kind, t, []⟩ :: qs ∧ qs.flatMap Piece.span = [] := by
  obtain ⟨p, qs, hp⟩ : ∃ p qs, Script.pieces openers t = p :: qs := by
    refine List.exists_cons_of_ne_nil fun hnil => ?_
    simp [Script.pieces, Reader.pieces, Reader.cut] at hnil
  have hwhole : t = p.span ++ qs.flatMap Piece.span := by
    rw [← Script.span_pieces openers t, hp, List.flatMap_cons]
  have hcut := Reader.cutOff_of_pieces_eq (Standing.invariant hopeners)
    (hp.trans (List.nil_append _).symm)
  refine ⟨qs, ?_⟩
  rw [hp]
  generalize qs.flatMap Piece.span = rest at hcut hwhole
  cases hcut with
  | semicolon hstand =>
    exact absurd hstand (h.not_semicolon (by simpa [Piece.span] using hwhole))
  | @blockEnd body _ hstand =>
    obtain ⟨rfl, rfl⟩ := h.eq_nil_of_closing (by simpa [Piece.span] using hwhole) hstand
    have hbody : t = body ++ [';'] := by simpa [Piece.span] using hwhole
    exact ⟨by rw [hbody], rfl⟩
  | @slash _ _ line _ la lb _ hline hlines =>
    rw [hslash line (by rw [hlines]; simp)] at hline
    exact absurd hline Bool.false_ne_true
  | @ending mode body hstand =>
    obtain rfl : t = body := by simpa [Piece.span] using hwhole
    exact ⟨by rw [h.kind_eq hstand], rfl⟩

end Shape

/-! ### The text of a statement, read as a script -/

/-- **What is asked of a statement that is printed**: its first line is neither a lone slash nor a
directive, and it does not end with a mark that would be cleaned away. -/
structure Statement.Printable (dialect : Dialect) (s : Statement) : Prop where
  /-- The first line is not a lone slash. -/
  slash : ∀ l ∈ (lines s.text).head?, Directive.isLoneSlash l = false
  /-- The first line is no directive. -/
  directive : ∀ l ∈ (lines s.text).head?, Directive.isDirective dialect.directives l = false
  /-- The statement does not end with a slash. -/
  last : s.text.getLast? ≠ some '/'
  /-- A simple statement does not end with a semicolon. -/
  semicolon : s.kind = .simple → s.text.getLast? ≠ some ';'

/-- What is asked of a statement can be checked. -/
instance (dialect : Dialect) (s : Statement) : Decidable (s.Printable dialect) :=
  decidable_of_iff
    ((∀ l ∈ (lines s.text).head?, Directive.isLoneSlash l = false) ∧
      (∀ l ∈ (lines s.text).head?, Directive.isDirective dialect.directives l = false) ∧
      s.text.getLast? ≠ some '/' ∧ (s.kind = .simple → s.text.getLast? ≠ some ';'))
    ⟨fun ⟨hslash, hdirective, hlast, hsemi⟩ => ⟨hslash, hdirective, hlast, hsemi⟩,
      fun h => ⟨h.slash, h.directive, h.last, h.semicolon⟩⟩

namespace Script

variable {dialect : Dialect} {script : Text} {s : Statement}

/-- The first line of a tight text is not blank, and the last line ends as the text does. -/
theorem ends_of_lines {t f g : Text} {mid : List Text} (htight : Tight t)
    (hlines : lines t = f :: (mid ++ [g])) :
    trim f ≠ [] ∧ ∃ c ∈ g.getLast?, c ∈ t.getLast? ∧ isBlank c = false := by
  have ht : t = f ++ (mid.flatten ++ g) := by
    rw [← flatten_lines t, hlines]
    simp
  obtain ⟨c, f', rfl⟩ : ∃ c f', f = c :: f' :=
    List.exists_cons_of_ne_nil (ne_nil_of_mem_lines (t := t) (by rw [hlines]; simp))
  have hg : g ≠ [] := ne_nil_of_mem_lines (t := t) (by rw [hlines]; simp)
  refine ⟨trim_ne_nil List.mem_cons_self (htight.1 c (by rw [ht]; rfl)), g.getLast hg, ?_⟩
  have hlast : g.getLast hg ∈ t.getLast? := by
    rw [ht, ← List.append_assoc, List.getLast?_append_of_ne_nil _ hg]
    exact List.getLast?_eq_some_getLast hg
  exact ⟨List.getLast?_eq_some_getLast hg, hlast, htight.2 _ hlast⟩

/-- **None of the lines of a statement is removed.** -/
theorem source_text (hs : s ∈ split dialect script) (hprint : s.Printable dialect) :
    source dialect s.text = s.text := by
  obtain ⟨hne, htight⟩ := tight_of_mem_split hs
  suffices hkept : Directive.kept dialect.directives dialect.boundaryOnly true (lines s.text) =
      lines s.text by
    rw [source, Directive.strip, hkept, flatten_lines]
  have hfirst : ∀ l ∈ (lines s.text).head?,
      Directive.removes dialect.directives dialect.boundaryOnly true l = false := fun l hl => by
    rw [Directive.removes, hprint.directive l hl, Bool.and_false]
  rcases lines_cases hne with hlines | ⟨f, mid, g, hlines⟩
  · rw [hlines] at hfirst ⊢
    rw [Directive.kept_cons_eq_self]
    exact ⟨hfirst _ rfl, rfl⟩
  · obtain ⟨la, q, r, lb, hsource, -⟩ := exists_lines_of_split hs hlines
    obtain ⟨hfne, c, hc, -, hblank⟩ := ends_of_lines htight hlines
    rw [hlines] at hfirst ⊢
    have hfslash : Directive.isLoneSlash f = false := hprint.slash f (by rw [hlines]; rfl)
    have hall : Directive.kept dialect.directives dialect.boundaryOnly true
        (lines (source dialect script)) = lines (source dialect script) :=
      Directive.kept_lines_flatten true rfl
    -- the lines behind the first are decided upon as they are in the source
    rw [hsource, Directive.kept_append_eq_self, Directive.kept_cons_eq_self,
      Directive.boundaryAfter_append hfne hfslash q _ true, Directive.kept_append_eq_self,
      Directive.kept_cons_eq_self] at hall
    obtain ⟨-, -, hmid, hlast, -⟩ := hall
    rw [Directive.kept_cons_eq_self, Directive.kept_append_eq_self, Directive.kept_cons_eq_self]
    exact ⟨hfirst f rfl, hmid, Directive.removes_of_append ⟨c, hc, hblank⟩ hlast, rfl⟩

/-- No line of a printable statement is a lone slash. -/
theorem isLoneSlash_eq_false_of_mem (hs : s ∈ split dialect script)
    (hprint : s.Printable dialect) : ∀ l ∈ lines s.text, Directive.isLoneSlash l = false := by
  obtain ⟨hne, htight⟩ := tight_of_mem_split hs
  intro l hl
  rcases lines_cases hne with hlines | ⟨f, mid, g, hlines⟩
  · refine hprint.slash l ?_
    rw [hlines] at hl ⊢
    simpa [eq_comm] using hl
  · have hl' := hl
    rw [hlines] at hl'
    rcases List.mem_cons.mp hl' with rfl | hl'
    · exact hprint.slash l (by rw [hlines]; rfl)
    rcases List.mem_append.mp hl' with hmid | hlast
    · obtain ⟨m₁, m₂, rfl⟩ := List.append_of_mem hmid
      exact isLoneSlash_eq_false_of_inside hs hlines
    · obtain rfl := List.mem_singleton.mp hlast
      obtain ⟨-, c, hc, hc', hblank⟩ := ends_of_lines htight hlines
      rw [Bool.eq_false_iff]
      intro hslash
      have hend := Directive.getLast?_of_isLoneSlash hslash fun d hd => by
        rwa [Option.mem_unique hd hc]
      obtain rfl := Option.mem_unique hend hc
      exact hprint.last hc'

/-- **The text of a statement splits into that statement**, which begins it. -/
theorem split_text (hopeners : Named dialect.openers) (hs : s ∈ split dialect script)
    (hprint : s.Printable dialect) : split dialect s.text = [{ s with offset := 0 }] := by
  obtain ⟨hne, htight⟩ := tight_of_mem_split hs
  obtain ⟨qs, hpieces, hnil⟩ := (shape_of_split dialect hopeners hs).pieces_eq hopeners
    (isLoneSlash_eq_false_of_mem hs hprint)
  have htext : Piece.text ⟨s.kind, s.text, []⟩ = s.text :=
    Piece.text_eq_body htight hprint.last hprint.semicolon
  have hfront : s.text.takeWhile isBlank = [] := by
    obtain ⟨c, t, ht⟩ := List.exists_cons_of_ne_nil hne
    rw [ht]
    exact List.takeWhile_cons_of_neg (by rw [htight.1 c (by rw [ht]; rfl)]; simp)
  rw [split, source_text hs hprint, hpieces, Piece.statements, Piece.statements_of_span hnil,
    Piece.statement?, htext, List.isEmpty_eq_false_iff.mpr hne, hfront]
  rfl

/-! ### Statements that are printed -/

/-- What the statements of a script are printed as: a line break behind each line. -/
def printed (ss : List Statement) : Text :=
  (Command.printedStatements false ss).flatMap (· ++ ['\n'])

theorem printed_cons (s : Statement) (ss : List Statement) :
    printed (s :: ss) = s.text ++ slashLine ++ printed ss := by
  simp [printed, Command.printedStatements, slashLine]

/-- A printed statement and the slash behind it keep their lines. -/
theorem source_append_slash (hslash : Directive.isDirective dialect.directives ['/'] = false)
    (hs : s ∈ split dialect script) (hprint : s.Printable dialect) :
    source dialect (s.text ++ slashLine) = s.text ++ slashLine := by
  obtain ⟨hne, htight⟩ := tight_of_mem_split hs
  have h := source_append_slashLine hslash s.text []
  have hfeed : isBlank '\n' = true := by decide
  rw [List.append_nil] at h
  rw [h]
  rcases source_append_blank dialect s.text hfeed with hnewline | ⟨-, hbreak⟩
  · rw [hnewline, source_text hs hprint]
    simp [slashLine, source, Directive.strip, Directive.kept]
  · exfalso
    have hlast := List.getLast?_eq_some_getLast hne
    have hb := hbreak (s.text.getLast hne) (by rw [source_text hs hprint]; exact hlast)
    rw [htight.last_ne _ hlast] at hb
    exact Bool.false_ne_true hb

/-- **Splitting what was printed** gives the same statements, each where it was printed. -/
theorem split_printed_of_subset (hopeners : Named dialect.openers)
    (hslash : Directive.isDirective dialect.directives ['/'] = false) {ss : List Statement}
    (hss : ∀ s ∈ ss, s ∈ split dialect script ∧ s.Printable dialect) :
    split dialect (printed ss) =
      ss.mapIdx fun i s => { s with offset := (printed (ss.take i)).length } := by
  induction ss with
  | nil => rfl
  | cons s ss ih =>
    obtain ⟨hs, hprint⟩ := hss s List.mem_cons_self
    have ih := ih fun s' hs' => hss s' (List.mem_cons_of_mem _ hs')
    rw [printed_cons, statements_append_slashLine hopeners hslash, split_text hopeners hs hprint,
      ih, source_append_slash hslash hs hprint, List.mapIdx_cons, List.singleton_append]
    refine congrArg (_ :: ·) (List.ext_getElem? fun i => ?_)
    rw [List.getElem?_map, List.getElem?_mapIdx, List.getElem?_mapIdx, Option.map_map]
    refine congrArg (Option.map · _) (funext fun s' => ?_)
    have hlen : (printed ((s :: ss).take (i + 1))).length =
        (printed (ss.take i)).length + (s.text ++ slashLine).length := by
      rw [List.take_succ_cons, printed_cons, List.length_append, Nat.add_comm]
    rw [Function.comp_apply, Statement.shift, hlen, Int.natCast_add]

/-- **What is printed can be split again without change.** -/
theorem split_printed (hopeners : Named dialect.openers)
    (hslash : Directive.isDirective dialect.directives ['/'] = false)
    (hprint : ∀ s ∈ split dialect script, s.Printable dialect) :
    split dialect (printed (split dialect script)) =
      (split dialect script).mapIdx fun i s =>
        { s with offset := (printed ((split dialect script).take i)).length } :=
  split_printed_of_subset hopeners hslash fun s hs => ⟨hs, hprint s hs⟩

/-- A quoted semicolon, a block with a slash that is not alone on its line, and a directive line
that is not printed. -/
theorem split_printed_block :
    let script : Text := "select ';' ; begin x;\n/ 2; end;\nset echo on\ny".toList
    Named ({} : Dialect).openers ∧
      Directive.isDirective ({} : Dialect).directives ['/'] = false ∧
      (∀ s ∈ split {} script, s.Printable {}) ∧
      split {} (printed (split {} script)) =
        [⟨"select ';'".toList, .simple, 0⟩, ⟨"begin x;\n/ 2; end;".toList, .block, 13⟩,
          ⟨"y".toList, .simple, 34⟩] := by
  intro script
  have hslash : Directive.isDirective ({} : Dialect).directives ['/'] = false := by decide +kernel
  have hprint : ∀ s ∈ split {} script, s.Printable {} := by decide +kernel
  refine ⟨named_default, hslash, hprint, ?_⟩
  rw [split_printed named_default hslash hprint]
  decide +kernel

end Script

end SqlScript
