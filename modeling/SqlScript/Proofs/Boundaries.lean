import SqlScript.Proofs.Composition

/-!
# What is open where a line is removed

In boundary-only mode a directive is removed where a statement may begin, and that is decided by the
line before it: it must end with a semicolon or be a lone slash. The reader decides by what is open.
The two agree as far as plain text goes, since there a semicolon ends the statement, and so does a
lone slash whatever is open. They do not agree inside a literal and inside a block. A line may end
with a semicolon there, and then the next one is removed if it begins as a directive does, though
the literal or the block goes on (`Script.not_idle_of_removed`).

So the rule is the one of `Script.idle_or_inside_of_removed`: where a line is removed, either
nothing is pending, or a literal or a block is open and the last line before that is not blank ends
with a semicolon. For this it does not matter how the reader came to the semicolon: reading one
leaves nothing pending unless a literal or a block is open (`Reader.idle_or_inside_of_semicolon`),
and the blank characters and lines behind it leave everything as it is.
-/

namespace SqlScript

open SqlScript.Text SqlScript.Word

/-! ### What is open -/

namespace Reader

/-- **Nothing is pending**: the reader is in plain text, and has read nothing but blank characters
since the last cut. -/
def Idle (r : Reader) : Prop := r.mode = .plain ∧ ∀ c ∈ r.body, isBlank c = true

/-- **A literal or a block is open.** -/
def Inside (r : Reader) : Prop :=
  r.mode = .literal ∨ ∃ owed quoted, r.mode = .block owed quoted

instance (r : Reader) : Decidable r.Idle :=
  inferInstanceAs (Decidable (r.mode = .plain ∧ ∀ c ∈ r.body, isBlank c = true))

/-- Behind a cut nothing is pending. -/
theorem idle_cut (r : Reader) (mark : Text) : (r.cut mark).Idle :=
  ⟨rfl, List.forall_mem_nil _⟩

/-- **A semicolon leaves nothing pending**, unless a literal or a block is open. -/
theorem idle_or_inside_of_semicolon (openers : List Text) (r : Reader) (rest : Text) :
    (r.read openers ';' rest).Idle ∨ (r.read openers ';' rest).Inside := by
  rcases hmode : r.mode with _ | _ | ⟨owed, quoted⟩ | _
  · left
    rw [read_plain openers hmode]
    exact ⟨rfl, List.forall_mem_nil _⟩
  · right
    rw [read_of_not_cuts openers (by rw [hmode]; rfl), hmode]
    exact Or.inl rfl
  · right
    rw [read_of_not_cuts openers (by rw [hmode]; rfl), hmode]
    refine Or.inr ?_
    cases owed with
    | succ owed => exact ⟨owed, quoted, rfl⟩
    | zero =>
      refine ⟨0, quoted, ?_⟩
      simp [Mode.next, closesBlock_cons (c := ';') (by decide)]
  · left
    rw [read_closing openers hmode]
    exact ⟨rfl, List.forall_mem_nil _⟩

/-! ### Blank characters -/

/-- **`r'` has read nothing but blank characters since `r`.** -/
structure Waited (r r' : Reader) : Prop where
  /-- What is open is the same. -/
  mode : r'.mode.endLine = r.mode.endLine
  /-- The blank characters are added to the stretch. -/
  body : ∃ u, (∀ c ∈ u, isBlank c = true) ∧ r'.body = u ++ r.body

namespace Waited

variable {r r' r'' : Reader}

theorem trans (h : Waited r r') (h' : Waited r' r'') : Waited r r'' := by
  obtain ⟨u, hu, hbody⟩ := h.body
  obtain ⟨u', hu', hbody'⟩ := h'.body
  refine ⟨h'.mode.trans h.mode, u' ++ u, List.forall_mem_append.mpr ⟨hu', hu⟩, ?_⟩
  rw [hbody', hbody, List.append_assoc]

theorem endLine (r : Reader) : Waited r r.endLine :=
  ⟨Mode.endLine_endLine r.mode, [], List.forall_mem_nil _, rfl⟩

theorem scan {front : Text} (hfront : ∀ c ∈ front, isBlank c = true) (openers : List Text)
    (r : Reader) (rest : Text) : Waited r (scan openers front r rest) := by
  have hscan := endLine_scan_blank hfront openers r rest
  exact ⟨congrArg Reader.mode hscan, front.reverse, by simpa using hfront,
    congrArg Reader.body hscan⟩

/-- **No blank line cuts.** -/
theorem readLines {ls : List Text} (hls : ∀ c ∈ ls.flatten, isBlank c = true)
    (openers : List Text) (r : Reader) (rest : Text) :
    Waited r (readLines openers ls r (ls.flatten ++ rest)) := by
  induction ls generalizing r with
  | nil => exact ⟨rfl, [], List.forall_mem_nil _, rfl⟩
  | cons line ls ih =>
    rw [List.flatten_cons, List.forall_mem_append] at hls
    obtain ⟨hline, hls⟩ := hls
    rw [List.flatten_cons, List.append_assoc, readLines_cons,
      Directive.isLoneSlash_of_blank hline, if_neg Bool.false_ne_true]
    exact ((scan hline openers r _).trans (endLine _)).trans (ih hls _)

/-- Blank characters are no part of a statement that has not begun. -/
theorem idle (h : Waited r r') (hr : r.Idle) : r'.Idle := by
  obtain ⟨hplain, hblank⟩ := hr
  obtain ⟨u, hu, hbody⟩ := h.body
  constructor
  · have hmode := h.mode
    rw [hplain] at hmode
    rcases hr' : r'.mode with _ | _ | ⟨owed, quoted⟩ | _ <;> simp [hr', Mode.endLine] at hmode ⊢
  · rw [hbody]
    exact List.forall_mem_append.mpr ⟨hu, hblank⟩

theorem inside (h : Waited r r') (hr : r.Inside) : r'.Inside := by
  have hmode := h.mode
  rcases hr with hr | ⟨owed, quoted, hr⟩
  all_goals
    rw [hr] at hmode
    rcases hr' : r'.mode with _ | _ | ⟨owed', quoted'⟩ | _ <;>
      simp [hr', Mode.endLine, Inside] at hmode ⊢

end Waited

/-! ### Texts that end with a terminator -/

variable (openers : List Text)

/-- **A text that goes on with blank characters** behind its last line `l`: what that line has
become is read by some reader, and then there are only blank lines. -/
theorem exists_waited {t u : Text} {la : List Text} {l : Text} (hlines : lines t = la ++ [l])
    (hlast : ∀ c ∈ t.getLast?, isLineBreak c = false) (hu : ∀ c ∈ u, isBlank c = true)
    (rest : Text) :
    ∃ q r rest', (∀ c ∈ q, isBlank c = true) ∧
      Waited
        (if Directive.isLoneSlash (l ++ q) then r.cut (l ++ q)
          else (scan openers (l ++ q) r rest').endLine)
        (readLines openers (lines (t ++ u)) {} (t ++ u ++ rest)) := by
  have hne : t ≠ [] := by
    rintro rfl
    simp at hlines
  have hl : l ≠ [] := ne_nil_of_mem_lines (t := t) (by rw [hlines]; simp)
  obtain ⟨la', l', hlines', hjoined⟩ := lines_append_of_last hne hlast
  obtain ⟨rfl, hl'⟩ := List.append_inj' (hlines.symm.trans hlines') rfl
  obtain rfl : l = l' := by simpa using hl'
  obtain ⟨q, ls, hjoin, rfl⟩ := exists_joinFirst_lines hl u
  rw [List.forall_mem_append] at hu
  have hwhole : t ++ (q ++ ls.flatten) ++ rest =
      la.flatten ++ (l ++ q ++ (ls.flatten ++ rest)) := by
    rw [← flatten_lines t, hlines]
    simp
  refine ⟨q, readLines openers la {} (la.flatten ++ (l ++ q ++ (ls.flatten ++ rest))),
    ls.flatten ++ rest, hu.1, ?_⟩
  rw [hjoined, hjoin, hwhole, readLines_append, readLines_cons]
  exact Waited.readLines hu.2 openers _ rest

/-- A line with a semicolon in it is no lone slash. -/
theorem isLoneSlash_of_semicolon {line : Text} (h : ';' ∈ line) :
    Directive.isLoneSlash line = false := by
  rw [Bool.eq_false_iff]
  intro hslash
  obtain ⟨lead, trail, rfl, hlead, htrail⟩ := Directive.exists_of_isLoneSlash hslash
  rcases List.mem_append.mp h with h | h
  · exact absurd (hlead _ h) (by decide)
  · rcases List.mem_cons.mp h with h | h
    · exact absurd h (by decide)
    · exact absurd (htrail _ h) (by decide)

/-- **Behind a semicolon that ends a text**, blank characters apart, nothing is pending, or else a
literal or a block is open. -/
theorem idle_or_inside_of_last (w : Text) {u : Text} (hu : ∀ c ∈ u, isBlank c = true)
    (rest : Text) :
    (readLines openers (lines (w ++ [';'] ++ u)) {} (w ++ [';'] ++ u ++ rest)).Idle ∨
      (readLines openers (lines (w ++ [';'] ++ u)) {} (w ++ [';'] ++ u ++ rest)).Inside := by
  obtain ⟨la, l, hlines⟩ : ∃ la l, lines (w ++ [';']) = la ++ [l ++ [';']] := by
    by_cases hstart : LineStart w [';']
    · exact ⟨lines w, [], by rw [lines_append hstart, lines_singleton, List.nil_append]⟩
    · obtain ⟨la, l, -, h⟩ := lines_append_singleton hstart
      exact ⟨la, l, h⟩
  have hlast : ∀ c ∈ (w ++ [';']).getLast?, isLineBreak c = false := by
    rw [List.getLast?_concat]
    rintro c ⟨⟩
    decide
  obtain ⟨q, r, rest', hq, hwaited⟩ := exists_waited openers hlines hlast hu rest
  rw [isLoneSlash_of_semicolon (by simp), if_neg Bool.false_ne_true, scan_append, scan_append,
    Reader.scan, Reader.scan] at hwaited
  -- blank characters behind the semicolon, on its line and on the lines behind that
  have hwaited' := ((Waited.scan hq openers _ rest').trans (Waited.endLine _)).trans hwaited
  exact (idle_or_inside_of_semicolon openers _ _).imp hwaited'.idle hwaited'.inside

/-- **Behind a line that is a lone slash**, blank characters apart, nothing is pending. -/
theorem idle_of_last_slash {w line : Text} (hw : ∀ c ∈ w.getLast?, isLineBreak c = true)
    (hline : lines line = [line]) (hslash : Directive.isLoneSlash line = true) {u : Text}
    (hu : ∀ c ∈ u, isBlank c = true) (rest : Text) :
    (readLines openers (lines (w ++ line ++ u)) {} (w ++ line ++ u ++ rest)).Idle := by
  obtain ⟨lead, trail, rfl, hlead, htrail⟩ := Directive.exists_of_isLoneSlash hslash
  have hlast : ∀ c ∈ (lead ++ ['/']).getLast?, isLineBreak c = false := by
    rw [List.getLast?_concat]
    rintro c ⟨⟩
    decide
  -- the line up to its slash is a line by itself, and it begins one behind `w`
  have hfront : lines (lead ++ ['/']) = [lead ++ ['/']] := by
    refine lines_of_append (q := trail) (by simp) hlast ?_
    rwa [List.append_assoc, List.singleton_append]
  have hhead : (lead ++ ['/']).head? ≠ some '\n' := fun hhead => by
    have hbreak := no_break_of_lines_singleton hfront hlast '\n' (List.mem_of_mem_head? hhead)
    exact absurd hbreak (by decide)
  have hlines : lines (w ++ (lead ++ ['/'])) = lines w ++ [lead ++ ['/']] := by
    rw [lines_append (lineStart_of_head_ne hw hhead), hfront]
  have hlast' : ∀ c ∈ (w ++ (lead ++ ['/'])).getLast?, isLineBreak c = false := by
    rwa [List.getLast?_append_of_ne_nil w (by simp)]
  have hblank : ∀ c ∈ trail ++ u, isBlank c = true := List.forall_mem_append.mpr ⟨htrail, hu⟩
  obtain ⟨q, r, rest', hq, hwaited⟩ := exists_waited openers hlines hlast' hblank rest
  have hslash' : Directive.isLoneSlash (lead ++ ['/'] ++ q) = true := by
    have htight : Tight ['/'] := by
      constructor <;>
        · rintro c ⟨⟩
          decide
    rw [Directive.isLoneSlash, trim_append_append hlead htight (by simp) hq]
    rfl
  have hsplit : w ++ (lead ++ '/' :: trail) ++ u = w ++ (lead ++ ['/']) ++ (trail ++ u) := by simp
  rw [hslash', if_pos rfl] at hwaited
  rw [hsplit]
  exact hwaited.idle (idle_cut r _)

/-! ### Lines that end with a terminator -/

/-- Blank lines leave nothing pending. -/
theorem idle_of_blank {ls : List Text} (hls : ∀ l ∈ ls, trim l = []) (rest : Text) :
    (readLines openers (lines ls.flatten) {} (ls.flatten ++ rest)).Idle := by
  have hblank : ∀ c ∈ (lines ls.flatten).flatten, isBlank c = true := by
    rw [flatten_lines]
    exact isBlank_of_mem_flatten hls
  have hwaited := Waited.readLines hblank openers {} rest
  rw [flatten_lines] at hwaited
  exact hwaited.idle ⟨rfl, List.forall_mem_nil _⟩

/-- **Behind a line that ends with a semicolon** nothing is pending, or else a literal or a block is
open. -/
theorem idle_or_inside_of_lastLine {ls : List Text} {l : Text} (h : Directive.LastLine ls l)
    (hsemi : (trim l).getLast? = some ';') (rest : Text) :
    (readLines openers (lines ls.flatten) {} (ls.flatten ++ rest)).Idle ∨
      (readLines openers (lines ls.flatten) {} (ls.flatten ++ rest)).Inside := by
  obtain ⟨la, u, hflat, -, hu⟩ := h.exists_flatten
  obtain ⟨trail, hline, htrail⟩ := exists_trim l
  have hsplit : ls.flatten =
      la.flatten ++ (l.takeWhile isBlank ++ (trim l).dropLast) ++ [';'] ++ (trail ++ u) := by
    rw [hflat]
    conv_lhs => rw [hline, ← List.dropLast_append_getLast? ';' hsemi]
    simp
  rw [hsplit]
  exact idle_or_inside_of_last openers _ (List.forall_mem_append.mpr ⟨htrail, hu⟩) rest

/-- **Behind a line that is a lone slash** nothing is pending. -/
theorem idle_of_lastLine {ls : List Text} {l : Text} (h : Directive.LastLine ls l)
    (hslash : Directive.isLoneSlash l = true) (hline : lines l = [l])
    (hbreaks : ∀ m ∈ ls, ∃ c ∈ m.getLast?, isLineBreak c = true) (rest : Text) :
    (readLines openers (lines ls.flatten) {} (ls.flatten ++ rest)).Idle := by
  obtain ⟨la, u, hflat, hla, hu⟩ := h.exists_flatten
  have hfront : ∀ c ∈ la.flatten.getLast?, isLineBreak c = true :=
    isLineBreak_of_flatten fun m hm => hbreaks m (hla m hm)
  rw [hflat]
  exact idle_of_last_slash openers hfront hline hslash hu rest

end Reader

/-! ### Lines that are removed -/

namespace Script

variable {dialect : Dialect} {script : Text} {i : Nat}

/-- The lines kept before the line with `i` others before it. -/
def keptBefore (dialect : Dialect) (script : Text) (i : Nat) : List Text :=
  Directive.kept dialect.directives dialect.boundaryOnly true ((lines script).take i)

/-- **The reader that has read the lines kept before a line**, when `rest` stands behind them. -/
def readerBefore (dialect : Dialect) (script : Text) (i : Nat) (rest : Text) : Reader :=
  Reader.readLines dialect.openers (lines (keptBefore dialect script i).flatten) {}
    ((keptBefore dialect script i).flatten ++ rest)

/-- A line that is removed is a line of the script, and a statement may begin there. -/
theorem boundary_of_removed (hboundary : dialect.boundaryOnly = true)
    (hremoved : (removals dialect script)[i]? = some true) :
    (∀ l ∈ (lines script).take i, ∃ c ∈ l.getLast?, isLineBreak c = true) ∧
      Directive.boundary dialect.directives dialect.boundaryOnly true ((lines script).take i) =
        true := by
  rw [removals, Directive.getElem?_removals, Option.map_eq_some_iff] at hremoved
  obtain ⟨line, hline, hremoves⟩ := hremoved
  obtain ⟨hi, hget⟩ := List.getElem?_eq_some_iff.mp hline
  constructor
  · intro l hl
    obtain ⟨la, lb, hlalb⟩ := List.append_of_mem hl
    have hlines : lines script = la ++ l :: (lb ++ line :: (lines script).drop (i + 1)) := by
      conv_lhs => rw [← List.take_append_drop i (lines script), hlalb,
        List.drop_eq_getElem_cons hi, hget]
      simp
    exact break_of_lines_eq hlines (by simp)
  · rw [Directive.removes, Bool.and_eq_true, Bool.or_eq_true] at hremoves
    simpa [hboundary] using hremoves.1

/-- **Where a line is removed in boundary-only mode**, nothing is pending, or else a literal or a
block is open and the last line before it that is not blank ends with a semicolon. -/
theorem idle_or_inside_of_removed (hboundary : dialect.boundaryOnly = true)
    (hremoved : (removals dialect script)[i]? = some true) (rest : Text) :
    (readerBefore dialect script i rest).Idle ∨
      ((readerBefore dialect script i rest).Inside ∧
        ∃ l, Directive.LastLine (keptBefore dialect script i) l ∧
          (trim l).getLast? = some ';') := by
  obtain ⟨hbreaks, hat⟩ := boundary_of_removed hboundary hremoved
  rw [readerBefore]
  -- every kept line is one of the lines before, so it is a line by itself and has a line break
  have hmem : ∀ m ∈ keptBefore dialect script i, m ∈ (lines script).take i := fun m hm =>
    Directive.mem_of_mem_kept hm
  rcases Directive.of_boundary_eq_true hat with hall | ⟨l, hl, hsemi | hslash⟩
  · exact Or.inl (Reader.idle_of_blank dialect.openers hall rest)
  · exact (Reader.idle_or_inside_of_lastLine dialect.openers hl hsemi rest).imp_right fun hinside =>
      ⟨hinside, l, hl, hsemi⟩
  · have hline : lines l = [l] := lines_of_mem (List.mem_of_mem_take (hmem l hl.mem))
    left
    exact Reader.idle_of_lastLine dialect.openers hl hslash hline
      (fun m hm => hbreaks m (hmem m hm)) rest

/-- A blank line and another directive between the semicolon and the line that is removed, in a
literal of a block. -/
theorem idle_or_inside_of_removed_literal :
    let dialect : Dialect := { boundaryOnly := true }
    let script : Text := "begin x := 'y;
rem z
 
set';
end;".toList
    dialect.boundaryOnly = true ∧ (removals dialect script)[3]? = some true ∧
      ((readerBefore dialect script 3 []).Idle ∨
        ((readerBefore dialect script 3 []).Inside ∧
          ∃ l, Directive.LastLine (keptBefore dialect script 3) l ∧
            (trim l).getLast? = some ';')) := by
  intro dialect script
  have hboundary : dialect.boundaryOnly = true := rfl
  have hremoved : (removals dialect script)[3]? = some true := by decide +kernel
  exact ⟨hboundary, hremoved, idle_or_inside_of_removed hboundary hremoved []⟩

/-- **A line inside a block is removed, and so is one inside a literal**, if the line before it ends
with a semicolon. -/
theorem not_idle_of_removed :
    let dialect : Dialect := { boundaryOnly := true }
    let block : Text := "begin
x := 1;
set y = 2
end;
".toList
    let literal : Text := "select 'a;
set b' from t;
".toList
    ((removals dialect block)[2]? = some true ∧ ¬(readerBefore dialect block 2 []).Idle) ∧
      (removals dialect literal)[1]? = some true ∧
        ¬(readerBefore dialect literal 1 []).Idle := by
  decide +kernel

end Script

end SqlScript
