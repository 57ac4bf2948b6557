import SqlScript.Proofs.Lines
import SqlScript.Proofs.Trimming
import SqlScript.Script

/-!
# Which lines are removed

Removing directive lines is a walk along the lines of a script with one bit of memory, whether a
statement may begin at the next line. The memory is brought out here (`Directive.boundary`), with
what is decided about each line (`Directive.removals`); both are computed from the lines before, so
a list of lines cut in two is decided upon in two parts (`Directive.kept_append`). Of the lines that
are kept the memory depends on one, the last that is not blank (`Directive.boundary_cases`).

Two things can happen at the edges of such parts, and neither matters. A line feed is added to a
line or a blank line behind it: nothing but the trimmed line counts, and a blank line is kept and
leaves the memory as it is. And where the lines between a carriage return and a line feed are
removed, the two become one line break, so that the lines of the source are not the kept lines of
the script; still none of them is removed when the source is read again
(`Directive.kept_lines_flatten`).
-/

namespace SqlScript.Directive

open SqlScript.Text

/-! ### The memory of the walk -/

section Walk

variable (directives : List Text) (boundaryOnly : Bool)

/-- Whether a statement may begin behind one line. -/
def behind (atBoundary : Bool) (line : Text) : Bool :=
  if removes directives boundaryOnly atBoundary line then atBoundary
  else boundaryAfter atBoundary line

/-- Whether a statement may begin behind lines. -/
def boundary (atBoundary : Bool) (lines : List Text) : Bool :=
  lines.foldl (behind directives boundaryOnly) atBoundary

/-- For each line, whether it is removed. -/
def removals (atBoundary : Bool) : List Text → List Bool
  | [] => []
  | line :: rest =>
    removes directives boundaryOnly atBoundary line ::
      removals (behind directives boundaryOnly atBoundary line) rest

variable {directives boundaryOnly}

theorem kept_cons (atBoundary : Bool) (line : Text) (rest : List Text) :
    kept directives boundaryOnly atBoundary (line :: rest) =
      (if removes directives boundaryOnly atBoundary line then [] else [line]) ++
        kept directives boundaryOnly (behind directives boundaryOnly atBoundary line) rest := by
  rw [kept, behind]
  split_ifs <;> rfl

/-- **The kept lines are those that are not removed.** -/
theorem kept_eq_filter (atBoundary : Bool) (lines : List Text) :
    kept directives boundaryOnly atBoundary lines =
      ((lines.zip (removals directives boundaryOnly atBoundary lines)).filter (!·.2)).map
        Prod.fst := by
  induction lines generalizing atBoundary with
  | nil => rfl
  | cons line rest ih =>
    rw [kept_cons, removals, List.zip_cons_cons, List.filter_cons, ih]
    cases removes directives boundaryOnly atBoundary line <;> rfl

/-- **Lines cut in two are decided upon in two parts.** -/
theorem removals_append (atBoundary : Bool) (la lb : List Text) :
    removals directives boundaryOnly atBoundary (la ++ lb) =
      removals directives boundaryOnly atBoundary la ++
        removals directives boundaryOnly (boundary directives boundaryOnly atBoundary la) lb := by
  induction la generalizing atBoundary with
  | nil => rfl
  | cons line la ih => rw [List.cons_append, removals, removals, ih, List.cons_append]; rfl

/-- What is decided about a line depends on the lines before it. -/
theorem getElem?_removals (atBoundary : Bool) (ls : List Text) (i : Nat) :
    (removals directives boundaryOnly atBoundary ls)[i]? =
      ls[i]?.map (removes directives boundaryOnly
        (boundary directives boundaryOnly atBoundary (ls.take i))) := by
  induction ls generalizing atBoundary i with
  | nil => rfl
  | cons line ls ih =>
    cases i with
    | zero => rfl
    | succ i =>
      rw [removals, List.getElem?_cons_succ, List.getElem?_cons_succ, ih]
      rfl

theorem length_removals (atBoundary : Bool) (ls : List Text) :
    (removals directives boundaryOnly atBoundary ls).length = ls.length := by
  induction ls generalizing atBoundary with
  | nil => rfl
  | cons line ls ih => rw [removals, List.length_cons, List.length_cons, ih]

/-- What is decided about the first lines does not depend on the others. -/
theorem take_removals (atBoundary : Bool) (ls : List Text) (i : Nat) :
    (removals directives boundaryOnly atBoundary ls).take i =
      removals directives boundaryOnly atBoundary (ls.take i) := by
  induction ls generalizing atBoundary i with
  | nil => simp [removals]
  | cons line ls ih =>
    cases i with
    | zero => rfl
    | succ i => rw [removals, List.take_succ_cons, List.take_succ_cons, removals, ih]

theorem kept_append (atBoundary : Bool) (la lb : List Text) :
    kept directives boundaryOnly atBoundary (la ++ lb) =
      kept directives boundaryOnly atBoundary la ++
        kept directives boundaryOnly (boundary directives boundaryOnly atBoundary la) lb := by
  induction la generalizing atBoundary with
  | nil => rfl
  | cons line la ih => rw [List.cons_append, kept_cons, kept_cons, ih, List.append_assoc]; rfl

theorem boundary_append (atBoundary : Bool) (la lb : List Text) :
    boundary directives boundaryOnly atBoundary (la ++ lb) =
      boundary directives boundaryOnly (boundary directives boundaryOnly atBoundary la) lb :=
  List.foldl_append

/-! ### What is decided about a line -/

/-- Nothing but the trimmed line counts. -/
theorem removes_congr {line line' : Text} (h : trim line = trim line') (atBoundary : Bool) :
    removes directives boundaryOnly atBoundary line =
      removes directives boundaryOnly atBoundary line' := by
  simp only [removes, isDirective, h]

theorem isLoneSlash_congr {line line' : Text} (h : trim line = trim line') :
    isLoneSlash line = isLoneSlash line' := by
  simp only [isLoneSlash, h]

theorem boundaryAfter_congr {line line' : Text} (h : trim line = trim line') (atBoundary : Bool) :
    boundaryAfter atBoundary line = boundaryAfter atBoundary line' := by
  simp only [boundaryAfter, isLoneSlash, h]

/-- What begins as a directive is one however it goes on, unless blank characters are all that
separates the two. -/
theorem isDirective_append {line rest : Text} (hlast : ∃ c ∈ line.getLast?, isBlank c = false)
    (h : isDirective directives line = true) : isDirective directives (line ++ rest) = true := by
  obtain ⟨m, hm⟩ := exists_trim_append_left hlast rest
  have hupper : upper (trim (line ++ rest)) = upper (trim line) ++ upper m := by
    rw [hm, upper, upper, upper, List.flatMap_append]
  simp only [isDirective, Bool.and_eq_true, Bool.not_eq_true', List.isEmpty_eq_false_iff,
    List.any_eq_true, List.isPrefixOf_iff_prefix] at h ⊢
  obtain ⟨hne, word, hword, hbegins⟩ := h
  rw [hupper]
  exact ⟨by simp [hne], word, hword, hbegins.trans (List.prefix_append _ _)⟩

theorem removes_of_append {line rest : Text} (hlast : ∃ c ∈ line.getLast?, isBlank c = false)
    {atBoundary : Bool} (h : removes directives boundaryOnly atBoundary (line ++ rest) = false) :
    removes directives boundaryOnly atBoundary line = false := by
  rw [removes, Bool.and_eq_false_iff] at h ⊢
  refine h.imp_right fun h => ?_
  rw [Bool.eq_false_iff] at h ⊢
  exact fun hline => h (isDirective_append hlast hline)

/-- What stands before a line with something in it does not change what may begin behind it, as long
as neither is a lone slash. -/
theorem boundaryAfter_append {line : Text} (hne : trim line ≠ [])
    (hslash : isLoneSlash line = false) (front : Text) (atBoundary atBoundary' : Bool) :
    boundaryAfter atBoundary (front ++ line) = boundaryAfter atBoundary' line := by
  obtain ⟨m, hm⟩ := exists_trim_append hne front
  have hslash' : isLoneSlash (front ++ line) = false := by
    rw [isLoneSlash, beq_eq_false_iff_ne] at hslash ⊢
    rw [hm]
    intro h
    rcases List.append_eq_singleton_iff.mp h with ⟨-, h⟩ | ⟨-, h⟩
    · exact hslash h
    · exact hne h
  have hlast : (trim (front ++ line)).getLast? = (trim line).getLast? := by
    rw [hm, List.getLast?_append_of_ne_nil m hne]
  have hne' : (trim (front ++ line)).isEmpty = false := by
    rw [hm]
    simp [hne]
  rw [boundaryAfter, boundaryAfter, hne', List.isEmpty_eq_false_iff.mpr hne, hlast, hslash, hslash']
  rfl

/-- A blank line is kept. -/
theorem removes_of_blank {line : Text} (h : ∀ c ∈ line, isBlank c = true) (atBoundary : Bool) :
    removes directives boundaryOnly atBoundary line = false := by
  simp [removes, isDirective, trim_of_blank h, upper]

/-- A blank line changes nothing. -/
theorem boundaryAfter_of_blank {line : Text} (h : ∀ c ∈ line, isBlank c = true)
    (atBoundary : Bool) : boundaryAfter atBoundary line = atBoundary := by
  simp [boundaryAfter, trim_of_blank h]

/-- A lone slash is kept unless a slash begins a directive. -/
theorem removes_of_isLoneSlash (hslash : isDirective directives ['/'] = false) {line : Text}
    (h : isLoneSlash line = true) (atBoundary : Bool) :
    removes directives boundaryOnly atBoundary line = false := by
  have htrim : trim line = trim ['/'] := by
    rw [beq_iff_eq.mp h]
    rfl
  rw [removes_congr htrim, removes, hslash, Bool.and_false]

/-- Behind a lone slash a statement may begin. -/
theorem boundaryAfter_of_isLoneSlash {line : Text} (h : isLoneSlash line = true)
    (atBoundary : Bool) : boundaryAfter atBoundary line = true := by
  have htrim : trim line = ['/'] := beq_iff_eq.mp h
  simp [boundaryAfter, h, htrim]

/-- **`l` is the last of the lines that is not blank.** -/
def LastLine (ls : List Text) (l : Text) : Prop :=
  ∃ la lb, ls = la ++ l :: lb ∧ trim l ≠ [] ∧ ∀ m ∈ lb, trim m = []

theorem LastLine.mem {ls : List Text} {l : Text} (h : LastLine ls l) : l ∈ ls := by
  obtain ⟨la, lb, rfl, -, -⟩ := h
  simp

/-- The text of the lines: what stands before that line, the line, and blank characters. -/
theorem LastLine.exists_flatten {ls : List Text} {l : Text} (h : LastLine ls l) :
    ∃ (la : List Text) (u : Text), ls.flatten = la.flatten ++ l ++ u ∧ (∀ m ∈ la, m ∈ ls) ∧
      ∀ c ∈ u, isBlank c = true := by
  obtain ⟨la, lb, rfl, -, hlb⟩ := h
  exact ⟨la, lb.flatten, by simp, fun m hm => List.mem_append_left _ hm,
    isBlank_of_mem_flatten hlb⟩

/-- A blank line behind them changes nothing. -/
theorem LastLine.append_blank {ls : List Text} {l m : Text} (h : LastLine ls l)
    (hm : trim m = []) : LastLine (ls ++ [m]) l := by
  obtain ⟨la, lb, rfl, hne, hlb⟩ := h
  refine ⟨la, lb ++ [m], by simp, hne, ?_⟩
  exact List.forall_mem_append.mpr ⟨hlb, List.forall_mem_singleton.mpr hm⟩

/-- It is not blank. -/
theorem LastLine.trim_ne_nil {ls : List Text} {l : Text} (h : LastLine ls l) : trim l ≠ [] := by
  obtain ⟨la, lb, -, hne, -⟩ := h
  exact hne

theorem LastLine.getLast?_filter {ls : List Text} {l : Text} (h : LastLine ls l) :
    (ls.filter fun m => !(trim m).isEmpty).getLast? = some l := by
  obtain ⟨la, lb, rfl, hne, hlb⟩ := h
  have hblank : lb.filter (fun m => !(trim m).isEmpty) = [] := by
    rw [List.filter_eq_nil_iff]
    intro m hm
    simp [hlb m hm]
  rw [List.filter_append, List.filter_cons_of_pos (by simpa using hne), hblank,
    List.getLast?_append_of_ne_nil _ (by simp), List.getLast?_singleton]

/-- There is one such line at the most. -/
theorem LastLine.unique {ls : List Text} {l l' : Text} (h : LastLine ls l)
    (h' : LastLine ls l') : l = l' :=
  Option.some.inj (h.getLast?_filter.symm.trans h'.getLast?_filter)

/-- **Behind lines a statement may begin**: none of them is other than blank, or the last that is
ends with a semicolon or is a lone slash. -/
def MayBegin (ls : List Text) : Prop :=
  (∀ l ∈ ls, trim l = []) ∨
    ∃ l, LastLine ls l ∧ ((trim l).getLast? = some ';' ∨ isLoneSlash l = true)

/-- **The memory of the walk**: it is as at the beginning while nothing is kept that is not blank,
and then it depends on the last line that is not. -/
theorem boundary_cases (ls : List Text) :
    (∀ l ∈ kept directives boundaryOnly true ls, trim l = []) ∧
        boundary directives boundaryOnly true ls = true ∨
      ∃ l, LastLine (kept directives boundaryOnly true ls) l ∧
        boundary directives boundaryOnly true ls =
          ((trim l).getLast? == some ';' || isLoneSlash l) := by
  induction ls using List.reverseRecOn with
  | nil => exact Or.inl ⟨List.forall_mem_nil _, rfl⟩
  | append_singleton ls line ih =>
    rw [boundary_append, boundary, List.foldl_cons, List.foldl_nil, behind, kept_append, kept_cons,
      kept, List.append_nil]
    split_ifs with hremoves
    · -- a removed line leaves everything as it is
      rwa [List.append_nil]
    rw [boundaryAfter]
    split_ifs with hblank
    · rw [List.isEmpty_iff] at hblank
      rcases ih with ⟨hall, htrue⟩ | ⟨l, hl, hlast⟩
      · left
        exact ⟨List.forall_mem_append.mpr ⟨hall, List.forall_mem_singleton.mpr hblank⟩, htrue⟩
      · exact Or.inr ⟨l, hl.append_blank hblank, hlast⟩
    · exact Or.inr ⟨line, ⟨_, [], rfl, by simpa using hblank, List.forall_mem_nil _⟩, rfl⟩

/-- **The memory of the walk tells whether a statement may begin** behind the lines it has kept. -/
theorem boundary_eq_true_iff {ls : List Text} : boundary directives boundaryOnly true ls = true ↔
    MayBegin (kept directives boundaryOnly true ls) := by
  rcases boundary_cases ls with ⟨hall, htrue⟩ | ⟨l, hl, hlast⟩
  · exact ⟨fun _ => Or.inl hall, fun _ => htrue⟩
  · rw [hlast, Bool.or_eq_true, beq_iff_eq]
    constructor
    · intro hend
      exact Or.inr ⟨l, hl, hend⟩
    · rintro (hall | ⟨l', hl', hend⟩)
      · exact absurd (hall l hl.mem) hl.trim_ne_nil
      · rwa [hl.unique hl']

theorem of_boundary_eq_true {ls : List Text}
    (h : boundary directives boundaryOnly true ls = true) :
    MayBegin (kept directives boundaryOnly true ls) :=
  boundary_eq_true_iff.mp h

/-- Behind a lone slash the walk is where it began. -/
theorem boundary_of_isLoneSlash (hslash : isDirective directives ['/'] = false) {line : Text}
    (h : isLoneSlash line = true) (atBoundary : Bool) :
    boundary directives boundaryOnly atBoundary [line] = true := by
  rw [boundary, List.foldl_cons, List.foldl_nil, behind, removes_of_isLoneSlash hslash h,
    if_neg Bool.false_ne_true, boundaryAfter_of_isLoneSlash h]

/-! ### Texts that hold no directive lines -/

variable (directives boundaryOnly) in
/-- **The kept lines are some of the lines**, in their order. -/
theorem kept_sublist (atBoundary : Bool) (lines : List Text) :
    (kept directives boundaryOnly atBoundary lines).Sublist lines := by
  induction lines generalizing atBoundary with
  | nil => exact .slnil
  | cons line rest ih =>
    rw [kept]
    split_ifs
    · exact (ih atBoundary).cons line
    · exact (ih _).cons_cons line

theorem mem_of_mem_kept {atBoundary : Bool} {lines : List Text} {line : Text}
    (h : line ∈ kept directives boundaryOnly atBoundary lines) : line ∈ lines :=
  (kept_sublist directives boundaryOnly atBoundary lines).mem h

/-- Lines that end with line breaks still do so when some of them are removed. -/
theorem isLineBreak_of_kept {la : List Text}
    (hla : ∀ l ∈ la, ∃ c ∈ l.getLast?, isLineBreak c = true) (atBoundary : Bool) :
    ∀ c ∈ (kept directives boundaryOnly atBoundary la).flatten.getLast?,
      isLineBreak c = true :=
  isLineBreak_of_flatten fun l hl => hla l (mem_of_mem_kept hl)

/-- **All lines are kept** when the first one is and so are the others. -/
theorem kept_cons_eq_self {atBoundary : Bool} {line : Text} {rest : List Text} :
    kept directives boundaryOnly atBoundary (line :: rest) = line :: rest ↔
      removes directives boundaryOnly atBoundary line = false ∧
        kept directives boundaryOnly (boundaryAfter atBoundary line) rest = rest := by
  rw [kept]
  split_ifs with h
  · refine ⟨fun hkept => ?_, fun hkept => absurd hkept.1 (by simp [h])⟩
    have hlen := (kept_sublist directives boundaryOnly atBoundary rest).length_le
    rw [hkept] at hlen
    exact absurd hlen (by simp)
  · simp [h]

/-- Where no line is a directive, all lines are kept. -/
theorem kept_eq_self {ls : List Text} (h : ∀ l ∈ ls, isDirective directives l = false)
    (atBoundary : Bool) : kept directives boundaryOnly atBoundary ls = ls := by
  induction ls generalizing atBoundary with
  | nil => rfl
  | cons l ls ih =>
    rw [kept_cons_eq_self, removes, h l List.mem_cons_self, Bool.and_false]
    exact ⟨rfl, ih (fun m hm => h m (List.mem_cons_of_mem l hm)) _⟩

theorem kept_append_eq_self {atBoundary : Bool} {la lb : List Text} :
    kept directives boundaryOnly atBoundary (la ++ lb) = la ++ lb ↔
      kept directives boundaryOnly atBoundary la = la ∧
        kept directives boundaryOnly (boundary directives boundaryOnly atBoundary la) lb = lb := by
  rw [kept_append]
  refine ⟨fun h => ?_, fun h => by rw [h.1, h.2]⟩
  refine List.append_inj h (le_antisymm (kept_sublist _ _ _ _).length_le ?_)
  have hlen := congrArg List.length h
  have hlb := (kept_sublist directives boundaryOnly
    (boundary directives boundaryOnly atBoundary la) lb).length_le
  simp only [List.length_append] at hlen
  omega

/-- A line that is kept, before a text none of whose lines is removed. -/
theorem kept_lines_append {atBoundary : Bool} {l t : Text} (hl : lines l = [l])
    (hlast : t ≠ [] → ∀ c ∈ l.getLast?, isLineBreak c = true)
    (hremoves : removes directives boundaryOnly atBoundary l = false)
    (ht : kept directives boundaryOnly (boundaryAfter atBoundary l) (lines t) = lines t) :
    kept directives boundaryOnly atBoundary (lines (l ++ t)) = lines (l ++ t) := by
  rcases lines_line_append hl hlast with hlines | ⟨t', hfeed, hjoined⟩
  · rw [hlines, kept_cons_eq_self]
    exact ⟨hremoves, ht⟩
  · have htrim : trim (l ++ ['\n']) = trim l := trim_append_blank l isBlank_newline
    rw [hfeed, kept_cons_eq_self, boundaryAfter_of_blank isBlank_newline] at ht
    rw [hjoined, kept_cons_eq_self, removes_congr htrim, boundaryAfter_congr htrim]
    exact ⟨hremoves, ht.2⟩

/-- **None of the lines of a source is removed again.** -/
theorem kept_lines_flatten {text : Text} {ls : List Text} (atBoundary : Bool)
    (hls : lines text = ls) :
    kept directives boundaryOnly atBoundary
        (lines (kept directives boundaryOnly atBoundary ls).flatten) =
      lines (kept directives boundaryOnly atBoundary ls).flatten := by
  induction ls generalizing text atBoundary with
  | nil => rfl
  | cons line rest ih =>
    have hrest : lines rest.flatten = rest := (lines_eq_cons hls).2.1
    rw [kept]
    split_ifs with h
    · exact ih atBoundary hrest
    · rw [List.flatten_cons]
      refine kept_lines_append (lines_eq_cons hls).1 (fun hne => ?_) (by simpa using h)
        (ih _ hrest)
      have hne' : rest ≠ [] := by
        rintro rfl
        exact hne rfl
      obtain ⟨c, hc, hbreak⟩ := break_of_lines_eq (hls.trans (List.nil_append _).symm) hne'
      intro d hd
      rwa [Option.mem_unique hd hc]

end Walk

end SqlScript.Directive
