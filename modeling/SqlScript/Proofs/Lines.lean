import Mathlib.Data.List.Basic
import SqlScript.Text.Lines

/-!
# Where the lines of a text begin

Reading a script goes line by line, but what is to be proved about it is about stretches of text
that begin and end anywhere. This file is the bridge. It gives the lines of a text by recursion on
the text itself (`Text.eachLine`), so that a proof can follow the text, and says when a text cut in
two has the lines of its two parts (`Text.lines_append`): the second part must begin a line of its
own (`Text.LineStart`), which fails for two reasons only. The first part ends in the middle of a
line, or the cut goes through a carriage return and the line feed that belongs to it.

Conversely every place between two lines of a text is such a cut (`Text.lines_eq_append`). Where a
stretch begins or ends in the middle of a line, only that one line is longer in the whole text than
it is in the stretch (`Text.lines_within`).
-/

namespace SqlScript.Text

/-! ### Lines by recursion on the text -/

/-- The lines `ls` when `p` stands before the first of them. -/
def joinFirst (p : Text) : List Text → List Text
  | [] => if p.isEmpty then [] else [p]
  | l :: ls => (p ++ l) :: ls

@[simp] theorem joinFirst_nil_left (ls : List Text) : joinFirst [] ls = ls := by
  cases ls <;> rfl

@[simp] theorem joinFirst_cons_nil (c : Char) (p : Text) : joinFirst (c :: p) [] = [c :: p] := rfl

@[simp] theorem joinFirst_cons (p l : Text) (ls : List Text) :
    joinFirst p (l :: ls) = (p ++ l) :: ls := rfl

theorem joinFirst_joinFirst (p q : Text) (ls : List Text) :
    joinFirst p (joinFirst q ls) = joinFirst (p ++ q) ls := by
  cases ls with
  | nil => cases q <;> simp [joinFirst]
  | cons l ls => simp

/-- The lines of a text, by recursion on the text. -/
def eachLine : Text → List Text
  | [] => []
  | '\r' :: '\n' :: cs => ['\r', '\n'] :: eachLine cs
  | c :: cs => if isLineBreak c then [c] :: eachLine cs else joinFirst [c] (eachLine cs)

theorem linesFrom_eq (line : Text) (before : List Text) (text : Text) :
    linesFrom line before text = before.reverse ++ joinFirst line.reverse (eachLine text) := by
  fun_induction linesFrom line before text with
  | case1 line before => cases line <;> simp [eachLine, joinFirst]
  | case2 line before cs ih => rw [ih]; simp [eachLine]
  | case3 line before c cs hcr hc ih => rw [ih]; simp [eachLine, hc]
  | case4 line before c cs hcr hc ih => simp [ih, eachLine, hc, joinFirst_joinFirst]

/-- **The two descriptions of the lines agree.** -/
theorem lines_eq_eachLine (text : Text) : lines text = eachLine text := by
  simp [lines, linesFrom_eq]

@[simp] theorem lines_nil : lines [] = [] := rfl

theorem lines_crlf (t : Text) : lines ('\r' :: '\n' :: t) = ['\r', '\n'] :: lines t := by
  simp [lines_eq_eachLine, eachLine]

/-- What `eachLine` knows of a character that it takes alone. -/
theorem head?_ne_of_not_crlf {c : Char} {t : Text} (h : ∀ cs, c = '\r' → t = '\n' :: cs → False) :
    c = '\r' → t.head? ≠ some '\n' := by
  rintro rfl hn
  obtain ⟨cs, rfl⟩ := List.head?_eq_some_iff.mp hn
  exact h cs rfl rfl

theorem lines_cons_of_break {c : Char} {t : Text} (hc : isLineBreak c = true)
    (h : c = '\r' → t.head? ≠ some '\n') : lines (c :: t) = [c] :: lines t := by
  rw [lines_eq_eachLine, lines_eq_eachLine, eachLine, if_pos hc]
  rintro cs rfl rfl
  exact h rfl rfl

theorem lines_cons_of_not_break {c : Char} {t : Text} (hc : isLineBreak c = false) :
    lines (c :: t) = joinFirst [c] (lines t) := by
  rw [lines_eq_eachLine, lines_eq_eachLine, eachLine, hc, if_neg Bool.false_ne_true]
  rintro cs rfl rfl
  exact absurd hc (by decide)

@[simp] theorem lines_singleton (c : Char) : lines [c] = [[c]] := by
  cases hc : isLineBreak c with
  | true => rw [lines_cons_of_break hc fun _ => by simp, lines_nil]
  | false => rw [lines_cons_of_not_break hc, lines_nil, joinFirst_cons_nil]

theorem lines_eq_nil {t : Text} : lines t = [] ↔ t = [] := by
  refine ⟨fun h => ?_, fun h => by rw [h, lines_nil]⟩
  rw [← flatten_lines t, h, List.flatten_nil]

/-- **A character before a text** is a line of its own, or it belongs to the first line. -/
theorem lines_cons_cases (c : Char) (t : Text) :
    lines (c :: t) = [c] :: lines t ∨
      ∃ l ls, lines t = l :: ls ∧ lines (c :: t) = (c :: l) :: ls := by
  cases hbreak : isLineBreak c with
  | true =>
    by_cases hhead : c = '\r' → t.head? ≠ some '\n'
    · exact Or.inl (lines_cons_of_break hbreak hhead)
    · -- a carriage return and the line feed that belongs to it
      obtain ⟨rfl, hfeed⟩ := Classical.not_imp.mp hhead
      obtain ⟨t, rfl⟩ := List.head?_eq_some_iff.mp (not_not.mp hfeed)
      have hfeed : lines ('\n' :: t) = ['\n'] :: lines t :=
        lines_cons_of_break (by decide) (by simp)
      exact Or.inr ⟨['\n'], lines t, hfeed, lines_crlf t⟩
  | false =>
    rcases hlines : lines t with _ | ⟨l, ls⟩
    · rw [lines_eq_nil.mp hlines]
      exact Or.inl (lines_singleton c)
    · right
      refine ⟨l, ls, rfl, ?_⟩
      rw [lines_cons_of_not_break hbreak, hlines, joinFirst_cons, List.singleton_append]

/-- A text without a line break stands before the first line of what follows it. -/
theorem lines_append_of_no_break {p : Text} (hp : ∀ c ∈ p, isLineBreak c = false) (t : Text) :
    lines (p ++ t) = joinFirst p (lines t) := by
  induction p with
  | nil => simp
  | cons c p ih =>
    rw [List.cons_append, lines_cons_of_not_break (hp c List.mem_cons_self),
      ih fun d hd => hp d (List.mem_cons_of_mem c hd), joinFirst_joinFirst, List.singleton_append]

/-! ### Texts cut where a line begins -/

/-- **`b` begins a line of its own when it stands behind `a`**: `a` is empty, or it ends with a line
break that `b` does not continue. -/
def LineStart (a b : Text) : Prop :=
  ∀ c ∈ a.getLast?, isLineBreak c = true ∧ (c = '\r' → b.head? ≠ some '\n')

theorem lineStart_nil (b : Text) : LineStart [] b := by
  intro c hc
  simp at hc

theorem lineStart_append_left {a b : Text} (hb : b ≠ []) (t : Text) :
    LineStart (a ++ b) t ↔ LineStart b t := by
  rw [LineStart, LineStart, List.getLast?_append_of_ne_nil a hb]

theorem lineStart_cons {c : Char} {a : Text} (ha : a ≠ []) (t : Text) :
    LineStart (c :: a) t ↔ LineStart a t :=
  lineStart_append_left (a := [c]) ha t

theorem lineStart_append_right {b : Text} (hb : b ≠ []) (a t : Text) :
    LineStart a (b ++ t) ↔ LineStart a b := by
  rw [LineStart, LineStart, List.head?_append_of_ne_nil b hb]

theorem lineStart_singleton {c : Char} {t : Text} :
    LineStart [c] t ↔ isLineBreak c = true ∧ (c = '\r' → t.head? ≠ some '\n') := by
  simp [LineStart]

/-- Nothing continues a line feed. -/
theorem lineStart_newline (a t : Text) : LineStart (a ++ ['\n']) t := by
  rw [lineStart_append_left (by simp)]
  exact lineStart_singleton.mpr ⟨by decide, by simp⟩

/-- Nothing but a line feed continues a line break. -/
theorem lineStart_of_head_ne {a b : Text} (ha : ∀ c ∈ a.getLast?, isLineBreak c = true)
    (hb : b.head? ≠ some '\n') : LineStart a b :=
  fun c hc => ⟨ha c hc, fun _ => hb⟩

/-- **A text cut where a line begins has the lines of its two parts.** -/
theorem lines_append {a b : Text} (h : LineStart a b) : lines (a ++ b) = lines a ++ lines b := by
  -- the recursion goes to the end of `a`, where `b` begins a line by assumption
  fun_induction eachLine a with
  | case1 => simp
  | case2 cs ih =>
    rcases eq_or_ne cs [] with rfl | hcs
    · simp [lines_crlf]
    · have hrest : LineStart cs b := (lineStart_append_left (a := ['\r', '\n']) hcs b).mp h
      simp only [List.cons_append, lines_crlf, ih hrest]
  | case3 c cs hcr hc ih =>
    rcases eq_or_ne cs [] with rfl | hcs
    · have hb := (lineStart_singleton.mp h).2
      simp [lines_cons_of_break hc hb]
    · have hcs' : c = '\r' → cs.head? ≠ some '\n' := head?_ne_of_not_crlf hcr
      have hhead : c = '\r' → (cs ++ b).head? ≠ some '\n' := by
        rwa [List.head?_append_of_ne_nil cs hcs]
      rw [List.cons_append, lines_cons_of_break hc hhead, lines_cons_of_break hc hcs',
        ih ((lineStart_cons hcs b).mp h), List.cons_append]
  | case4 c cs hcr hc ih =>
    have hc' : isLineBreak c = false := by simpa using hc
    rcases eq_or_ne cs [] with rfl | hcs
    · exact absurd (lineStart_singleton.mp h).1 hc
    · rw [List.cons_append, lines_cons_of_not_break hc', lines_cons_of_not_break hc',
        ih ((lineStart_cons hcs b).mp h)]
      rcases hl : lines cs with _ | ⟨l, ls⟩
      · exact absurd (lines_eq_nil.mp hl) hcs
      · simp

/-- The first line of a text is a line by itself, and what follows begins one. -/
theorem lines_eq_cons {t l : Text} {ls : List Text} (h : lines t = l :: ls) :
    lines l = [l] ∧ lines ls.flatten = ls ∧ (ls ≠ [] → LineStart l ls.flatten) := by
  fun_induction eachLine t generalizing l ls with
  | case1 => simp at h
  | case2 cs ih =>
    rw [lines_crlf, List.cons.injEq] at h
    obtain ⟨rfl, rfl⟩ := h
    exact ⟨rfl, by rw [flatten_lines], fun _ => lineStart_newline ['\r'] _⟩
  | case3 c cs hcr hc ih =>
    have hhead : c = '\r' → cs.head? ≠ some '\n' := head?_ne_of_not_crlf hcr
    rw [lines_cons_of_break hc hhead, List.cons.injEq] at h
    obtain ⟨rfl, rfl⟩ := h
    refine ⟨lines_singleton c, by rw [flatten_lines], fun _ => ?_⟩
    rw [flatten_lines]
    exact lineStart_singleton.mpr ⟨hc, hhead⟩
  | case4 c cs hcr hc ih =>
    have hc' : isLineBreak c = false := by simpa using hc
    rw [lines_cons_of_not_break hc'] at h
    rcases hl : lines cs with _ | ⟨l', ls'⟩
    · rw [hl, joinFirst_cons_nil, List.cons.injEq] at h
      obtain ⟨rfl, rfl⟩ := h
      simp [lines_cons_of_not_break hc']
    · rw [hl, joinFirst_cons, List.cons.injEq] at h
      obtain ⟨rfl, rfl⟩ := h
      obtain ⟨h1, h2, h3⟩ := ih hl
      have hne : l' ≠ [] := by
        rintro rfl
        simp at h1
      refine ⟨?_, h2, fun hls => (lineStart_cons hne _).mpr (h3 hls)⟩
      rw [List.singleton_append, lines_cons_of_not_break hc', h1, joinFirst_cons,
        List.singleton_append]

/-- No line is empty. -/
theorem ne_nil_of_mem_lines {t l : Text} (h : l ∈ lines t) : l ≠ [] := by
  obtain ⟨la, lb, hl⟩ := List.append_of_mem h
  clear h
  induction la generalizing t with
  | nil =>
    rintro rfl
    simpa using (lines_eq_cons hl).1
  | cons m la ih => exact ih (lines_eq_cons hl).2.1

/-- The lines of a text that is not empty: one, or a first and a last with others between. -/
theorem lines_cases {t : Text} (hne : t ≠ []) :
    lines t = [t] ∨ ∃ f mid g, lines t = f :: (mid ++ [g]) := by
  rcases hlines : lines t with _ | ⟨f, ls⟩
  · exact absurd (lines_eq_nil.mp hlines) hne
  · rcases List.eq_nil_or_concat ls with rfl | ⟨mid, g, rfl⟩
    · left
      have hflat := flatten_lines t
      rw [hlines, List.flatten_singleton] at hflat
      rw [hflat]
    · exact Or.inr ⟨f, mid, g, by rw [List.concat_eq_append]⟩

/-- **Between any two of its lines a text can be cut**: both sides have their lines, and the second
begins one. -/
theorem lines_eq_append {t : Text} {la lb : List Text} (h : lines t = la ++ lb) :
    lines la.flatten = la ∧ lines lb.flatten = lb ∧
      (lb ≠ [] → LineStart la.flatten lb.flatten) := by
  induction la generalizing t with
  | nil =>
    refine ⟨rfl, ?_, fun _ => lineStart_nil _⟩
    rw [← List.nil_append lb, ← h, flatten_lines]
  | cons l la ih =>
    rw [List.cons_append] at h
    obtain ⟨hl, hrest, hstart⟩ := lines_eq_cons h
    obtain ⟨h1, h2, h3⟩ := ih hrest
    -- a single line before the cut is a line by itself; more of them are joined to it
    rcases eq_or_ne la [] with rfl | hla
    · refine ⟨by simpa using hl, h2, fun hlb => ?_⟩
      simpa using hstart hlb
    · have hne : la.flatten ≠ [] := fun hc => hla (by rw [← h1, hc, lines_nil])
      have hcut : LineStart l la.flatten := by
        have := hstart (List.append_ne_nil_of_left_ne_nil hla lb)
        rwa [List.flatten_append, lineStart_append_right hne] at this
      refine ⟨?_, h2, fun hlb => ?_⟩
      · rw [List.flatten_cons, lines_append hcut, hl, h1, List.singleton_append]
      · rw [List.flatten_cons, lineStart_append_left hne]
        exact h3 hlb

/-- A line that is not the last one ends with a line break. -/
theorem break_of_lines_eq {t l : Text} {la lb : List Text} (h : lines t = la ++ l :: lb)
    (hlb : lb ≠ []) : ∃ c ∈ l.getLast?, isLineBreak c = true := by
  have hne : l ≠ [] := ne_nil_of_mem_lines (t := t) (by rw [h]; simp)
  have hstart := (lines_eq_cons (lines_eq_append h).2.1).2.2 hlb
  refine ⟨l.getLast hne, List.getLast?_eq_some_getLast hne, ?_⟩
  exact (hstart _ (List.getLast?_eq_some_getLast hne)).1

/-- A line of a text is a line by itself. -/
theorem lines_of_mem {t l : Text} (h : l ∈ lines t) : lines l = [l] := by
  obtain ⟨la, lb, hl⟩ := List.append_of_mem h
  exact (lines_eq_cons (lines_eq_append hl).2.1).1

/-- Where a text ends with a line break all of its lines do. -/
theorem break_of_mem_lines {t l : Text} (ht : ∀ c ∈ t.getLast?, isLineBreak c = true)
    (h : l ∈ lines t) : ∃ c ∈ l.getLast?, isLineBreak c = true := by
  obtain ⟨la, lb, hl⟩ := List.append_of_mem h
  rcases eq_or_ne lb [] with rfl | hlb
  · have hne : l ≠ [] := ne_nil_of_mem_lines h
    refine ⟨l.getLast hne, List.getLast?_eq_some_getLast hne, ht _ ?_⟩
    rw [← flatten_lines t, hl, List.flatten_append, List.flatten_singleton,
      List.getLast?_append_of_ne_nil _ hne]
    exact List.getLast?_eq_some_getLast hne
  · exact break_of_lines_eq hl hlb

/-- Lines that end with line breaks make up a text that does, unless there are none. -/
theorem isLineBreak_of_flatten {ls : List Text}
    (hls : ∀ l ∈ ls, ∃ c ∈ l.getLast?, isLineBreak c = true) :
    ∀ c ∈ ls.flatten.getLast?, isLineBreak c = true := by
  intro c hc
  rcases List.eq_nil_or_concat ls with rfl | ⟨front, l, rfl⟩
  · simp at hc
  · obtain ⟨d, hd, hbreak⟩ := hls l (by simp)
    have hne : l ≠ [] := by
      rintro rfl
      simp at hd
    rw [List.concat_eq_append, List.flatten_append, List.flatten_singleton,
      List.getLast?_append_of_ne_nil _ hne] at hc
    rwa [Option.mem_unique hc hd]

/-- A line that does not end with a line break holds none. -/
theorem no_break_of_lines_singleton {l : Text} (h : lines l = [l])
    (hlast : ∀ c ∈ l.getLast?, isLineBreak c = false) : ∀ c ∈ l, isLineBreak c = false := by
  fun_induction eachLine l with
  | case1 => simp
  | case2 cs ih =>
    have hcs : cs = [] := (by simpa [lines_crlf] using h : cs = [] ∧ lines cs = []).1
    rw [hcs] at hlast
    exact absurd (hlast '\n' rfl) (by decide)
  | case3 c cs hcr hc ih =>
    rcases eq_or_ne cs [] with rfl | hcs
    · exact absurd (hlast c rfl) (by simp [hc])
    · have hhead : c = '\r' → cs.head? ≠ some '\n' := head?_ne_of_not_crlf hcr
      rw [lines_cons_of_break hc hhead, List.cons.injEq, List.cons.injEq] at h
      exact absurd h.1.2.symm hcs
  | case4 c cs hcr hc ih =>
    have hc' : isLineBreak c = false := by simpa using hc
    rcases eq_or_ne cs [] with rfl | hcs
    · simpa using hc'
    · rw [lines_cons_of_not_break hc'] at h
      have hcs' : lines cs = [cs] := by
        rcases hl : lines cs with _ | ⟨l', ls'⟩
        · exact absurd (lines_eq_nil.mp hl) hcs
        · rw [hl, joinFirst_cons, List.singleton_append, List.cons.injEq, List.cons.injEq] at h
          rw [h.1.2, h.2]
      intro d hd
      rcases List.mem_cons.mp hd with rfl | hd
      · exact hc'
      · refine ih hcs' (fun e he => hlast e ?_) d hd
        rwa [List.getLast?_cons_of_ne_nil hcs]

/-- **A text that goes on in the middle of a line**: its last line is joined to the first line of
what follows. -/
theorem lines_append_of_last {a : Text} (hne : a ≠ [])
    (hlast : ∀ c ∈ a.getLast?, isLineBreak c = false) :
    ∃ la l, lines a = la ++ [l] ∧ ∀ t, lines (a ++ t) = la ++ joinFirst l (lines t) := by
  obtain ⟨la, l, hlines⟩ : ∃ la l, lines a = la ++ [l] := by
    rcases List.eq_nil_or_concat (lines a) with hnil | ⟨la, l, h⟩
    · exact absurd (lines_eq_nil.mp hnil) hne
    · exact ⟨la, l, by rw [h, List.concat_eq_append]⟩
  have hl : l ≠ [] := ne_nil_of_mem_lines (t := a) (by rw [hlines]; simp)
  have ha : a = la.flatten ++ l := by
    rw [← flatten_lines a, hlines, List.flatten_append, List.flatten_singleton]
  obtain ⟨hla, hll, hstart⟩ := lines_eq_append hlines
  rw [List.flatten_singleton] at hll hstart
  have hbreak : ∀ c ∈ l, isLineBreak c = false := by
    refine no_break_of_lines_singleton hll fun c hc => hlast c ?_
    rwa [ha, List.getLast?_append_of_ne_nil _ hl]
  refine ⟨la, l, hlines, fun t => ?_⟩
  have hcut : LineStart la.flatten (l ++ t) :=
    (lineStart_append_right hl _ _).mpr (hstart (by simp))
  rw [ha, List.append_assoc, lines_append hcut, hla, lines_append_of_no_break hbreak]

/-- **A line break ends the line that a text ends in**, or is a line of its own, unless a carriage
return before it may belong to it. -/
theorem lines_append_break {u : Text} (hu : u.getLast? ≠ some '\r') :
    ∃ la l, u = la.flatten ++ l ∧ ∀ w, lines w = [w] → lines (u ++ w) = la ++ [l ++ w] := by
  by_cases hbreaks : ∀ c ∈ u.getLast?, isLineBreak c = true
  · refine ⟨lines u, [], by simp, fun w hw => ?_⟩
    have hstart : LineStart u w := fun c hc => ⟨hbreaks c hc, fun heq => absurd (heq ▸ hc) hu⟩
    rw [lines_append hstart, hw, List.nil_append]
  · push Not at hbreaks
    obtain ⟨c, hc, hbreak⟩ := hbreaks
    have hne : u ≠ [] := by
      rintro rfl
      simp at hc
    obtain ⟨la, l, hlines, hjoined⟩ := lines_append_of_last hne fun d hd => by
      rw [Option.mem_unique hd hc]
      simpa using hbreak
    refine ⟨la, l, ?_, fun w hw => by rw [hjoined, hw, joinFirst_cons]⟩
    rw [← flatten_lines u, hlines]
    simp

/-- What follows a text on its last line, and the lines behind that. -/
theorem exists_joinFirst_lines {p : Text} (hp : p ≠ []) (t : Text) :
    ∃ q ls, joinFirst p (lines t) = (p ++ q) :: ls ∧ t = q ++ ls.flatten := by
  rcases h : lines t with _ | ⟨q, ls⟩
  · obtain ⟨c, p, rfl⟩ := List.exists_cons_of_ne_nil hp
    exact ⟨[], [], by simp, by simp [lines_eq_nil.mp h]⟩
  · exact ⟨q, ls, rfl, by rw [← flatten_lines t, h, List.flatten_cons]⟩

/-- The front of a line is a line by itself if it does not end with a line break. -/
theorem lines_of_append {p q : Text} (hne : p ≠ [])
    (hlast : ∀ c ∈ p.getLast?, isLineBreak c = false) (h : lines (p ++ q) = [p ++ q]) :
    lines p = [p] := by
  obtain ⟨la, l, hp, hjoined⟩ := lines_append_of_last hne hlast
  have hl : l ≠ [] := ne_nil_of_mem_lines (t := p) (by rw [hp]; simp)
  obtain ⟨u, ls, hjoin, -⟩ := exists_joinFirst_lines hl q
  have hpq := hjoined q
  rw [h, hjoin] at hpq
  obtain rfl : la = [] := by
    rcases la with _ | ⟨m, la⟩
    · rfl
    · simp at hpq
  rw [List.nil_append] at hp
  have hflat := flatten_lines p
  rw [hp, List.flatten_singleton] at hflat
  rw [hp, hflat]

/-! ### Lines that a stretch shares with the whole text -/

/-- **A line that begins in the middle of another is the end of that one.** A line feed is left out:
it may belong to a carriage return before it. -/
theorem lines_append_line {f : Text} (hf : lines f = [f]) (hhead : f.head? ≠ some '\n') (a : Text) :
    ∃ la p, lines (a ++ f) = la ++ [p ++ f] := by
  have hne : f ≠ [] := by
    rintro rfl
    simp at hf
  fun_induction eachLine a with
  | case1 => exact ⟨[], [], by simpa using hf⟩
  | case2 cs ih =>
    obtain ⟨la, p, h⟩ := ih
    exact ⟨['\r', '\n'] :: la, p, by simp [lines_crlf, h]⟩
  | case3 c cs hcr hc ih =>
    obtain ⟨la, p, h⟩ := ih
    have hcs : c = '\r' → (cs ++ f).head? ≠ some '\n' := by
      intro he
      rcases cs with _ | ⟨d, cs⟩
      · exact hhead
      · simpa using head?_ne_of_not_crlf hcr he
    exact ⟨[c] :: la, p, by rw [List.cons_append, lines_cons_of_break hc hcs, h, List.cons_append]⟩
  | case4 c cs hcr hc ih =>
    have hc' : isLineBreak c = false := by simpa using hc
    obtain ⟨la, p, h⟩ := ih
    rcases la with _ | ⟨l, la⟩
    · exact ⟨[], c :: p, by rw [List.cons_append, lines_cons_of_not_break hc', h]; rfl⟩
    · exact ⟨(c :: l) :: la, p, by rw [List.cons_append, lines_cons_of_not_break hc', h]; rfl⟩

/-- **A character behind a text that it does not follow as a line of its own belongs to its last
line.** -/
theorem lines_append_singleton {a : Text} {d : Char} (h : ¬LineStart a [d]) :
    ∃ la l, lines a = la ++ [l] ∧ lines (a ++ [d]) = la ++ [l ++ [d]] := by
  fun_induction eachLine a with
  | case1 => exact absurd (lineStart_nil _) h
  | case2 cs ih =>
    rcases eq_or_ne cs [] with rfl | hcs
    · exact absurd (lineStart_newline ['\r'] _) h
    · rw [show '\r' :: '\n' :: cs = ['\r', '\n'] ++ cs from rfl, lineStart_append_left hcs] at h
      obtain ⟨la, l, h1, h2⟩ := ih h
      exact ⟨['\r', '\n'] :: la, l, by simp [lines_crlf, h1], by simp [lines_crlf, h2]⟩
  | case3 c cs hcr hc ih =>
    rcases eq_or_ne cs [] with rfl | hcs
    · -- a carriage return takes over a line feed, and nothing else goes on behind a line break
      obtain ⟨rfl, rfl⟩ : c = '\r' ∧ d = '\n' := by
        by_contra hne
        exact h (lineStart_singleton.mpr ⟨hc, by simpa using hne⟩)
      exact ⟨[], ['\r'], rfl, rfl⟩
    · obtain ⟨la, l, h1, h2⟩ := ih fun hs => h ((lineStart_cons hcs _).mpr hs)
      have hhead := head?_ne_of_not_crlf hcr
      refine ⟨[c] :: la, l, by rw [lines_cons_of_break hc hhead, h1, List.cons_append], ?_⟩
      rw [List.cons_append, lines_cons_of_break hc, h2, List.cons_append]
      rwa [List.head?_append_of_ne_nil cs hcs]
  | case4 c cs hcr hc ih =>
    have hc' : isLineBreak c = false := by simpa using hc
    rcases eq_or_ne cs [] with rfl | hcs
    · refine ⟨[], [c], by simp, ?_⟩
      rw [List.singleton_append, lines_cons_of_not_break hc', lines_singleton]
      rfl
    · obtain ⟨la, l, h1, h2⟩ := ih fun hs => h ((lineStart_cons hcs _).mpr hs)
      rw [List.cons_append, lines_cons_of_not_break hc', lines_cons_of_not_break hc', h1, h2]
      rcases la with _ | ⟨m, la⟩
      · exact ⟨[], c :: l, rfl, rfl⟩
      · exact ⟨(c :: m) :: la, l, rfl, rfl⟩

/-- **A text behind a line** begins a line of its own, or the line takes over the line feed that it
begins with. -/
theorem lines_line_append {l t : Text} (hl : lines l = [l])
    (hlast : t ≠ [] → ∀ c ∈ l.getLast?, isLineBreak c = true) :
    lines (l ++ t) = l :: lines t ∨
      ∃ t', lines t = ['\n'] :: lines t' ∧ lines (l ++ t) = (l ++ ['\n']) :: lines t' := by
  rcases eq_or_ne t [] with rfl | hne
  · left
    rw [List.append_nil, hl, lines_nil]
  by_cases hstart : LineStart l t
  · left
    rw [lines_append hstart, hl, List.singleton_append]
  · right
    have hhead : t.head? = some '\n' := by
      by_contra hhead
      exact hstart (lineStart_of_head_ne (hlast hne) hhead)
    obtain ⟨t, rfl⟩ := List.head?_eq_some_iff.mp hhead
    have hjoins : ¬LineStart l ['\n'] := fun h => hstart fun c hc => by simpa using h c hc
    obtain ⟨la, l', hla, hjoined⟩ := lines_append_singleton hjoins
    rw [hl] at hla
    obtain ⟨rfl, rfl⟩ : la = [] ∧ l = l' := by
      rcases la with _ | ⟨m, la⟩
      · exact ⟨rfl, by simpa using hla⟩
      · simp at hla
    refine ⟨t, lines_cons_of_break (by decide) (by simp), ?_⟩
    rw [List.append_cons, lines_append (lineStart_newline l t), hjoined]
    rfl

/-- **A stretch of more than one line in a longer text.** Its inner lines are lines of that text,
its first line is the end of one and its last line the beginning of one. -/
theorem lines_within {t f g : Text} {mid : List Text} (h : lines t = f :: (mid ++ [g]))
    (hhead : t.head? ≠ some '\n') (hlast : ∀ c ∈ t.getLast?, isLineBreak c = false) (a b : Text) :
    ∃ la p q lb, lines (a ++ t ++ b) = la ++ (p ++ f) :: (mid ++ (g ++ q) :: lb) ∧
      la.flatten ++ p = a := by
  have ht : t = f ++ (mid.flatten ++ g) := by
    rw [← flatten_lines t, h]
    simp
  have hf : f ≠ [] := ne_nil_of_mem_lines (t := t) (by rw [h]; simp)
  have hg : g ≠ [] := ne_nil_of_mem_lines (t := t) (by rw [h]; simp)
  obtain ⟨hlf, hrest, hstart⟩ := lines_eq_cons h
  obtain ⟨hlmid, hlg, hstart'⟩ := lines_eq_append hrest
  rw [List.flatten_singleton] at hlg hstart'
  -- the last line has no line break, so what follows is on the same line
  have hbreak : ∀ c ∈ g, isLineBreak c = false := by
    refine no_break_of_lines_singleton hlg fun c hc => hlast c ?_
    rwa [ht, ← List.append_assoc, List.getLast?_append_of_ne_nil _ hg]
  obtain ⟨q, lb, hlb⟩ : ∃ q lb, lines (g ++ b) = (g ++ q) :: lb := by
    rw [lines_append_of_no_break hbreak]
    rcases lines b with _ | ⟨q, lb⟩
    · obtain ⟨c, g, rfl⟩ := List.exists_cons_of_ne_nil hg
      exact ⟨[], [], by simp⟩
    · exact ⟨q, lb, rfl⟩
  have hend : lines (mid.flatten ++ (g ++ b)) = mid ++ (g ++ q) :: lb := by
    rw [lines_append ((lineStart_append_right hg _ _).mpr (hstart' (by simp))), hlmid, hlb]
  -- the first line may be continued to the left
  have hhead' : f.head? ≠ some '\n' := by
    rwa [ht, List.head?_append_of_ne_nil f hf] at hhead
  obtain ⟨la, p, hla⟩ := lines_append_line hlf hhead' a
  have hcut : LineStart (a ++ f) (mid.flatten ++ (g ++ b)) := by
    rw [lineStart_append_left hf, ← List.append_assoc, lineStart_append_right (by simp [hg])]
    simpa using hstart (by simp)
  refine ⟨la, p, q, lb, ?_, ?_⟩
  · have hsplit : a ++ t ++ b = (a ++ f) ++ (mid.flatten ++ (g ++ b)) := by
      rw [ht]
      simp
    rw [hsplit, lines_append hcut, hla, hend]
    simp
  · have hflat := flatten_lines (a ++ f)
    rw [hla, List.flatten_append, List.flatten_singleton, ← List.append_assoc] at hflat
    exact List.append_cancel_right hflat

end SqlScript.Text
