import SqlScript.Proofs.Lines
import SqlScript.Proofs.Trimming

/-!
# Carriage returns

Where every carriage return of a text is directly followed by a line feed (`Text.ReturnsPaired`),
writing its line breaks as line feeds is the same as leaving its carriage returns out
(`Text.unifyBreaks_eq_dropReturns`, `Text.shortBreaks_eq_dropReturns`). The latter is the easier one
to reason about: it goes through the text one character at a time, and since a carriage return is
blank, it does not matter whether a text is trimmed or cleaned before it or after it
(`Text.dropReturns_trim`, `Piece.dropReturns_text`).
-/

namespace SqlScript.Text

/-- The text with every line break of the form CR LF written as LF. -/
def shortBreaks : Text → Text
  | [] => []
  | '\r' :: '\n' :: cs => '\n' :: shortBreaks cs
  | c :: cs => c :: shortBreaks cs

/-- The text without its carriage returns. -/
def dropReturns (t : Text) : Text := t.filter (· ≠ '\r')

@[simp] theorem dropReturns_nil : dropReturns [] = [] := rfl

@[simp] theorem dropReturns_return (t : Text) : dropReturns ('\r' :: t) = dropReturns t := rfl

theorem dropReturns_cons {c : Char} (hc : c ≠ '\r') (t : Text) :
    dropReturns (c :: t) = c :: dropReturns t :=
  List.filter_cons_of_pos (by simpa using hc)

@[simp] theorem dropReturns_append (t u : Text) :
    dropReturns (t ++ u) = dropReturns t ++ dropReturns u :=
  List.filter_append t u

theorem dropReturns_of_not_mem {t : Text} (ht : '\r' ∉ t) : dropReturns t = t := by
  refine List.filter_eq_self.mpr fun c hc => ?_
  rw [decide_eq_true_eq]
  rintro rfl
  exact ht hc

theorem not_mem_dropReturns (t : Text) : '\r' ∉ dropReturns t := by
  intro h
  simpa using (List.mem_filter.mp h).2

/-! ### Paired carriage returns -/

/-- **Every carriage return is directly followed by a line feed.** -/
def ReturnsPaired (t : Text) : Prop := ∀ u v, t = u ++ '\r' :: v → v.head? = some '\n'

theorem returnsPaired_nil : ReturnsPaired [] := by
  rintro u v h
  simp at h

theorem returnsPaired_cons {c : Char} {t : Text} :
    ReturnsPaired (c :: t) ↔ (c = '\r' → t.head? = some '\n') ∧ ReturnsPaired t := by
  constructor
  · intro h
    refine ⟨?_, fun u v hv => h (c :: u) v (by rw [hv]; rfl)⟩
    rintro rfl
    exact h [] t rfl
  · rintro ⟨hc, ht⟩ u v h
    rcases u with _ | ⟨d, u⟩
    · obtain ⟨rfl, rfl⟩ := List.cons.inj h
      exact hc rfl
    · exact ht u v (List.cons.inj h).2

instance decidableReturnsPaired : DecidablePred ReturnsPaired
  | [] => isTrue returnsPaired_nil
  | c :: t =>
    haveI := decidableReturnsPaired t
    decidable_of_iff ((c = '\r' → t.head? = some '\n') ∧ ReturnsPaired t) returnsPaired_cons.symm

theorem ReturnsPaired.append {a b : Text} (ha : ReturnsPaired a) (hb : ReturnsPaired b) :
    ReturnsPaired (a ++ b) := by
  induction a with
  | nil => exact hb
  | cons c a ih =>
    obtain ⟨hc, ha⟩ := returnsPaired_cons.mp ha
    refine returnsPaired_cons.mpr ⟨fun h => ?_, ih ha⟩
    change (a ++ b).head? = some '\n'
    rw [List.head?_append, hc h, Option.some_or]

theorem ReturnsPaired.flatten {ls : List Text} (h : ∀ l ∈ ls, ReturnsPaired l) :
    ReturnsPaired ls.flatten := by
  induction ls with
  | nil => exact returnsPaired_nil
  | cons l ls ih =>
    obtain ⟨hl, hls⟩ := List.forall_mem_cons.mp h
    exact hl.append (ih hls)

/-- A stretch of the text, unless it is cut off between a carriage return and its line feed. -/
theorem ReturnsPaired.of_append {a t b : Text} (h : ReturnsPaired (a ++ t ++ b))
    (hlast : '\r' ∈ t.getLast? → b.head? ≠ some '\n') : ReturnsPaired t := by
  rintro u v rfl
  have hnext : (v ++ b).head? = some '\n' := h (a ++ u) (v ++ b) (by simp)
  -- a carriage return at the end of the stretch would have its line feed behind the stretch
  rcases eq_or_ne v [] with rfl | hv
  · exact absurd hnext (hlast (by simp))
  · rwa [List.head?_append_of_ne_nil v hv] at hnext

/-- No line ends between the two. -/
theorem ReturnsPaired.of_mem_lines {t l : Text} (h : ReturnsPaired t) (hl : l ∈ lines t) :
    ReturnsPaired l := by
  obtain ⟨la, lb, hlines⟩ := List.append_of_mem hl
  rw [← flatten_lines t, hlines, List.flatten_append, List.flatten_cons, ← List.append_assoc] at h
  refine h.of_append fun hlast => ?_
  rcases eq_or_ne lb [] with rfl | hlb
  · simp
  · exact ((lines_eq_cons (lines_eq_append hlines).2.1).2.2 hlb _ hlast).2 rfl

/-- A carriage return in front of anything but a line feed is not paired. -/
theorem ReturnsPaired.ne_return {c : Char} {t : Text} (h : ReturnsPaired (c :: t))
    (hcrlf : ∀ cs, c = '\r' → t = '\n' :: cs → False) : c ≠ '\r' := by
  intro hc
  obtain ⟨cs, ht⟩ := List.head?_eq_some_iff.mp ((returnsPaired_cons.mp h).1 hc)
  exact hcrlf cs hc ht

/-- **Writing paired carriage returns as line feeds leaves them out.** -/
theorem unifyBreaks_eq_dropReturns {t : Text} (h : ReturnsPaired t) :
    unifyBreaks t = dropReturns t := by
  fun_induction unifyBreaks t with
  | case1 => rfl
  | case2 cs ih =>
    rw [ih (returnsPaired_cons.mp (returnsPaired_cons.mp h).2).2, dropReturns_return,
      dropReturns_cons (by decide)]
  | case3 c cs hcrlf ih =>
    have hne : c ≠ '\r' := h.ne_return hcrlf
    rw [if_neg hne, ih (returnsPaired_cons.mp h).2, dropReturns_cons hne]

theorem shortBreaks_eq_dropReturns {t : Text} (h : ReturnsPaired t) :
    shortBreaks t = dropReturns t := by
  fun_induction shortBreaks t with
  | case1 => rfl
  | case2 cs ih =>
    rw [ih (returnsPaired_cons.mp (returnsPaired_cons.mp h).2).2, dropReturns_return,
      dropReturns_cons (by decide)]
  | case3 c cs hcrlf ih =>
    have hne : c ≠ '\r' := h.ne_return hcrlf
    rw [ih (returnsPaired_cons.mp h).2, dropReturns_cons hne]

/-! ### Trimming -/

theorem isBlank_return : isBlank '\r' = true := by decide

theorem dropReturns_dropWhile (t : Text) :
    dropReturns (t.dropWhile isBlank) = (dropReturns t).dropWhile isBlank := by
  induction t with
  | nil => rfl
  | cons c t ih =>
    cases hc : isBlank c with
    | true =>
      rw [List.dropWhile_cons_of_pos hc, ih]
      rcases eq_or_ne c '\r' with rfl | hne
      · rw [dropReturns_return]
      · rw [dropReturns_cons hne, List.dropWhile_cons_of_pos hc]
    | false =>
      have hne : c ≠ '\r' := by
        rintro rfl
        rw [isBlank_return] at hc
        exact Bool.false_ne_true hc.symm
      rw [List.dropWhile_cons_of_neg (by simp [hc]), dropReturns_cons hne,
        List.dropWhile_cons_of_neg (by simp [hc])]

theorem dropReturns_trimEnd (t : Text) : dropReturns (trimEnd t) = trimEnd (dropReturns t) := by
  have h := dropReturns_dropWhile t.reverse
  rw [dropReturns, dropReturns, List.filter_reverse] at h
  rw [trimEnd, trimEnd, dropReturns, dropReturns, List.filter_reverse, h]

/-- **It does not matter whether a text is trimmed with its carriage returns or without them.** -/
theorem dropReturns_trim (t : Text) : dropReturns (trim t) = trim (dropReturns t) := by
  rw [trim, trim, dropReturns_trimEnd, dropReturns_dropWhile]

/-- Something is left of a tight text without its carriage returns. -/
theorem dropReturns_eq_nil {t : Text} (ht : Tight t) : dropReturns t = [] ↔ t = [] := by
  refine ⟨fun h => ?_, fun h => by rw [h, dropReturns_nil]⟩
  rcases t with _ | ⟨c, t⟩
  · rfl
  · exfalso
    have hne : c ≠ '\r' := by
      rintro rfl
      exact absurd (ht.1 _ rfl) (by decide)
    rw [dropReturns_cons hne] at h
    exact List.cons_ne_nil _ _ h

end SqlScript.Text

namespace SqlScript.Piece

open SqlScript.Text

/-- A mark at the end is dropped with the carriage returns before it or without them. -/
theorem dropReturns_dropMark (mark : Char) {t : Text} (ht : t.getLast? ≠ some '\r') :
    dropReturns (dropMark mark t) = dropMark mark (dropReturns t) := by
  rcases List.eq_nil_or_concat t with rfl | ⟨init, c, rfl⟩
  · rfl
  · have hc : c ≠ '\r' := by
      rintro rfl
      simp at ht
    have hlast : dropReturns (init.concat c) = dropReturns init ++ [c] := by
      rw [List.concat_eq_append, dropReturns_append, dropReturns_cons hc, dropReturns_nil]
    rw [hlast, dropMark, dropMark, List.concat_eq_append, List.getLast?_concat,
      List.getLast?_concat, List.dropLast_concat, List.dropLast_concat]
    split_ifs
    · exact dropReturns_trimEnd init
    · rw [← List.concat_eq_append, hlast]

/-- **The text of a piece without its carriage returns** is that of the piece without them. -/
theorem dropReturns_text (kind : Kind) (body mark : Text) :
    dropReturns (text ⟨kind, body, mark⟩) = text ⟨kind, dropReturns body, mark⟩ := by
  have hlast : ∀ {t : Text}, Tight t → t.getLast? ≠ some '\r' := fun ht h =>
    absurd (ht.2 _ h) (by decide)
  have htight : Tight (trim body) := tight_trim body
  have hbare : dropReturns (dropMark '/' (trim body)) = dropMark '/' (trim (dropReturns body)) := by
    rw [dropReturns_dropMark '/' (hlast htight), dropReturns_trim]
  rw [text, text]
  cases kind with
  | block => exact hbare
  | simple =>
    have htight' := tight_dropMark '/' htight
    exact (dropReturns_dropMark ';' (hlast htight')).trans (congrArg (dropMark ';') hbare)

end SqlScript.Piece
