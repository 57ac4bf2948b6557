import SqlScript.Proofs.Terminators

/-!
# What is left at the end of a statement

A statement is cleaned of the terminator at its end once: one slash is taken away, and before that
one semicolon if the statement is simple. So a second one is left behind, and a statement may end
with a slash, or with a semicolon though it is simple.

How far that goes is what this file says. A slash is left only where another terminator was taken
away behind it. A semicolon is left at the end of a simple statement only where another was taken
away behind it, and then both stand inside a literal that nothing closes: outside quotes every
semicolon of a simple stretch cuts it, whatever words open blocks
(`Script.quotedSemicolons_of_pieces_eq`).
-/

namespace SqlScript

open SqlScript.Text

/-- **Every semicolon of a text stands inside quotes.** -/
def QuotedSemicolons (t : Text) : Prop := ∀ x y, t = x ++ ';' :: y → outside x = false

theorem QuotedSemicolons.nil : QuotedSemicolons [] := by
  rintro x y h
  simp at h

/-- One character more, which is no semicolon or stands inside quotes. -/
theorem QuotedSemicolons.concat {t : Text} {c : Char} (h : QuotedSemicolons t)
    (hc : c = ';' → outside t = false) : QuotedSemicolons (t ++ [c]) := by
  intro x y hxy
  rcases List.eq_nil_or_concat y with rfl | ⟨y, d, rfl⟩
  · obtain ⟨rfl, hlast⟩ := List.append_inj' hxy rfl
    exact hc (List.cons.inj hlast).1
  · rw [List.concat_eq_append, ← List.cons_append, ← List.append_assoc] at hxy
    exact h x y (List.append_inj' hxy rfl).1

/-- **What a mode says about quotes** as long as no block is open: plain text is outside of them,
and no semicolon outside of them has been read. -/
def Mode.Tracks (mode : Mode) (before : Text) : Prop :=
  mode.kind = .simple → outside before = decide (mode = .plain) ∧ QuotedSemicolons before

namespace Script

/-- **Reading keeps track of quotes**, whatever words open blocks. -/
theorem invariant_tracks (openers : List Text) :
    Reader.Invariant openers fun mode before _ => mode.Tracks before where
  start _ := fun _ => ⟨rfl, .nil⟩
  step mode before c rest hcuts h := by
    intro hkind
    rcases mode with _ | _ | ⟨_ | owed, quoted⟩ | _
    · obtain ⟨hout, hsemi⟩ := h rfl
      have hc : c ≠ ';' := by simpa [Mode.cuts] using hcuts
      have hsemi' : QuotedSemicolons (before ++ [c]) := hsemi.concat fun heq => absurd heq hc
      rw [Mode.next] at hkind ⊢
      split_ifs at hkind ⊢ with hquote hletter
      · subst hquote
        exact ⟨by rw [outside_append_quote, hout]; rfl, hsemi'⟩
      · -- behind an opener the stretch is no simple one any more
        cases hopener : Word.opener? openers (c :: rest) with
        | some n => simp [hopener, Mode.kind] at hkind
        | none => exact ⟨by rw [outside_append_of_ne before hquote, hout], hsemi'⟩
      · exact ⟨by rw [outside_append_of_ne before hquote, hout], hsemi'⟩
    · obtain ⟨hout, hsemi⟩ := h rfl
      have hsemi' : QuotedSemicolons (before ++ [c]) := hsemi.concat fun _ => hout
      rw [Mode.next]
      split_ifs with hquote
      · subst hquote
        exact ⟨by rw [outside_append_quote, hout]; rfl, hsemi'⟩
      · exact ⟨by rw [outside_append_of_ne before hquote, hout]; rfl, hsemi'⟩
    · rw [Mode.next] at hkind
      split_ifs at hkind <;> simp [Mode.kind] at hkind
    · simp [Mode.next, Mode.kind] at hkind
    · have hc : c ≠ ';' := by simpa [Mode.cuts] using hcuts
      simp [Mode.next, hc, Mode.kind] at hkind
  endLine mode before _ _ h := by
    rcases mode with _ | _ | _ | _
    · exact h
    · exact h
    · exact fun hkind => absurd hkind (by simp [Mode.endLine, Mode.kind])
    · exact h

/-- **Every semicolon in the body of a simple piece stands inside quotes.** -/
theorem quotedSemicolons_of_pieces_eq {openers : List Text} {text : Text} {ps qs : List Piece}
    {p : Piece} (h : pieces openers text = ps ++ p :: qs) (hkind : p.kind = .simple) :
    QuotedSemicolons p.body := by
  have hcut := Reader.cutOff_of_pieces_eq (invariant_tracks openers) h
  generalize qs.flatMap Piece.span = rest at hcut
  cases hcut with
  | semicolon htracks => exact (htracks rfl).2
  | blockEnd => cases hkind
  | slash htracks => exact (htracks hkind).2
  | ending htracks => exact (htracks hkind).2

variable {dialect : Dialect} {script : Text} {s : Statement}

/-- What was cut away behind the text of a statement was cut away by cleaning. -/
theorem Origin.cleaned {before behind : List Piece} {p : Piece} {lead junk : Text}
    (h : Origin dialect script s before p behind lead junk) : Piece.Cleaned s.kind s.text junk := by
  obtain ⟨junk', hbody, hcleaned, -⟩ := p.exists_cleaned
  have hlead : p.body.takeWhile isBlank = lead := by
    obtain ⟨c, t, ht⟩ := List.exists_cons_of_ne_nil h.ne_nil
    have hc : isBlank c = false := h.tight.1 c (by rw [ht]; rfl)
    rw [h.body_eq, ht, List.append_assoc, List.takeWhile_append_of_pos h.lead_blank,
      List.cons_append, List.takeWhile_cons_of_neg (by simp [hc]), List.append_nil]
  rw [hlead, h.text_eq] at hbody
  rw [h.kind_eq, h.text_eq, List.append_cancel_left (hbody.symm.trans h.body_eq)] at hcleaned
  exact hcleaned

/-- **What is left at the end of a statement.** Behind a statement the source goes on with what
cleaning took away, in which there is one slash at the most, and one semicolon at the most if the
statement is simple. A statement ends with a slash only if a terminator was taken away behind it,
and a simple one with a semicolon only if another was taken away behind that, inside a literal. -/
theorem cleaned_of_mem_split (hs : s ∈ split dialect script) :
    ∃ before junk after, source dialect script = before ++ s.text ++ junk ++ after ∧
      s.offset = before.length ∧ Piece.Cleaned s.kind s.text junk ∧
      (s.kind = .simple → s.text.getLast? = some ';' → outside s.text = false) := by
  obtain ⟨before, p, behind, lead, junk, hp⟩ := exists_origin_of_mem hs
  refine ⟨before.flatMap Piece.span ++ lead, junk, p.mark ++ behind.flatMap Piece.span, ?_, ?_,
    hp.cleaned, fun hkind hlast => ?_⟩
  · rw [hp.source_eq]
    simp only [List.append_assoc]
  · rw [hp.offset_eq, List.length_append]
  · have hquoted := quotedSemicolons_of_pieces_eq hp.pieces_eq (hp.kind_eq.trans hkind)
    have htext := List.dropLast_append_getLast? ';' hlast
    have hinside := hquoted (lead ++ s.text.dropLast) junk (by
      rw [hp.body_eq, ← htext]
      simp)
    rw [outside_append_of_outside (outside_of_blank hp.lead_blank)] at hinside
    rw [← htext, outside_append_of_ne _ (by decide)]
    exact hinside

/-- Two semicolons at the end of a literal that nothing closes, and a slash behind them. -/
theorem cleaned_of_mem_split_literal :
    let s : Statement := ⟨"select 'a;".toList, .simple, 0⟩
    let script : Text := "select 'a;; /".toList
    s ∈ split {} script ∧
      ∃ before junk after, source {} script = before ++ s.text ++ junk ++ after ∧
        s.offset = before.length ∧ Piece.Cleaned s.kind s.text junk ∧
        (s.kind = .simple → s.text.getLast? = some ';' → outside s.text = false) := by
  intro s script
  have hs : s ∈ split {} script := by decide +kernel
  exact ⟨hs, cleaned_of_mem_split hs⟩

/-- **A terminator is left at the end of a statement** if there is more than one: of two slashes the
first, and the first of two semicolons in a literal that nothing closes. -/
theorem exists_leftover :
    (∃ s ∈ split {} "select 1 from dual //".toList, s.text.getLast? = some '/') ∧
      ∃ s ∈ split {} "select 'a;;".toList, s.kind = .simple ∧ s.text.getLast? = some ';' := by
  refine ⟨⟨⟨"select 1 from dual /".toList, .simple, 0⟩, ?_, rfl⟩,
    ⟨⟨"select 'a;".toList, .simple, 0⟩, ?_, rfl, rfl⟩⟩
  · decide +kernel
  · decide +kernel

end Script

end SqlScript
