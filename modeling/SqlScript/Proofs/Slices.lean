import SqlScript.Proofs.Reading
import SqlScript.Proofs.Trimming

/-!
# The statements are slices of the script

Nothing is lost, repeated or moved by splitting. The statements of a script are slices of its source
(`SlicedInto`): each stands at its offset, they follow one another without overlapping, and what is
between them is blank characters, semicolons and slashes. Nor are two statements cut apart without
need: behind each but the last there is a semicolon, or a line that holds only a slash, or else it
is a block that ends with its block end.

The spans of the pieces make up the source, and the text of a piece is a slice of its span, so all
of this is about one piece at a time. What has to be carried through reading is only that a reader
that is closing a block goes through a block end, whatever words open blocks.
-/

namespace SqlScript

open SqlScript.Text SqlScript.Word

/-! ### The statements of a list of pieces -/

namespace Piece

theorem statements_append (n : Nat) (ps qs : List Piece) :
    statements n (ps ++ qs) = statements n ps ++ statements (n + (ps.flatMap span).length) qs := by
  induction ps generalizing n with
  | nil => simp [statements]
  | cons p ps ih =>
    rw [List.cons_append, statements, statements, ih, List.append_assoc, List.flatMap_cons,
      List.length_append, Nat.add_assoc]

/-- What a piece becomes. -/
theorem statement?_eq_some {n : Nat} {p : Piece} {s : Statement} (h : p.statement? n = some s) :
    s.text = p.text ∧ s.kind = p.kind ∧ p.text ≠ [] ∧
      s.offset = ↑(n + (p.body.takeWhile isBlank).length) := by
  rw [statement?] at h
  split_ifs at h with hempty
  obtain rfl := Option.some.inj h
  exact ⟨rfl, rfl, by rwa [List.isEmpty_iff] at hempty, by simp⟩

/-- **A statement belongs to a piece**, and the statements before and after it to the pieces before
and after that. -/
theorem exists_of_statements_eq {n : Nat} {ps : List Piece} {ss ss' : List Statement}
    {s : Statement} (h : statements n ps = ss ++ s :: ss') :
    ∃ ps₁ p ps₂, ps = ps₁ ++ p :: ps₂ ∧
      p.statement? (n + (ps₁.flatMap span).length) = some s ∧
      statements (n + (ps₁.flatMap span).length + p.span.length) ps₂ = ss' := by
  induction ps generalizing n ss with
  | nil => simp [statements] at h
  | cons p ps ih =>
    -- a piece of which nothing is left has no statement, and the search goes on behind it
    rw [statements] at h
    rcases hs : p.statement? n with _ | s'
    · rw [hs, Option.toList_none, List.nil_append] at h
      obtain ⟨ps₁, q, ps₂, rfl, hq, hrest⟩ := ih h
      refine ⟨p :: ps₁, q, ps₂, rfl, ?_, ?_⟩ <;>
        rwa [List.flatMap_cons, List.length_append, ← Nat.add_assoc]
    · rw [hs, Option.toList_some, List.singleton_append] at h
      rcases ss with _ | ⟨t, ss⟩
      · rw [List.nil_append, List.cons.injEq] at h
        obtain ⟨rfl, rfl⟩ := h
        exact ⟨[], p, ps, rfl, by simpa using hs, by simp⟩
      · rw [List.cons_append, List.cons.injEq] at h
        obtain ⟨ps₁, q, ps₂, rfl, hq, hrest⟩ := ih h.2
        refine ⟨p :: ps₁, q, ps₂, rfl, ?_, ?_⟩ <;>
          rwa [List.flatMap_cons, List.length_append, ← Nat.add_assoc]

/-- Pieces that cover nothing hold no statement. -/
theorem statements_of_span {ps : List Piece} (h : ps.flatMap span = []) (n : Nat) :
    statements n ps = [] := by
  induction ps generalizing n with
  | nil => rfl
  | cons p ps ih =>
    rw [List.flatMap_cons, List.append_eq_nil_iff, span, List.append_eq_nil_iff] at h
    obtain ⟨⟨hbody, -⟩, hrest⟩ := h
    have htext : p.text = [] := by
      obtain ⟨junk, heq, -⟩ := p.exists_text
      rw [hbody, eq_comm, List.append_eq_nil_iff, List.append_eq_nil_iff] at heq
      exact heq.1.2
    rw [statements, ih hrest, statement?, htext]
    rfl

/-- **A block that ends with a block end keeps it.** -/
theorem exists_text_of_blockEnd {p : Piece} {u e : Text} (hkind : p.kind = .block)
    (hbody : p.body = u ++ e) (he : IsBlockEnd e) : ∃ u', p.text = u' ++ e := by
  have htight : Tight e := by
    refine ⟨fun c hc => ?_, fun c hc => ?_⟩
    · obtain ⟨d, hd, hdel⟩ := he.exists_head
      obtain rfl := Option.mem_unique hd hc
      exact isBlank_of_not_isDelimiter hdel
    · obtain rfl := Option.mem_unique he.getLast? hc
      decide
  have htrim : trim e = e := trim_eq_self htight
  obtain ⟨m, hm⟩ := exists_trim_append (by rw [htrim]; exact he.ne_nil) u
  refine ⟨m, ?_⟩
  have hlast : (m ++ e).getLast? ≠ some '/' := by
    rw [List.getLast?_append_of_ne_nil m he.ne_nil, he.getLast?]
    decide
  rw [text, hkind, hbody, hm, htrim]
  exact if_neg hlast

end Piece

/-! ### How pieces are parted -/

namespace Script

/-- What is carried through reading: a reader that is closing a block is inside a block end. -/
theorem invariant_inBlockEnd (openers : List Text) :
    Reader.Invariant openers fun mode before rest =>
      mode = .closing → ∃ u, Mode.InBlockEnd u before rest := by
  refine ⟨by simp, fun mode before c rest _ h hnext => ?_, fun mode before rest _ h hmode => ?_⟩
  · rcases Mode.next_eq_closing hnext with ⟨hmode, hc⟩ | ⟨-, -, -, hclose⟩
    · obtain ⟨u, hu⟩ := h hmode
      exact ⟨u, hu.step hc⟩
    · exact ⟨before, Mode.InBlockEnd.start hclose before⟩
  · cases mode with
    | closing => exact h rfl
    | _ => simp [Mode.endLine] at hmode

variable {openers : List Text} {text : Text} {ps qs : List Piece} {p : Piece}

/-- **What stands behind a piece**: a semicolon, a line that holds only a slash, or nothing, and
then the piece is a block that ends with its block end or the last of the script. -/
theorem mark_of_pieces_eq (h : pieces openers text = ps ++ p :: qs) :
    p.mark = [';'] ∨
      (Directive.isLoneSlash p.mark = true ∧ ∃ la lb, lines text = la ++ p.mark :: lb ∧
        la.flatten = ps.flatMap Piece.span ++ p.body) ∨
      (p.mark = [] ∧ p.kind = .block ∧ ∃ u e, p.body = u ++ e ∧ IsBlockEnd e) ∨
      (p.mark = [] ∧ qs.flatMap Piece.span = []) := by
  have hcut := Reader.cutOff_of_pieces_eq (invariant_inBlockEnd openers) h
  generalize qs.flatMap Piece.span = rest at hcut ⊢
  cases hcut with
  | semicolon => exact Or.inl rfl
  | blockEnd hclose =>
    obtain ⟨u, hu⟩ := hclose rfl
    obtain ⟨e, hbody, he⟩ := hu.finish
    exact Or.inr (Or.inr (Or.inl ⟨rfl, rfl, u, e, hbody, he⟩))
  | slash _ hline hlines hbefore => exact Or.inr (Or.inl ⟨hline, _, _, hlines, hbefore⟩)
  | ending => exact Or.inr (Or.inr (Or.inr ⟨rfl, rfl⟩))

theorem isSeparator_of_mem_mark (h : pieces openers text = ps ++ p :: qs) :
    ∀ c ∈ p.mark, isSeparator c = true := by
  intro c hc
  rcases mark_of_pieces_eq h with hmark | ⟨hslash, -⟩ | ⟨hmark, -⟩ | ⟨hmark, -⟩
  · rw [hmark, List.mem_singleton] at hc
    rw [hc]
    rfl
  · exact Directive.isSeparator_of_isLoneSlash hslash c hc
  · simp [hmark] at hc
  · simp [hmark] at hc

end Script

/-! ### Slices -/

/-- Where a statement ends. -/
def Statement.stop (s : Statement) : Int := s.offset + s.text.length

/-- **What parts a statement from the next one**: a semicolon or a line that holds only a slash
between the two, or else the first is a block that ends with its block end. -/
def Parted (text : Text) (s s' : Statement) : Prop :=
  (∃ i : Nat, s.stop ≤ i ∧ (i : Int) < s'.offset ∧ text[i]? = some ';') ∨
    (∃ la line lb, lines text = la ++ line :: lb ∧ Directive.isLoneSlash line = true ∧
      s.stop ≤ la.flatten.length ∧ ((la.flatten.length + line.length : Nat) : Int) ≤ s'.offset) ∨
    (s.kind = .block ∧ ∃ u e, s.text = u ++ e ∧ IsBlockEnd e)

/-- **The statements are slices of the text**, and nothing but separators is between them. -/
structure SlicedInto (text : Text) (statements : List Statement) : Prop where
  /-- Each statement stands in the text at its offset. -/
  slice : ∀ s ∈ statements, ∃ before after, text = before ++ s.text ++ after ∧
    s.offset = before.length
  /-- No statement is empty. -/
  nonempty : ∀ s ∈ statements, s.text ≠ []
  /-- No statement begins or ends with a blank character. -/
  tight : ∀ s ∈ statements, Tight s.text
  /-- A statement ends before the next one begins. -/
  ordered : ∀ ss s s' ss', statements = ss ++ s :: s' :: ss' → s.stop ≤ s'.offset
  /-- Every character outside the statements is a separator. -/
  between : ∀ (i : Nat) c, text[i]? = some c →
    (∀ s ∈ statements, (i : Int) < s.offset ∨ s.stop ≤ i) → isSeparator c = true
  /-- Two statements in a row are parted. -/
  parted : ∀ ss s s' ss', statements = ss ++ s :: s' :: ss' → Parted text s s'

namespace Piece

/-- The characters of a piece that do not belong to its statement. -/
theorem isSeparator_of_getElem? {n i : Nat} {c : Char} {p : Piece}
    (hmark : ∀ c ∈ p.mark, isSeparator c = true) (hc : p.span[i]? = some c)
    (hout : ∀ s ∈ p.statement? n, ((n + i : Nat) : Int) < s.offset ∨ s.stop ≤ (n + i : Nat)) :
    isSeparator c = true := by
  obtain ⟨junk, hbody, hjunk, -⟩ := p.exists_text
  have hlead : ∀ c ∈ p.body.takeWhile isBlank, isSeparator c = true := fun c hc =>
    isSeparator_of_isBlank (isBlank_of_mem_takeWhile c hc)
  have hspan : p.span = p.body.takeWhile isBlank ++ (p.text ++ (junk ++ p.mark)) := by
    rw [span]
    conv_lhs => rw [hbody]
    simp
  rw [hspan, List.getElem?_append] at hc
  split_ifs at hc with h1
  · exact hlead c (List.mem_of_getElem? hc)
  rw [List.getElem?_append] at hc
  split_ifs at hc with h2
  · -- a place inside the text is inside the statement
    exfalso
    have hne : p.text.isEmpty = false := by
      rw [List.isEmpty_eq_false_iff]
      rintro hnil
      simp [hnil] at h2
    have hs := hout ⟨p.text, p.kind, n + (p.body.takeWhile isBlank).length⟩ (by
      rw [statement?, hne]
      rfl)
    simp only [Statement.stop] at hs
    omega
  · rcases List.mem_append.mp (List.mem_of_getElem? hc) with hc | hc
    · exact hjunk c hc
    · exact hmark c hc

/-- **Outside the statements of a list of pieces there are separators only.** -/
theorem isSeparator_between {n i : Nat} {c : Char} {ps : List Piece}
    (hmark : ∀ p ∈ ps, ∀ c ∈ p.mark, isSeparator c = true)
    (hc : (ps.flatMap span)[i]? = some c)
    (hout : ∀ s ∈ statements n ps, ((n + i : Nat) : Int) < s.offset ∨ s.stop ≤ (n + i : Nat)) :
    isSeparator c = true := by
  induction ps generalizing n i with
  | nil => simp at hc
  | cons p ps ih =>
    rw [List.flatMap_cons, List.getElem?_append] at hc
    rw [statements] at hout
    split_ifs at hc with hi
    · refine isSeparator_of_getElem? (n := n) (hmark p List.mem_cons_self) hc fun s hs => ?_
      exact hout s (List.mem_append_left _ (Option.mem_toList.mpr hs))
    · refine ih (n := n + p.span.length) (fun q hq => hmark q (List.mem_cons_of_mem _ hq)) hc
        fun s hs => ?_
      have := hout s (List.mem_append_right _ hs)
      rwa [show n + i = n + p.span.length + (i - p.span.length) by omega] at this

end Piece

namespace Script

/-- **Where a statement comes from**: a piece of the source, of whose body it is what stands between
blank characters and what was cut away by cleaning. -/
structure Origin (dialect : Dialect) (script : Text) (s : Statement) (before : List Piece)
    (p : Piece) (behind : List Piece) (lead junk : Text) : Prop where
  /-- The piece is one of the source. -/
  pieces_eq : pieces dialect.openers (source dialect script) = before ++ p :: behind
  /-- The statement is of its kind. -/
  kind_eq : p.kind = s.kind
  /-- The statement is what it is cleaned to. -/
  text_eq : p.text = s.text
  /-- Something is left of it. -/
  ne_nil : s.text ≠ []
  /-- No blank character is left at its ends. -/
  tight : Tight s.text
  /-- The body of the piece. -/
  body_eq : p.body = lead ++ s.text ++ junk
  /-- What stands before the statement is blank. -/
  lead_blank : ∀ c ∈ lead, isBlank c = true
  /-- What stands behind it are separators. -/
  junk_separator : ∀ c ∈ junk, isSeparator c = true
  /-- The offset counts what stands before it. -/
  offset_eq : s.offset = ((before.flatMap Piece.span).length + lead.length : Nat)

variable {dialect : Dialect} {script : Text}

/-- Every statement comes from a piece, and those behind it from the pieces behind that. -/
theorem exists_origin {ss ss' : List Statement} {s : Statement}
    (h : split dialect script = ss ++ s :: ss') :
    ∃ before p behind lead junk, Origin dialect script s before p behind lead junk ∧
      Piece.statements ((before.flatMap Piece.span).length + p.span.length) behind = ss' := by
  obtain ⟨before, p, behind, hpieces, hs, hrest⟩ := Piece.exists_of_statements_eq h
  rw [Nat.zero_add] at hs hrest
  obtain ⟨htext, hkind, hne, hoffset⟩ := Piece.statement?_eq_some hs
  obtain ⟨junk, hbody, hjunk, htight⟩ := p.exists_text
  rw [← htext] at hbody hne htight
  exact ⟨before, p, behind, _, junk, ⟨hpieces, hkind.symm, htext.symm, hne, htight, hbody,
    isBlank_of_mem_takeWhile, hjunk, hoffset⟩, hrest⟩

theorem exists_origin_of_mem {s : Statement} (hs : s ∈ split dialect script) :
    ∃ before p behind lead junk, Origin dialect script s before p behind lead junk := by
  obtain ⟨ss, ss', h⟩ := List.append_of_mem hs
  obtain ⟨before, p, behind, lead, junk, hp, -⟩ := exists_origin h
  exact ⟨before, p, behind, lead, junk, hp⟩

/-- A statement is not empty, and no blank character stands at its ends. -/
theorem tight_of_mem_split {s : Statement} (hs : s ∈ split dialect script) :
    s.text ≠ [] ∧ Tight s.text := by
  obtain ⟨before, p, behind, lead, junk, hp⟩ := exists_origin_of_mem hs
  exact ⟨hp.ne_nil, hp.tight⟩

/-- **The source around a statement.** -/
theorem Origin.source_eq {s : Statement} {before behind : List Piece} {p : Piece} {lead junk : Text}
    (h : Origin dialect script s before p behind lead junk) :
    source dialect script = before.flatMap Piece.span ++ lead ++ s.text ++
      (junk ++ (p.mark ++ behind.flatMap Piece.span)) := by
  rw [← span_pieces dialect.openers (source dialect script), h.pieces_eq, List.flatMap_append,
    List.flatMap_cons, Piece.span, h.body_eq]
  simp only [List.append_assoc]

/-- **Two statements in a row are parted**, and the first ends before the second begins. -/
theorem parted_of_split {ss ss' : List Statement} {s s' : Statement}
    (h : split dialect script = ss ++ s :: s' :: ss') :
    s.stop ≤ s'.offset ∧ Parted (source dialect script) s s' := by
  obtain ⟨before, p, behind, lead, junk, hp, hrest⟩ := exists_origin h
  obtain ⟨between, p', after, rfl, hs', -⟩ :=
    Piece.exists_of_statements_eq (hrest.trans (List.nil_append _).symm)
  obtain ⟨-, -, hne', hoffset'⟩ := Piece.statement?_eq_some hs'
  have hlen : p.body.length = lead.length + s.text.length + junk.length := by
    rw [hp.body_eq, List.length_append, List.length_append]
  have hspan : p.span.length = p.body.length + p.mark.length := by simp [Piece.span]
  have hbefore : s.stop ≤ ((before.flatMap Piece.span).length + p.body.length : Nat) := by
    rw [Statement.stop, hp.offset_eq]
    omega
  have hbehind : (((before.flatMap Piece.span).length + p.span.length : Nat) : Int) ≤
      s'.offset := by
    rw [hoffset']
    omega
  refine ⟨by omega, ?_⟩
  -- the mark lies between the two, unless the piece ends with its block end
  rcases mark_of_pieces_eq hp.pieces_eq with hmark | ⟨hslash, la, lb, hlines, hla⟩ |
    ⟨-, hblock, u, e, hu, he⟩ | ⟨-, hend⟩
  · refine Or.inl ⟨(before.flatMap Piece.span).length + p.body.length, hbefore, ?_, ?_⟩
    · have : p.mark.length = 1 := by rw [hmark]; rfl
      omega
    · have hsource : source dialect script = (before.flatMap Piece.span ++ p.body) ++
          (';' :: (between ++ p' :: after).flatMap Piece.span) := by
        rw [hp.source_eq, hp.body_eq, hmark]
        simp
      rw [hsource, List.getElem?_append_right (by simp), List.length_append, Nat.sub_self]
      rfl
  · refine Or.inr (Or.inl ⟨la, p.mark, lb, hlines, hslash, ?_, ?_⟩)
    · rwa [hla, List.length_append]
    · rw [hla, List.length_append]
      omega
  · obtain ⟨u', hu'⟩ := Piece.exists_text_of_blockEnd hblock hu he
    exact Or.inr (Or.inr ⟨hp.kind_eq ▸ hblock, u', e, hp.text_eq ▸ hu', he⟩)
  · -- nothing is left behind the last piece
    exfalso
    obtain ⟨junk', hbody', -⟩ := p'.exists_text
    simp only [List.flatMap_append, List.flatMap_cons, List.append_eq_nil_iff, Piece.span] at hend
    rw [hend.2.1.1] at hbody'
    simp [hne'] at hbody'

/-- **Splitting loses nothing, repeats nothing and moves nothing**: the statements of a script are
slices of the script without its directive lines. -/
theorem split_slicedInto (dialect : Dialect) (script : Text) :
    SlicedInto (source dialect script) (split dialect script) where
  slice s hs := by
    obtain ⟨before, p, behind, lead, junk, hp⟩ := exists_origin_of_mem hs
    exact ⟨_, _, hp.source_eq, by rw [hp.offset_eq, List.length_append]⟩
  nonempty s hs := (tight_of_mem_split hs).1
  tight s hs := (tight_of_mem_split hs).2
  ordered ss s s' ss' h := (parted_of_split h).1
  between i c hc hout := by
    rw [← span_pieces dialect.openers (source dialect script)] at hc
    refine Piece.isSeparator_between (n := 0) (fun p hp => ?_) hc fun s hs => ?_
    · obtain ⟨ps, qs, hps⟩ := List.append_of_mem hp
      exact isSeparator_of_mem_mark hps
    · rw [Nat.zero_add]
      exact hout s hs
  parted ss s s' ss' h := (parted_of_split h).2

end Script

end SqlScript
