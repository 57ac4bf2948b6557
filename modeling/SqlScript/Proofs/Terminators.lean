import SqlScript.Proofs.Shape
import SqlScript.Proofs.Slices

/-!
# What a statement holds

A statement holds no terminator but the one it ends with. What the reader knew of the stretch when
it was cut off, its mode and what that stands for, becomes a property of the text of the statement
(`Shape`), in which quotes are counted from the beginning of that text and openers are looked for in
it alone. Between the two lie the cut and the cleaning: the blank characters before the text hold no
quote and end no name, and behind it there is a delimiter or nothing, so no opener goes over its end
(`Shape.within`).

That no line inside a statement holds only a slash is not a matter of modes. Every such line is the
mark of a piece, and marks lie between the bodies of pieces
(`Script.isLoneSlash_eq_false_of_inside`).
-/

namespace SqlScript

open SqlScript.Text SqlScript.Word

/-! ### The shape of a stretch -/

/-- **The shape of a stretch of text** of either kind, when `rest` stands behind it. -/
inductive Shape (openers : List Text) (rest : Text) : Kind → Text → Prop
  /-- Nothing in it counts. -/
  | simple {t : Text} (hquiet : UpTo (Quiet openers) t.length (t ++ rest)) :
    Shape openers rest .simple t
  /-- It has a first opener, and a block end behind that is the end of the stretch. -/
  | block {t u v : Text} {n : Nat} (hwhole : t ++ rest = u ++ v)
    (hfirst : FirstOpener openers u v n) (hlow : u.length < t.length)
    (hclosed : ∀ x e z, t = x ++ e ++ z → u.length + n ≤ x.length → outside x = true →
      endsName x = false → IsBlockEnd e → z = []) :
    Shape openers rest .block t

/-- A block end inside a block end ends where it does. -/
theorem Word.IsBlockEnd.eq_nil {w e z : Text} (h : IsBlockEnd (w ++ e ++ z)) (he : IsBlockEnd e) :
    z = [] := by
  obtain ⟨init, heq, -, hinit⟩ := h.eq_append
  obtain ⟨init', rfl, -⟩ := he.eq_append
  rcases List.eq_nil_or_concat z with rfl | ⟨z, d, rfl⟩
  · rfl
  · exfalso
    rw [List.concat_eq_append, ← List.append_assoc] at heq
    have hmem : ';' ∈ init := by
      rw [← (List.append_inj' heq rfl).1]
      simp
    exact (hinit _ hmem).1 rfl

/-- **Where no block is closed no block end begins**, outside quotes and not behind a name. -/
theorem UpTo.not_isBlockEnd {n k : Nat} {text x e z : Text} (h : UpTo (Unclosed n) k text)
    (htext : text = x ++ e ++ z) (hn : n ≤ x.length) (hk : x.length < k)
    (hout : outside x = true) (hname : endsName x = false) : ¬IsBlockEnd e := by
  intro he
  rw [List.append_assoc] at htext
  have hopen := h x (e ++ z) htext hk hn hout hname
  rw [closesBlock_iff.mpr ⟨e, z, rfl, he⟩] at hopen
  exact Bool.false_ne_true hopen.symm

namespace Mode

/-- No line ends inside a block end, and neither does the text. -/
theorem InBlockEnd.not_endLine {x before rest : Text} (h : InBlockEnd x before rest) :
    ¬(rest = [] ∨ ∀ c ∈ before.getLast?, isLineBreak c = true) := by
  obtain ⟨v, w, rest', rfl, rfl, hv, hw, he⟩ := h
  obtain ⟨init, heq, -, hinit⟩ := he.eq_append
  rintro (hnil | hbreak)
  · exact hw (List.append_eq_nil_iff.mp hnil).1
  · have hlast := List.getLast?_eq_some_getLast hv
    have hmem : v.getLast hv ∈ init := by
      obtain ⟨w', d, rfl⟩ : ∃ w' d, w = w' ++ [d] := by
        rcases List.eq_nil_or_concat w with rfl | ⟨w', d, rfl⟩
        · exact absurd rfl hw
        · exact ⟨w', d, List.concat_eq_append⟩
      rw [← List.append_assoc] at heq
      rw [← (List.append_inj' heq rfl).1]
      exact List.mem_append_left _ (List.getLast_mem hv)
    have hb := hbreak _ (by rw [List.getLast?_append_of_ne_nil x hv]; exact hlast)
    rw [(hinit _ hmem).2.2.2] at hb
    exact Bool.false_ne_true hb

end Mode

namespace Shape

variable {openers : List Text}

/-- **The shape of a stretch that is cut off at a line or where the script ends.** -/
theorem of_standing (hopeners : Named openers) {mode : Mode} {body rest : Text}
    (h : Standing openers mode body rest)
    (hcut : rest = [] ∨ ∀ c ∈ body.getLast?, isLineBreak c = true) :
    Shape openers rest mode.kind body := by
  cases h with
  | plain hout hquiet => exact .simple hquiet
  | literal hout hquiet => exact .simple hquiet
  | opening hwhole hfirst hout hlow howed =>
    -- the opener goes to the end of the stretch and beyond
    refine .block hwhole hfirst hlow fun x e z hbody hx _ _ he => ?_
    rw [hbody] at howed
    simp only [List.length_append] at howed
    omega
  | @block n quoted _ _ u v hwhole hfirst hout hlow hopen =>
    obtain ⟨hpos, -, -⟩ := hfirst.front hopeners
    refine .block hwhole hfirst (by omega) fun x e z hbody hx hout' hname he => ?_
    have hshort : x.length < body.length := by
      rw [hbody, List.append_assoc, List.length_append, List.length_append]
      have := List.length_pos_of_ne_nil he.ne_nil
      omega
    have hwhole' : body ++ rest = x ++ e ++ (z ++ rest) := by
      rw [hbody]
      simp
    exact absurd he (hopen.not_isBlockEnd hwhole' hx hshort hout' hname)
  | closing hwhole hfirst hend => exact absurd hcut hend.not_endLine

/-- **The shape of a stretch that ends with its block end.** -/
theorem of_closing {body rest : Text} (h : Standing openers .closing body (';' :: rest)) :
    Shape openers rest .block (body ++ [';']) := by
  cases h with
  | @closing n _ _ u v x hwhole hfirst hend hout hname hlow hopen =>
    obtain ⟨e, hbody, he⟩ := hend.finish
    have hlen : x.length < (body ++ [';']).length := by
      rw [hbody, List.length_append]
      have := List.length_pos_of_ne_nil he.ne_nil
      omega
    refine .block (by simpa using hwhole) hfirst (by omega) ?_
    intro x' e' z hbody' hx hout' hname' he'
    rcases lt_or_ge x'.length x.length with hlt | hge
    · -- no block end is read before the one that closes the block
      have hwhole' : body ++ ';' :: rest = x' ++ e' ++ (z ++ rest) := by
        rw [List.append_cons, hbody']
        simp
      exact absurd he' (hopen.not_isBlockEnd hwhole' hx hlt hout' hname')
    · rw [hbody, List.append_assoc] at hbody'
      obtain ⟨w, -, heq⟩ := exists_between hbody'.symm hge
      rw [heq, ← List.append_assoc] at he
      exact he.eq_nil he'

end Shape

/-! ### From the stretch to the text -/

section Within

variable {openers : List Text}

theorem opens_append (hopeners : Named openers) {lead x y trail : Text}
    (hname : endsName lead = false) (hy : y ≠ []) (hcut : Apart y trail) :
    opens openers (lead ++ x) (y ++ trail) = opens openers x y := by
  rw [opens, opens, endsName_append_of_not hname, List.head?_append_of_ne_nil y hy,
    opener?_append hopeners hcut]

/-- What is quiet in a longer text is quiet in a stretch of it. -/
theorem UpTo.quiet_within (hopeners : Named openers) {lead t trail : Text}
    (hlead : outside lead = true) (hname : endsName lead = false) (hcut : Apart t trail) {j : Nat}
    (hj : j ≤ t.length)
    (h : UpTo (Quiet openers) (lead.length + j) (lead ++ t ++ trail)) :
    UpTo (Quiet openers) j t := by
  rintro x y rfl hx hout
  have hy : y ≠ [] := by
    rintro rfl
    simp at hj
    omega
  have hlong := h (lead ++ x) (y ++ trail) (by simp) (by simpa using hx)
    (by rwa [outside_append_of_outside hlead])
  rwa [List.head?_append_of_ne_nil y hy, opens_append hopeners hname hy (hcut.suffix hy)] at hlong

/-- **The first opener of a longer text** lies in the stretch if it begins before the junk behind
it does. -/
theorem FirstOpener.within (hopeners : Named openers) {lead t junk rest u v : Text} {n : Nat}
    (hlead : ∀ c ∈ lead, isBlank c = true) (hjunk : ∀ c ∈ junk, isDelimiter c = true)
    (hcut : Apart t (junk ++ rest)) (hwhole : lead ++ t ++ (junk ++ rest) = u ++ v)
    (hlow : u.length < (lead ++ t ++ junk).length) (h : FirstOpener openers u v n) :
    ∃ u' v', t = u' ++ v' ∧ u = lead ++ u' ∧ u'.length < t.length ∧
      FirstOpener openers u' v' n := by
  have hout := outside_of_blank hlead
  have hname := endsName_of_blank hlead
  obtain ⟨c, v₁, hv, hdel⟩ := h.exists_head
  -- it does not begin in `lead` and not in `junk`, whose characters are delimiters
  have hbefore : lead.length ≤ u.length := by
    by_contra hlt
    rw [List.append_assoc] at hwhole
    obtain ⟨w, hw, hv'⟩ := exists_between hwhole (by omega)
    rcases w with _ | ⟨d, w⟩
    · simp [hw] at hlt
    · rw [hv, List.cons_append, List.cons.injEq] at hv'
      have hblank := hlead d (by rw [hw]; simp)
      rw [← hv'.1] at hblank
      exact Bool.eq_false_iff.mp (isBlank_of_not_isDelimiter hdel) hblank
  rw [List.append_assoc] at hwhole
  obtain ⟨u', rfl, hrest⟩ := exists_between hwhole.symm hbefore
  have hbehind : u'.length < t.length := by
    by_contra hge
    obtain ⟨w, rfl, hv'⟩ := exists_between hrest.symm (by omega)
    simp only [List.length_append] at hlow
    obtain ⟨z, hz, hv''⟩ := exists_between hv' (by omega)
    rcases z with _ | ⟨d, z⟩
    · rw [hz, List.append_nil] at hlow
      omega
    · rw [hv, List.cons_append, List.cons.injEq] at hv''
      have hsep := hjunk d (by rw [hz]; simp)
      rw [← hv''.1, hdel] at hsep
      exact Bool.false_ne_true hsep
  obtain ⟨v', rfl, rfl⟩ := exists_between hrest hbehind.le
  have hne : v' ≠ [] := by
    rintro rfl
    simp at hbehind
  refine ⟨u', v', rfl, rfl, hbehind, ?_, ?_, ?_⟩
  · rw [← outside_append_of_outside hout]
    exact h.outside
  · rw [← opens_append hopeners hname hne (hcut.suffix hne)]
    exact h.opens
  · refine UpTo.quiet_within hopeners hout hname hcut (by simp) ?_
    have hquiet := h.quiet
    rwa [List.length_append, ← List.append_assoc, List.append_assoc lead] at hquiet

/-- **A stretch gives its shape to the text in it**, with blank characters before the text and
delimiters behind it. -/
theorem Shape.within (hopeners : Named openers) {kind : Kind} {lead t junk rest : Text}
    (hlead : ∀ c ∈ lead, isBlank c = true) (hjunk : ∀ c ∈ junk, isDelimiter c = true)
    (hcut : Apart t (junk ++ rest)) (h : Shape openers rest kind (lead ++ t ++ junk)) :
    Shape openers [] kind t := by
  have hout := outside_of_blank hlead
  have hname := endsName_of_blank hlead
  generalize hbody : lead ++ t ++ junk = body at h
  cases h with
  | simple hquiet =>
    subst hbody
    refine .simple ?_
    rw [List.append_nil]
    have hquiet' : UpTo (Quiet openers) (lead.length + t.length) (lead ++ t ++ junk ++ rest) :=
      hquiet.mono (by simp)
    rw [List.append_assoc] at hquiet'
    exact hquiet'.quiet_within hopeners hout hname hcut le_rfl
  | @block _ u v n hwhole hfirst hlow hclosed =>
    subst hbody
    rw [List.append_assoc] at hwhole
    obtain ⟨u', v', rfl, rfl, hlow', hfirst'⟩ :=
      hfirst.within hopeners hlead hjunk hcut hwhole hlow
    refine .block (List.append_nil _) hfirst' hlow' fun x e z ht hx houtx hnamex he => ?_
    have hnil := hclosed (lead ++ x) e (z ++ junk) (by rw [ht]; simp)
      (by simp only [List.length_append]; omega) (by rwa [outside_append_of_outside hout])
      (by rwa [endsName_append_of_not hname]) he
    exact (List.append_eq_nil_iff.mp hnil).1

end Within

namespace Script

variable {openers : List Text} {text : Text}

/-- **The shape of a piece**, when `rest` is what stands behind its body. -/
theorem shape_of_pieces_eq (hopeners : Named openers) {ps qs : List Piece} {p : Piece}
    (h : pieces openers text = ps ++ p :: qs) :
    ∃ rest, Apart p.body rest ∧ Shape openers rest p.kind p.body := by
  have hcut := Reader.cutOff_of_pieces_eq (Standing.invariant hopeners) h
  generalize ps.flatMap Piece.span = before, qs.flatMap Piece.span = behind at hcut
  cases hcut with
  | semicolon hstand =>
    refine ⟨';' :: behind, apart_of_head rfl rfl, ?_⟩
    cases hstand with
    | plain hout hquiet => exact .simple hquiet
  | blockEnd hstand =>
    refine ⟨behind, Or.inr (Or.inr ⟨';', by simp, rfl⟩), Shape.of_closing hstand⟩
  | @slash mode body line _ la lb hstand hline hlines hbefore =>
    obtain ⟨c, line, rfl⟩ : ∃ c l, line = c :: l :=
      List.exists_cons_of_ne_nil (ne_nil_of_mem_lines (t := text) (by rw [hlines]; simp))
    have hsep := Directive.isSeparator_of_isLoneSlash hline c List.mem_cons_self
    refine ⟨c :: line ++ behind, apart_of_head rfl (isDelimiter_of_isSeparator hsep), ?_⟩
    refine Shape.of_standing hopeners hstand (Or.inr fun d hd => ?_)
    have hne : body ≠ [] := by
      rintro rfl
      simp at hd
    refine ((lines_eq_append hlines).2.2 (by simp) d ?_).1
    rwa [hbefore, List.getLast?_append_of_ne_nil before hne]
  | ending hstand =>
    exact ⟨[], Or.inl rfl, Shape.of_standing hopeners hstand (Or.inl rfl)⟩

/-- **The shape of a statement**: its text, with nothing behind it. -/
theorem shape_of_split (dialect : Dialect) (hopeners : Named dialect.openers) {script : Text}
    {s : Statement} (hs : s ∈ split dialect script) : Shape dialect.openers [] s.kind s.text := by
  obtain ⟨before, p, behind, lead, junk, hp⟩ := exists_origin_of_mem hs
  obtain ⟨rest, hcut, hshape⟩ := shape_of_pieces_eq hopeners hp.pieces_eq
  have hjunk : ∀ c ∈ junk, isDelimiter c = true := fun c hc =>
    isDelimiter_of_isSeparator (hp.junk_separator c hc)
  have hcut' : Apart s.text (junk ++ rest) := by
    have hbody := hp.body_eq
    rcases junk with _ | ⟨c, junk⟩
    · rw [hbody, List.append_nil] at hcut
      exact hcut.suffix hp.ne_nil
    · exact apart_of_head rfl (hjunk c List.mem_cons_self)
  rw [hp.body_eq, hp.kind_eq] at hshape
  exact hshape.within hopeners hp.lead_blank hjunk hcut'

/-! ### Lines that hold only a slash -/

/-- Two pieces of one script: the same one, or one ends before the other begins. -/
theorem span_le_or_eq {ps qs ps' qs' : List Piece} {p p' : Piece}
    (h : ps ++ p :: qs = ps' ++ p' :: qs') :
    (ps = ps' ∧ p = p') ∨
      (ps.flatMap Piece.span).length + p.span.length ≤ (ps'.flatMap Piece.span).length ∨
      (ps'.flatMap Piece.span).length + p'.span.length ≤ (ps.flatMap Piece.span).length := by
  rcases List.append_eq_append_iff.mp h with ⟨as, rfl, has⟩ | ⟨as, rfl, has⟩
  -- one list of the pieces before is the beginning of the other
  · rcases as with _ | ⟨a, as⟩
    · exact Or.inl ⟨by simp, (List.cons.inj has).1⟩
    · obtain rfl : p = a := (List.cons.inj has).1
      exact Or.inr (Or.inl (by simp))
  · rcases as with _ | ⟨a, as⟩
    · exact Or.inl ⟨by simp, (List.cons.inj has).1.symm⟩
    · obtain rfl : p' = a := (List.cons.inj has).1
      exact Or.inr (Or.inr (by simp))

/-- **The lines of a statement in the source**, when there is more than one: the first is the end of
a line there, the last the beginning of one, and those between are lines themselves. The lines
before end in the piece that the statement comes from. -/
theorem exists_lines_of_split {dialect : Dialect} {script : Text} {s : Statement}
    (hs : s ∈ split dialect script) {f g : Text} {mid : List Text}
    (hlines : lines s.text = f :: (mid ++ [g])) :
    ∃ la q r lb, lines (source dialect script) = la ++ (q ++ f) :: (mid ++ (g ++ r) :: lb) ∧
      ∃ before p behind lead junk, Origin dialect script s before p behind lead junk ∧
        la.flatten ++ q = before.flatMap Piece.span ++ lead := by
  obtain ⟨before, p, behind, lead, junk, hp⟩ := exists_origin_of_mem hs
  obtain ⟨la, q, r, lb, hsource, hflat⟩ := lines_within hlines hp.tight.head_ne hp.tight.last_ne
    (before.flatMap Piece.span ++ lead) (junk ++ (p.mark ++ behind.flatMap Piece.span))
  rw [← hp.source_eq] at hsource
  exact ⟨la, q, r, lb, hsource, before, p, behind, lead, junk, hp, hflat⟩

/-- **No line inside a statement holds only a slash.** -/
theorem isLoneSlash_eq_false_of_inside {dialect : Dialect} {script : Text} {s : Statement}
    (hs : s ∈ split dialect script) {f g l : Text} {m₁ m₂ : List Text}
    (hlines : lines s.text = f :: (m₁ ++ l :: m₂ ++ [g])) : Directive.isLoneSlash l = false := by
  obtain ⟨la, q, r, lb, hsource, before, p, behind, lead, junk, hp, hflat⟩ :=
    exists_lines_of_split hs hlines
  have hsource' : lines (source dialect script) =
      (la ++ (q ++ f) :: m₁) ++ l :: (m₂ ++ (g ++ r) :: lb) := by simpa using hsource
  rw [Bool.eq_false_iff]
  intro hslash
  obtain ⟨ps, p', qs, hps, hmark, hla⟩ :=
    exists_piece_of_isLoneSlash dialect.openers hsource' hslash
  -- the mark of the piece `p'` would begin inside the body of `p`
  have hl : 0 < l.length := List.length_pos_of_ne_nil
    (ne_nil_of_mem_lines (t := s.text) (by rw [hlines]; simp))
  have htext : s.text = f ++ (m₁.flatten ++ (l ++ (m₂.flatten ++ g))) := by
    rw [← flatten_lines s.text, hlines]
    simp
  have hspan : p.span.length = p.body.length + p.mark.length := by simp [Piece.span]
  have hspan' : p'.span.length = p'.body.length + l.length := by simp [Piece.span, hmark]
  have hbody := congrArg List.length hp.body_eq
  have hlength := congrArg List.length htext
  have hfront := congrArg List.length hflat
  have hfront' := congrArg List.length hla
  simp only [List.flatten_append, List.flatten_cons, List.length_append]
    at hbody hlength hfront hfront'
  rcases span_le_or_eq (hp.pieces_eq.symm.trans hps) with ⟨rfl, rfl⟩ | h | h <;> omega

end Script

/-! ### The words `DECLARE` and `BEGIN` -/

/-- **A keyword stands between `before` and `rest`**: `DECLARE` or `BEGIN`, letters compared without
their case, and no character of a name before or behind it. -/
def Keyword (before rest : Text) (length : Nat) : Prop :=
  endsName before = false ∧
    ∃ word ∈ ({} : Dialect).openers, standsAt word rest = true ∧ word.length = length

/-- What stands at a place begins with the first letter of the word. -/
theorem Word.head_of_standsAt {w : Char} {word text : Text} (h : standsAt (w :: word) text = true) :
    ∃ c ∈ text.head?, sameLetter w c = true := by
  obtain ⟨front, rest, rfl, hs, -⟩ := standsAt_iff.mp h
  cases hs with
  | cons hc _ => exact ⟨_, rfl, hc⟩

/-- A keyword begins with a letter that is met as `B` or `D`. -/
theorem exists_head_of_keyword {word : Text} (hword : word ∈ ({} : Dialect).openers) :
    ∃ w ∈ ['B', 'D'], ∃ rest, word = w :: rest := by
  rcases List.mem_cons.mp hword with rfl | hword
  · exact ⟨'D', by simp, _, rfl⟩
  · obtain rfl := List.mem_singleton.mp hword
    exact ⟨'B', by simp, _, rfl⟩

/-- **At most one keyword stands at a place.** -/
theorem keyword_unique {word word' text : Text} (hword : word ∈ ({} : Dialect).openers)
    (hword' : word' ∈ ({} : Dialect).openers) (h : standsAt word text = true)
    (h' : standsAt word' text = true) : word = word' := by
  have hkeys : letterKey 'B' ≠ letterKey 'D' := by decide +kernel
  have hfirst : ∀ w ∈ ({} : Dialect).openers, ∀ w' ∈ ({} : Dialect).openers,
      w.head? = w'.head? → w = w' := by decide
  refine hfirst word hword word' hword' ?_
  obtain ⟨w, hw, rest, rfl⟩ := exists_head_of_keyword hword
  obtain ⟨w', hw', rest', rfl⟩ := exists_head_of_keyword hword'
  obtain ⟨c, hc, hsame⟩ := head_of_standsAt h
  obtain ⟨d, hd, hsame'⟩ := head_of_standsAt h'
  obtain rfl := Option.mem_unique hc hd
  have hkey : letterKey w = letterKey w' := (beq_iff_eq.mp hsame).trans (beq_iff_eq.mp hsame').symm
  simp only [List.mem_cons, List.not_mem_nil, or_false] at hw hw'
  rcases hw with rfl | rfl <;> rcases hw' with rfl | rfl
  · rfl
  · exact absurd hkey hkeys
  · exact absurd hkey.symm hkeys
  · rfl

/-- At the end of a text no keyword stands. -/
theorem Keyword.ne_nil {before rest : Text} {n : Nat} (h : Keyword before rest n) : rest ≠ [] := by
  rintro rfl
  obtain ⟨-, word, hword, hstands, -⟩ := h
  obtain ⟨w, -, word', rfl⟩ := exists_head_of_keyword hword
  obtain ⟨c, hc, -⟩ := head_of_standsAt hstands
  simp at hc

/-- **The keywords are what opens a block by default.** -/
theorem opens_eq_some_iff {before rest : Text} {n : Nat} :
    opens ({} : Dialect).openers before rest = some n ↔ Keyword before rest n := by
  have hinUse : inUse ({} : Dialect).openers = ({} : Dialect).openers := by decide +kernel
  rw [opens, opener?, hinUse]
  constructor
  · intro h
    split_ifs at h with hhead
    rw [Bool.and_eq_true, Bool.not_eq_true'] at hhead
    rw [Option.map_eq_some_iff] at h
    obtain ⟨word, hfind, hlen⟩ := h
    have hstands : standsAt word rest = true := by simpa using List.find?_some hfind
    exact ⟨hhead.2, word, List.mem_of_find?_eq_some hfind, hstands, hlen⟩
  · rintro ⟨hname, word, hword, hstands, rfl⟩
    obtain ⟨w, hw, word', rfl⟩ := exists_head_of_keyword hword
    obtain ⟨c, hc, hsame⟩ := head_of_standsAt hstands
    have hletter : rest.head?.any isLetter = true := by
      rw [Option.mem_def.mp hc, Option.any_some]
      exact isLetter_of_sameLetter hw hsame
    rw [hletter, hname, if_pos (by rfl), Option.map_eq_some_iff]
    rcases hfind : ({} : Dialect).openers.find? (standsAt · rest) with _ | found
    · exact absurd hstands (List.find?_eq_none.mp hfind _ hword)
    · have hfound : standsAt found rest = true := by simpa using List.find?_some hfind
      refine ⟨found, rfl, ?_⟩
      rw [keyword_unique (List.mem_of_find?_eq_some hfind) hword hfound hstands]

theorem opens_eq_none_iff {before rest : Text} :
    opens ({} : Dialect).openers before rest = none ↔ ∀ n, ¬Keyword before rest n := by
  rw [Option.eq_none_iff_forall_ne_some]
  exact forall_congr' fun n => not_congr opens_eq_some_iff

/-! ### Statements under the usual keywords -/

/-- **A statement that holds no terminator inside.** Places of its text are cuts into what is before
and what is behind. -/
structure Statement.Whole (s : Statement) : Prop where
  /-- Outside quotes a simple statement has neither a semicolon nor a keyword. -/
  simple : s.kind = .simple → ∀ x y, s.text = x ++ y → outside x = true →
    y.head? ≠ some ';' ∧ ∀ n, ¬Keyword x y n
  /-- Outside quotes a block has a keyword; before the first one there is no semicolon, and behind
  it nothing but the end of the text is the end of a block end. -/
  block : s.kind = .block → ∃ u v n, s.text = u ++ v ∧ outside u = true ∧ Keyword u v n ∧
    (∀ x y, s.text = x ++ y → x.length < u.length → outside x = true →
      y.head? ≠ some ';' ∧ ∀ m, ¬Keyword x y m) ∧
    ∀ x e z, s.text = x ++ e ++ z → u.length + n ≤ x.length → outside x = true →
      endsName x = false → IsBlockEnd e → z = []
  /-- No line but the first and the last holds only a slash. -/
  lines : ∀ f m₁ l m₂ g, Text.lines s.text = f :: (m₁ ++ l :: m₂ ++ [g]) →
    Directive.isLoneSlash l = false

/-- Where nothing counts there is neither a semicolon nor a keyword. -/
theorem Quiet.keyword {x y : Text} (h : Quiet ({} : Dialect).openers x y)
    (hout : outside x = true) : y.head? ≠ some ';' ∧ ∀ n, ¬Keyword x y n := by
  rw [← opens_eq_none_iff]
  exact h hout

/-- **Under the usual keywords every statement is whole**, whatever lines are directives. -/
theorem Script.whole_of_mem_split {directives : List Text} {boundaryOnly : Bool} {script : Text}
    {s : Statement} (hs : s ∈ split { directives, boundaryOnly } script) : s.Whole where
  simple hkind x y hxy hout := by
    have hshape := shape_of_split { directives, boundaryOnly } named_default hs
    rw [hkind] at hshape
    cases hshape with
    | simple hquiet =>
      rw [List.append_nil] at hquiet
      rcases eq_or_ne y [] with rfl | hy
      · exact ⟨by simp, fun n hkeyword => hkeyword.ne_nil rfl⟩
      · refine (hquiet x y hxy ?_).keyword hout
        rw [hxy, List.length_append]
        exact Nat.lt_add_of_pos_right (List.length_pos_of_ne_nil hy)
  block hkind := by
    have hshape := shape_of_split { directives, boundaryOnly } named_default hs
    rw [hkind] at hshape
    cases hshape with
    | @block _ u v n hwhole hfirst hlow hclosed =>
      rw [List.append_nil] at hwhole
      refine ⟨u, v, n, hwhole, hfirst.outside, opens_eq_some_iff.mp hfirst.opens, ?_, hclosed⟩
      rintro x y hxy hx hout
      exact (hfirst.quiet x y (hwhole.symm.trans hxy) hx).keyword hout
  lines f m₁ l m₂ g hlines := isLoneSlash_eq_false_of_inside hs hlines

/-- The quoted block end of this block does not close it, nor does the slash that is not alone. -/
theorem Script.whole_of_mem_split_block :
    let s : Statement := ⟨"begin x := 'end;' /\n/ 2; end;".toList, .block, 0⟩
    s ∈ split { directives := [], boundaryOnly := true } (s.text ++ ['\n']) ∧ s.Whole := by
  intro s
  have hs : s ∈ split { directives := [], boundaryOnly := true } (s.text ++ ['\n']) := by
    decide +kernel
  exact ⟨hs, whole_of_mem_split hs⟩

end SqlScript
