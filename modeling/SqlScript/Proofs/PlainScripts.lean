import SqlScript.Proofs.DirectiveLines
import SqlScript.Proofs.Terminators

/-!
# Scripts that are cut at semicolons only

The reader keeps a mode, and forgets it at every cut. For a script that holds no block, no directive
line and no lone slash there is a plainer way to split: count the quotes from the beginning of the
script, cut at every semicolon that has an even number of them before it, and trim what is between
(`plainStatements`). This file shows that the two agree on such scripts (`Plain`).

What the modes stand for (`Standing`) is known of each stretch by itself, with quotes counted from
where the stretch begins. The bridge to the count over the whole script is that no stretch is cut
off inside quotes: what stands before a stretch holds an even number of quotes, so the two counts
agree in it. A keyword outside quotes in a stretch is then one outside quotes in the script, which
leaves a semicolon and the end of the script as the only ways a stretch of a plain script is cut off
(`Plain.cutOff`).
-/

namespace SqlScript

open SqlScript.Text SqlScript.Word

/-! ### The plain cut -/

/-- Whether a character, with its place in a text, is a semicolon outside quotes. -/
def isPlainCut (text : Text) : Char × Nat → Bool
  | (c, i) => c = ';' && outside (text.take i)

/-- The stretches of a text between the semicolons outside quotes, each character with its place. -/
def plainCut (text : Text) : List (List (Char × Nat)) := text.zipIdx.splitOnP (isPlainCut text)

/-- The characters of a stretch, trimmed. -/
def plainText (stretch : List (Char × Nat)) : Text := trim (stretch.map Prod.fst)

/-- The statement of a stretch that is not blank: it stands where the first character of the stretch
stands that is not blank. -/
def plainStatement? (stretch : List (Char × Nat)) : Option Statement :=
  (stretch.find? fun (c, _) => !isBlank c).map fun (_, i) => ⟨plainText stretch, .simple, i⟩

/-- **The statements of a text that is cut at the semicolons outside quotes** and nowhere else. -/
def plainStatements (text : Text) : List Statement := (plainCut text).filterMap plainStatement?

/-- **Outside quotes a text holds no keyword.** -/
def KeywordFree (text : Text) : Prop :=
  ∀ x y, text = x ++ y → outside x = true → ∀ n, ¬Keyword x y n

/-- Keywords are looked for at every place of a text, of which there are finitely many. -/
theorem keywordFree_iff {text : Text} :
    KeywordFree text ↔ ∀ i ∈ List.range (text.length + 1), outside (text.take i) = true →
      opens ({} : Dialect).openers (text.take i) (text.drop i) = none := by
  constructor
  · intro h i _ hout
    exact opens_eq_none_iff.mpr (h _ _ (List.take_append_drop i text).symm hout)
  · rintro h x y rfl hout
    have hnone := h x.length (List.mem_range.mpr (by rw [List.length_append]; omega))
    rw [List.take_left, List.drop_left] at hnone
    exact opens_eq_none_iff.mp (hnone hout)

instance (text : Text) : Decidable (KeywordFree text) := decidable_of_iff' _ keywordFree_iff

/-- **A plain script** holds nothing but simple statements, with semicolons between them. -/
structure Plain (directives : List Text) (text : Text) : Prop where
  /-- No line is a directive. -/
  directive : ∀ l ∈ lines text, Directive.isDirective directives l = false
  /-- No line holds only a slash. -/
  slash : ∀ l ∈ lines text, Directive.isLoneSlash l = false
  /-- Every literal is closed. -/
  quotes : outside text = true
  /-- No block is begun. -/
  keyword : KeywordFree text
  /-- No trimmed stretch ends with a slash. -/
  last : ∀ stretch ∈ plainCut text, (plainText stretch).getLast? ≠ some '/'

/-- Whether a script is plain can be checked. -/
instance (directives : List Text) (text : Text) : Decidable (Plain directives text) :=
  decidable_of_iff
    ((∀ l ∈ lines text, Directive.isDirective directives l = false) ∧
      (∀ l ∈ lines text, Directive.isLoneSlash l = false) ∧ outside text = true ∧
      KeywordFree text ∧ ∀ stretch ∈ plainCut text, (plainText stretch).getLast? ≠ some '/')
    ⟨fun ⟨hdirective, hslash, hquotes, hkeyword, hlast⟩ =>
        ⟨hdirective, hslash, hquotes, hkeyword, hlast⟩,
      fun h => ⟨h.directive, h.slash, h.quotes, h.keyword, h.last⟩⟩

/-! ### Stretches without a cut -/

/-- **A stretch without a cut** holds no semicolon outside quotes, and its literals are closed. -/
structure Uncut (body : Text) : Prop where
  /-- Every literal is closed. -/
  quotes : outside body = true
  /-- A semicolon stands in quotes. -/
  semicolon : ∀ x y, body = x ++ ';' :: y → outside x = false

/-- Where nothing counts there is no semicolon outside quotes. -/
theorem UpTo.uncut {openers : List Text} {body rest : Text} (hout : outside body = true)
    (h : UpTo (Quiet openers) body.length (body ++ rest)) : Uncut body := by
  refine ⟨hout, ?_⟩
  rintro x y rfl
  rw [Bool.eq_false_iff]
  intro hx
  have hquiet := h x (';' :: y ++ rest) (by simp) (by simp)
  exact (hquiet hx).1 rfl

/-- No semicolon is left at the end of a stretch when it is trimmed. -/
theorem Uncut.getLast?_trim {body : Text} (h : Uncut body) : (trim body).getLast? ≠ some ';' := by
  intro hlast
  obtain ⟨trail, hbody, htrail⟩ := exists_trim body
  have hsplit : body =
      body.takeWhile isBlank ++ (trim body).dropLast ++ ';' :: trail := by
    conv_lhs => rw [hbody, ← List.dropLast_append_getLast? ';' hlast]
    simp
  have hin := h.semicolon _ _ hsplit
  -- behind the semicolon there are blank characters, so the stretch would end in quotes
  have hend : outside (';' :: trail) = true := outside_of_no_quote fun c hc => by
    rintro rfl
    rcases List.mem_cons.mp hc with hc | hc
    · exact absurd hc (by decide)
    · exact absurd (htrail _ hc) (by decide)
  have hout := h.quotes
  rw [hsplit, outside_append, hin, hend] at hout
  exact absurd hout (by decide)

/-- The text of a stretch is what trimming leaves. -/
theorem Uncut.text_eq {body : Text} (h : Uncut body) (hslash : (trim body).getLast? ≠ some '/')
    (mark : Text) : Piece.text ⟨.simple, body, mark⟩ = trim body := by
  have htight := tight_trim body
  rw [Piece.text_congr .simple (trim_eq_self htight).symm mark mark]
  exact Piece.text_eq_body htight hslash fun _ => h.getLast?_trim

theorem plainText_zipIdx (body : Text) (n : Nat) : plainText (body.zipIdx n) = trim body := by
  rw [plainText, List.zipIdx_map_fst]

/-- **The statement of a stretch** with `n` characters before it. -/
theorem plainStatement?_zipIdx (body : Text) (n : Nat) :
    plainStatement? (body.zipIdx n) =
      if (trim body).isEmpty then none
      else some ⟨trim body, .simple, (n + (body.takeWhile isBlank).length : Nat)⟩ := by
  have hblank : ∀ (lead : Text) (k : Nat), (∀ c ∈ lead, isBlank c = true) →
      (lead.zipIdx k).find? (fun (c, _) => !isBlank c) = none := by
    intro lead k hlead
    rw [List.find?_eq_none]
    rintro ⟨c, i⟩ hc
    simp [hlead c (List.fst_mem_of_mem_zipIdx hc)]
  rw [plainStatement?, plainText_zipIdx]
  split_ifs with hempty
  · rw [List.isEmpty_iff] at hempty
    rw [hblank body n (isBlank_of_trim_eq_nil hempty)]
    rfl
  · obtain ⟨c, rest, hrest⟩ : ∃ c rest, body.dropWhile isBlank = c :: rest := by
      refine List.exists_cons_of_ne_nil fun hnil => hempty ?_
      rw [trim, hnil]
      rfl
    have hc : isBlank c = false := head?_dropWhile_isBlank body c (by rw [hrest]; rfl)
    have hfind : (body.zipIdx n).find? (fun (c, _) => !isBlank c) =
        some (c, n + (body.takeWhile isBlank).length) := by
      conv_lhs => rw [← List.takeWhile_append_dropWhile (p := isBlank) (l := body), hrest]
      rw [List.zipIdx_append, List.find?_append, hblank _ _ isBlank_of_mem_takeWhile,
        Option.none_or, List.zipIdx_cons]
      exact List.find?_cons_of_pos (by simp [hc])
    rw [hfind]
    rfl

/-- The statement of a piece without a cut is that of its stretch. -/
theorem Uncut.statement?_eq {body : Text} (h : Uncut body)
    (hslash : (trim body).getLast? ≠ some '/') (n : Nat) (mark : Text) :
    Piece.statement? n ⟨.simple, body, mark⟩ = plainStatement? (body.zipIdx n) := by
  rw [Piece.statement?, h.text_eq hslash, plainStatement?_zipIdx]
  rfl

/-! ### How the stretches of a plain script are cut off -/

/-- A keyword of a stretch is one of the text that the stretch is cut out of, since no name ends
where the stretch begins. -/
theorem Keyword.append {before x y : Text} {n : Nat} (hbefore : endsName before = false)
    (h : Keyword x y n) : Keyword (before ++ x) y n := by
  refine ⟨?_, h.2⟩
  rw [endsName_append_of_not hbefore]
  exact h.1

/-- **A place where a stretch may begin**: outside quotes, and not behind a name. -/
structure Fresh (before : Text) : Prop where
  /-- An even number of quotes stands before it. -/
  quotes : outside before = true
  /-- No name ends there. -/
  name : endsName before = false

/-- Behind the semicolon that ends a stretch another one may begin. -/
theorem Uncut.fresh {before body : Text} (h : Uncut body) (hbefore : Fresh before) :
    Fresh (before ++ (body ++ [';'])) := by
  constructor
  · rw [outside_append_of_outside hbefore.quotes, outside_append_of_outside h.quotes]
    rfl
  · rw [← List.append_assoc, endsName_append (by simp)]
    decide +kernel

namespace Plain

variable {directives : List Text} {text before : Text}

/-- **No block is begun in a plain script.** -/
theorem not_firstOpener (h : Plain directives text) (hbefore : Fresh before) {tail u v : Text}
    {n : Nat} (hwhole : text = before ++ tail) (htail : tail = u ++ v) :
    ¬FirstOpener ({} : Dialect).openers u v n := by
  intro hfirst
  have hkeyword : Keyword (before ++ u) v n :=
    Keyword.append hbefore.name (opens_eq_some_iff.mp hfirst.opens)
  refine h.keyword (before ++ u) v (by rw [hwhole, htail, List.append_assoc]) ?_ n hkeyword
  rw [outside_append_of_outside hbefore.quotes]
  exact hfirst.outside

/-- **A stretch of a plain script is cut off at a semicolon or where the script ends**, and outside
quotes. -/
theorem cutOff (h : Plain directives text) {rest : Text} {p : Piece}
    (hcut : Reader.CutOff (Standing ({} : Dialect).openers) text before p rest)
    (hwhole : text = before ++ (p.span ++ rest)) (hbefore : Fresh before) :
    ∃ body, Uncut body ∧
      (p = ⟨.simple, body, [';']⟩ ∨ (p = ⟨.simple, body, []⟩ ∧ rest = [])) := by
  cases hcut with
  | @semicolon body _ hstand =>
    cases hstand with
    | plain hbody hquiet => exact ⟨body, hquiet.uncut hbody, Or.inl rfl⟩
  | @blockEnd body _ hstand =>
    cases hstand with
    | closing hwhole' hfirst =>
      exact absurd hfirst (h.not_firstOpener hbefore (by simpa [Piece.span] using hwhole) hwhole')
  | @slash mode body line _ la lb hstand hline hlines =>
    rw [h.slash line (by rw [hlines]; simp)] at hline
    exact absurd hline Bool.false_ne_true
  | @ending mode body hstand =>
    have htext : text = before ++ (body ++ []) := by simpa [Piece.span] using hwhole
    cases hstand with
    | plain hbody hquiet => exact ⟨body, hquiet.uncut hbody, Or.inr ⟨rfl, rfl⟩⟩
    | literal hbody =>
      -- the script would end in quotes
      have hend := h.quotes
      rw [htext, List.append_nil, outside_append_of_outside hbefore.quotes, hbody] at hend
      exact absurd hend Bool.false_ne_true
    | opening hwhole' hfirst => exact absurd hfirst (h.not_firstOpener hbefore htext hwhole')
    | block hwhole' hfirst => exact absurd hfirst (h.not_firstOpener hbefore htext hwhole')
    | closing hwhole' hfirst => exact absurd hfirst (h.not_firstOpener hbefore htext hwhole')

end Plain

/-! ### The stretches one after another -/

/-- In a stretch without a cut there is none in the text either. -/
theorem Uncut.isPlainCut_eq_false {before body : Text} (h : Uncut body)
    (hout : outside before = true) (rest : Text) :
    ∀ q ∈ body.zipIdx before.length, isPlainCut (before ++ (body ++ rest)) q = false := by
  rintro ⟨c, i⟩ hq
  obtain ⟨hle, hget⟩ := List.mk_mem_zipIdx_iff_le_and_getElem?_sub.mp hq
  obtain ⟨k, rfl⟩ := Nat.exists_eq_add_of_le hle
  rw [Nat.add_sub_cancel_left] at hget
  obtain ⟨hk, hc⟩ := List.getElem?_eq_some_iff.mp hget
  rw [isPlainCut, Bool.and_eq_false_iff, decide_eq_false_iff_not]
  refine or_iff_not_imp_left.mpr fun hsemi => ?_
  obtain rfl : c = ';' := not_not.mp hsemi
  have hbody : body = body.take k ++ ';' :: body.drop (k + 1) := by
    rw [← hc, ← List.drop_eq_getElem_cons hk, List.take_append_drop]
  rw [List.take_length_add_append, List.take_append_of_le_length hk.le,
    outside_append_of_outside hout]
  exact h.semicolon _ _ hbody

/-- **The first stretch of what is behind a place outside quotes** ends at its first semicolon
outside quotes. -/
theorem Uncut.splitOnP_eq {before body rest : Text} (h : Uncut body)
    (hout : outside before = true) {text : Text} (htext : text = before ++ (body ++ ';' :: rest)) :
    ((body ++ ';' :: rest).zipIdx before.length).splitOnP (isPlainCut text) =
      body.zipIdx before.length ::
        (rest.zipIdx (before ++ (body ++ [';'])).length).splitOnP (isPlainCut text) := by
  have hnone : ∀ q ∈ body.zipIdx before.length, isPlainCut text q = false := by
    rw [htext]
    exact h.isPlainCut_eq_false hout _
  have hsemi : isPlainCut text (';', before.length + body.length) = true := by
    have hfront : text.take (before.length + body.length) = before ++ body := by
      rw [htext, ← List.append_assoc, List.take_append_of_le_length (by simp),
        List.take_of_length_le (by simp)]
    rw [isPlainCut, hfront, outside_append_of_outside hout, h.quotes]
    rfl
  have hplace : (before ++ (body ++ [';'])).length = before.length + body.length + 1 := by
    simp [Nat.add_assoc]
  rw [List.zipIdx_append, List.zipIdx_cons, List.splitOnP_append_cons _ _ hsemi,
    List.splitOnP_eq_singleton hnone, hplace, List.singleton_append]

namespace Script

variable {directives : List Text} {text : Text}

/-- **The statements of the pieces of a plain script**, from a place on that is outside quotes. The
induction is on the pieces behind that place; those before it say what the place is. -/
theorem statements_plain (h : Plain directives text) {ps qs : List Piece}
    (hpieces : pieces ({} : Dialect).openers text = ps ++ qs) {before rest : Text}
    (hps : ps.flatMap Piece.span = before) (hqs : qs.flatMap Piece.span = rest)
    (hbefore : Fresh before)
    (hlast : ∀ stretch ∈ (rest.zipIdx before.length).splitOnP (isPlainCut text),
      (plainText stretch).getLast? ≠ some '/') :
    Piece.statements before.length qs =
      ((rest.zipIdx before.length).splitOnP (isPlainCut text)).flatMap fun stretch =>
        (plainStatement? stretch).toList := by
  have hwhole : text = before ++ rest := by
    rw [← span_pieces ({} : Dialect).openers text, hpieces, List.flatMap_append, hps, hqs]
  induction qs generalizing ps before rest with
  | nil =>
    obtain rfl : [] = rest := hqs
    rfl
  | cons p qs ih =>
    have hcut := Reader.cutOff_of_pieces_eq (Standing.invariant named_default) hpieces
    rw [hps] at hcut
    rw [List.flatMap_cons] at hqs
    obtain ⟨body, huncut, rfl | ⟨rfl, hnil⟩⟩ := h.cutOff hcut (by rw [hwhole, hqs]) hbefore
    · -- the stretch up to the next semicolon, and what is behind it
      obtain rfl : body ++ ';' :: qs.flatMap Piece.span = rest := by simpa [Piece.span] using hqs
      have hsplit := huncut.splitOnP_eq hbefore.quotes hwhole
      have hstretch : (trim body).getLast? ≠ some '/' := by
        rw [← plainText_zipIdx body before.length]
        exact hlast _ (by rw [hsplit]; exact List.mem_cons_self)
      have hps' : (ps ++ [(⟨.simple, body, [';']⟩ : Piece)]).flatMap Piece.span =
          before ++ (body ++ [';']) := by simp [hps, Piece.span]
      have hbehind := ih (hpieces.trans (List.append_cons _ _ _)) hps' rfl (huncut.fresh hbefore)
        (fun stretch hs => hlast stretch (by rw [hsplit]; exact List.mem_cons_of_mem _ hs))
        (by simpa using hwhole)
      have hlength : before.length + (Piece.span ⟨.simple, body, [';']⟩).length =
          (before ++ (body ++ [';'])).length := by simp [Piece.span]
      rw [Piece.statements, hlength, hbehind, hsplit, huncut.statement?_eq hstretch,
        List.flatMap_cons]
    · -- the stretch that ends where the script does
      obtain rfl : body = rest := by simpa [Piece.span, hnil] using hqs
      have hsplit : (body.zipIdx before.length).splitOnP (isPlainCut text) =
          [body.zipIdx before.length] := by
        refine List.splitOnP_eq_singleton ?_
        have hnone := huncut.isPlainCut_eq_false hbefore.quotes []
        rwa [List.append_nil, ← hwhole] at hnone
      have hstretch : (trim body).getLast? ≠ some '/' := by
        rw [← plainText_zipIdx body before.length]
        exact hlast _ (by rw [hsplit]; exact List.mem_cons_self)
      rw [Piece.statements, Piece.statements_of_span hnil, hsplit, huncut.statement?_eq hstretch]
      rfl

/-- **A plain script is cut at the semicolons outside quotes and nowhere else**, under the usual
keywords and in either boundary mode. -/
theorem split_eq_plainStatements (h : Plain directives text) (boundaryOnly : Bool) :
    split { directives, boundaryOnly } text = plainStatements text := by
  have hsource : source { directives, boundaryOnly } text = text := by
    rw [source, Directive.strip, Directive.kept_eq_self h.directive, flatten_lines]
  rw [split, hsource, plainStatements, List.filterMap_eq_flatMap_toList]
  have hpieces : pieces ({} : Dialect).openers text =
      [] ++ pieces ({} : Dialect).openers text := rfl
  exact statements_plain h hpieces rfl (span_pieces _ _) ⟨rfl, rfl⟩ h.last

/-- A literal with a line break, a semicolon and a keyword in it, a stretch that is blank, and one
that begins with a slash. -/
theorem split_eq_plainStatements_literals :
    let directives := ({} : Dialect).directives
    let script : Text := "\u3000select 'a;\nbegin';\u0085;/ x 'it''s;' ;\n y".toList
    Plain directives script ∧
      split { directives, boundaryOnly := true } script =
        [⟨"select 'a;\nbegin'".toList, .simple, 1⟩, ⟨"/ x 'it''s;'".toList, .simple, 21⟩,
          ⟨"y".toList, .simple, 37⟩] := by
  intro directives script
  have hplain : Plain directives script := by decide +kernel
  refine ⟨hplain, ?_⟩
  rw [split_eq_plainStatements hplain]
  decide +kernel

end Script

end SqlScript
