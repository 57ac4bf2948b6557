import SqlScript.Proofs.Reading

/-!
# What the mode of the reader stands for

The reader switches between modes, and which mode it is in says something about the characters since
the last cut that does not mention the reader. Quotes are counted: a place is outside quotes if an
even number of them stands before it (`outside`). In plain text and in a literal no opener and no
semicolon outside quotes has been read (`Quiet`); inside a block there is a first opener, and behind
it no block end has been read that is outside quotes (`Unclosed`). The look-ahead of the reader
makes these into statements about places of the text that is being read, each a cut of it into the
part before and the part behind.

`Standing` puts this down mode by mode, and `Standing.invariant` is the proof that reading keeps it.
What the two ways of keeping track of quotes have in common, the mode `literal` and the flag inside
a block, is that they agree with the count.
-/

namespace SqlScript

open SqlScript.Text SqlScript.Word

/-! ### Places of a text -/

/-- **Whether the place behind `before` is outside quotes**: an even number of them is before it. -/
def outside (before : Text) : Bool := before.count '\'' % 2 == 0

theorem outside_append (a b : Text) : outside (a ++ b) = (outside a == outside b) := by
  simp only [outside, List.count_append]
  rcases Nat.mod_two_eq_zero_or_one (a.count '\'') with ha | ha <;>
    rcases Nat.mod_two_eq_zero_or_one (b.count '\'') with hb | hb <;>
    simp [Nat.add_mod, ha, hb]

theorem outside_of_no_quote {t : Text} (h : ∀ c ∈ t, c ≠ '\'') : outside t = true := by
  have hcount : t.count '\'' = 0 := List.count_eq_zero_of_not_mem fun hc => h _ hc rfl
  rw [outside, hcount]
  rfl

/-- Behind an even number of quotes the two counts agree. -/
theorem outside_append_of_outside {before : Text} (h : outside before = true) (x : Text) :
    outside (before ++ x) = outside x := by
  rw [outside_append, h]
  cases outside x <;> rfl

theorem outside_of_blank {t : Text} (h : ∀ c ∈ t, isBlank c = true) : outside t = true := by
  refine outside_of_no_quote fun c hc => ?_
  rintro rfl
  exact absurd (h _ hc) (by decide)

theorem outside_append_quote (before : Text) : outside (before ++ ['\'']) = !outside before := by
  rw [outside_append]
  cases outside before <;> rfl

theorem outside_append_of_ne (before : Text) {c : Char} (hc : c ≠ '\'') :
    outside (before ++ [c]) = outside before := by
  have hnone : outside [c] = true := outside_of_no_quote fun d hd => by
    rw [List.mem_singleton.mp hd]
    exact hc
  rw [outside_append, hnone]
  cases outside before <;> rfl

/-- The length of the opener that stands between `before` and what follows it, if one does. -/
def opens (openers : List Text) (before rest : Text) : Option Nat :=
  if rest.head?.any isLetter && !endsName before then opener? openers rest else none

/-- Two cuts of one text, the first not behind the second. -/
theorem exists_between {a b u v : Text} (h : a ++ b = u ++ v) (hle : u.length ≤ a.length) :
    ∃ w, a = u ++ w ∧ v = w ++ b := by
  rcases List.append_eq_append_iff.mp h with ⟨w, rfl, rfl⟩ | ⟨w, rfl, rfl⟩
  · obtain rfl : w = [] := by
      rw [List.length_append] at hle
      exact List.eq_nil_of_length_eq_zero (by omega)
    exact ⟨[], by simp, rfl⟩
  · exact ⟨w, rfl, rfl⟩

/-- `P` holds at every place of a text that has fewer than `k` characters before it. -/
def UpTo (P : Text → Text → Prop) (k : Nat) (text : Text) : Prop :=
  ∀ x y, text = x ++ y → x.length < k → P x y

theorem UpTo.zero (P : Text → Text → Prop) (text : Text) : UpTo P 0 text :=
  fun _ _ _ h => absurd h (Nat.not_lt_zero _)

/-- One place more. -/
theorem UpTo.step {P : Text → Text → Prop} {before rest : Text} {c : Char}
    (h : UpTo P before.length (before ++ c :: rest)) (hp : P before (c :: rest)) :
    UpTo P (before ++ [c]).length (before ++ [c] ++ rest) := by
  intro x y hxy hx
  rw [List.append_assoc, List.singleton_append] at hxy
  rw [List.length_append, List.length_singleton] at hx
  rcases Nat.lt_succ_iff_lt_or_eq.mp hx with hlt | heq
  · exact h x y hxy hlt
  · obtain ⟨rfl, rfl⟩ := List.append_inj hxy heq.symm
    exact hp

theorem UpTo.mono {P : Text → Text → Prop} {j k : Nat} {text : Text} (h : UpTo P k text)
    (hjk : j ≤ k) : UpTo P j text :=
  fun x y hxy hx => h x y hxy (lt_of_lt_of_le hx hjk)

/-- **Nothing that counts stands here**: outside quotes, no semicolon and no opener. -/
def Quiet (openers : List Text) (x y : Text) : Prop :=
  outside x = true → y.head? ≠ some ';' ∧ opens openers x y = none

/-- **No block is closed here**, if at least `n` characters are before. -/
def Unclosed (n : Nat) (x y : Text) : Prop :=
  n ≤ x.length → outside x = true → endsName x = false → closesBlock y = false

/-- **The first opener** of a text stands between `u` and `v`, and `n` is its length. -/
structure FirstOpener (openers : List Text) (u v : Text) (n : Nat) : Prop where
  /-- It is outside quotes. -/
  outside : outside u = true
  /-- It is an opener. -/
  opens : opens openers u v = some n
  /-- Nothing before it counts. -/
  quiet : UpTo (Quiet openers) u.length (u ++ v)

/-- Where the first opener stands something counts. -/
theorem FirstOpener.not_quiet {openers : List Text} {u v : Text} {n : Nat}
    (h : FirstOpener openers u v n) : ¬Quiet openers u v := by
  intro hquiet
  have hnone := (hquiet h.outside).2
  rw [h.opens] at hnone
  exact Option.some_ne_none n hnone

/-- An opener begins with a letter. -/
theorem opens_head {openers : List Text} {x y : Text} {n : Nat} (h : opens openers x y = some n) :
    ∃ c y', y = c :: y' ∧ isLetter c = true ∧ opener? openers y = some n := by
  rw [opens] at h
  split_ifs at h with hhead
  rw [Bool.and_eq_true, Option.any_eq_true] at hhead
  obtain ⟨⟨c, hc, hletter⟩, -⟩ := hhead
  obtain ⟨y', rfl⟩ := List.head?_eq_some_iff.mp hc
  exact ⟨c, y', rfl, hletter, h⟩

/-- An opener begins with no delimiter. -/
theorem FirstOpener.exists_head {openers : List Text} {u v : Text} {n : Nat}
    (h : FirstOpener openers u v n) : ∃ c v', v = c :: v' ∧ isDelimiter c = false := by
  obtain ⟨c, v', rfl, hletter, -⟩ := opens_head h.opens
  refine ⟨c, v', rfl, ?_⟩
  rw [Bool.eq_false_iff]
  intro hdel
  have hname := isNameChar_of_isLetter hletter
  rw [isNameChar_of_isDelimiter hdel] at hname
  exact Bool.false_ne_true hname

/-- An opener is not empty, lies in the text and holds no delimiter. -/
theorem FirstOpener.front {openers : List Text} (hopeners : Named openers) {u v : Text} {n : Nat}
    (h : FirstOpener openers u v n) :
    0 < n ∧ n ≤ v.length ∧ ∀ c ∈ v.take n, isDelimiter c = false := by
  obtain ⟨c, v', rfl, hletter, hopener⟩ := opens_head h.opens
  exact opener?_front hopeners hopener (isNameChar_of_isLetter hletter)

/-! ### The modes -/

/-- **What each mode stands for**, when `before` are the characters since the last cut and `rest` is
what comes next. -/
inductive Standing (openers : List Text) : Mode → Text → Text → Prop
  /-- Outside quotes, and nothing that counts has been read. -/
  | plain {before rest : Text} (hout : outside before = true)
    (hquiet : UpTo (Quiet openers) before.length (before ++ rest)) :
    Standing openers .plain before rest
  /-- Inside quotes, and nothing that counts has been read. -/
  | literal {before rest : Text} (hout : outside before = false)
    (hquiet : UpTo (Quiet openers) before.length (before ++ rest)) :
    Standing openers .literal before rest
  /-- Inside the first opener. -/
  | opening {owed n : Nat} {before rest u v : Text} (hwhole : before ++ rest = u ++ v)
    (hfirst : FirstOpener openers u v n) (hout : outside before = true)
    (hlow : u.length < before.length) (howed : before.length + (owed + 1) = u.length + n) :
    Standing openers (.block (owed + 1) false) before rest
  /-- Behind the first opener, and no block end has been read. -/
  | block {n : Nat} {quoted : Bool} {before rest u v : Text} (hwhole : before ++ rest = u ++ v)
    (hfirst : FirstOpener openers u v n) (hout : outside before = !quoted)
    (hlow : u.length + n ≤ before.length)
    (hopen : UpTo (Unclosed (u.length + n)) before.length (before ++ rest)) :
    Standing openers (.block 0 quoted) before rest
  /-- Inside the first block end behind the first opener. -/
  | closing {n : Nat} {before rest u v x : Text} (hwhole : before ++ rest = u ++ v)
    (hfirst : FirstOpener openers u v n) (hend : Mode.InBlockEnd x before rest)
    (hout : outside x = true) (hname : endsName x = false) (hlow : u.length + n ≤ x.length)
    (hopen : UpTo (Unclosed (u.length + n)) x.length (before ++ rest)) :
    Standing openers .closing before rest

namespace Standing

variable {openers : List Text}

/-- The reader counts off the characters of an opener. -/
theorem owed {n owed : Nat} {before rest u v : Text} (hwhole : before ++ rest = u ++ v)
    (hfirst : FirstOpener openers u v n) (hout : outside before = true)
    (hlow : u.length < before.length) (howed : before.length + owed = u.length + n) :
    Standing openers (.block owed false) before rest := by
  cases owed with
  | zero =>
    refine .block hwhole hfirst hout howed.ge fun x y _ hx hn => ?_
    omega
  | succ owed => exact .opening hwhole hfirst hout hlow howed

/-- Reading on in plain text. -/
theorem step_plain (hopeners : Named openers) {before rest : Text} {c : Char} (hc : c ≠ ';')
    (h : Standing openers .plain before (c :: rest)) :
    Standing openers (Mode.next openers (endsName before) c rest .plain) (before ++ [c]) rest := by
  cases h with
  | plain hout hquiet =>
    rw [Mode.next]
    split_ifs with hquote hletter
    · -- a quote is neither a semicolon nor a letter
      subst hquote
      refine .literal (by rw [outside_append_quote, hout]; rfl) (hquiet.step fun _ => ?_)
      have hnone : isLetter '\'' = false := by decide +kernel
      exact ⟨by simp, if_neg (by simp [hnone])⟩
    · have hopens : opens openers before (c :: rest) = opener? openers (c :: rest) :=
        if_pos hletter
      rw [← hopens]
      cases hopener : opens openers before (c :: rest) with
      | some n =>
        have hfirst : FirstOpener openers before (c :: rest) n := ⟨hout, hopener, hquiet⟩
        obtain ⟨hpos, -, -⟩ := hfirst.front hopeners
        refine owed (by simp) hfirst (by rwa [outside_append_of_ne before hquote]) (by simp) ?_
        rw [List.length_append, List.length_singleton]
        omega
      | none =>
        refine .plain (by rwa [outside_append_of_ne before hquote]) ?_
        exact hquiet.step fun _ => ⟨by simp [hc], hopener⟩
    · refine .plain (by rwa [outside_append_of_ne before hquote]) ?_
      exact hquiet.step fun _ => ⟨by simp [hc], if_neg hletter⟩

/-- Reading on in a literal. -/
theorem step_literal {before rest : Text} {c : Char}
    (h : Standing openers .literal before (c :: rest)) :
    Standing openers (Mode.next openers (endsName before) c rest .literal)
      (before ++ [c]) rest := by
  cases h with
  | literal hout hquiet =>
    have hstep : UpTo (Quiet openers) (before ++ [c]).length (before ++ [c] ++ rest) :=
      hquiet.step fun h => absurd (hout.symm.trans h) Bool.false_ne_true
    rw [Mode.next]
    split_ifs with hquote
    · subst hquote
      exact .plain (by rw [outside_append_quote, hout]; rfl) hstep
    · exact .literal (by rwa [outside_append_of_ne before hquote]) hstep

/-- Reading on in an opener: its characters are no quotes. -/
theorem step_opening (hopeners : Named openers) {n : Nat} {quoted : Bool} {before rest : Text}
    {c : Char} (h : Standing openers (.block (n + 1) quoted) before (c :: rest)) :
    Standing openers (.block n quoted) (before ++ [c]) rest := by
  cases h with
  | @opening _ n _ _ u v hwhole hfirst hout hlow howed =>
    obtain ⟨-, -, hfront⟩ := hfirst.front hopeners
    obtain ⟨w, rfl, rfl⟩ := exists_between hwhole hlow.le
    -- `w` is what has been read of the opener, and `c` belongs to it
    have hmem : c ∈ (w ++ c :: rest).take n := by
      rw [List.length_append] at howed
      obtain ⟨k, hk⟩ := Nat.exists_eq_add_of_lt (show w.length < n by omega)
      rw [hk, Nat.add_assoc, List.take_length_add_append, List.take_succ_cons]
      simp
    have hquote : c ≠ '\'' := by
      rintro rfl
      exact absurd (hfront _ hmem) (by decide)
    refine owed (by simp) hfirst (by rwa [outside_append_of_ne _ hquote]) ?_ ?_
    · rw [List.length_append, List.length_singleton]
      omega
    · rw [List.length_append, List.length_singleton]
      omega

/-- No line ends in an opener, and neither does the text. -/
theorem not_endLine (hopeners : Named openers) {n : Nat} {quoted : Bool} {before rest : Text}
    (h : Standing openers (.block (n + 1) quoted) before rest) :
    ¬(rest = [] ∨ ∃ c ∈ before.getLast?, isLineBreak c = true) := by
  cases h with
  | @opening _ n _ _ u v hwhole hfirst hout hlow howed =>
    obtain ⟨-, hle, hfront⟩ := hfirst.front hopeners
    obtain ⟨w, rfl, rfl⟩ := exists_between hwhole hlow.le
    rw [List.length_append] at hle howed hlow
    rintro (rfl | ⟨c, hc, hbreak⟩)
    · rw [List.length_nil] at hle
      omega
    · -- the last character read belongs to the opener, so it is no line break
      have hne : w ≠ [] := by
        rintro rfl
        simp at hlow
      rw [List.getLast?_append_of_ne_nil u hne] at hc
      have hmem : c ∈ (w ++ rest).take n := by
        rw [List.take_append]
        refine List.mem_append_left _ ?_
        rw [List.take_of_length_le (by omega)]
        exact List.mem_of_getLast? hc
      have hnone := hfront c hmem
      exact Bool.eq_false_iff.mp (isLineBreak_of_not_isDelimiter hnone) hbreak

/-- Reading on in a block. -/
theorem step_block {quoted : Bool} {before rest : Text} {c : Char}
    (h : Standing openers (.block 0 quoted) before (c :: rest)) :
    Standing openers (Mode.next openers (endsName before) c rest (.block 0 quoted))
      (before ++ [c]) rest := by
  cases h with
  | @block n _ _ _ u v hwhole hfirst hout hlow hopen =>
    have hwhole' : before ++ [c] ++ rest = u ++ v := by simpa using hwhole
    have hlow' : u.length + n ≤ (before ++ [c]).length := by
      rw [List.length_append]
      omega
    rw [Mode.next]
    split_ifs with hquote hclose
    · -- the flag is switched with the count
      subst hquote
      refine .block hwhole' hfirst (by rw [outside_append_quote, hout]) hlow' ?_
      exact hopen.step fun _ _ _ => closesBlock_cons (by decide) rest
    · -- the first block end
      simp only [Bool.and_eq_true, Bool.not_eq_true'] at hclose
      obtain ⟨⟨rfl, hname⟩, hclose⟩ := hclose
      refine .closing hwhole' hfirst (.start hclose before) hout hname hlow ?_
      rw [List.append_assoc]
      exact hopen
    · refine .block hwhole' hfirst (by rw [outside_append_of_ne before hquote, hout]) hlow' ?_
      refine hopen.step fun _ hout' hname => ?_
      rw [hout, Bool.not_eq_true'] at hout'
      simpa [hout', hname] using hclose

/-- Reading on in a block end. -/
theorem step_closing {before rest : Text} {c : Char} (hc : c ≠ ';')
    (h : Standing openers .closing before (c :: rest)) :
    Standing openers (Mode.next openers (endsName before) c rest .closing)
      (before ++ [c]) rest := by
  cases h with
  | closing hwhole hfirst hend hout hname hlow hopen =>
    rw [Mode.next, if_neg hc]
    refine .closing (by simpa using hwhole) hfirst (hend.step hc) hout hname hlow ?_
    rw [List.append_assoc]
    exact hopen

/-- **Reading keeps what the modes stand for.** -/
theorem invariant (hopeners : Named openers) : Reader.Invariant openers (Standing openers) where
  start rest := .plain rfl (UpTo.zero _ _)
  step mode before c rest hcuts h := by
    rcases mode with _ | _ | ⟨_ | owed, quoted⟩ | _
    · exact h.step_plain hopeners (by simpa [Mode.cuts] using hcuts)
    · exact h.step_literal
    · exact h.step_block
    · exact h.step_opening hopeners
    · exact h.step_closing (by simpa [Mode.cuts] using hcuts)
  endLine mode before rest hend h := by
    rcases mode with _ | _ | ⟨_ | owed, quoted⟩ | _
    · exact h
    · exact h
    · exact h
    · exact absurd hend (h.not_endLine hopeners)
    · exact h

end Standing

end SqlScript
