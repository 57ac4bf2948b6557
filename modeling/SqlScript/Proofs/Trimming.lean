import Mathlib.Data.List.DropRight
import Mathlib.Data.List.TakeWhile
import SqlScript.Directive
import SqlScript.Piece
import SqlScript.Proofs.Delimiters

/-!
# What trimming and cleaning take away

Trimming is determined by what it leaves: a text with no blank character at either end
(`Text.Tight`), blank characters on both sides of it (`Text.trim_append_append`). Everything about
trimmed lines and trimmed pieces is read off that one statement. The statement of a piece is then a
slice of its body (`Piece.exists_text`): blank characters before it, and behind it what cleaning cut
away, which is separators and nothing else.
-/

namespace SqlScript.Text

/-! ### Trimming -/

/-- **No blank character stands at either end.** -/
def Tight (t : Text) : Prop :=
  (∀ c ∈ t.head?, isBlank c = false) ∧ ∀ c ∈ t.getLast?, isBlank c = false

/-- A tight text does not begin with a line feed. -/
theorem Tight.head_ne {t : Text} (h : Tight t) : t.head? ≠ some '\n' := fun hc =>
  absurd (h.1 _ hc) (by decide)

/-- A tight text does not end with a line break. -/
theorem Tight.last_ne {t : Text} (h : Tight t) : ∀ c ∈ t.getLast?, isLineBreak c = false := by
  intro c hc
  rw [Bool.eq_false_iff]
  intro hbreak
  have hblank := h.2 c hc
  rw [isBlank_of_isLineBreak hbreak] at hblank
  exact Bool.false_ne_true hblank.symm

theorem getLast?_trimEnd (t : Text) : ∀ c ∈ (trimEnd t).getLast?, isBlank c = false := by
  intro c hc
  have hne : t.rdropWhile isBlank ≠ [] := by
    intro h
    rw [show trimEnd t = t.rdropWhile isBlank from rfl, h] at hc
    simp at hc
  have hlast := List.rdropWhile_last_not isBlank t hne
  rw [show trimEnd t = t.rdropWhile isBlank from rfl, List.getLast?_eq_some_getLast hne,
    Option.mem_some_iff] at hc
  rw [← hc]
  exact Bool.eq_false_iff.mpr hlast

theorem exists_trimEnd (t : Text) :
    ∃ trail, t = trimEnd t ++ trail ∧ ∀ c ∈ trail, isBlank c = true :=
  ⟨t.rtakeWhile isBlank, List.rdropWhile_append_rtakeWhile.symm,
    fun _ hc => List.mem_rtakeWhile_imp hc⟩

theorem trimEnd_append (t u : Text) :
    trimEnd (t ++ u) = if (trimEnd u).isEmpty then trimEnd t else t ++ trimEnd u := by
  rw [trimEnd, List.reverse_append, List.dropWhile_append, trimEnd, List.isEmpty_reverse]
  split_ifs
  · rfl
  · simp

theorem trimEnd_of_blank {t : Text} (ht : ∀ c ∈ t, isBlank c = true) : trimEnd t = [] :=
  List.rdropWhile_eq_nil_iff.mpr ht

theorem trimEnd_eq_self {t : Text} (ht : ∀ c ∈ t.getLast?, isBlank c = false) : trimEnd t = t :=
  List.rdropWhile_eq_self_iff.mpr fun hne =>
    Bool.eq_false_iff.mp (ht _ (List.getLast?_eq_some_getLast hne))

theorem head?_dropWhile_isBlank (t : Text) :
    ∀ c ∈ (t.dropWhile isBlank).head?, isBlank c = false := by
  intro c hc
  have := List.head?_dropWhile_not isBlank t
  rw [Option.mem_def.mp hc] at this
  simpa using this

/-- **Trimming leaves the tight text between the blank characters.** -/
theorem trim_append_append {lead t trail : Text} (hlead : ∀ c ∈ lead, isBlank c = true)
    (ht : Tight t) (hne : t ≠ []) (htrail : ∀ c ∈ trail, isBlank c = true) :
    trim (lead ++ t ++ trail) = t := by
  obtain ⟨c, t', rfl⟩ := List.exists_cons_of_ne_nil hne
  have hc : isBlank c = false := ht.1 c rfl
  rw [trim, List.append_assoc, List.dropWhile_append_of_pos hlead, List.cons_append,
    List.dropWhile_cons_of_neg (by simp [hc]), ← List.cons_append, trimEnd_append,
    trimEnd_of_blank htrail, List.isEmpty_nil, if_pos rfl, trimEnd_eq_self ht.2]

theorem trim_of_blank {t : Text} (ht : ∀ c ∈ t, isBlank c = true) : trim t = [] := by
  rw [trim, List.dropWhile_eq_nil_iff.mpr ht]
  rfl

theorem trim_eq_self {t : Text} (ht : Tight t) : trim t = t := by
  rcases eq_or_ne t [] with rfl | hne
  · rfl
  · simpa using trim_append_append (List.forall_mem_nil _) ht hne (List.forall_mem_nil _)

/-- A text is what trimming leaves between blank characters. -/
theorem exists_trim (t : Text) :
    ∃ trail, t = t.takeWhile isBlank ++ trim t ++ trail ∧ ∀ c ∈ trail, isBlank c = true := by
  obtain ⟨trail, h, htrail⟩ := exists_trimEnd (t.dropWhile isBlank)
  refine ⟨trail, ?_, htrail⟩
  rw [trim, List.append_assoc, ← h, List.takeWhile_append_dropWhile]

theorem tight_trim (t : Text) : Tight (trim t) := by
  refine ⟨fun c hc => ?_, getLast?_trimEnd _⟩
  obtain ⟨trail, h, -⟩ := exists_trimEnd (t.dropWhile isBlank)
  refine head?_dropWhile_isBlank t c ?_
  rw [h, List.head?_append_of_ne_nil]
  · exact hc
  · rintro hnil
    rw [trim, hnil] at hc
    simp at hc

theorem isBlank_of_mem_takeWhile {t : Text} : ∀ c ∈ t.takeWhile isBlank, isBlank c = true :=
  fun _ hc => List.mem_takeWhile_imp hc

/-- A text that is not all blank is not empty when it is trimmed. -/
theorem trim_ne_nil {t : Text} {c : Char} (hc : c ∈ t) (hblank : isBlank c = false) :
    trim t ≠ [] := by
  intro h
  obtain ⟨trail, ht, htrail⟩ := exists_trim t
  rw [h, List.append_nil] at ht
  rw [ht] at hc
  rcases List.mem_append.mp hc with hc | hc
  · rw [isBlank_of_mem_takeWhile c hc] at hblank
    exact Bool.false_ne_true hblank.symm
  · rw [htrail c hc] at hblank
    exact Bool.false_ne_true hblank.symm

/-- Where nothing is left by trimming there were blank characters only. -/
theorem isBlank_of_trim_eq_nil {t : Text} (h : trim t = []) : ∀ c ∈ t, isBlank c = true := by
  intro c hc
  by_contra hblank
  exact trim_ne_nil hc (Bool.eq_false_iff.mpr hblank) h

/-- Nothing but blank characters is counted in a blank text. -/
theorem count_of_blank {t : Text} {mark : Char} (ht : ∀ c ∈ t, isBlank c = true)
    (hmark : isBlank mark = false) : t.count mark = 0 := by
  refine List.count_eq_zero_of_not_mem fun hmem => ?_
  rw [ht mark hmem] at hmark
  exact Bool.false_ne_true hmark.symm

/-- Lines that trimming leaves nothing of make up a blank text. -/
theorem isBlank_of_mem_flatten {ls : List Text} (h : ∀ l ∈ ls, trim l = []) :
    ∀ c ∈ ls.flatten, isBlank c = true := by
  intro c hc
  obtain ⟨l, hl, hcl⟩ := List.mem_flatten.mp hc
  exact isBlank_of_trim_eq_nil (h l hl) c hcl

/-- Blank characters behind a text are trimmed away. -/
theorem trim_append_blank (t : Text) {u : Text} (hu : ∀ c ∈ u, isBlank c = true) :
    trim (t ++ u) = trim t := by
  rw [trim, trim, List.dropWhile_append, List.dropWhile_eq_nil_iff.mpr hu]
  split_ifs with h
  · rw [List.isEmpty_iff.mp h]
  · rw [trimEnd_append, trimEnd_of_blank hu, List.isEmpty_nil, if_pos rfl]

/-- Blank characters before a text are trimmed away. -/
theorem trim_blank_append {u : Text} (hu : ∀ c ∈ u, isBlank c = true) (t : Text) :
    trim (u ++ t) = trim t := by
  rw [trim, List.dropWhile_append_of_pos hu, ← trim]

/-- **Trimming a text with something before it keeps its end**, if there is anything but blank
characters in it. -/
theorem exists_trim_append {b : Text} (hb : trim b ≠ []) (a : Text) :
    ∃ m, trim (a ++ b) = m ++ trim b := by
  rw [trim, List.dropWhile_append]
  split_ifs with h
  · exact ⟨[], rfl⟩
  · have hend : trimEnd b = b.takeWhile isBlank ++ trim b := by
      conv_lhs => rw [← List.takeWhile_append_dropWhile (p := isBlank) (l := b)]
      rw [trimEnd_append, if_neg (by rwa [List.isEmpty_iff]), trim]
    rw [trimEnd_append, hend, if_neg (by simp [hb]), ← List.append_assoc]
    exact ⟨_, rfl⟩

/-- Trimming a text with something behind it keeps its beginning, if it does not end blank. -/
theorem exists_trim_append_left {a : Text} (ha : ∃ c ∈ a.getLast?, isBlank c = false) (b : Text) :
    ∃ m, trim (a ++ b) = trim a ++ m := by
  obtain ⟨c, hc, hblank⟩ := ha
  have hne : a.dropWhile isBlank ≠ [] := by
    intro h
    rw [List.dropWhile_eq_nil_iff.mp h c (List.mem_of_getLast? hc)] at hblank
    exact Bool.false_ne_true hblank.symm
  have hlast : ∀ d ∈ (a.dropWhile isBlank).getLast?, isBlank d = false := by
    intro d hd
    have h := List.takeWhile_append_dropWhile (p := isBlank) (l := a)
    rw [← h, List.getLast?_append_of_ne_nil _ hne] at hc
    rwa [Option.mem_unique hd hc]
  rw [trim, trim, List.dropWhile_append, if_neg (by rwa [List.isEmpty_iff]), trimEnd_append,
    trimEnd_eq_self hlast]
  split_ifs
  · exact ⟨[], by simp⟩
  · exact ⟨_, rfl⟩

end SqlScript.Text

namespace SqlScript

open SqlScript.Text

/-! ### Lone slashes -/

/-- A line that is a lone slash, trimmed, holds blank characters and that slash. -/
theorem Directive.exists_of_isLoneSlash {line : Text} (h : Directive.isLoneSlash line = true) :
    ∃ lead trail, line = lead ++ '/' :: trail ∧ (∀ c ∈ lead, isBlank c = true) ∧
      ∀ c ∈ trail, isBlank c = true := by
  obtain ⟨trail, hline, htrail⟩ := exists_trim line
  rw [Directive.isLoneSlash, beq_iff_eq] at h
  refine ⟨line.takeWhile isBlank, trail, ?_, isBlank_of_mem_takeWhile, htrail⟩
  rw [h] at hline
  simpa using hline

/-- A blank line is no lone slash. -/
theorem Directive.isLoneSlash_of_blank {line : Text} (h : ∀ c ∈ line, isBlank c = true) :
    Directive.isLoneSlash line = false := by
  rw [Directive.isLoneSlash, trim_of_blank h]
  rfl

theorem Directive.isSeparator_of_isLoneSlash {line : Text}
    (h : Directive.isLoneSlash line = true) : ∀ c ∈ line, isSeparator c = true := by
  obtain ⟨lead, trail, rfl, hlead, htrail⟩ := Directive.exists_of_isLoneSlash h
  intro c hc
  rcases List.mem_append.mp hc with hc | hc
  · exact isSeparator_of_isBlank (hlead c hc)
  · rcases List.mem_cons.mp hc with rfl | hc
    · rfl
    · exact isSeparator_of_isBlank (htrail c hc)

/-- A lone slash that does not end blank ends with its slash. -/
theorem Directive.getLast?_of_isLoneSlash {line : Text} (h : Directive.isLoneSlash line = true)
    (hlast : ∀ c ∈ line.getLast?, isBlank c = false) : line.getLast? = some '/' := by
  obtain ⟨lead, trail, rfl, -, htrail⟩ := Directive.exists_of_isLoneSlash h
  rcases List.eq_nil_or_concat trail with rfl | ⟨trail, c, rfl⟩
  · simp
  · have hline : lead ++ '/' :: trail.concat c = (lead ++ '/' :: trail) ++ [c] := by simp
    have hblank := htrail c (by simp)
    rw [hlast c (hline ▸ List.getLast?_concat)] at hblank
    exact absurd hblank Bool.false_ne_true

namespace Piece

/-! ### What a piece is cleaned to -/

/-- **What dropping a mark takes away**: nothing, or blank characters and the mark behind them. -/
def Dropped (mark : Char) (junk : Text) : Prop :=
  junk = [] ∨ ∃ gap, junk = gap ++ [mark] ∧ ∀ c ∈ gap, isBlank c = true

/-- **Dropping a mark** takes it away once, if the text ends with it. -/
theorem exists_dropped (mark : Char) (t : Text) :
    ∃ junk, t = dropMark mark t ++ junk ∧ Dropped mark junk ∧
      (junk = [] → (dropMark mark t).getLast? ≠ some mark) := by
  rw [dropMark]
  split_ifs with h
  · obtain ⟨gap, htrim, hgap⟩ := exists_trimEnd t.dropLast
    refine ⟨gap ++ [mark], ?_, Or.inr ⟨gap, rfl, hgap⟩, by simp⟩
    rw [← List.append_assoc, ← htrim, List.dropLast_append_getLast? mark h]
  · exact ⟨[], by simp, Or.inl rfl, fun _ => h⟩

namespace Dropped

variable {mark : Char} {junk : Text}

theorem eq_or_blank (h : Dropped mark junk) : ∀ c ∈ junk, c = mark ∨ isBlank c = true := by
  rcases h with rfl | ⟨gap, rfl, hgap⟩
  · simp
  · intro c hc
    rcases List.mem_append.mp hc with hc | hc
    · exact Or.inr (hgap c hc)
    · exact Or.inl (List.mem_singleton.mp hc)

theorem separator (h : Dropped mark junk) (hmark : isSeparator mark = true) :
    ∀ c ∈ junk, isSeparator c = true := by
  intro c hc
  rcases h.eq_or_blank c hc with rfl | hc
  · exact hmark
  · exact isSeparator_of_isBlank hc

theorem exists_mem (h : Dropped mark junk) (hne : junk ≠ []) : mark ∈ junk := by
  rcases h with rfl | ⟨gap, rfl, -⟩
  · exact absurd rfl hne
  · simp

/-- A mark that is dropped is dropped once. -/
theorem count_le (h : Dropped mark junk) (hmark : isBlank mark = false) : junk.count mark ≤ 1 := by
  rcases h with rfl | ⟨gap, rfl, hgap⟩
  · simp
  · simp [count_of_blank hgap hmark]

/-- No other mark is dropped with it. -/
theorem count_eq_zero (h : Dropped mark junk) (other : Char) (hother : isBlank other = false)
    (hne : other ≠ mark) : junk.count other = 0 := by
  refine List.count_eq_zero_of_not_mem fun hmem => ?_
  rcases h.eq_or_blank other hmem with heq | hblank
  · exact hne heq
  · rw [hblank] at hother
    exact Bool.false_ne_true hother.symm

end Dropped

/-- A text that is tight stays so without a mark. -/
theorem tight_dropMark (mark : Char) {t : Text} (ht : Tight t) : Tight (dropMark mark t) := by
  obtain ⟨junk, hsplit, -⟩ := exists_dropped mark t
  refine ⟨fun c hc => ht.1 c ?_, ?_⟩
  · rw [hsplit, List.head?_append_of_ne_nil]
    · exact hc
    · rintro hnil
      rw [hnil] at hc
      simp at hc
  · rw [dropMark]
    split_ifs
    · exact getLast?_trimEnd _
    · exact ht.2

/-- **What cleaning takes away** behind the text of a statement: blank characters, one slash at the
most, and before that one semicolon at the most, if the statement is simple. -/
structure Cleaned (kind : Kind) (text junk : Text) : Prop where
  /-- Nothing but separators is taken away. -/
  separator : ∀ c ∈ junk, isSeparator c = true
  /-- At most one slash is. -/
  slash : junk.count '/' ≤ 1
  /-- At most one semicolon is, and none behind a block. -/
  semicolon : junk.count ';' ≤ if kind = .simple then 1 else 0
  /-- A slash is left at the end only if a mark behind it was taken away. -/
  lastSlash : text.getLast? = some '/' → ∃ c ∈ junk, isBlank c = false
  /-- A simple statement is left with a semicolon only if another was taken away. -/
  lastSemicolon : kind = .simple → text.getLast? = some ';' → ';' ∈ junk

/-- A slash that was dropped behind a text, and a semicolon that was dropped before that unless the
text is a block. -/
theorem cleaned_of_dropped {kind : Kind} {text semi slash trail : Text} (hsemi : Dropped ';' semi)
    (hkind : kind = .block → semi = []) (hslash : Dropped '/' slash)
    (htrail : ∀ c ∈ trail, isBlank c = true)
    (hlast : semi = [] → slash = [] → text.getLast? ≠ some '/')
    (hlast' : kind = .simple → semi = [] → text.getLast? ≠ some ';') :
    Cleaned kind text (semi ++ slash ++ trail) where
  separator := by
    refine List.forall_mem_append.mpr ⟨List.forall_mem_append.mpr ⟨?_, ?_⟩, fun c hc => ?_⟩
    · exact hsemi.separator rfl
    · exact hslash.separator rfl
    · exact isSeparator_of_isBlank (htrail c hc)
  slash := by
    have hcount := hslash.count_le (by decide)
    rw [List.count_append, List.count_append, hsemi.count_eq_zero '/' (by decide) (by decide),
      count_of_blank htrail (by decide)]
    omega
  semicolon := by
    have hcount := hsemi.count_le (by decide)
    rw [List.count_append, List.count_append, hslash.count_eq_zero ';' (by decide) (by decide),
      count_of_blank htrail (by decide)]
    cases kind with
    | simple => simpa using hcount
    | block => simp [hkind rfl]
  lastSlash htext := by
    rcases eq_or_ne semi [] with hnil | hne
    · have hne : slash ≠ [] := fun h => hlast hnil h htext
      exact ⟨'/', by simp [hslash.exists_mem hne], by decide⟩
    · exact ⟨';', by simp [hsemi.exists_mem hne], by decide⟩
  lastSemicolon hsimple htext := by
    have hne : semi ≠ [] := fun h => hlast' hsimple h htext
    simp [hsemi.exists_mem hne]

/-- **The text of a piece is a slice of its body.** Blank characters stand before it, and behind it
what was taken away by cleaning. -/
theorem exists_cleaned (p : Piece) :
    ∃ junk, p.body = p.body.takeWhile isBlank ++ p.text ++ junk ∧ Cleaned p.kind p.text junk ∧
      Tight p.text := by
  obtain ⟨trail, hbody, htrail⟩ := exists_trim p.body
  obtain ⟨slash, hslash, hdropped, hlast⟩ := exists_dropped '/' (trim p.body)
  have htight := tight_dropMark '/' (tight_trim p.body)
  rw [text]
  cases p.kind with
  | block =>
    refine ⟨[] ++ slash ++ trail, ?_, ?_, htight⟩
    · conv_lhs => rw [hbody, hslash]
      simp
    · exact cleaned_of_dropped (Or.inl rfl) (fun _ => rfl) hdropped htrail (fun _ => hlast)
        (by simp)
  | simple =>
    obtain ⟨semi, hsemi, hdropped', hlast'⟩ := exists_dropped ';' (dropMark '/' (trim p.body))
    refine ⟨semi ++ slash ++ trail, ?_, ?_, tight_dropMark ';' htight⟩
    · conv_lhs => rw [hbody, hslash, hsemi]
      simp
    · refine cleaned_of_dropped hdropped' (by simp) hdropped htrail (fun hnil hnil' => ?_)
        fun _ => hlast'
      -- without a semicolon what is left is what dropping the slash has left
      rw [hnil, List.append_nil] at hsemi
      rw [← hsemi]
      exact hlast hnil'

theorem exists_text (p : Piece) :
    ∃ junk, p.body = p.body.takeWhile isBlank ++ p.text ++ junk ∧
      (∀ c ∈ junk, isSeparator c = true) ∧ Tight p.text := by
  obtain ⟨junk, hbody, hcleaned, htight⟩ := p.exists_cleaned
  exact ⟨junk, hbody, hcleaned.separator, htight⟩

/-- The text of a piece depends on its trimmed body only. -/
theorem text_congr (kind : Kind) {body body' : Text} (h : trim body = trim body')
    (mark mark' : Text) : text ⟨kind, body, mark⟩ = text ⟨kind, body', mark'⟩ := by
  simp only [text, h]

/-- **Cleaning leaves a tight body as it is** if it does not end with a mark. -/
theorem text_eq_body {p : Piece} (ht : Tight p.body) (hslash : p.body.getLast? ≠ some '/')
    (hsemi : p.kind = .simple → p.body.getLast? ≠ some ';') : p.text = p.body := by
  have hbare : dropMark '/' (trim p.body) = p.body := by
    rw [trim_eq_self ht, dropMark, if_neg hslash]
  rw [text, hbare]
  cases hk : p.kind with
  | block => rfl
  | simple => exact if_neg (hsemi hk)

end Piece

end SqlScript
