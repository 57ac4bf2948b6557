import Mathlib.Data.List.Basic
import SqlScript.Text.Blank
import SqlScript.Text.Letter
import SqlScript.Text.Lines
import SqlScript.Text.SameLetter

/-!
# Characters that no word can hold

The reader looks ahead for words, and what it finds must not depend on how the text goes on behind
the word. That is so because a word of name characters is never met at a blank character, a
semicolon, a slash or a quote, though letters are compared without their case and a character may
have many variants. The fact is about the tables: no case mapping and no variant leads to one of
these characters (`Text.letterKey_cases` lists what the mappings do lead to), and none of them is a
letter or a numeral.
-/

namespace SqlScript.Text

/-- The characters that may stand between two statements. -/
def isSeparator (c : Char) : Bool := isBlank c || c = ';' || c = '/'

/-- The characters that no word can hold. -/
def isDelimiter (c : Char) : Bool := isSeparator c || c = '\''

/-! ### Reading the tables -/

/-- A code point that a table covers lies in one of its ranges. -/
theorem exists_range_of_covers {t : List (Nat × Nat)} {n : Nat} (h : covers t n = true) :
    ∃ p ∈ t, p.1 ≤ n ∧ n ≤ p.2 := by
  induction t with
  | nil => simp [covers] at h
  | cons p rest ih =>
    rw [covers] at h
    split_ifs at h with hlt hle
    · exact ⟨p, List.mem_cons_self, Nat.le_of_not_lt hlt, hle⟩
    · obtain ⟨q, hq, hn⟩ := ih h
      exact ⟨q, List.mem_cons_of_mem _ hq, hn⟩

/-- Two tables whose ranges lie apart cover no code point in common. -/
theorem covers_eq_false {s t : List (Nat × Nat)}
    (h : ∀ p ∈ s, ∀ q ∈ t, p.2 < q.1 ∨ q.2 < p.1) {n : Nat} {p : Nat × Nat} (hp : p ∈ s)
    (hn : p.1 ≤ n ∧ n ≤ p.2) : covers t n = false := by
  by_contra hc
  obtain ⟨q, hq, hnq⟩ := exists_range_of_covers (Bool.not_eq_false _ ▸ hc)
  have := h p hp q hq
  omega

/-- A run moves `first`, `first + stride`, …, `last` and nothing else. -/
def Run.Moves (r : Run) (n : Nat) : Prop :=
  r.first ≤ n ∧ n ≤ r.last ∧ (n - r.first) % r.stride = 0

/-- What a map of runs gives comes from one of its runs, which moves the code point. -/
theorem exists_moves_of_follow {t : List Run} {n m : Nat} (h : follow t n = some m) :
    ∃ r ∈ t, r.Moves n ∧ m = r.image + (n - r.first) := by
  induction t with
  | nil => simp [follow] at h
  | cons r rest ih =>
    rw [follow] at h
    split_ifs at h with hlt hle hmod
    · exact ⟨r, List.mem_cons_self, ⟨Nat.le_of_not_lt hlt, hle, hmod⟩, (Option.some.inj h).symm⟩
    all_goals
      obtain ⟨q, hq, hn⟩ := ih h
      exact ⟨q, List.mem_cons_of_mem _ hq, hn⟩

theorem exists_run_of_follow {t : List Run} {n m : Nat} (h : follow t n = some m) :
    ∃ r ∈ t, r.first ≤ n ∧ n ≤ r.last ∧ m = r.image + (n - r.first) := by
  obtain ⟨r, hr, ⟨hfirst, hlast, -⟩, hm⟩ := exists_moves_of_follow h
  exact ⟨r, hr, hfirst, hlast, hm⟩

/-- What a table of single code points gives is one of its entries. -/
theorem mem_of_valueAt? {α : Type} {t : List (Nat × α)} {n : Nat} {a : α}
    (h : valueAt? t n = some a) : (n, a) ∈ t := by
  induction t with
  | nil => simp [valueAt?] at h
  | cons e rest ih =>
    rw [valueAt?] at h
    split_ifs at h with hlt heq
    · rw [heq, ← Option.some.inj h]
      exact List.mem_cons_self
    · exact List.mem_cons_of_mem _ (ih h)

theorem toNat_ofNat (n : Nat) : (Char.ofNat n).toNat = n ∨ (Char.ofNat n).toNat = 0 := by
  by_cases h : n.isValidChar
  · left
    rw [Char.ofNat, dif_pos h]
    exact UInt32.toNat_ofNatLT ..
  · right
    rw [Char.ofNat, dif_neg h]
    rfl

/-! ### What a character is compared by -/

/-- The first character of a lower-case form: the character itself, or one that a table leads to. -/
theorem toNat_head_lowerOf (c : Char) :
    ((lowerOf c).head?.getD c).toNat = c.toNat ∨ ((lowerOf c).head?.getD c).toNat = 0 ∨
      (∃ form, (c.toNat, form) ∈ longLower ∧
        form.head? = some ((lowerOf c).head?.getD c).toNat) ∨
      ∃ r ∈ lowerRuns, r.first ≤ c.toNat ∧ c.toNat ≤ r.last ∧
        ((lowerOf c).head?.getD c).toNat = r.image + (c.toNat - r.first) := by
  rw [lowerOf, mapped]
  rcases hlong : valueAt? longLower c.toNat with _ | form
  · rcases hrun : follow lowerRuns c.toNat with _ | n
    · exact Or.inl rfl
    · obtain ⟨r, hr, hfirst, hlast, rfl⟩ := exists_run_of_follow hrun
      rcases toNat_ofNat (r.image + (c.toNat - r.first)) with hn | hn
      · exact Or.inr (Or.inr (Or.inr ⟨r, hr, hfirst, hlast, hn⟩))
      · exact Or.inr (Or.inl hn)
  · rcases form with _ | ⟨n, form⟩
    · exact Or.inl rfl
    · rcases toNat_ofNat n with hn | hn
      · refine Or.inr (Or.inr (Or.inl ⟨_, mem_of_valueAt? hlong, ?_⟩))
        exact congrArg some hn.symm
      · exact Or.inr (Or.inl hn)

/-- **What a character is compared by**: itself, or a code point that one of the tables leads to. -/
theorem letterKey_cases (c : Char) :
    letterKey c = c.toNat ∨ letterKey c = 0 ∨ (∃ e ∈ variants, letterKey c = e.2) ∨
      (∃ e ∈ longLower, e.2.head? = some (letterKey c)) ∨
      ∃ r ∈ lowerRuns, r.first ≤ c.toNat ∧ c.toNat ≤ r.last ∧
        letterKey c = r.image + (c.toNat - r.first) := by
  have hkey : letterKey c = (valueAt? variants ((lowerOf c).head?.getD c).toNat).getD
      ((lowerOf c).head?.getD c).toNat := rfl
  rcases hv : valueAt? variants ((lowerOf c).head?.getD c).toNat with _ | v
  · rw [hv, Option.getD_none] at hkey
    rw [hkey]
    rcases toNat_head_lowerOf c with h | h | h | h
    · exact Or.inl h
    · exact Or.inr (Or.inl h)
    · obtain ⟨form, hform, h⟩ := h
      exact Or.inr (Or.inr (Or.inr (Or.inl ⟨_, hform, h⟩)))
    · exact Or.inr (Or.inr (Or.inr (Or.inr h)))
  · rw [hv, Option.getD_some] at hkey
    exact Or.inr (Or.inr (Or.inl ⟨_, mem_of_valueAt? hv, hkey⟩))

/-! ### Delimiters -/

/-- The delimiters as a table. -/
def delimiters : List (Nat × Nat) := (0x27, 0x27) :: (0x2F, 0x2F) :: (0x3B, 0x3B) :: blanks

theorem exists_range_of_isDelimiter {c : Char} (h : isDelimiter c = true) :
    ∃ p ∈ delimiters, p.1 ≤ c.toNat ∧ c.toNat ≤ p.2 := by
  simp only [isDelimiter, isSeparator, Bool.or_eq_true, decide_eq_true_eq] at h
  rcases h with ((h | rfl) | rfl) | rfl
  · obtain ⟨p, hp, hn⟩ := exists_range_of_covers h
    exact ⟨p, by simp [delimiters, hp], hn⟩
  · exact ⟨(0x3B, 0x3B), by simp [delimiters], by decide⟩
  · exact ⟨(0x2F, 0x2F), by simp [delimiters], by decide⟩
  · exact ⟨(0x27, 0x27), by simp [delimiters], by decide⟩

/-- No delimiter is a letter or a numeral, so none belongs to a name. -/
theorem isNameChar_of_isDelimiter {c : Char} (h : isDelimiter c = true) : isNameChar c = false := by
  have hletters : ∀ p ∈ delimiters, ∀ q ∈ letters, p.2 < q.1 ∨ q.2 < p.1 := by decide +kernel
  have hnumerals : ∀ p ∈ delimiters, ∀ q ∈ numerals, p.2 < q.1 ∨ q.2 < p.1 := by decide +kernel
  have hsigns : ∀ p ∈ delimiters, ∀ n ∈ ['_', '$', '#'].map Char.toNat,
      p.2 < n ∨ n < p.1 := by decide +kernel
  obtain ⟨p, hp, hn⟩ := exists_range_of_isDelimiter h
  have hsign : ∀ d ∈ ['_', '$', '#'], c ≠ d := by
    rintro d hd rfl
    have := hsigns p hp c.toNat (List.mem_map_of_mem hd)
    omega
  rw [isNameChar, isAlphanumeric, isLetter, covers_eq_false hletters hp hn,
    covers_eq_false hnumerals hp hn]
  simp [hsign]

/-- A case mapping or a variant leads to a delimiter from nowhere. -/
theorem letterKey_of_delimiters {c : Char} {p : Nat × Nat} (hp : p ∈ delimiters)
    (hn : p.1 ≤ letterKey c ∧ letterKey c ≤ p.2) : letterKey c = c.toNat := by
  have hzero : ∀ p ∈ delimiters, 0 < p.1 := by decide +kernel
  have hvariants : ∀ p ∈ delimiters, ∀ e ∈ variants, p.2 < e.2 ∨ e.2 < p.1 := by decide +kernel
  have hlong : ∀ p ∈ delimiters, ∀ e ∈ longLower, ∀ n ∈ e.2.head?, p.2 < n ∨ n < p.1 := by
    decide +kernel
  have hruns : ∀ p ∈ delimiters, ∀ r ∈ lowerRuns,
      p.2 < r.image ∨ r.image + (r.last - r.first) < p.1 := by decide +kernel
  rcases letterKey_cases c with h | h | ⟨e, he, h⟩ | ⟨e, he, h⟩ | ⟨r, hr, hfirst, hlast, h⟩
  · exact h
  · have := hzero p hp
    omega
  · have := hvariants p hp e he
    omega
  · have := hlong p hp e he _ h
    omega
  · have := hruns p hp r hr
    omega

/-- A delimiter has no case and no variants. -/
theorem letterKey_of_isDelimiter {c : Char} (h : isDelimiter c = true) :
    letterKey c = c.toNat := by
  have hvariants : ∀ p ∈ delimiters, ∀ e ∈ variants, p.2 < e.1 ∨ e.1 < p.1 := by decide +kernel
  have hlong : ∀ p ∈ delimiters, ∀ e ∈ longLower, p.2 < e.1 ∨ e.1 < p.1 := by decide +kernel
  have hruns : ∀ p ∈ delimiters, ∀ r ∈ lowerRuns, p.2 < r.first ∨ r.last < p.1 := by
    decide +kernel
  obtain ⟨p, hp, hn⟩ := exists_range_of_isDelimiter h
  have hlong' : valueAt? longLower c.toNat = none := by
    by_contra hne
    obtain ⟨form, hform⟩ := Option.ne_none_iff_exists'.mp hne
    have := hlong p hp _ (mem_of_valueAt? hform)
    omega
  have hruns' : follow lowerRuns c.toNat = none := by
    by_contra hne
    obtain ⟨n, hfollow⟩ := Option.ne_none_iff_exists'.mp hne
    obtain ⟨r, hr, hfirst, hlast, -⟩ := exists_run_of_follow hfollow
    have := hruns p hp r hr
    omega
  have hvariants' : valueAt? variants c.toNat = none := by
    by_contra hne
    obtain ⟨v, hv⟩ := Option.ne_none_iff_exists'.mp hne
    have := hvariants p hp _ (mem_of_valueAt? hv)
    omega
  simp [letterKey, lowerOf, mapped, hlong', hruns', hvariants']

/-- **No name character is met at a delimiter**, letters compared without their case. -/
theorem sameLetter_delimiter {w c : Char} (hw : isNameChar w = true) (hc : isDelimiter c = true) :
    sameLetter w c = false := by
  rw [sameLetter, beq_eq_false_iff_ne]
  intro hkey
  have hkc := letterKey_of_isDelimiter hc
  obtain ⟨p, hp, hn⟩ := exists_range_of_isDelimiter hc
  have hkw := letterKey_of_delimiters (c := w) hp (by rwa [hkey, hkc])
  have hwc : w = c := by
    rw [← Char.ofNat_toNat w, ← Char.ofNat_toNat c, ← hkw, ← hkc, hkey]
  rw [hwc, isNameChar_of_isDelimiter hc] at hw
  exact Bool.false_ne_true hw

/-! ### The kinds of delimiter -/

theorem isDelimiter_of_isBlank {c : Char} (h : isBlank c = true) : isDelimiter c = true := by
  simp [isDelimiter, isSeparator, h]

/-- What is no delimiter is not blank. -/
theorem isBlank_of_not_isDelimiter {c : Char} (h : isDelimiter c = false) : isBlank c = false := by
  rw [Bool.eq_false_iff]
  intro hblank
  rw [isDelimiter_of_isBlank hblank] at h
  exact Bool.false_ne_true h.symm

theorem isSeparator_of_isBlank {c : Char} (h : isBlank c = true) : isSeparator c = true := by
  simp [isSeparator, h]

theorem isDelimiter_of_isSeparator {c : Char} (h : isSeparator c = true) :
    isDelimiter c = true := by
  simp [isDelimiter, h]

/-- A line break is blank. -/
theorem isBlank_of_isLineBreak {c : Char} (h : isLineBreak c = true) : isBlank c = true := by
  have hblank : ∀ p ∈ lineBreaks, ∀ k ∈ List.range (p.2 - p.1 + 1),
      covers blanks (p.1 + k) = true := by decide +kernel
  obtain ⟨p, hp, hfirst, hlast⟩ := exists_range_of_covers h
  have := hblank p hp (c.toNat - p.1) (List.mem_range.mpr (by omega))
  rwa [Nat.add_sub_cancel' hfirst] at this

/-- What is no delimiter is no line break. -/
theorem isLineBreak_of_not_isDelimiter {c : Char} (h : isDelimiter c = false) :
    isLineBreak c = false := by
  rw [Bool.eq_false_iff]
  intro hbreak
  exact Bool.eq_false_iff.mp (isBlank_of_not_isDelimiter h) (isBlank_of_isLineBreak hbreak)

/-- A line feed is blank. -/
theorem isBlank_newline : ∀ c ∈ ['\n'], isBlank c = true :=
  List.forall_mem_singleton.mpr (by decide)

theorem isNameChar_of_isLetter {c : Char} (h : isLetter c = true) : isNameChar c = true := by
  rw [isNameChar, isAlphanumeric, h, Bool.true_or, Bool.or_true]

/-! ### Letters that are met as themselves -/

/-- What is the same letter as `B` or `D` is a letter: no variant leads there. -/
theorem isLetter_of_sameLetter {w c : Char} (hw : w ∈ ['B', 'D']) (h : sameLetter w c = true) :
    isLetter c = true := by
  have hkey : ∀ n ∈ ['B', 'D'].map letterKey, n ∈ [0x62, 0x64] := by decide +kernel
  have hself : ∀ n ∈ [0x62, 0x64], n ≠ 0 ∧ covers letters n = true := by decide +kernel
  have hvariants : ∀ n ∈ [0x62, 0x64], ∀ e ∈ variants, n ≠ e.2 := by decide +kernel
  have hlong : ∀ n ∈ [0x62, 0x64], ∀ e ∈ longLower, e.2.head? ≠ some n := by decide +kernel
  have hruns : ∀ n ∈ [0x62, 0x64], ∀ r ∈ lowerRuns, r.image ≤ n →
      n ≤ r.image + (r.last - r.first) → r.first = 0x41 ∧ r.last = 0x5A := by decide +kernel
  have hmem : letterKey c ∈ [0x62, 0x64] := (beq_iff_eq.mp h) ▸ hkey _ (List.mem_map_of_mem hw)
  rcases letterKey_cases c with h | h | ⟨e, he, h⟩ | ⟨e, he, h⟩ | ⟨r, hr, hfirst, hlast, h⟩
  · rw [isLetter, ← h]
    exact (hself _ hmem).2
  · exact absurd h (hself _ hmem).1
  · exact absurd h (hvariants _ hmem e he)
  · exact absurd h (hlong _ hmem e he)
  · obtain ⟨h1, h2⟩ := hruns _ hmem r hr (by omega) (by omega)
    rw [h1] at hfirst
    rw [h2] at hlast
    rw [isLetter, letters, covers, if_neg (by omega), if_pos hlast]

end SqlScript.Text
