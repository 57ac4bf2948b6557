import SqlScript.Proofs.Phrasing
import SqlScript.Proofs.Terminators

/-!
# Keywords in upper case

Whether a statement is a block is asked twice, and not in the same way. The reader compares letters
one by one without their case; the message looks at the first word in upper case. This file compares
the two. A character that is met as a capital letter has it as its upper-case form
(`Text.upperOf_of_sameLetter`), with two exceptions: the dotted `İ` is met as `I` and the Kelvin
sign as `K`, and both are capitals themselves. No keyword has a `K`, so it is the dotted `İ` alone
that makes a difference (`Word.Spells.prefix_upper_iff`).

A statement that begins with a keyword is a block, and it is spoken of as one unless its keyword is
spelled with a dotted `İ` (`Script.message_of_mem_split`).
-/

namespace SqlScript

open SqlScript.Text SqlScript.Word

/-! ### Characters that are met as a capital letter -/

namespace Text

/-- The code points of the capital letters of ASCII. -/
def capitals : List Nat := List.range' 0x41 26

/-- The code points of the small letters of ASCII. -/
def smallLetters : List Nat := List.range' 0x61 26

/-- The small letters, each with the lower-case forms that are compared by it: itself, and the
variants of `i` and `s`. -/
def lowerForms : List (Nat × Nat) :=
  smallLetters.map (fun n => (n, n)) ++ [(0x69, 0x131), (0x73, 0x17F)]

/-- The code points of the characters that are compared by a small letter: the letter and its
capital, and for `i`, `k` and `s` variants of them. -/
def metAs (n : Nat) : List Nat :=
  [n, n - 0x20] ++ ([(0x69, 0x130), (0x69, 0x131), (0x6B, 0x212A), (0x73, 0x17F)].filter
    (·.1 = n)).map Prod.snd

/-- What is compared by a small letter has it, or a variant of it, as its lower-case form. -/
theorem head_lowerOf_of_letterKey {c : Char} (h : letterKey c ∈ smallLetters) :
    (letterKey c, ((lowerOf c).head?.getD c).toNat) ∈ lowerForms := by
  have hvariants : ∀ e ∈ variants, e.2 ∈ smallLetters →
      (e.2, e.1) ∈ [(0x69, 0x131), (0x73, 0x17F)] := by decide +kernel
  have hkey : letterKey c = (valueAt? variants ((lowerOf c).head?.getD c).toNat).getD
      ((lowerOf c).head?.getD c).toNat := rfl
  rcases hv : valueAt? variants ((lowerOf c).head?.getD c).toNat with _ | v
  · rw [hv, Option.getD_none] at hkey
    rw [← hkey]
    exact List.mem_append_left _ (List.mem_map.mpr ⟨_, h, rfl⟩)
  · rw [hv, Option.getD_some] at hkey
    rw [hkey] at h ⊢
    exact List.mem_append_right _ (hvariants _ (mem_of_valueAt? hv) h)

/-- **The characters that are compared by a small letter.** -/
theorem mem_metAs_of_letterKey {c : Char} (h : letterKey c ∈ smallLetters) :
    c.toNat ∈ metAs (letterKey c) := by
  have hself : ∀ p ∈ lowerForms, p.2 ≠ 0 ∧ p.2 ∈ metAs p.1 := by decide +kernel
  have hlong : ∀ p ∈ lowerForms, ∀ e ∈ longLower, e.2.head? = some p.2 → e.1 ∈ metAs p.1 := by
    decide +kernel
  have hruns : ∀ p ∈ lowerForms, ∀ r ∈ lowerRuns, r.image ≤ p.2 →
      p.2 ≤ r.image + (r.last - r.first) → r.first + (p.2 - r.image) ∈ metAs p.1 := by
    decide +kernel
  have hmem := head_lowerOf_of_letterKey h
  rcases toNat_head_lowerOf c with hsmall | hsmall | ⟨form, hform, hsmall⟩ |
    ⟨r, hr, hfirst, hlast, hsmall⟩
  · rw [← hsmall]
    exact (hself _ hmem).2
  · exact absurd hsmall (hself _ hmem).1
  · exact hlong _ hmem _ hform hsmall
  · have hrun := hruns _ hmem r hr (by simp only [hsmall]; omega) (by simp only [hsmall]; omega)
    simp only [hsmall] at hrun
    rwa [show r.first + (r.image + (c.toNat - r.first) - r.image) = c.toNat by omega] at hrun

theorem upper_cons (c : Char) (t : Text) : upper (c :: t) = upperOf c ++ upper t :=
  List.flatMap_cons

/-- **A character that is met as a capital letter has it as its upper-case form**, unless it is the
dotted `İ` or the Kelvin sign. -/
theorem upperOf_of_sameLetter {w c : Char} (hw : w.toNat ∈ capitals)
    (h : sameLetter w c = true) :
    upperOf c = [w] ∨ (w = 'I' ∧ c = '\u0130') ∨ (w = 'K' ∧ c = '\u212A') := by
  have hkeys : ∀ n ∈ capitals,
      letterKey (Char.ofNat n) = n + 0x20 ∧ n + 0x20 ∈ smallLetters := by decide +kernel
  have hupper : ∀ n ∈ capitals, ∀ m ∈ metAs (n + 0x20),
      upperOf (Char.ofNat m) = [Char.ofNat n] ∨
        (Char.ofNat n = 'I' ∧ Char.ofNat m = '\u0130') ∨
        (Char.ofNat n = 'K' ∧ Char.ofNat m = '\u212A') := by decide +kernel
  obtain ⟨hkey, hsmall⟩ := hkeys _ hw
  rw [Char.ofNat_toNat] at hkey
  have hkeyc : letterKey c = w.toNat + 0x20 := (beq_iff_eq.mp h).symm.trans hkey
  have hmet := mem_metAs_of_letterKey (c := c) (by rw [hkeyc]; exact hsmall)
  rw [hkeyc] at hmet
  have hcases := hupper _ hw _ hmet
  rwa [Char.ofNat_toNat, Char.ofNat_toNat] at hcases

end Text

/-! ### Spellings in upper case -/

namespace Word

/-- The keywords consist of capital letters other than `K`. -/
theorem mem_capitals_of_keyword {word : Text} (hword : word ∈ ({} : Dialect).openers) :
    ∀ w ∈ word, w.toNat ∈ capitals ∧ w ≠ 'K' := by
  have hall : ∀ word ∈ ({} : Dialect).openers,
      word.all (fun w => w.toNat ∈ capitals ∧ w ≠ 'K') = true := by decide +kernel
  intro w hw
  simpa using List.all_eq_true.mp (hall word hword) w hw

/-- **What spells a word of capital letters begins with it in upper case**, however it goes on,
unless it is spelled with a dotted `İ`. -/
theorem Spells.prefix_upper_iff {word front : Text} (h : Spells word front)
    (hword : ∀ w ∈ word, w.toNat ∈ capitals ∧ w ≠ 'K') (tail : Text) :
    word <+: upper (front ++ tail) ↔ '\u0130' ∉ front := by
  have hdotted : upperOf '\u0130' = ['\u0130'] := by decide +kernel
  have hcapital : '\u0130'.toNat ∉ capitals := by decide +kernel
  induction h with
  | nil => exact ⟨fun _ => List.not_mem_nil, fun _ => List.nil_prefix⟩
  | @cons w c word front hc _ ih =>
    obtain ⟨⟨hw, hkelvin⟩, hrest⟩ := List.forall_mem_cons.mp hword
    rw [List.cons_append, upper_cons, List.mem_cons, not_or]
    rcases upperOf_of_sameLetter hw hc with hshown | ⟨rfl, rfl⟩ | ⟨rfl, -⟩
    · have hne : '\u0130' ≠ c := by
        rintro rfl
        rw [hdotted, List.singleton_inj] at hshown
        exact hcapital (hshown ▸ hw)
      rw [hshown, List.singleton_append, List.cons_prefix_cons]
      simp [hne, ih hrest]
    · rw [hdotted, List.singleton_append, List.cons_prefix_cons]
      simp
    · exact absurd rfl hkelvin

/-- The first letter of a keyword is never a dotted `İ`. -/
theorem Spells.head?_upper {word front : Text} (hword : word ∈ ({} : Dialect).openers)
    (h : Spells word front) (tail : Text) : (upper (front ++ tail)).head? = word.head? := by
  have hfirst : ∀ word ∈ ({} : Dialect).openers, word.head? ≠ some 'I' := by decide
  cases h with
  | nil => exact absurd hword (by decide)
  | @cons w c word front hc hs =>
    obtain ⟨hw, hkelvin⟩ := mem_capitals_of_keyword hword w List.mem_cons_self
    rcases upperOf_of_sameLetter hw hc with hshown | ⟨rfl, -⟩ | ⟨rfl, -⟩
    · rw [List.cons_append, upper_cons, hshown]
      rfl
    · exact absurd rfl (hfirst _ hword)
    · exact absurd rfl hkelvin

/-- **A keyword that is spelled at the beginning begins the text in upper case**, and no other
does. -/
theorem Spells.exists_keyword_prefix_iff {word front : Text}
    (hword : word ∈ ({} : Dialect).openers) (h : Spells word front) (tail : Text) :
    (∃ k ∈ ({} : Dialect).openers, k <+: upper (front ++ tail)) ↔ '\u0130' ∉ front := by
  have hfirst : ∀ k ∈ ({} : Dialect).openers, k ≠ [] ∧
      ∀ k' ∈ ({} : Dialect).openers, k.head? = k'.head? → k = k' := by decide
  rw [← h.prefix_upper_iff (mem_capitals_of_keyword hword) tail]
  constructor
  · rintro ⟨k, hk, hprefix⟩
    obtain ⟨rest, hrest⟩ := hprefix
    have hhead : k.head? = word.head? := by
      rw [← h.head?_upper hword tail, ← hrest, List.head?_append_of_ne_nil k (hfirst k hk).1]
    rw [← (hfirst k hk).2 word hword hhead]
    exact ⟨rest, hrest⟩
  · exact fun hprefix => ⟨word, hword, hprefix⟩

end Word

/-! ### What is said about blocks -/

namespace Wording

/-- What is said about a block. -/
def completed : Text := "PL/SQL procedure successfully completed."

/-- No past tense reads as a completed block. -/
theorem trim_past_ne_completed (subject verb : Text) :
    trim (subject ++ ' ' :: ({} : Wording).pastOf verb ++ ['.']) ≠ completed := by
  have hends : ∀ past ∈ "succeeded".toList :: PastTenses.usual.map Prod.snd,
      trim (past ++ ['.']) ≠ [] ∧ ¬trim (past ++ ['.']) <:+ completed := by decide +kernel
  have hmem : ({} : Wording).pastOf verb ∈
      "succeeded".toList :: PastTenses.usual.map Prod.snd :=
    (PastTenses.tells_pastOf PastTenses.usual _ verb).mem
  intro h
  obtain ⟨hne, hnot⟩ := hends _ hmem
  obtain ⟨m, hm⟩ := exists_trim_append hne (subject ++ [' '])
  refine hnot ⟨m, ?_⟩
  rw [← hm, ← h]
  simp

/-- **A statement is spoken of as a block** if its first word begins with a keyword in upper
case. -/
theorem message_eq_completed_iff {ws : List Text} {statement : Text} (h : Laid ws statement) :
    ({} : Wording).message statement = completed ↔
      ∃ k ∈ ({} : Dialect).openers, k <+: upper (ws[0]?.getD []) := by
  by_cases hselect : upper (ws[0]?.getD []) = "SELECT".toList
  · have hmessage : ({} : Wording).message statement = "no rows selected".toList := by
      rw [message, h.words_eq]
      exact if_pos hselect
    rw [hmessage, hselect]
    exact iff_of_false (by decide) (by decide)
  by_cases hkeyword : ∃ k ∈ ({} : Dialect).openers, k <+: upper (ws[0]?.getD [])
  · refine iff_of_true ?_ hkeyword
    rw [message, h.words_eq]
    refine (if_neg hselect).trans (if_pos ?_)
    rw [Bool.or_eq_true, List.isPrefixOf_iff_prefix, List.isPrefixOf_iff_prefix]
    obtain ⟨k, hk, hprefix⟩ := hkeyword
    rcases List.mem_cons.mp hk with rfl | hk
    · exact Or.inr hprefix
    · obtain rfl := List.mem_singleton.mp hk
      exact Or.inl hprefix
  · refine iff_of_false ?_ hkeyword
    rw [message_of_past h hselect (fun hbegin => hkeyword ⟨_, by decide, hbegin⟩)
      (fun hdeclare => hkeyword ⟨_, by decide, hdeclare⟩)]
    exact trim_past_ne_completed _ _

/-- **What is said about a text that begins with a keyword.** -/
theorem message_of_keyword {text : Text} {n : Nat} (h : Keyword [] text n) :
    ({} : Wording).message text = completed ↔ '\u0130' ∉ text.take n := by
  obtain ⟨-, word, hword, hstands, rfl⟩ := h
  obtain ⟨front, rest, rfl, hs, -⟩ := standsAt_iff.mp hstands
  have hfront : ∀ c ∈ front, isBlank c = false := by
    intro c hc
    exact isBlank_of_not_isDelimiter (hs.isDelimiter_eq_false (named_default word hword) c hc)
  have hne : front ≠ [] := by
    rintro rfl
    cases hs
    exact absurd hword (by decide)
  obtain ⟨tail, ws, hlaid⟩ := exists_laid_append hne hfront rest
  rw [message_eq_completed_iff hlaid, hs.length_eq, List.take_left]
  exact hs.exists_keyword_prefix_iff hword tail

end Wording

namespace Script

variable {directives : List Text} {boundaryOnly : Bool} {script : Text} {s : Statement} {n : Nat}

/-- A statement that begins with a keyword is a block. -/
theorem kind_of_keyword (hs : s ∈ split { directives, boundaryOnly } script)
    (h : Keyword [] s.text n) : s.kind = .block := by
  have hshape := shape_of_split { directives, boundaryOnly } named_default hs
  generalize s.kind = kind at hshape
  cases hshape with
  | block => rfl
  | simple hquiet =>
    have hpos : 0 < s.text.length := List.length_pos_of_ne_nil h.ne_nil
    have hnone := (hquiet [] s.text (List.append_nil _) hpos).keyword rfl
    exact absurd h (hnone.2 n)

/-- **A statement that begins with a keyword is a block, and what is said about it is what is said
about blocks**, unless the keyword is spelled with a dotted `İ`. -/
theorem message_of_mem_split (hs : s ∈ split { directives, boundaryOnly } script)
    (h : Keyword [] s.text n) :
    s.kind = .block ∧
      (({} : Wording).message s.text = "PL/SQL procedure successfully completed.".toList ↔
        '\u0130' ∉ s.text.take n) :=
  ⟨kind_of_keyword hs h, Wording.message_of_keyword h⟩

/-- The dotless `ı` of this keyword has `I` as its upper-case form. -/
theorem message_of_mem_split_dotless :
    let s : Statement := ⟨"beg\u0131n x; end;".toList, .block, 1⟩
    s ∈ split { directives := [], boundaryOnly := true } (' ' :: s.text) ∧
      Keyword [] s.text 5 ∧ s.kind = .block ∧
      (({} : Wording).message s.text = "PL/SQL procedure successfully completed.".toList ↔
        '\u0130' ∉ s.text.take 5) := by
  intro s
  have hs : s ∈ split { directives := [], boundaryOnly := true } (' ' :: s.text) := by
    decide +kernel
  have hkeyword : Keyword [] s.text 5 := ⟨rfl, ['B', 'E', 'G', 'I', 'N'], by decide +kernel⟩
  exact ⟨hs, hkeyword, message_of_mem_split hs hkeyword⟩

/-- The dotted `İ` is its own upper-case form, so this block is spoken of as if it were none. -/
theorem message_ne_of_dotted :
    let s : Statement := ⟨"BEG\u0130N null; END;".toList, .block, 0⟩
    split {} s.text = [s] ∧ Keyword [] s.text 5 ∧
      ({} : Wording).message s.text = "Null; succeeded.".toList ∧
      ({} : Wording).message s.text ≠ "PL/SQL procedure successfully completed.".toList := by
  intro s
  refine ⟨by decide +kernel, ⟨rfl, ['B', 'E', 'G', 'I', 'N'], by decide +kernel⟩, ?_⟩
  decide +kernel

end Script

end SqlScript
