import SqlScript.Proofs.UpperCase
import SqlScript.Settings

/-!
# Lists of directive words

The variable that names the directive words is a list with commas in it, written by hand: there may
be blanks around its words, nothing between two commas, and letters in any case. Reading it leaves a
normal form (`Settings.NormalWords`). Its words are trimmed, in upper case and not empty, for with
an empty word every line would begin. A list that is written from them is read back as it is, and a
line is a directive under them exactly if it begins with one of the words of the list as it was
written, but for case and blanks.

The words are put in upper case when they are read and again when a line is compared with them. All
of this rests on what upper case does not do: it changes nothing the second time, and it makes
neither a blank nor a comma.
-/

namespace SqlScript

open SqlScript.Text

namespace Settings

/-- The words of a list: what stands between its commas, trimmed and in upper case, unless it is
blank. -/
def wordsBetweenCommas (value : Text) : List Text :=
  (value.splitOn ',').filterMap fun piece =>
    if (trim piece).isEmpty then none else some (upper (trim piece))

/-- A list must hold a word. -/
theorem parseDirectives_eq (value : Text) :
    parseDirectives value =
      if wordsBetweenCommas value = [] then .error .noDirectives
      else .ok (wordsBetweenCommas value) := by
  rw [parseDirectives, ← wordsBetweenCommas]
  cases wordsBetweenCommas value <;> rfl

theorem mem_wordsBetweenCommas {value word : Text} :
    word ∈ wordsBetweenCommas value ↔
      ∃ piece ∈ value.splitOn ',', trim piece ≠ [] ∧ upper (trim piece) = word := by
  simp [wordsBetweenCommas, List.mem_filterMap]

theorem wordsBetweenCommas_eq_nil {value : Text} :
    wordsBetweenCommas value = [] ↔ ∀ piece ∈ value.splitOn ',', trim piece = [] := by
  simp [wordsBetweenCommas, List.filterMap_eq_nil_iff]

/-! ### Words in normal form -/

/-- A word as it is read: trimmed, in upper case, and without a comma. -/
structure NormalWord (word : Text) : Prop where
  /-- It is not empty. -/
  ne_nil : word ≠ []
  /-- It could not be cut at a comma. -/
  comma_not_mem : ',' ∉ word
  /-- No blank stands at its ends. -/
  trim_eq : trim word = word
  /-- It is in upper case. -/
  upper_eq : upper word = word

/-- What stands between the commas holds none. -/
theorem comma_not_mem_of_mem_splitOn {value piece : Text} (h : piece ∈ value.splitOn ',') :
    ',' ∉ piece := by
  induction value generalizing piece with
  | nil => simp_all
  | cons c rest ih =>
    obtain ⟨first, others, hrest⟩ := List.exists_cons_of_ne_nil (List.splitOn_ne_nil ',' rest)
    rw [hrest] at ih
    obtain ⟨hfirst, hothers⟩ := List.forall_mem_cons.mp fun p hp => @ih p hp
    rw [List.splitOn_cons_eq_if_modifyHead, hrest] at h
    split_ifs at h with hc
    · rcases List.mem_cons.mp h with rfl | h
      · exact List.not_mem_nil
      · exact ih h
    · rw [List.modifyHead_cons] at h
      rcases List.mem_cons.mp h with rfl | h
      · rw [List.mem_cons, not_or]
        exact ⟨fun heq => hc (by simp [← heq]), hfirst⟩
      · exact hothers piece h

theorem normalWord_of_mem {value word : Text} (h : word ∈ wordsBetweenCommas value) :
    NormalWord word := by
  obtain ⟨piece, hpiece, hne, rfl⟩ := mem_wordsBetweenCommas.mp h
  refine ⟨fun hnil => hne (upper_eq_nil.mp hnil), fun hcomma => ?_,
    trim_eq_self (tight_trim piece).upper, upper_upper _⟩
  obtain ⟨trail, heq, -⟩ := exists_trim piece
  refine comma_not_mem_of_mem_splitOn hpiece ?_
  rw [heq]
  simp [comma_mem_of_mem_upper hcomma]

/-- **Words in normal form are read back** from the list that is written from them. -/
theorem wordsBetweenCommas_intercalate {words : List Text} (hne : words ≠ [])
    (h : ∀ word ∈ words, NormalWord word) :
    wordsBetweenCommas ([','].intercalate words) = words := by
  have hcut : ([','].intercalate words).splitOn ',' = words :=
    List.splitOn_intercalate ',' (fun word hword => (h word hword).comma_not_mem) hne
  have hread : ∀ word ∈ words,
      (if (trim word).isEmpty then none else some (upper (trim word))) = some word := by
    intro word hword
    have hnormal := h word hword
    rw [hnormal.trim_eq, hnormal.upper_eq, if_neg (by simpa using hnormal.ne_nil)]
  rw [wordsBetweenCommas, hcut, List.filterMap_congr hread, List.filterMap_some]

/-! ### Lines that begin with a word -/

/-- **A line is a directive** if it begins with one of the words of the list, but for case and
blanks. -/
theorem isDirective_wordsBetweenCommas (value line : Text) :
    Directive.isDirective (wordsBetweenCommas value) line = true ↔
      upper (trim line) ≠ [] ∧
        ∃ piece ∈ value.splitOn ',', trim piece ≠ [] ∧
          upper (trim piece) <+: upper (trim line) := by
  rw [Directive.isDirective, Bool.and_eq_true, List.any_eq_true, Bool.not_eq_true',
    List.isEmpty_eq_false_iff]
  refine and_congr_right fun _ => ?_
  constructor
  · rintro ⟨word, hword, hprefix⟩
    rw [(normalWord_of_mem hword).upper_eq, List.isPrefixOf_iff_prefix] at hprefix
    obtain ⟨piece, hpiece, hne, rfl⟩ := mem_wordsBetweenCommas.mp hword
    exact ⟨piece, hpiece, hne, hprefix⟩
  · rintro ⟨piece, hpiece, hne, hprefix⟩
    refine ⟨_, mem_wordsBetweenCommas.mpr ⟨piece, hpiece, hne, rfl⟩, ?_⟩
    rwa [upper_upper, List.isPrefixOf_iff_prefix]

/-- **The directive words that a list gives**: in normal form, read back from the list that is
written from them, and met by exactly the lines that begin with a word of the list. -/
structure NormalWords (value : Text) (words : List Text) : Prop where
  /-- The words are in normal form. -/
  normal : ∀ word ∈ words, NormalWord word
  /-- Written one after another they are read as they are. -/
  parse_intercalate : parseDirectives ([','].intercalate words) = .ok words
  /-- The lines that begin with one of the words as they were written. -/
  isDirective_iff : ∀ line, Directive.isDirective words line = true ↔
    upper (trim line) ≠ [] ∧
      ∃ piece ∈ value.splitOn ',', trim piece ≠ [] ∧ upper (trim piece) <+: upper (trim line)

/-- **A list of directive words is refused if all that stands between its commas is blank**, and
else it gives words in normal form. -/
theorem parseDirectives_normal (value : Text) :
    (parseDirectives value = .error .noDirectives ↔
      ∀ piece ∈ value.splitOn ',', trim piece = []) ∧
    (parseDirectives value = .error .noDirectives ∨
      ∃ words, parseDirectives value = .ok words ∧ NormalWords value words) := by
  rw [parseDirectives_eq, ← wordsBetweenCommas_eq_nil]
  by_cases hnil : wordsBetweenCommas value = []
  · simp [hnil]
  · have hback := wordsBetweenCommas_intercalate hnil fun word hword => normalWord_of_mem hword
    have hparse : parseDirectives ([','].intercalate (wordsBetweenCommas value)) =
        .ok (wordsBetweenCommas value) := by
      rw [parseDirectives_eq, hback, if_neg hnil]
    rw [if_neg hnil]
    refine ⟨iff_of_false (by simp) hnil, Or.inr ⟨_, rfl, ?_⟩⟩
    exact ⟨fun word hword => normalWord_of_mem hword, hparse, isDirective_wordsBetweenCommas value⟩

/-- Blank places are left out, and `ß` is written `SS` in upper case. -/
example : parseDirectives ",set , \t,gro\u00DF".toList = .ok ["SET".toList, "GROSS".toList] := by
  decide +kernel

end Settings

end SqlScript
