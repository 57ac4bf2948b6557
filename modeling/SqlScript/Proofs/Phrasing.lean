import SqlScript.Proofs.Trimming
import SqlScript.Wording

/-!
# What a message depends on

The message about a statement depends on its first two words and on nothing else: not on the blank
characters before, between and behind them, and not on what follows. The words of a text are
therefore said here by how the text is laid out (`Text.Laid`), and reading them is finding the one
layout that there is (`Text.laid_iff`).

Of the verb only its upper-case form counts, and the past tense that goes with it is found in the
table as it was given. The table in which it is looked up has been put together entry by entry, and
of entries that agree in upper case the last is left, in the place of the first. So the past tense
is that of the last entry for the verb (`PastTenses.Tells`).
-/

namespace SqlScript

open SqlScript.Text

/-! ### The words of a text -/

namespace Text

/-- **A text that is laid out as the words `ws`**: blank characters, then a word, and then the rest,
which begins with a blank character if there is any. -/
inductive Laid : (ws : List Text) → (text : Text) → Prop
  /-- Blank characters alone hold no word. -/
  | blank {t : Text} (ht : ∀ c ∈ t, isBlank c = true) : Laid [] t
  /-- A word is not empty and holds no blank character. -/
  | word {lead w rest : Text} {ws : List Text} (hlead : ∀ c ∈ lead, isBlank c = true)
    (hne : w ≠ []) (hw : ∀ c ∈ w, isBlank c = false)
    (hrest : ∀ c ∈ rest.head?, isBlank c = true) (h : Laid ws rest) :
    Laid (w :: ws) (lead ++ w ++ rest)

@[simp] theorem words_nil : words [] = [] := rfl

/-- Words end at a blank character. -/
theorem words_append_cons {c : Char} (hc : isBlank c = true) (t u : Text) :
    words (t ++ c :: u) = words t ++ words u := by
  rw [words, List.splitOnP_append_cons t u hc, List.filter_append]
  rfl

theorem words_cons_blank {c : Char} (hc : isBlank c = true) (t : Text) :
    words (c :: t) = words t := by
  simpa using words_append_cons hc [] t

theorem words_blank_append {lead : Text} (hlead : ∀ c ∈ lead, isBlank c = true) (t : Text) :
    words (lead ++ t) = words t := by
  induction lead with
  | nil => rfl
  | cons c lead ih =>
    rw [List.cons_append, words_cons_blank (hlead c List.mem_cons_self)]
    exact ih fun d hd => hlead d (List.mem_cons_of_mem c hd)

/-- A text without blank characters is a word. -/
theorem words_of_not_blank {w : Text} (hne : w ≠ []) (hw : ∀ c ∈ w, isBlank c = false) :
    words w = [w] := by
  have hone : w.splitOnP isBlank = [w] :=
    List.splitOnP_eq_singleton fun c hc => by simp [hw c hc]
  rw [words, hone, List.filter_singleton, List.isEmpty_eq_false_iff.mpr hne]
  rfl

theorem Laid.words_eq {ws : List Text} {t : Text} (h : Laid ws t) : words t = ws := by
  induction h with
  | @blank t ht =>
    have hblank := words_blank_append ht []
    rwa [List.append_nil] at hblank
  | @word lead w rest ws hlead hne hw hrest h ih =>
    rw [List.append_assoc, words_blank_append hlead]
    rcases rest with _ | ⟨c, rest⟩
    · rw [List.append_nil, words_of_not_blank hne hw, ← ih, words_nil]
    · have hc : isBlank c = true := hrest c rfl
      rw [words_append_cons hc, words_of_not_blank hne hw, ← words_cons_blank hc, ih]
      rfl

/-- A blank character before a text changes nothing. -/
theorem Laid.cons_blank {ws : List Text} {t : Text} {c : Char} (hc : isBlank c = true)
    (h : Laid ws t) : Laid ws (c :: t) := by
  cases h with
  | blank ht => exact .blank (List.forall_mem_cons.mpr ⟨hc, ht⟩)
  | @word lead w rest ws hlead hne hw hrest h =>
    have hlead' : ∀ d ∈ c :: lead, isBlank d = true := List.forall_mem_cons.mpr ⟨hc, hlead⟩
    exact Laid.word hlead' hne hw hrest h

/-- A character before a text begins its first word, or is a word if a blank character follows. -/
theorem Laid.cons_of_not_blank {ws : List Text} {t : Text} {c : Char} (hc : isBlank c = false)
    (h : Laid ws t) : ∃ us, Laid us (c :: t) := by
  have hnil : ∀ d ∈ ([] : Text), isBlank d = true := List.forall_mem_nil _
  by_cases hhead : ∀ d ∈ t.head?, isBlank d = true
  · have hone : ∀ d ∈ [c], isBlank d = false := List.forall_mem_singleton.mpr hc
    exact ⟨_, Laid.word hnil (List.cons_ne_nil c []) hone hhead h⟩
  · cases h with
    | blank ht => exact absurd (fun d hd => ht d (List.mem_of_mem_head? hd)) hhead
    | @word lead w rest ws hlead hne hw hrest h =>
      rcases lead with _ | ⟨d, lead⟩
      · have hw' : ∀ d ∈ c :: w, isBlank d = false := List.forall_mem_cons.mpr ⟨hc, hw⟩
        exact ⟨_, Laid.word hnil (List.cons_ne_nil c w) hw' hrest h⟩
      · -- a blank character stands before the first word
        refine absurd (fun e he => ?_) hhead
        rw [List.cons_append, List.cons_append, List.head?_cons, Option.mem_some_iff] at he
        exact he ▸ hlead d List.mem_cons_self

theorem exists_laid (t : Text) : ∃ ws, Laid ws t := by
  induction t with
  | nil => exact ⟨[], .blank (List.forall_mem_nil _)⟩
  | cons c t ih =>
    obtain ⟨ws, h⟩ := ih
    cases hc : isBlank c with
    | true => exact ⟨ws, h.cons_blank hc⟩
    | false => exact h.cons_of_not_blank hc

/-- **A text is laid out as its words**, and as no others. -/
theorem laid_iff {ws : List Text} {t : Text} : Laid ws t ↔ words t = ws := by
  constructor
  · exact Laid.words_eq
  · rintro rfl
    obtain ⟨ws, h⟩ := exists_laid t
    rwa [h.words_eq]

/-- The first word of a text goes at least as far as a stretch without blank characters. -/
theorem exists_laid_append {front : Text} (hne : front ≠ [])
    (hfront : ∀ c ∈ front, isBlank c = false) (rest : Text) :
    ∃ tail ws, Laid ((front ++ tail) :: ws) (front ++ rest) := by
  obtain ⟨ws, h⟩ := exists_laid (rest.dropWhile (!isBlank ·))
  have hnil : ∀ c ∈ ([] : Text), isBlank c = true := List.forall_mem_nil _
  have htail : ∀ c ∈ front ++ rest.takeWhile (!isBlank ·), isBlank c = false := by
    refine List.forall_mem_append.mpr ⟨hfront, fun c hc => ?_⟩
    simpa using List.mem_takeWhile_imp hc
  have hhead : ∀ c ∈ (rest.dropWhile (!isBlank ·)).head?, isBlank c = true := by
    intro c hc
    have hstop := List.head?_dropWhile_not (!isBlank ·) rest
    rw [Option.mem_def.mp hc] at hstop
    simpa using hstop
  have hlaid := Laid.word hnil (List.append_ne_nil_of_left_ne_nil hne _) htail hhead h
  refine ⟨rest.takeWhile (!isBlank ·), ws, ?_⟩
  rwa [List.nil_append, List.append_assoc, List.takeWhile_append_dropWhile] at hlaid

instance (ws : List Text) (t : Text) : Decidable (Laid ws t) :=
  decidable_of_iff (words t = ws) laid_iff.symm

end Text

/-! ### The past tense of a verb -/

namespace PastTenses

/-- **What a table tells about a verb in upper case**: the past tense of the last entry whose verb
has this upper-case form, or the fallback if none has. -/
inductive Tells (table : PastTenses) (fallback verb : Text) : Text → Prop
  /-- No entry behind this one is for the verb. -/
  | entry {before after : PastTenses} {key past : Text}
    (htable : table = before ++ (key, past) :: after) (hkey : upper key = verb)
    (hafter : ∀ e ∈ after, upper e.1 ≠ verb) : Tells table fallback verb past
  /-- No entry is for the verb. -/
  | fallback (hnone : ∀ e ∈ table, upper e.1 ≠ verb) : Tells table fallback verb fallback

/-- Putting in a verb settles what is found for it, and for no other. -/
theorem lookup_put (verb past sought : Text) (table : PastTenses) :
    (put verb past table).lookup sought =
      if sought = verb then some past else table.lookup sought := by
  induction table with
  | nil =>
    rw [put, List.lookup_cons, List.lookup_nil]
    by_cases h : sought = verb
    · rw [if_pos h, beq_iff_eq.mpr h]
    · rw [if_neg h, beq_eq_false_iff_ne.mpr h]
  | cons e table ih =>
    obtain ⟨key, value⟩ := e
    rw [put, List.lookup_cons]
    by_cases hkey : key = verb
    · subst hkey
      rw [if_pos rfl, List.lookup_cons]
      by_cases h : sought = key
      · rw [if_pos h, beq_iff_eq.mpr h]
      · rw [if_neg h, beq_eq_false_iff_ne.mpr h]
    · rw [if_neg hkey, List.lookup_cons, ih]
      by_cases h : sought = key
      · have hverb : sought ≠ verb := fun hc => hkey (h.symm.trans hc)
        rw [beq_iff_eq.mpr h]
        exact (if_neg hverb).symm
      · rw [beq_eq_false_iff_ne.mpr h]

/-- The last entry for a verb settles what is found for it. -/
theorem lookup_inUpper_append (table : PastTenses) (key past verb : Text) :
    (inUpper (table ++ [(key, past)])).lookup verb =
      if verb = upper key then some past else (inUpper table).lookup verb := by
  rw [inUpper, ofEntries, List.map_append, List.foldl_append]
  exact lookup_put (upper key) past verb _

variable {table : PastTenses} {fallback verb past : Text}

/-- An entry for another verb tells nothing. -/
theorem Tells.append_of_ne (h : Tells table fallback verb past) {e : Text × Text}
    (he : upper e.1 ≠ verb) : Tells (table ++ [e]) fallback verb past := by
  cases h with
  | @entry before after key _ htable hkey hafter =>
    have htable' : table ++ [e] = before ++ (key, past) :: (after ++ [e]) := by simp [htable]
    refine .entry htable' hkey ?_
    exact List.forall_mem_append.mpr ⟨hafter, List.forall_mem_singleton.mpr he⟩
  | fallback hnone =>
    exact .fallback (List.forall_mem_append.mpr ⟨hnone, List.forall_mem_singleton.mpr he⟩)

/-- What a table tells is the fallback or stands in it. -/
theorem Tells.mem (h : Tells table fallback verb past) :
    past ∈ fallback :: table.map Prod.snd := by
  cases h with
  | @entry before after key _ htable =>
    refine List.mem_cons_of_mem _ (List.mem_map.mpr ⟨(key, past), ?_, rfl⟩)
    rw [htable]
    exact List.mem_append_right _ List.mem_cons_self
  | fallback => exact List.mem_cons_self

/-- **The past tense that is found for a verb is the one that the table tells.** -/
theorem tells_pastOf (table : PastTenses) (fallback verb : Text) :
    Tells table fallback verb ((Wording.ofTable table fallback).pastOf verb) := by
  rw [Wording.pastOf, Wording.ofTable]
  induction table using List.reverseRecOn with
  | nil => exact .fallback (List.forall_mem_nil _)
  | append_singleton table e ih =>
    obtain ⟨key, past⟩ := e
    rw [lookup_inUpper_append]
    by_cases h : verb = upper key
    · rw [if_pos h, Option.getD_some]
      exact .entry rfl h.symm (List.forall_mem_nil _)
    · rw [if_neg h]
      exact ih.append_of_ne (Ne.symm h)

/-- Of two entries for a verb one is not the last. -/
theorem Tells.unique {past' : Text} (h : Tells table fallback verb past)
    (h' : Tells table fallback verb past') : past = past' := by
  cases h with
  | @entry before after key _ htable hkey hafter =>
    cases h' with
    | @entry before' after' key' _ htable' hkey' hafter' =>
      rcases List.append_eq_append_iff.mp (htable.symm.trans htable') with
        ⟨mid, -, hmid⟩ | ⟨mid, -, hmid⟩
      · rcases mid with _ | ⟨e, mid⟩
        · exact (Prod.mk.inj (List.cons.inj hmid).1).2
        · refine absurd hkey' (hafter (key', past') ?_)
          rw [(List.cons.inj hmid).2]
          simp
      · rcases mid with _ | ⟨e, mid⟩
        · exact (Prod.mk.inj (List.cons.inj hmid).1).2.symm
        · refine absurd hkey (hafter' (key, past) ?_)
          rw [(List.cons.inj hmid).2]
          simp
    | fallback hnone => exact absurd hkey (hnone (key, past) (by simp [htable]))
  | fallback hnone =>
    cases h' with
    | @entry before' after' key' _ htable' hkey' _ =>
      exact absurd hkey' (hnone (key', past') (by simp [htable']))
    | fallback => rfl

theorem tells_iff : Tells table fallback verb past ↔
    past = (Wording.ofTable table fallback).pastOf verb := by
  constructor
  · exact fun h => h.unique (tells_pastOf table fallback verb)
  · rintro rfl
    exact tells_pastOf table fallback verb

end PastTenses

/-! ### Messages -/

namespace Wording

variable {w : Wording} {ws : List Text} {statement : Text}

/-- The message is made of the first word in upper case and the second word. -/
theorem message_congr {statement' : Text} {us : List Text} (h : Laid ws statement)
    (h' : Laid us statement') (hverb : ws[0]?.map upper = us[0]?.map upper)
    (hsubject : ws[1]? = us[1]?) : w.message statement = w.message statement' := by
  have hupper : ∀ o : Option Text, upper (o.getD []) = (o.map upper).getD [] := by
    intro o
    cases o <;> rfl
  rw [message, message, h.words_eq, h'.words_eq, hupper, hupper, hverb, hsubject]

/-- A statement whose verb neither asks for rows nor begins a block is spoken of by its subject and
its past tense. -/
theorem message_of_past (h : Laid ws statement)
    (hselect : upper (ws[0]?.getD []) ≠ "SELECT".toList)
    (hbegin : ¬"BEGIN".toList <+: upper (ws[0]?.getD []))
    (hdeclare : ¬"DECLARE".toList <+: upper (ws[0]?.getD [])) :
    w.message statement = trim (title (ws[1]?.getD []) ++ ' ' ::
      w.pastOf (upper (ws[0]?.getD [])) ++ ['.']) := by
  rw [← List.isPrefixOf_iff_prefix, Bool.not_eq_true] at hbegin hdeclare
  have hblock := Bool.or_eq_false_iff.mpr ⟨hbegin, hdeclare⟩
  rw [message, h.words_eq]
  refine (if_neg hselect).trans (if_neg ?_)
  exact Bool.eq_false_iff.mp hblock

/-- **The message depends on the first two words of a statement**, and on the first of them in upper
case only; where it speaks of a past tense, this is what the table tells. -/
theorem message_determined (table : PastTenses) (fallback : Text) :
    (∀ (s t : Text) (ws us : List Text), Laid ws s → Laid us t →
      ws[0]?.map upper = us[0]?.map upper → ws[1]? = us[1]? →
      (ofTable table fallback).message s = (ofTable table fallback).message t) ∧
    ∀ (s : Text) (ws : List Text) (verb : Text), Laid ws s → upper (ws[0]?.getD []) = verb →
      verb ≠ "SELECT".toList → ¬"BEGIN".toList <+: verb → ¬"DECLARE".toList <+: verb →
      ∃ past, (∀ other, PastTenses.Tells table fallback verb other ↔ other = past) ∧
        (ofTable table fallback).message s =
          trim (title (ws[1]?.getD []) ++ ' ' :: past ++ ['.']) := by
  constructor
  · intro s t ws us hs ht hverb hsubject
    exact message_congr hs ht hverb hsubject
  · rintro s ws verb hs rfl hselect hbegin hdeclare
    exact ⟨_, fun other => PastTenses.tells_iff, message_of_past hs hselect hbegin hdeclare⟩

/-- `ß` and `SS` agree in upper case, and of the entries for the two the last one counts. -/
theorem message_determined_collision :
    let table : PastTenses := [("grüß".toList, "greeted".toList), ("drop".toList, "gone".toList),
      ("GRÜSS".toList, "hailed".toList)]
    let s : Text := "\u3000\tgrÜß  all\nof you".toList
    let t : Text := "GRüSS\u2028all".toList
    (Laid ["grÜß".toList, "all".toList, "of".toList, "you".toList] s ∧
      Laid ["GRüSS".toList, "all".toList] t) ∧
      (ofTable table []).message s = (ofTable table []).message t ∧
      upper "grÜß".toList = "GRÜSS".toList ∧
      (∃ past, (∀ other, PastTenses.Tells table [] "GRÜSS".toList other ↔ other = past) ∧
        (ofTable table []).message s = trim ("All".toList ++ ' ' :: past ++ ['.'])) ∧
      (ofTable table []).message s = "All hailed.".toList := by
  intro table s t
  have hs : Laid ["grÜß".toList, "all".toList, "of".toList, "you".toList] s := by decide +kernel
  have ht : Laid ["GRüSS".toList, "all".toList] t := by decide +kernel
  refine ⟨⟨hs, ht⟩, ?_, by decide +kernel, ?_, by decide +kernel⟩
  · exact (message_determined table []).1 s t _ _ hs ht (by decide +kernel) (by decide +kernel)
  · have htitle : title "all".toList = "All".toList := by decide +kernel
    rw [← htitle]
    exact (message_determined table []).2 s _ "GRÜSS".toList hs (by decide +kernel)
      (by decide +kernel) (by decide +kernel) (by decide +kernel)

end Wording

end SqlScript
