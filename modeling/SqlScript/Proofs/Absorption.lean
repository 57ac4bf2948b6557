import SqlScript.Proofs.DirectiveLines
import SqlScript.Source

/-!
# The two ways of removing directive lines

Removing directive lines where a statement may begin is the cautious way, and removing them wherever
they stand is the thorough one. The thorough way needs no memory (`Directive.kept_thorough`), and
what it keeps it keeps of any lines that have all lines but directives among them
(`Directive.kept_thorough_kept`). So it keeps some of the lines that the cautious way keeps, and
going both ways, in either order, is the same as going the thorough one (`Directive.Absorbs`).

This is said of texts, and a text goes the second way with the lines that it then has. These are the
lines that were kept, unless a carriage return comes to stand before a line feed, and with it a line
that has been kept becomes another; so the law is about texts without carriage returns, as files
are when they have been read (`Source.not_mem_of_load`).
-/

namespace SqlScript

open SqlScript.Text

/-! ### Texts without carriage returns -/

namespace Text

/-- **Some lines of a text without carriage returns, put together, are the lines again.** -/
theorem lines_flatten_of_sublist {text : Text} {all ls : List Text} (htext : '\r' ∉ text)
    (hall : lines text = all) (h : ls.Sublist all) : lines ls.flatten = ls := by
  induction h generalizing text with
  | slnil => rfl
  | @cons ls rest line h ih =>
    obtain ⟨-, hrest, -⟩ := lines_eq_cons hall
    rw [← flatten_lines text, hall, List.flatten_cons] at htext
    exact ih (fun hc => htext (List.mem_append_right line hc)) hrest
  | @cons_cons ls rest line h ih =>
    obtain ⟨hline, hrest, hstart⟩ := lines_eq_cons hall
    rw [← flatten_lines text, hall, List.flatten_cons] at htext
    have hls : lines ls.flatten = ls := ih (fun hc => htext (List.mem_append_right line hc)) hrest
    rcases eq_or_ne ls [] with rfl | hne
    · simpa using hline
    · have hrest' : rest ≠ [] := by
        rintro rfl
        exact hne (List.sublist_nil.mp h)
      -- the line break that ends the line is no carriage return, so nothing continues it
      have hcut : LineStart line ls.flatten := by
        intro c hc
        refine ⟨(hstart hrest' c hc).1, ?_⟩
        rintro rfl
        exact absurd (List.mem_append_left _ (List.mem_of_getLast? hc)) htext
      rw [List.flatten_cons, lines_append hcut, hline, hls, List.singleton_append]

/-- Writing line breaks as line feeds leaves no carriage return. -/
theorem not_mem_unifyBreaks (t : Text) : '\r' ∉ unifyBreaks t := by
  fun_induction unifyBreaks t with
  | case1 => exact List.not_mem_nil
  | case2 cs ih => simpa using ih
  | case3 c cs hcrlf ih =>
    rw [List.mem_cons, not_or]
    refine ⟨?_, ih⟩
    by_cases hc : c = '\r'
    · rw [if_pos hc]
      decide
    · rw [if_neg hc]
      exact Ne.symm hc

end Text

/-- **What is read from a file holds no carriage return.** -/
theorem Source.not_mem_of_load {disk : Disk} {path : Text} {source : Source}
    (h : load disk none (some path) = .ok source) : '\r' ∉ source.text := by
  rw [load] at h
  split at h
  · rename_i content _
    rw [ofFile] at h
    split at h
    · exact nomatch h
    · rename_i decoded _
      obtain rfl := Except.ok.inj h
      intro hmem
      obtain ⟨trail, heq, -⟩ := exists_trim (unifyBreaks decoded)
      refine not_mem_unifyBreaks decoded ?_
      rw [heq]
      exact List.mem_append_left trail (List.mem_append_right _ hmem)
  · exact nomatch h
  · exact nomatch h

namespace Directive

variable {directives : List Text}

/-! ### Removing directive lines wherever they stand -/

/-- A directive is removed whether a statement may begin there or not. -/
theorem removes_thorough (atBoundary : Bool) (line : Text) :
    removes directives false atBoundary line = isDirective directives line := by
  rw [removes, Bool.not_false, Bool.or_true, Bool.true_and]

/-- **The thorough way keeps the lines that are no directives.** -/
theorem kept_thorough (atBoundary : Bool) (ls : List Text) :
    kept directives false atBoundary ls = ls.filter (!isDirective directives ·) := by
  induction ls generalizing atBoundary with
  | nil => rfl
  | cons line ls ih =>
    rw [kept_cons, removes_thorough, ih, List.filter_cons]
    cases isDirective directives line <;> rfl

/-- Either way removes nothing but directives. -/
theorem isDirective_of_removes {boundaryOnly atBoundary : Bool} {line : Text}
    (h : removes directives boundaryOnly atBoundary line = true) :
    isDirective directives line = true := by
  rw [removes, Bool.and_eq_true] at h
  exact h.2

/-- **Either way keeps all lines that are no directives.** -/
theorem kept_thorough_kept (boundaryOnly atBoundary : Bool) (ls : List Text) :
    kept directives false true (kept directives boundaryOnly atBoundary ls) =
      kept directives false true ls := by
  rw [kept_thorough, kept_thorough]
  induction ls generalizing atBoundary with
  | nil => rfl
  | cons line ls ih =>
    rw [kept_cons, List.filter_append, ih, ← List.singleton_append (l := ls),
      List.filter_append]
    by_cases h : removes directives boundaryOnly atBoundary line = true
    · rw [if_pos h, List.filter_nil, List.filter_singleton, isDirective_of_removes h]
      rfl
    · rw [if_neg h]

/-- The thorough way leaves the cautious one nothing to remove. -/
theorem kept_cautious_kept (atBoundary : Bool) (ls : List Text) :
    kept directives true true (kept directives false atBoundary ls) =
      kept directives false atBoundary ls := by
  refine kept_eq_self (fun line hline => ?_) true
  rw [kept_thorough] at hline
  simpa using (List.mem_filter.mp hline).2

/-- Without carriage returns the lines of a source are the lines that were kept. -/
theorem lines_strip (boundaryOnly : Bool) {text : Text} (htext : '\r' ∉ text) :
    lines (strip directives boundaryOnly text) =
      kept directives boundaryOnly true (lines text) :=
  lines_flatten_of_sublist htext rfl (kept_sublist directives boundaryOnly true (lines text))

/-! ### Going both ways -/

/-- **The thorough way absorbs the cautious one** on a text. -/
structure Absorbs (directives : List Text) (text : Text) : Prop where
  /-- It keeps some of the lines that the cautious way keeps, in their order. -/
  sublist : (kept directives false true (lines text)).Sublist
    (kept directives true true (lines text))
  /-- Going it after the cautious way is the same as going it at once. -/
  thorough_cautious : strip directives false (strip directives true text) =
    strip directives false text
  /-- Going the cautious way after it changes nothing. -/
  cautious_thorough : strip directives true (strip directives false text) =
    strip directives false text

theorem absorbs_of_not_mem {text : Text} (htext : '\r' ∉ text) : Absorbs directives text where
  sublist := by
    rw [← kept_thorough_kept true true (lines text)]
    exact kept_sublist directives false true _
  thorough_cautious := by
    rw [strip, lines_strip true htext, kept_thorough_kept, ← strip]
  cautious_thorough := by
    rw [strip, lines_strip false htext, kept_cautious_kept, ← strip]

/-- **Removing directive lines only where a statement may begin is a cautious form of removing them
all**, in a text without carriage returns, and so in a script that was read from a file. -/
theorem strip_absorbs (directives : List Text) :
    (∀ text : Text, '\r' ∉ text → Absorbs directives text) ∧
      ∀ (disk : Disk) (path : Text) (source : Source),
        Source.load disk none (some path) = .ok source → Absorbs directives source.text :=
  ⟨fun _ htext => absorbs_of_not_mem htext,
    fun _ _ _ hload => absorbs_of_not_mem (Source.not_mem_of_load hload)⟩

/-- The cautious way keeps the `SET` clause of this statement and the thorough one does not. A file
that holds it with carriage returns is read without them. -/
theorem strip_absorbs_update :
    let text : Text := "update t\nset a = 1;\nset echo on\nselect a\nfrom t".toList
    let file := Utf8.encode "update t\r\nset a = 1;\r\nset echo on\r\nselect a\nfrom t".toList
    let directives : List Text := [['S', 'E', 'T']]
    strip directives true text = "update t\nset a = 1;\nselect a\nfrom t".toList ∧
      strip directives false text = "update t\nselect a\nfrom t".toList ∧
      '\r' ∉ text ∧ Absorbs directives text ∧
      ∃ source, Source.load (fun _ => .file file) none (some ['u']) = .ok source ∧
        source.text = text ∧ Absorbs directives source.text := by
  intro text file directives
  have htext : '\r' ∉ text := by decide +kernel
  have hload : Source.load (fun _ => .file file) none (some ['u']) =
      .ok ⟨text, [⟨.debug, "plscript.loader".toList, "loaded 47 characters from u".toList⟩]⟩ := by
    decide +kernel
  refine ⟨by decide +kernel, by decide +kernel, htext, ?_, _, hload, rfl, ?_⟩
  · exact (strip_absorbs directives).1 text htext
  · exact (strip_absorbs directives).2 _ _ _ hload

/-- With a carriage return the law fails: the line that is removed leaves one before a line feed,
and the blank line becomes part of the directive before it. -/
example :
    let text : Text := "update t\nset a = 1;\rset b\n\nselect".toList
    let directives : List Text := [['S', 'E', 'T']]
    strip directives false (strip directives true text) = "update t\nselect".toList ∧
      strip directives false text = "update t\n\nselect".toList := by
  decide +kernel

end Directive

end SqlScript
