import SqlScript.Proofs.Trimming
import SqlScript.Text.Case

/-!
# Upper case, once and for all

A text in upper case is its own upper-case form (`Text.upper_upper`). This is a fact about the
tables: none of them moves a character that they lead to. For the long forms this is looked up. For
the runs it is seen from the runs themselves: what one leads to lies apart from what another moves,
or else the other moves every second code point only, and those between are met
(`Text.Run.missedBy`).

Nor does upper case make anything up that a reader of texts would notice. A character that is not
blank has no blank in its form and is not lost, so trimmed texts stay trimmed
(`Text.Tight.upper`), and there are no new commas (`Text.comma_mem_of_mem_upper`).
-/

namespace SqlScript.Text

/-! ### What the tables lead to -/

/-- Whether the ends of the runs tell that none of them moves what `r` leads to: it lies behind a
run; or before it, and then before all that follow, since the runs ascend; or between the code
points that the run moves. -/
def Run.missedBy (r : Run) : List Run → Bool
  | [] => true
  | s :: rest =>
    bif s.last.blt r.image then r.missedBy rest
    else bif (r.image + (r.last - r.first)).blt s.first then true
    else
      s.stride.beq 2 && (r.stride.beq 2 || r.first.beq r.last) &&
        ((r.image + s.first) % 2).beq 1 && r.missedBy rest

theorem Run.follow_of_missedBy {r : Run} {runs : List Run} (h : r.missedBy runs = true) {n : Nat}
    (hn : r.Moves n) : follow runs (r.image + (n - r.first)) = none := by
  obtain ⟨hfirst, hlast, hstride⟩ := hn
  induction runs with
  | nil => rfl
  | cons s rest ih =>
    simp only [missedBy, cond_eq_ite, Nat.blt_eq] at h
    rw [follow]
    split_ifs at h with hbehind hbefore
    · split_ifs
      · rfl
      · omega
      · omega
      · exact ih h
    · rw [if_pos (by omega)]
    · simp only [Bool.and_eq_true, Bool.or_eq_true, Nat.beq_eq] at h
      obtain ⟨⟨⟨hs, hr⟩, hodd⟩, hrest⟩ := h
      split_ifs with hlt hle hmoved
      · rfl
      · -- the places between are at an odd distance
        exfalso
        rw [hs] at hmoved
        rcases hr with hr | hr
        · rw [hr] at hstride
          omega
        · omega
      · exact ih hrest
      · exact ih hrest

/-- **What the runs lead to stays as it is**, and is neither blank nor a comma. -/
theorem upperOf_of_moves {r : Run} (hr : r ∈ upperRuns) {n : Nat} (hn : r.Moves n) {d : Char}
    (hd : d = Char.ofNat (r.image + (n - r.first))) :
    upperOf d = [d] ∧ isBlank d = false ∧ d ≠ ',' := by
  have hruns : (upperRuns.all fun r => r.missedBy upperRuns) = true := by decide +kernel
  have hlong : (upperRuns.all fun r => longUpper.all fun e =>
      (r.image + (r.last - r.first)).blt e.1 || e.1.blt r.image) = true := by decide +kernel
  have hplain : ∀ r ∈ upperRuns, ∀ p ∈ (0x2C, 0x2C) :: blanks,
      r.image + (r.last - r.first) < p.1 ∨ p.2 < r.image := by decide +kernel
  rcases toNat_ofNat (r.image + (n - r.first)) with htoNat | htoNat
  · rw [← hd] at htoNat
    have hlast := hn.2.1
    have hform : valueAt? longUpper d.toNat = none := by
      rw [Option.eq_none_iff_forall_not_mem]
      intro form hform
      have hapart := List.all_eq_true.mp (List.all_eq_true.mp hlong r hr) _ (mem_of_valueAt? hform)
      simp only [Bool.or_eq_true, Nat.blt_eq] at hapart
      omega
    have hmoved : follow upperRuns d.toNat = none := by
      rw [htoNat]
      exact Run.follow_of_missedBy (List.all_eq_true.mp hruns r hr) hn
    refine ⟨by rw [upperOf, mapped, hform, hmoved], ?_, ?_⟩
    · rw [Bool.eq_false_iff]
      intro hblank
      obtain ⟨p, hp, hin⟩ := exists_range_of_covers hblank
      have := hplain r hr p (List.mem_cons_of_mem _ hp)
      omega
    · rintro rfl
      have := hplain r hr _ List.mem_cons_self
      simp at this htoNat
      omega
  · have hzero : d = Char.ofNat 0 := by rw [← htoNat, ← hd, Char.ofNat_toNat]
    rw [hzero]
    decide +kernel

/-- **What stands in an upper-case form**: the character itself, which has no other form, or a
character that the tables lead to, and those stay as they are and are neither blank nor a comma. -/
theorem upperOf_cases {c d : Char} (h : d ∈ upperOf c) :
    (d = c ∧ upperOf c = [c]) ∨ (upperOf d = [d] ∧ isBlank d = false ∧ d ≠ ',') := by
  have hforms : ∀ e ∈ longUpper, ∀ n ∈ e.2, upperOf (Char.ofNat n) = [Char.ofNat n] ∧
      isBlank (Char.ofNat n) = false ∧ Char.ofNat n ≠ ',' := by decide +kernel
  rw [upperOf, mapped] at h ⊢
  rcases hform : valueAt? longUpper c.toNat with _ | form
  · rcases hmoved : follow upperRuns c.toNat with _ | m
    · rw [hform, hmoved, List.mem_singleton] at h
      exact Or.inl ⟨h, rfl⟩
    · rw [hform, hmoved, List.mem_singleton] at h
      obtain ⟨r, hr, hmoves, rfl⟩ := exists_moves_of_follow hmoved
      exact Or.inr (upperOf_of_moves hr hmoves h)
  · rw [hform] at h
    obtain ⟨n, hn, rfl⟩ := List.mem_map.mp h
    exact Or.inr (hforms _ (mem_of_valueAt? hform) n hn)

/-- No character is lost. -/
theorem upperOf_ne_nil (c : Char) : upperOf c ≠ [] := by
  have hforms : ∀ e ∈ longUpper, e.2 ≠ [] := by decide +kernel
  rw [upperOf, mapped]
  split
  · next form hform => simpa using hforms _ (mem_of_valueAt? hform)
  · split <;> simp

/-! ### Texts in upper case -/

/-- **A text in upper case is its own upper-case form.** -/
@[simp] theorem upper_upper (t : Text) : upper (upper t) = upper t := by
  rw [upper, upper, List.flatMap_assoc]
  refine List.flatMap_congr fun c _ => ?_
  have hstays : ∀ d ∈ upperOf c, upperOf d = [d] := by
    intro d hd
    rcases upperOf_cases hd with ⟨rfl, hself⟩ | ⟨hself, -⟩
    · exact hself
    · exact hself
  rw [List.flatMap_congr hstays, List.flatMap_singleton']

/-- There is no comma in an upper-case form but those of the text. -/
theorem comma_mem_of_mem_upper {t : Text} (h : ',' ∈ upper t) : ',' ∈ t := by
  obtain ⟨c, hc, hmem⟩ := List.mem_flatMap.mp h
  rcases upperOf_cases hmem with ⟨rfl, -⟩ | ⟨-, -, hne⟩
  · exact hc
  · exact absurd rfl hne

theorem isBlank_of_mem_upperOf {c d : Char} (h : d ∈ upperOf c) (hc : isBlank c = false) :
    isBlank d = false := by
  rcases upperOf_cases h with ⟨rfl, -⟩ | ⟨-, hblank, -⟩
  · exact hc
  · exact hblank

/-- **A trimmed text stays trimmed in upper case.** -/
theorem Tight.upper {t : Text} (h : Tight t) : Tight (upper t) := by
  refine ⟨fun d hd => ?_, fun d hd => ?_⟩
  · rcases t with _ | ⟨c, t⟩
    · simp [Text.upper] at hd
    · rw [Text.upper, List.flatMap_cons, List.head?_append_of_ne_nil _ (upperOf_ne_nil c)] at hd
      exact isBlank_of_mem_upperOf (List.mem_of_head? hd) (h.1 c rfl)
  · rcases List.eq_nil_or_concat t with rfl | ⟨t, c, rfl⟩
    · simp [Text.upper] at hd
    · rw [Text.upper, List.concat_eq_append, List.flatMap_append, List.flatMap_singleton,
        List.getLast?_append_of_ne_nil _ (upperOf_ne_nil c)] at hd
      exact isBlank_of_mem_upperOf (List.mem_of_getLast? hd) (h.2 c (by simp))

/-- Only the empty text has the empty upper-case form. -/
theorem upper_eq_nil {t : Text} : upper t = [] ↔ t = [] := by
  rw [upper, List.flatMap_eq_nil_iff]
  constructor
  · intro h
    rcases t with _ | ⟨c, t⟩
    · rfl
    · exact absurd (h c List.mem_cons_self) (upperOf_ne_nil c)
  · rintro rfl
    simp

end SqlScript.Text
