import SqlScript.Proofs.Accounting
import SqlScript.Proofs.Trimming
import SqlScript.Proofs.Writing

/-!
# What a result says

A result is put together step by step while a statement is executed, and any step may fail. Its four
fields could thus be filled in many ways, but three are all that come about (`Result.HasShape`): it
holds the reason of a failure, or a table, or what is said about a statement without rows. The
columns alone do not count. They stay where the rows could not be fetched and where there were
none.

So what is shown of a result is what the one field holds that is set. The text that stands in for a
message that is missing is never shown, since a message is missing only where there is something
else to be shown, and no message is empty. Only a table may not be shown at all, as its values have
to be written for it.
-/

namespace SqlScript

open SqlScript.Text

variable {σ κ ν : Type} {db : Session σ κ ν} {wording : Wording}

/-! ### Texts that are recorded -/

/-- The name of a kind of fault is a single word. -/
theorem FaultKind.not_isBlank_of_mem_name (kind : FaultKind) :
    ∀ c ∈ kind.name, isBlank c = false := by
  suffices hany : kind.name.any isBlank = false by
    simpa [List.any_eq_false] using hany
  cases kind with
  | other name named isDatabase =>
    change name.any isBlank = false
    simpa [List.any_eq_false] using named.2
  | _ => rfl

theorem Text.tight_of_not_blank {t : Text} (h : ∀ c ∈ t, isBlank c = false) : Tight t :=
  ⟨fun c hc => h c (List.mem_of_mem_head? hc), fun c hc => h c (List.mem_of_getLast? hc)⟩

/-- The reason of a fault is trimmed. -/
theorem Fault.trim_reason (fault : Fault) : trim fault.reason = fault.reason := by
  rw [reason]
  split
  · exact trim_eq_self (tight_of_not_blank fault.kind.not_isBlank_of_mem_name)
  · exact trim_eq_self (tight_trim fault.message)

/-- There is always something to be said about a statement without rows. -/
theorem Wording.message_ne_nil (wording : Wording) (statement : Text) :
    wording.message statement ≠ [] := by
  simp only [message]
  split_ifs
  · exact List.cons_ne_nil _ _
  · exact List.cons_ne_nil _ _
  · exact trim_ne_nil (c := '.') (by simp) (by decide)

/-- Each of several texts stands in what they are joined to. -/
theorem Text.infix_intercalate {sep t : Text} {ts : List Text} (h : t ∈ ts) :
    t <:+: sep.intercalate ts := by
  induction ts with
  | nil => cases h
  | cons first ts ih =>
    rcases ts with _ | ⟨second, ts⟩
    · obtain rfl := List.mem_singleton.mp h
      simp
    rw [List.intercalate_cons_cons]
    rcases List.mem_cons.mp h with rfl | h
    · rw [List.append_assoc]
      exact (List.prefix_append _ _).isInfix
    · exact (ih h).trans (List.suffix_append _ _).isInfix

namespace Result

/-! ### The three shapes -/

/-- What a result says. -/
inductive Shape (ν : Type) where
  /-- That the statement failed. -/
  | failed (reason : Text)
  /-- Which rows the statement returned. -/
  | returned (columns : List Text) (rows : List (Row ν))
  /-- What is said when it returned none. -/
  | said (words : Text)

/-- How each shape is shown. Only the values of a table have to be written for it. -/
def Shape.shown (db : Session σ κ ν) : Shape ν → Asking σ Text
  | failed reason => return "ERROR: " ++ reason
  | returned columns rows => table db columns rows
  | said words => return words

/-- **The shapes of results**, and what holds of the fields of a result of each. -/
inductive HasShape (wording : Wording) (r : Result ν) : Shape ν → Prop
  /-- The reason of a failure is all there is, the columns apart. -/
  | failed (reason : Text) (herror : r.error = some reason) (hwords : reason ≠ [])
    (htrim : trim reason = reason) (hrows : r.rows = []) (hmessage : r.message = none) :
    HasShape wording r (.failed reason)
  /-- There are rows, and columns for them. -/
  | returned (herror : r.error = none) (hcolumns : r.columns ≠ []) (hrows : r.rows ≠ [])
    (hmessage : r.message = none) : HasShape wording r (.returned r.columns r.rows)
  /-- There are no rows, and the message is what is said then. -/
  | said (herror : r.error = none) (hrows : r.rows = [])
    (hmessage : r.message = some (wording.message r.statement.text))
    (hwords : wording.message r.statement.text ≠ []) :
    HasShape wording r (.said (wording.message r.statement.text))

namespace HasShape

variable {r : Result ν} {shape shape' : Shape ν}

/-- A fault is recorded. -/
theorem of_fault (fault : Fault) (herror : r.error = some fault.reason) (hrows : r.rows = [])
    (hmessage : r.message = none) : HasShape wording r (.failed fault.reason) :=
  .failed _ herror fault.reason_ne_nil fault.trim_reason hrows hmessage

/-- There are no rows. -/
theorem of_message (herror : r.error = none) (hrows : r.rows = [])
    (hmessage : r.message = some (wording.message r.statement.text)) :
    HasShape wording r (.said (wording.message r.statement.text)) :=
  .said herror hrows hmessage (wording.message_ne_nil _)

/-- **A result has one shape.** -/
theorem unique (h : HasShape wording r shape) (h' : HasShape wording r shape') :
    shape = shape' := by
  cases h <;> cases h' <;> simp_all

/-- **What is shown is what the result says.** -/
theorem outcome_eq (db : Session σ κ ν) (h : HasShape wording r shape) :
    r.outcome db = shape.shown db := by
  cases h with
  | failed reason herror => simp only [outcome, herror, Shape.shown]
  | returned herror hcolumns hrows =>
    obtain ⟨row, rows, hcons⟩ := List.exists_cons_of_ne_nil hrows
    simp only [outcome, herror, hcons, Shape.shown]
  | said herror hrows hmessage =>
    simp only [outcome, herror, hrows, hmessage, Option.getD_some, Shape.shown]

/-- What is shown is something. -/
theorem shown_ne_nil (db : Session σ κ ν) (h : HasShape wording r shape) (state : σ) :
    (shape.shown db state).1 ≠ .ok [] := by
  intro hshown
  cases h with
  | failed reason => cases hshown
  | returned herror hcolumns hrows =>
    obtain ⟨lines, between, hlines, htable⟩ := Asking.of_bind_ok (Prod.ext hshown rfl)
    -- there is a line below that of the columns, and so a line end
    have hlength := Asking.length_of_mapM hlines
    cases lines with
    | nil => exact hrows (List.eq_nil_of_length_eq_zero hlength.symm)
    | cons line lines =>
      have htext := Except.ok.inj (Prod.ext_iff.mp htable).1
      rw [List.map_cons, List.map_cons, List.intercalate_cons_cons] at htext
      simp at htext
  | said herror hrows hmessage hwords => exact hwords (Except.ok.inj hshown)

end HasShape

/-- **A result says one thing**, and that is what is shown of it. -/
structure Determined (db : Session σ κ ν) (wording : Wording) (r : Result ν) : Prop where
  /-- It has one shape. -/
  shape : ∃! shape, r.HasShape wording shape
  /-- What is shown is what a result of this shape says. -/
  outcome : ∀ shape, r.HasShape wording shape → r.outcome db = shape.shown db
  /-- It is not nothing. -/
  words : ∀ state, (r.outcome db state).1 ≠ .ok []

theorem HasShape.determined {r : Result ν} {shape : Shape ν} (db : Session σ κ ν)
    (h : HasShape wording r shape) : Determined db wording r where
  shape := ⟨shape, h, fun _ hother => hother.unique h⟩
  outcome _ hother := hother.outcome_eq db
  words state := h.outcome_eq db ▸ h.shown_ne_nil db state

/-- **How a result is shown among others**, those before it and those behind it: if there is a text
at all, then the outcome of the result stands in it, as it is shown once those before it are, and if
there is none, then a value of one of the results cannot be written. -/
def ShownAmong (db : Session σ κ ν) (earlier later : List (Result ν)) (r : Result ν) : Prop :=
  ∀ state, match (shown db (earlier ++ r :: later) state).1 with
    | .ok text => ∃ outcome after,
        r.outcome db (earlier.mapM (entry db) state).2 = (.ok outcome, after) ∧ outcome <:+: text
    | .error fault => ∃ other ∈ earlier ++ r :: later, db.Unwritten other.rows fault

/-- **The outcome of each result is shown.** -/
theorem shownAmong (db : Session σ κ ν) (earlier later : List (Result ν)) (r : Result ν) :
    r.ShownAmong db earlier later := by
  intro state
  rcases hshown : shown db (earlier ++ r :: later) state with ⟨fault | text, left⟩
  · exact exists_unwritten hshown
  rcases shown_cases db (earlier ++ r :: later) with ⟨single, hsingle, heq⟩ | heq <;>
    rw [heq] at hshown
  · obtain ⟨rfl, rfl, rfl⟩ : earlier = [] ∧ r = single ∧ later = [] := by
      simpa [List.append_eq_singleton_iff] using hsingle
    exact ⟨text, left, hshown, List.infix_rfl⟩
  · obtain ⟨entries, between, hentries, htext⟩ := Asking.of_bind_ok hshown
    obtain ⟨entry, hentry, after, hasked⟩ := Asking.exists_of_mapM_append hentries
    obtain ⟨outcome, last, houtcome, hunder⟩ := Asking.of_bind_ok hasked
    cases htext
    cases hunder
    -- under the text of its statement
    exact ⟨outcome, after, houtcome,
      (List.suffix_append _ _).isInfix.trans (infix_intercalate hentry)⟩

end Result

/-! ### Every result has a shape -/

theorem Performed.hasShape {s : Statement} {cursor : κ} {calls : Journal κ ν} {r : Result ν}
    (h : Performed wording s cursor calls r) : ∃ shape, r.HasShape wording shape := by
  cases h with
  | refused fault => exact ⟨_, .of_fault fault rfl rfl rfl⟩
  | silent => exact ⟨_, .of_message rfl rfl rfl⟩
  | unfetched columns hcolumns fault => exact ⟨_, .of_fault fault rfl rfl rfl⟩
  | rowless columns hcolumns => exact ⟨_, .of_message rfl rfl rfl⟩
  | fetched columns hcolumns rows hrows => exact ⟨_, .returned rfl hcolumns hrows rfl⟩

theorem Attempted.hasShape {s : Statement} {calls : Journal κ ν} {r : Result ν}
    (h : Attempted wording s calls (.ok r)) : ∃ shape, r.HasShape wording shape := by
  cases h with
  | unopened fault => exact ⟨_, .of_fault fault rfl rfl rfl⟩
  | closed cursor calls r h => exact h.hasShape

/-- **Every statement has exactly one outcome**: the result that is left of it says one thing, and
where the results of a run are shown, that is what is shown of it. Nothing but a value that cannot
be written keeps them from being shown. -/
theorem Session.run_determined (db : Session σ κ ν) (p : Policy) :
    (∀ s state r, (db.attempt p.wording s state).1 = .ok r →
      r.statement = s ∧ r.Determined db p.wording) ∧
    ∀ number statements state results,
      (db.run p number statements state).results = .ok results →
      ∀ earlier r later, results = earlier ++ r :: later →
        r.Determined db p.wording ∧ r.ShownAmong db earlier later := by
  constructor
  · intro s state r hr
    obtain ⟨calls, hattempted, -⟩ := db.journaled_attempt p.wording s state []
    rw [hr] at hattempted
    obtain ⟨shape, hshape⟩ := hattempted.hasShape
    exact ⟨hattempted.statement_eq, hshape.determined db⟩
  · rintro number statements state results hresults earlier r later rfl
    have hran := db.ran_run p number statements state
    obtain ⟨s, calls, hattempted⟩ :=
      hran.exists_attempted _ hresults r (List.mem_append_right earlier List.mem_cons_self)
    obtain ⟨shape, hshape⟩ := hattempted.hasShape
    exact ⟨hshape.determined db, r.shownAmong db earlier later⟩

/-- The rows of a second statement cannot be fetched, and the fault comes without words. -/
theorem Session.run_determined_unfetched :
    let db := (Rehearsal.server {}).toSession
    let p : Policy := {}
    let state : Rehearsal :=
      { answers := [("b", { columns := ["x"], fetchError := some ⟨.databaseError, " "⟩ })] }
    let a : Statement := ⟨"a", .simple, 0⟩
    let b : Statement := ⟨"b", .simple, 3⟩
    let silent : Result Cell := { statement := a, message := some "succeeded." }
    let unfetched : Result Cell :=
      { statement := b, columns := ["x"], error := some "DatabaseError" }
    ((db.attempt p.wording b state).1 = .ok unfetched ∧
        unfetched.statement = b ∧ unfetched.Determined db p.wording) ∧
      (db.run p 1 [a, b] state).results = .ok [silent, unfetched] ∧
        ∀ earlier r later, [silent, unfetched] = earlier ++ r :: later →
          r.Determined db p.wording ∧ r.ShownAmong db earlier later := by
  intro db p state a b silent unfetched
  have hattempt : (db.attempt p.wording b state).1 = .ok unfetched := by decide +kernel
  have hrun : (db.run p 1 [a, b] state).results = .ok [silent, unfetched] := by decide +kernel
  obtain ⟨hattempts, hruns⟩ := Session.run_determined db p
  exact ⟨⟨hattempt, hattempts b state unfetched hattempt⟩, hrun, hruns 1 [a, b] state _ hrun⟩

end SqlScript
