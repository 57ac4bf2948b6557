import Mathlib.Data.List.Forall2
import SqlScript.Database.Rehearsal
import SqlScript.Proofs.Journal

/-!
# What a run attempts, and what it records

A run attempts the statements it is given from the first one on, and stops at the end of them, at a
failure that tells that the connection is lost, or, if it is told to, at any failure. What it asks
of the database can be accounted for by the results: there is one cursor for each, what is executed
on those that are obtained are the texts of their statements, and each of them is closed
(`Accounted`).

Of the four calls that a statement is executed by, three leave a result when they fail, which holds
the reason (`Recorded`). The fourth is closing the cursor. Its fault is raised, and all results are
lost with it, so that there are two ways in which a run can end (`Ended`).
-/

namespace SqlScript

open SqlScript.Text

variable {σ κ ν : Type} {p : Policy} {wording : Wording} {s : Statement} {rest : List Statement}

/-! ### One statement -/

/-- The reason of a fault has words. -/
theorem Fault.reason_ne_nil (fault : Fault) : fault.reason ≠ [] := by
  unfold reason
  split
  · cases fault.kind with
    | other name named => exact named.1
    | _ => exact List.cons_ne_nil _ _
  · next h => simpa using h

namespace Attempted

variable {calls : Journal κ ν} {outcome : Except Fault (Result ν)}

/-- **One cursor is asked for**, and if it is obtained, the text of the statement is executed. -/
theorem exists_request (h : Attempted wording s calls outcome) :
    ∃ answer : Except Fault κ, Journal.requests calls = [answer] ∧
      Journal.sent calls = if answer.isOk then [s.text] else [] := by
  cases h with
  | unopened fault => exact ⟨.error fault, rfl, rfl⟩
  | closed cursor calls result h => cases h <;> exact ⟨.ok cursor, rfl, rfl⟩
  | unclosed cursor calls result h fault => cases h <;> exact ⟨.ok cursor, rfl, rfl⟩

/-- Nothing is asked of the database that is not about a cursor. -/
theorem onCursor (h : Attempted wording s calls outcome) :
    ∀ call ∈ calls, call.onCursor = true := by
  cases h with
  | unopened fault => simp [Call.onCursor]
  | closed cursor calls result h => cases h <;> simp [Call.onCursor]
  | unclosed cursor calls result h fault => cases h <;> simp [Call.onCursor]

/-- The cursor that is obtained is closed. -/
theorem closed_eq (h : Attempted wording s calls outcome) :
    Journal.closed calls = Journal.obtained calls := by
  cases h with
  | unopened fault => rfl
  | closed cursor calls result h => cases h <;> rfl
  | unclosed cursor calls result h fault => cases h <;> rfl

/-- The fault of closing the cursor is the one that is raised. -/
theorem unclosed_eq (h : Attempted wording s calls outcome) :
    Journal.unclosed calls = (Fault.of? outcome).toList := by
  cases h with
  | unopened fault => rfl
  | closed cursor calls result h => cases h <;> rfl
  | unclosed cursor calls result h fault => cases h <;> rfl

variable {result : Result ν}

theorem statement_eq (h : Attempted wording s calls (.ok result)) : result.statement = s := by
  cases h with
  | unopened fault => rfl
  | closed cursor calls result h => cases h <;> rfl

/-- Every other fault is recorded by its reason. -/
theorem failures_eq (h : Attempted wording s calls (.ok result)) :
    (Journal.failures calls).map Fault.reason = result.error.toList := by
  cases h with
  | unopened fault => rfl
  | closed cursor calls result h => cases h <;> rfl

/-- The last call about a statement whose cursor cannot be closed is the one that fails. -/
theorem exists_unclosed {fault : Fault} (h : Attempted wording s calls (.error fault)) :
    ∃ before cursor, calls = before ++ [.closeCursor cursor (.error fault)] ∧
      Journal.unclosed before = [] := by
  cases h with
  | unclosed cursor calls result h fault =>
    refine ⟨.openCursor (.ok cursor) :: calls, cursor, rfl, ?_⟩
    cases h <;> rfl

end Attempted

/-! ### Accounting for a run that returns -/

/-- **The account of a run**: how its results and its calls go with the statements it was given. -/
structure Accounted (p : Policy) (statements : List Statement) (results : List (Result ν))
    (calls : Journal κ ν) : Prop where
  /-- There is a result for each of the first statements, in order. -/
  statement : results.map Result.statement <+: statements
  /-- A failure before the last result is not one that ends the run. -/
  goesOn : ∀ r ∈ results.dropLast, ∀ reason ∈ r.error,
    p.stopOnError = false ∧ p.isConnectionError reason = false
  /-- If there are statements left, the last result is a failure that ends the run. -/
  ends : results.length < statements.length → ∃ r ∈ results.getLast?, ∃ reason ∈ r.error,
    p.isConnectionError reason = true ∨ p.stopOnError = true
  /-- There is one cursor for each result. -/
  requests : (Journal.requests calls).length = results.length
  /-- The texts of the statements whose cursor is obtained are executed, once and in order. -/
  sent : Journal.sent calls =
    ((statements.zip (Journal.requests calls)).filter (·.2.isOk)).map (·.1.text)
  /-- Every cursor that is obtained is closed once. -/
  closed : Journal.closed calls = Journal.obtained calls
  /-- Every failure is recorded by its reason. -/
  failures : (Journal.failures calls).map Fault.reason = results.filterMap Result.error

namespace Accounted

variable {calls more : Journal κ ν} {result : Result ν} {results : List (Result ν)}

theorem nil : Accounted p [] [] ([] : Journal κ ν) :=
  ⟨List.nil_prefix, by simp, by simp, rfl, rfl, rfl, rfl⟩

theorem stopped (h : Attempted p.wording s calls (.ok result)) {reason : Text}
    (herror : result.error = some reason) (hstop : p.stopsAt reason = true) :
    Accounted p (s :: rest) [result] calls := by
  obtain ⟨answer, hrequests, hsent⟩ := h.exists_request
  refine ⟨?statement, by simp, fun _ => ?ends, by simp [hrequests], ?sent, h.closed_eq, ?failures⟩
  case statement => simp [h.statement_eq]
  case ends => exact ⟨result, rfl, reason, herror, by simpa [Policy.stopsAt] using hstop⟩
  case sent =>
    rw [hsent, hrequests, List.zip_cons_cons, List.zip_nil_right]
    cases answer <;> rfl
  case failures => simp [h.failures_eq, herror]

theorem next (h : Attempted p.wording s calls (.ok result))
    (hgoes : ∀ reason ∈ result.error, p.stopsAt reason = false)
    (hrest : Accounted p rest results more) :
    Accounted p (s :: rest) (result :: results) (calls ++ more) := by
  obtain ⟨answer, hrequests, hsent⟩ := h.exists_request
  refine ⟨?statement, ?goesOn, fun hleft => ?ends, ?requests, ?sent, ?closed, ?failures⟩
  case statement => simpa [h.statement_eq] using hrest.statement
  case goesOn =>
    intro r hr reason hreason
    rcases results with _ | ⟨next, results⟩
    · simp at hr
    rw [List.dropLast_cons_cons, List.mem_cons] at hr
    rcases hr with rfl | hr
    · have hstop := hgoes reason hreason
      rw [Policy.stopsAt, Bool.or_eq_false_iff] at hstop
      exact hstop.symm
    · exact hrest.goesOn r hr reason hreason
  case ends =>
    obtain ⟨r, hr, hends⟩ := hrest.ends (by simpa using hleft)
    exact ⟨r, by simp [Option.mem_def.mp hr, List.getLast?_cons], hends⟩
  case requests => simp [hrequests, hrest.requests]
  case sent =>
    rw [Journal.sent_append, hsent, hrest.sent, Journal.requests_append, hrequests]
    cases answer <;> rfl
  case closed => rw [Journal.closed_append, Journal.obtained_append, h.closed_eq, hrest.closed]
  case failures =>
    rw [Journal.failures_append, List.map_append, h.failures_eq, hrest.failures]
    cases herror : result.error <;> simp [herror]

/-- **A run succeeds**, in all its results, exactly when it executes all statements and no call
fails. -/
theorem all_ok_iff {statements : List Statement} (h : Accounted p statements results calls) :
    results.all Result.ok = true ↔
      Journal.sent calls = statements.map Statement.text ∧ Journal.failures calls = [] := by
  have hfailures : Journal.failures calls = [] ↔ results.all Result.ok = true := by
    rw [← List.map_eq_nil_iff (f := Fault.reason), h.failures, List.filterMap_eq_nil_iff,
      List.all_eq_true]
    simp [Result.ok]
  refine ⟨fun hok => ⟨?_, hfailures.mpr hok⟩, fun ⟨_, hnone⟩ => hfailures.mp hnone⟩
  -- with statements left over, the last result would be a failure
  have hall : statements.length ≤ results.length := by
    by_contra hleft
    obtain ⟨r, hr, reason, hreason, -⟩ := h.ends (by omega)
    have hrok := List.all_eq_true.mp hok r (List.mem_of_getLast? hr)
    rw [Result.ok, Option.mem_def.mp hreason] at hrok
    cases hrok
  have hobtained : ∀ entry ∈ statements.zip (Journal.requests calls), entry.2.isOk = true :=
    fun entry hentry =>
      Journal.isOk_of_failures_eq_nil (hfailures.mpr hok) _ (List.of_mem_zip hentry).2
  have hstatements : (statements.zip (Journal.requests calls)).map Prod.fst = statements :=
    List.map_fst_zip (by rw [h.requests]; exact hall)
  calc Journal.sent calls
      = (statements.zip (Journal.requests calls)).map (·.1.text) := by
        rw [h.sent, List.filter_eq_self.mpr hobtained]
    _ = ((statements.zip (Journal.requests calls)).map Prod.fst).map Statement.text := by
        rw [List.map_map]
        rfl
    _ = statements.map Statement.text := by rw [hstatements]

/-- Only the last failure can tell that the connection is lost. -/
theorem lost_eq {statements : List Statement} (h : Accounted p statements results calls)
    (hnil : p.isConnectionError [] = false) :
    p.lost results = results.any fun r => r.error.any p.isConnectionError := by
  rcases List.eq_nil_or_concat' results with rfl | ⟨before, last, rfl⟩
  · rfl
  have hbefore : (before.any fun r => r.error.any p.isConnectionError) = false := by
    rw [List.any_eq_false]
    intro r hr
    cases herror : r.error with
    | none => simp
    | some reason => simp [h.goesOn r (by simpa using hr) reason herror]
  cases herror : last.error <;> simp [Policy.lost, hbefore, herror, hnil]

end Accounted

namespace Ran

variable {statements : List Statement} {calls : Journal κ ν}
  {outcome : Except Fault (List (Result ν))}

/-- The fault of closing a cursor is the one that is raised. -/
theorem unclosed_eq (h : Ran p statements calls outcome) :
    Journal.unclosed calls = (Fault.of? outcome).toList := by
  induction h with
  | nil => rfl
  | raised s rest calls fault h => exact h.unclosed_eq
  | stopped s rest calls result reason h => exact h.unclosed_eq
  | next s rest calls more result results h hgoes hrest ih =>
    rw [Journal.unclosed_append, h.unclosed_eq, ih]
    cases results <;> rfl

/-- Nothing is asked of the database that is not about a cursor. -/
theorem onCursor (h : Ran p statements calls outcome) :
    ∀ call ∈ calls, call.onCursor = true := by
  induction h with
  | nil => simp
  | raised s rest calls fault h => exact h.onCursor
  | stopped s rest calls result reason h => exact h.onCursor
  | next s rest calls more result results h hgoes hrest ih =>
    exact List.forall_mem_append.mpr ⟨h.onCursor, ih⟩

/-- **A run whose cursors can all be closed returns.** -/
theorem exists_results (h : Ran p statements calls outcome) (hclose : Journal.unclosed calls = []) :
    ∃ results, outcome = .ok results := by
  have hnone := h.unclosed_eq
  rw [hclose] at hnone
  rcases outcome with fault | results
  · exact absurd hnone (by simp)
  · exact ⟨results, rfl⟩

/-- **A run that returns can be accounted for.** -/
theorem accounted (h : Ran p statements calls outcome) :
    ∀ results, outcome = .ok results → Accounted p statements results calls := by
  induction h with
  | nil =>
    rintro _ ⟨⟩
    exact .nil
  | raised s rest calls fault h => rintro _ ⟨⟩
  | stopped s rest calls result reason h herror hstop =>
    rintro _ ⟨⟩
    exact .stopped h herror hstop
  | next s rest calls more result outcome h hgoes hrest ih =>
    intro results hresults
    rcases outcome with fault | others
    · cases hresults
    · cases hresults
      exact .next h hgoes (ih others rfl)

/-- **Every result is that of an attempt.** -/
theorem exists_attempted (h : Ran p statements calls outcome) :
    ∀ results, outcome = .ok results →
      ∀ r ∈ results, ∃ (s : Statement) (part : Journal κ ν),
        Attempted p.wording s part (.ok r) := by
  induction h with
  | nil =>
    rintro _ ⟨⟩
    exact List.forall_mem_nil _
  | raised s rest calls fault h => rintro _ ⟨⟩
  | stopped s rest calls result reason h =>
    rintro _ ⟨⟩
    exact List.forall_mem_singleton.mpr ⟨s, calls, h⟩
  | next s rest calls more result outcome h hgoes hrest ih =>
    intro results hresults
    rcases outcome with fault | others
    · cases hresults
    · cases hresults
      exact List.forall_mem_cons.mpr ⟨⟨s, calls, h⟩, ih others rfl⟩

end Ran

/-- **Accounting**: if every cursor can be closed, a run returns, and can be accounted for. -/
theorem Session.run_accounted (db : Session σ κ ν) (p : Policy) (number : Nat)
    (statements : List Statement) (state : σ)
    (hclose : Journal.unclosed (db.calls p number statements state) = []) :
    ∃ results, (db.run p number statements state).results = .ok results ∧
      Accounted p statements results (db.calls p number statements state) := by
  have hran := db.ran_run p number statements state
  obtain ⟨results, hresults⟩ := hran.exists_results hclose
  exact ⟨results, hresults, hran.accounted results hresults⟩

/-- A run on a database that loses the connection: no cursor is opened for the second statement, and
the fourth is not attempted any more. -/
theorem Session.run_accounted_lost :
    let db := (Rehearsal.server { cursorErrors := [(2, ⟨.interfaceError, "no cursor"⟩)] }).toSession
    let statements : List Statement :=
      [⟨"a", .simple, 0⟩, ⟨"b", .simple, 3⟩, ⟨"c", .simple, 6⟩, ⟨"d", .simple, 9⟩]
    let state : Rehearsal := { answers := [("c", { error := some ⟨.databaseError, "ORA-03113"⟩ })] }
    Journal.unclosed (db.calls {} 1 statements state) = [] ∧
      ∃ results, (db.run {} 1 statements state).results = .ok results ∧
        Accounted {} statements results (db.calls {} 1 statements state) :=
  ⟨by decide +kernel, Session.run_accounted _ _ _ _ _ (by decide +kernel)⟩

/-! ### What is recorded -/

/-- **What a statement leaves in its result**: the reason of the call that failed, if one did. -/
structure Recorded (calls : Journal κ ν) (r : Result ν) : Prop where
  /-- The calls are about one statement. -/
  request : (Journal.requests calls).length = 1
  /-- A failure is recorded by its reason. -/
  failures : (Journal.failures calls).map Fault.reason = r.error.toList
  /-- A reason has words. -/
  words : r.error ≠ some []

theorem Attempted.recorded {calls : Journal κ ν} {result : Result ν}
    (h : Attempted wording s calls (.ok result)) : Recorded calls result := by
  obtain ⟨answer, hrequests, -⟩ := h.exists_request
  refine ⟨by simp [hrequests], h.failures_eq, fun hwords => ?_⟩
  have hfailures := h.failures_eq
  rw [hwords, Option.toList_some, List.map_eq_singleton_iff] at hfailures
  obtain ⟨fault, -, hreason⟩ := hfailures
  exact fault.reason_ne_nil hreason

/-- **How a run ends**: either it returns, with a result for every statement that it attempted, in
which every failure is recorded, or a cursor cannot be closed, which is its last call, and the fault
of that call is all that is left of it. -/
inductive Ended (statements : List Statement) : Journal κ ν → Except Fault (List (Result ν)) → Prop
  /-- The run returns. -/
  | returned (parts : List (Journal κ ν)) (results : List (Result ν))
    (hstatements : results.map Result.statement <+: statements)
    (hparts : List.Forall₂ Recorded parts results)
    (hclosed : ∀ part ∈ parts, Journal.unclosed part = []) :
    Ended statements parts.flatten (.ok results)
  /-- A cursor cannot be closed. -/
  | raised (before : Journal κ ν) (cursor : κ) (fault : Fault)
    (hclosed : Journal.unclosed before = []) :
    Ended statements (before ++ [.closeCursor cursor (.error fault)]) (.error fault)

/-- A statement that is attempted before others. -/
theorem Ended.next {calls more : Journal κ ν} {result : Result ν}
    {outcome : Except Fault (List (Result ν))} (hrest : Ended rest more outcome)
    (h : Attempted wording s calls (.ok result)) :
    Ended (s :: rest) (calls ++ more) (outcome.map (result :: ·)) := by
  cases hrest with
  | returned parts results hstatements hparts hclosed =>
    refine .returned (calls :: parts) (result :: results) ?_ (.cons h.recorded hparts) ?_
    · simpa [h.statement_eq] using hstatements
    · exact List.forall_mem_cons.mpr ⟨h.unclosed_eq, hclosed⟩
  | raised before cursor fault hclosed =>
    rw [← List.append_assoc]
    refine .raised (calls ++ before) cursor fault ?_
    rw [Journal.unclosed_append, h.unclosed_eq, hclosed]
    rfl

theorem Ran.ended {statements : List Statement} {calls : Journal κ ν}
    {outcome : Except Fault (List (Result ν))} (h : Ran p statements calls outcome) :
    Ended statements calls outcome := by
  induction h with
  | nil => exact .returned [] [] List.nil_prefix .nil (by simp)
  | raised s rest calls fault h =>
    obtain ⟨before, cursor, rfl, hclosed⟩ := h.exists_unclosed
    exact .raised before cursor fault hclosed
  | stopped s rest calls result reason h =>
    have hstop : Ended rest ([] : Journal κ ν) (.ok []) :=
      .returned [] [] List.nil_prefix .nil (by simp)
    simpa [Except.map] using hstop.next h
  | next s rest calls more result results h hgoes hrest ih => exact ih.next h

/-- **Every run ends in one of two ways**: it returns and has recorded every failure, or it raises
the fault of a cursor that could not be closed. -/
theorem Session.run_ended (db : Session σ κ ν) (p : Policy) (number : Nat)
    (statements : List Statement) (state : σ) :
    Ended statements (db.calls p number statements state)
      (db.run p number statements state).results :=
  (db.ran_run p number statements state).ended

/-- When the connection is lost while a statement is executed, its cursor may not close, and then
nothing is left of the run: neither the reason, nor the result of the statement before. -/
theorem Session.not_returns_of_unclosed :
    let lost : Fault := ⟨.databaseError, "ORA-03114: not connected"⟩
    let db := (Rehearsal.server { cursorCloseErrors := [(2, lost)] }).toSession
    let statements : List Statement := [⟨"a", .simple, 0⟩, ⟨"b", .simple, 3⟩]
    let state : Rehearsal := { answers := [("b", { error := lost })] }
    ¬∃ results, (db.run {} 1 statements state).results = .ok results := by
  intro lost db statements state
  have hraised : (db.run {} 1 statements state).results.isOk = false := by decide +kernel
  rintro ⟨results, hresults⟩
  rw [hresults] at hraised
  cases hraised

end SqlScript
