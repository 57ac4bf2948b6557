import SqlScript.Command.Program
import SqlScript.Database.Rehearsal
import SqlScript.Proofs.Accounting
import SqlScript.Proofs.Writing

/-!
# How a run of the program ends

The program connects to the database, runs the statements, commits, closes the connection, prints
the results and gives its status. All of this is done whatever became of the statements and of the
commit, but where the last result tells that the connection is lost, nothing is committed. The
program looks at the last result alone, and as a result that tells this ends the run, it sees no
less than if it looked at all of them (`Accounted.lost_eq`).

The values of the rows are not written before the connection is closed, and a fault in writing one
is not caught. The work is then committed, but nothing is printed, and the status is that of a
failure. This is the one way to lose the results that the faults of the calls before do not tell,
so what is printed is tied to there being no such fault in the journal (`Told`).

Each function from the end of the program backwards is treated in the same way. On a database that
keeps a journal it ends as it does on the database itself, with its calls noted (`Ending.noting`),
and unless these calls raise what the program does not report, the ending is as it should be
(`Told`, `Finished` and `Conducted`).
-/

namespace SqlScript.Command

open SqlScript.Text

variable {σ κ ν : Type}

/-! ### The calls of the program -/

/-- The same ending, with a journal beside the state. -/
def Ending.noting (ending : Ending σ) (journal : Journal κ ν) : Ending (σ × Journal κ ν) :=
  { emitted := ending.emitted, status := ending.status, escaped := ending.escaped,
    state := (ending.state, journal) }

theorem Ending.after_noting (emitted : List Emission) (ending : Ending σ) (journal : Journal κ ν) :
    (ending.noting journal).after emitted = (ending.after emitted).noting journal := rfl

/-- **The calls of the program** when it runs a script. -/
def calls (server : Server σ κ ν) (settings : Settings) (disk : Disk) (arguments : Arguments)
    (path : Option Text) (state : σ) : Journal κ ν :=
  (run server.journaled settings disk arguments path (state, [])).state.2

/-- The faults of committing and of closing the connection are the database's. -/
def Reported (calls : Journal κ ν) : Prop :=
  ∀ answer ∈ Journal.commits calls ++ Journal.closings calls,
    ∀ fault ∈ Fault.of? answer, fault.kind.ofDatabase = true

instance (calls : Journal κ ν) : Decidable (Reported calls) :=
  inferInstanceAs (Decidable (∀ answer ∈ Journal.commits calls ++ Journal.closings calls,
    ∀ fault ∈ Fault.of? answer, fault.kind.ofDatabase = true))

/-! ### Printing the results -/

/-- What is printed or logged before is nothing to the output if it holds no line of it. -/
theorem Ending.output_after {emitted : List Emission} (h : ∀ line, .out line ∉ emitted)
    (ending : Ending σ) : (ending.after emitted).output = ending.output := by
  rw [output, after, List.flatMap_append, List.flatMap_eq_nil_iff.mpr, List.nil_append, ← output]
  rintro (line | line | record) hmem
  · exact absurd hmem (h line)
  · rfl
  · rfl

/-- **How the program tells its results**, of which it is known whether they are a success: it
prints them and gives the status, unless a value cannot be written. -/
structure Told (db : Session σ κ ν) (results : List (Result ν)) (success : Prop)
    (calls : Journal κ ν) (ending : Ending σ) : Prop where
  /-- The fault of writing a value escapes, and no other one does. -/
  escaped : ending.escaped = (Journal.unwritten calls).head?
  /-- The status is 0 just when everything succeeded, provided that all values can be written. -/
  status : Journal.unwritten calls = [] → (ending.status = 0 ↔ success)
  /-- Otherwise it is 1. -/
  failure : ending.status ≠ 0 → ending.status = 1
  /-- If there are results, they are what is printed, provided that all values can be written. The
  last calls are those by which this is done. -/
  shown : Journal.unwritten calls = [] → results ≠ [] → ∃ state before text,
    Result.shown db.journaled results (state, before) = (.ok text, ending.state, calls) ∧
      ending.output = Ending.printed text
  /-- If a value cannot be written, nothing is printed, and the status is 1. -/
  unshown : Journal.unwritten calls ≠ [] → ending.status = 1 ∧ ending.output = []

namespace Told

variable {db : Session σ κ ν} {results : List (Result ν)} {success success' : Prop}
  {calls : Journal κ ν} {ending : Ending σ}

/-- What is logged before makes no difference. -/
theorem after (h : Told db results success calls ending) {emitted : List Emission}
    (hemitted : ∀ line, .out line ∉ emitted) :
    Told db results success calls (ending.after emitted) where
  escaped := h.escaped
  status := h.status
  failure := h.failure
  shown hnil hne := by
    rw [Ending.output_after hemitted]
    exact h.shown hnil hne
  unshown hne := by
    rw [Ending.output_after hemitted]
    exact h.unshown hne

/-- Nor do calls that were made before, if none of them failed to write a value. -/
theorem prepend (h : Told db results success calls ending) (earlier : Journal κ ν)
    (hearlier : Journal.unwritten earlier = []) :
    Told db results success (earlier ++ calls) ending := by
  have hunwritten : Journal.unwritten (earlier ++ calls) = Journal.unwritten calls := by
    rw [Journal.unwritten_append, hearlier, List.nil_append]
  refine ⟨?escaped, ?status, h.failure, ?shown, ?unshown⟩
  case escaped => rw [hunwritten, h.escaped]
  case status => exact fun hnil => h.status (hunwritten ▸ hnil)
  case shown =>
    intro hnil hne
    obtain ⟨state, before, text, hshown, houtput⟩ := h.shown (hunwritten ▸ hnil) hne
    exact ⟨state, earlier ++ before, text,
      (Result.notes_shown db results).prepend hshown earlier, houtput⟩
  case unshown => exact fun hne => h.unshown (hunwritten ▸ hne)

theorem congr (h : Told db results success calls ending) (hiff : success ↔ success') :
    Told db results success' calls ending :=
  { h with status := fun hnil => (h.status hnil).trans hiff }

end Told

/-- Printing the results is writing their values. -/
theorem report_journaled (server : Server σ κ ν) (results : List (Result ν)) (commitFailed : Bool)
    (state : σ) (journal : Journal κ ν) :
    ∃ answers, report server.journaled results commitFailed (state, journal) =
        (report server results commitFailed state).noting (journal ++ Journal.writings answers) ∧
      Told server.toSession results (commitFailed = false ∧ results.all Result.ok = true)
        (Journal.writings answers) (report server results commitFailed state) := by
  have hstatus : (if !commitFailed && results.all Result.ok then 0 else 1) = 0 ↔
      commitFailed = false ∧ results.all Result.ok = true := by simp
  have hfailure (h : (if !commitFailed && results.all Result.ok then 0 else 1) ≠ 0) :
      (if !commitFailed && results.all Result.ok then 0 else 1) = 1 := by
    split_ifs at h ⊢
    · exact absurd rfl h
    · rfl
  cases hempty : results.isEmpty with
  | true =>
    -- no result, and nothing to be written
    refine ⟨[], ?_, ?_⟩
    · simp [report, hempty, Ending.noting, Journal.writings]
    · simp only [report, hempty, if_true]
      exact {
        escaped := rfl
        status := fun _ => hstatus
        failure := hfailure
        shown := fun _ hne => absurd (List.isEmpty_iff.mp hempty) hne
        unshown := fun hne => absurd rfl hne }
  | false =>
    obtain ⟨answers, hnoted, hunwritten⟩ := Result.notes_shown server.toSession results state
    have hasked (journal : Journal κ ν) :
        Result.shown server.journaled.toSession results (state, journal) = _ := hnoted journal
    rcases hshown : Result.shown server.toSession results state with ⟨fault | text, left⟩
    · simp only [hshown] at hasked hunwritten
      refine ⟨answers, ?_, ?_⟩
      · simp [report, hempty, hasked, hshown, Ending.noting, Ending.escape]
      · have hne : Journal.unwritten (Journal.writings answers : Journal κ ν) ≠ [] := by
          rw [hunwritten]
          exact List.cons_ne_nil _ _
        simp only [report, hempty, hshown]
        exact {
          escaped := (congrArg List.head? hunwritten).symm
          status := fun hnil => absurd hnil hne
          failure := fun _ => rfl
          shown := fun hnil => absurd hnil hne
          unshown := fun _ => ⟨rfl, rfl⟩ }
    · simp only [hshown] at hasked hunwritten
      refine ⟨answers, ?_, ?_⟩
      · simp [report, hempty, hasked, hshown, Ending.noting]
      · simp only [report, hempty, hshown]
        exact {
          escaped := (congrArg List.head? hunwritten).symm
          status := fun _ => hstatus
          failure := hfailure
          shown := fun _ _ => ⟨state, [], text, hasked [], List.append_nil _⟩
          unshown := fun hne => absurd hunwritten hne }

/-! ### Closing -/

/-- Closing the connection is one call before, and what it raises is reported. -/
theorem conclude_journaled (server : Server σ κ ν) (results : List (Result ν)) (commitFailed : Bool)
    (state : σ) (journal : Journal κ ν) :
    ∃ answer answers, conclude server.journaled results commitFailed (state, journal) =
        (conclude server results commitFailed state).noting
          (journal ++ .close answer :: Journal.writings answers) ∧
      ((∀ fault ∈ Fault.of? answer, fault.kind.ofDatabase = true) →
        Told server.toSession results (commitFailed = false ∧ results.all Result.ok = true)
          (.close answer :: Journal.writings answers)
          (conclude server results commitFailed state)) := by
  rcases hclose : server.close state with ⟨answer, next⟩
  have hnoted : server.journaled.close (state, journal) =
      (answer, next, journal ++ [.close answer]) := noted_of_eq hclose journal
  obtain ⟨answers, hreport, htold⟩ :=
    report_journaled server results commitFailed next (journal ++ [.close answer])
  rw [List.append_assoc, List.singleton_append] at hreport
  have htold := htold.prepend [.close answer] rfl
  rcases answer with fault | ⟨⟩
  · by_cases hkind : fault.kind.ofDatabase = true
    · refine ⟨.error fault, answers, ?_, fun _ => ?_⟩
      · simp [conclude, hnoted, hclose, hkind, hreport, Ending.after_noting]
      · simp only [conclude, hclose, hkind, if_true]
        exact htold.after (by simp)
    · -- the fault escapes before anything is written
      refine ⟨.error fault, [], ?_, fun hfault => absurd (hfault fault rfl) hkind⟩
      simp [conclude, hnoted, hclose, hkind, Ending.noting, Ending.escape, Journal.writings]
  · refine ⟨.ok (), answers, ?_, fun _ => ?_⟩
    · simp only [conclude, hnoted, hclose, hreport]
    · simp only [conclude, hclose]
      exact htold

/-! ### Committing -/

/-- Where the connection is lost, something failed. -/
theorem all_ok_of_lost {policy : Policy} (hnil : policy.isConnectionError [] = false)
    {results : List (Result ν)} (h : policy.lost results = true) :
    results.all Result.ok = false := by
  rw [Policy.lost, Option.any_eq_true] at h
  obtain ⟨last, hlast, hreason⟩ := h
  refine List.all_eq_false.mpr ⟨last, List.mem_of_getLast? hlast, fun hok => ?_⟩
  rw [Result.ok, Option.isNone_iff_eq_none] at hok
  rw [hok, Option.getD_none, hnil] at hreason
  cases hreason

/-- The calls after the statements: the commit, if one is attempted, closing the connection, and
writing the values that are printed. -/
def finishing (committed : Option (Except Fault Unit)) (closed : Except Fault Unit)
    (answers : List (ν × Except Fault Text)) : Journal κ ν :=
  (committed.map Call.commit).toList ++ .close closed :: Journal.writings answers

section Finishing

variable (committed : Option (Except Fault Unit)) (closed : Except Fault Unit)
  (answers : List (ν × Except Fault Text))

theorem filterMap_finishing {α : Type} {f : Call κ ν → Option α}
    (hwrite : ∀ value answer, f (.write value answer) = none) :
    (finishing committed closed answers).filterMap f =
      (committed.bind fun answer => f (.commit answer)).toList ++ (f (.close closed)).toList := by
  have hcommit : (committed.map Call.commit).toList.filterMap f =
      (committed.bind fun answer => f (.commit answer)).toList := by
    rcases committed with _ | answer
    · rfl
    · cases h : f (.commit answer) <;> simp [h]
  rw [finishing, List.filterMap_append, hcommit]
  cases h : f (.close closed) <;> simp [Journal.filterMap_writings hwrite, h]

@[simp] theorem connections_finishing :
    Journal.connections (finishing committed closed answers : Journal κ ν) = [] :=
  (filterMap_finishing committed closed answers fun _ _ => rfl).trans (by cases committed <;> rfl)

@[simp] theorem requests_finishing :
    Journal.requests (finishing committed closed answers : Journal κ ν) = [] :=
  (filterMap_finishing committed closed answers fun _ _ => rfl).trans (by cases committed <;> rfl)

@[simp] theorem sent_finishing :
    Journal.sent (finishing committed closed answers : Journal κ ν) = [] :=
  (filterMap_finishing committed closed answers fun _ _ => rfl).trans (by cases committed <;> rfl)

@[simp] theorem failures_finishing :
    Journal.failures (finishing committed closed answers : Journal κ ν) = [] :=
  (filterMap_finishing committed closed answers fun _ _ => rfl).trans (by cases committed <;> rfl)

@[simp] theorem commits_finishing :
    Journal.commits (finishing committed closed answers : Journal κ ν) = committed.toList :=
  (filterMap_finishing committed closed answers fun _ _ => rfl).trans (by cases committed <;> rfl)

@[simp] theorem closings_finishing :
    Journal.closings (finishing committed closed answers : Journal κ ν) = [closed] :=
  (filterMap_finishing committed closed answers fun _ _ => rfl).trans (by cases committed <;> rfl)

end Finishing

/-- How the program ends once the statements have been run. -/
structure Finished (db : Session σ κ ν) (policy : Policy) (results : List (Result ν))
    (committed : Option (Except Fault Unit)) (calls : Journal κ ν) (ending : Ending σ) : Prop
    extends Told db results (committed.all Except.isOk = true ∧ results.all Result.ok = true)
      calls ending where
  /-- A commit is attempted unless the connection is lost. -/
  attempted : committed.isSome = !policy.lost results

/-- A commit is attempted before, unless the connection is lost. -/
theorem commitAndConclude_journaled (server : Server σ κ ν) (policy : Policy)
    (results : List (Result ν)) (state : σ) (journal : Journal κ ν) :
    ∃ calls, commitAndConclude server.journaled policy results (state, journal) =
        (commitAndConclude server policy results state).noting (journal ++ calls) ∧
      Journal.connections calls = [] ∧
      (Reported calls → ∃ committed closed answers, calls = finishing committed closed answers ∧
        Finished server.toSession policy results committed calls
          (commitAndConclude server policy results state)) := by
  cases hlost : policy.lost results with
  | true =>
    obtain ⟨closed, answers, hconclude, htold⟩ :=
      conclude_journaled server results false state journal
    refine ⟨finishing none closed answers, ?_, connections_finishing none closed answers,
      fun hreported => ⟨none, closed, answers, rfl, ?_⟩⟩
    · simp [commitAndConclude, hlost, hconclude, finishing]
    · have h := htold (hreported closed (by simp))
      simp only [commitAndConclude, hlost, if_true]
      exact ⟨h.congr (by simp), by simp [hlost]⟩
  | false =>
    rcases hcommit : server.commit state with ⟨answer, next⟩
    have hnoted : server.journaled.commit (state, journal) =
        (answer, next, journal ++ [.commit answer]) := noted_of_eq hcommit journal
    have hconcluded (commitFailed : Bool) :=
      conclude_journaled server results commitFailed next (journal ++ [.commit answer])
    simp only [List.append_assoc, List.singleton_append] at hconcluded
    rcases answer with fault | ⟨⟩
    · by_cases hkind : fault.kind.ofDatabase = true
      · obtain ⟨closed, answers, hconclude, htold⟩ := hconcluded true
        refine ⟨finishing (some (.error fault)) closed answers, ?_,
          connections_finishing _ closed answers, fun hreported => ⟨_, closed, answers, rfl, ?_⟩⟩
        · simp [commitAndConclude, hlost, hnoted, hcommit, hkind, hconclude, Ending.after_noting,
            finishing]
        · have h := (htold (hreported closed (by simp))).prepend [.commit (.error fault)] rfl
          simp only [commitAndConclude, hlost, hcommit, hkind, if_true]
          exact ⟨(h.after (by simp)).congr (by simp [Except.isOk, Except.toBool]), by simp [hlost]⟩
      · -- the fault escapes before the connection is closed
        refine ⟨[.commit (.error fault)], ?_, rfl, fun hreported => ?_⟩
        · simp [commitAndConclude, hlost, hnoted, hcommit, hkind, Ending.noting, Ending.escape]
        · have hdatabase := hreported (.error fault) (by simp [Journal.commits, Call.commit?])
          exact absurd (hdatabase fault rfl) hkind
    · obtain ⟨closed, answers, hconclude, htold⟩ := hconcluded false
      refine ⟨finishing (some (.ok ())) closed answers, ?_,
        connections_finishing _ closed answers, fun hreported => ⟨_, closed, answers, rfl, ?_⟩⟩
      · simp [commitAndConclude, hlost, hnoted, hcommit, hconclude, finishing]
      · have h := (htold (hreported closed (by simp))).prepend [.commit (.ok ())] rfl
        simp only [commitAndConclude, hlost, hcommit]
        exact ⟨h.congr (by simp [Except.isOk, Except.toBool]), by simp [hlost]⟩

/-! ### Running the statements -/

/-- **How a connected run ends**, by the statements it was given and the results it has. It is a
success just when all statements are executed, once and in order, no call that they are executed by
fails, and the commit succeeds. -/
structure Conducted (db : Session σ κ ν) (policy : Policy) (statements : List Statement)
    (results : List (Result ν)) (calls : Journal κ ν) (ending : Ending σ) : Prop
    extends Told db results (Journal.sent calls = statements.map Statement.text ∧
      Journal.failures calls = [] ∧ Journal.commits calls = [.ok ()])
      calls ending where
  /-- One commit is attempted, unless a result tells that the connection is lost. -/
  commits : (Journal.commits calls).length =
    if results.any fun r => r.error.any policy.isConnectionError then 0 else 1
  /-- One call closes the connection. Behind it values are written, and nothing else is done. -/
  closes : ∃ before answer answers, Journal.closings before = [] ∧
    calls = before ++ .close answer :: Journal.writings answers
  /-- There is a result for each statement that is attempted, -/
  requests : results.length = (Journal.requests calls).length
  /-- and these are the first ones, in order. -/
  attempted : results.map Result.statement <+: statements

namespace Conducted

variable {db : Session σ κ ν} {policy : Policy} {statements : List Statement}
  {results : List (Result ν)} {calls : Journal κ ν} {ending : Ending σ}

/-- What is logged before makes no difference. -/
theorem after (h : Conducted db policy statements results calls ending) {emitted : List Emission}
    (hemitted : ∀ line, .out line ∉ emitted) :
    Conducted db policy statements results calls (ending.after emitted) :=
  { h with toTold := h.toTold.after hemitted }

/-- A run that is connected first. -/
theorem connected (h : Conducted db policy statements results calls ending)
    (credentials : Credentials) (answer : Except Fault Unit) :
    Conducted db policy statements results (.connect credentials answer :: calls) ending := by
  obtain ⟨before, last, answers, hbefore, rfl⟩ := h.closes
  exact { h with
    toTold := h.toTold.prepend [.connect credentials answer] rfl
    closes := ⟨.connect credentials answer :: before, last, answers, hbefore, rfl⟩ }

/-- The calls of the statements, and then those that finish the run. -/
theorem of_finished {committed : Option (Except Fault Unit)} {closed : Except Fault Unit}
    {answers : List (ν × Except Fault Text)} (hnil : policy.isConnectionError [] = false)
    (haccounted : Accounted policy statements results calls)
    (hcursor : ∀ call ∈ calls, call.onCursor = true)
    (h : Finished db policy results committed (finishing committed closed answers) ending) :
    Conducted db policy statements results (calls ++ finishing committed closed answers)
      ending := by
  have hcommits : Journal.commits (calls ++ finishing committed closed answers) =
      committed.toList := by
    simp [Journal.commits_of_onCursor hcursor]
  refine ⟨?told, ?commits, ?closes, ?requests, haccounted.statement⟩
  case told =>
    refine (h.toTold.prepend calls (Journal.unwritten_of_onCursor hcursor)).congr ?_
    rw [Journal.sent_append, sent_finishing, List.append_nil, Journal.failures_append,
      failures_finishing, List.append_nil, hcommits, ← and_assoc, ← haccounted.all_ok_iff]
    rcases committed with _ | fault | ⟨⟩
    · -- the connection is lost, and the result that tells this is none of a success
      have hnot : results.all Result.ok = false := all_ok_of_lost hnil (by simpa using h.attempted)
      simp [hnot]
    · simp [Except.isOk, Except.toBool]
    · simp [Except.isOk, Except.toBool]
  case commits =>
    rw [hcommits, ← haccounted.lost_eq hnil]
    have hattempted := h.attempted
    cases committed <;> simp_all
  case closes =>
    refine ⟨calls ++ (committed.map Call.commit).toList, closed, answers, ?_, by simp [finishing]⟩
    rw [Journal.closings_append, Journal.closings_of_onCursor hcursor]
    cases committed <;> rfl
  case requests =>
    rw [Journal.requests_append, requests_finishing, List.append_nil, haccounted.requests]

end Conducted

/-- Running statements on a connection ends as it should if their cursors can be closed. -/
theorem runConnected_journaled (server : Server σ κ ν) (policy : Policy)
    (statements : List Statement) (state : σ) (journal : Journal κ ν) :
    ∃ calls, runConnected server.journaled policy statements (state, journal) =
        (runConnected server policy statements state).noting (journal ++ calls) ∧
      Journal.connections calls = [] ∧
      (policy.isConnectionError [] = false → Journal.unclosed calls = [] → Reported calls →
        ∃ results, (server.run policy 1 statements state).results = .ok results ∧
          Conducted server.toSession policy statements results calls
            (runConnected server policy statements state)) := by
  obtain ⟨during, hran, hrun⟩ := server.journaled_run policy statements 1 state journal
  change server.journaled.run policy 1 statements (state, journal) = _ at hrun
  have hduring := Journal.connections_of_onCursor hran.onCursor
  rcases hresults : (server.run policy 1 statements state).results with fault | results
  · refine ⟨during, ?_, hduring, fun _ hclose => ?_⟩
    · simp [runConnected, hrun, hresults, Ending.noting, Ending.after, Ending.escape]
    · rw [hresults] at hran
      obtain ⟨results, hreturned⟩ := hran.exists_results hclose
      cases hreturned
  · obtain ⟨last, hconclude, hlast, hfinished⟩ := commitAndConclude_journaled server policy
      results (server.run policy 1 statements state).state (journal ++ during)
    refine ⟨during ++ last, ?_, ?_, fun hnil _ hreported => ⟨results, rfl, ?_⟩⟩
    · simp [runConnected, hrun, hresults, hconclude, Ending.after_noting]
    · rw [Journal.connections_append, hduring, hlast, List.append_nil]
    · have hreported' : Reported last := by
        rw [Reported, Journal.commits_append, Journal.closings_append,
          Journal.commits_of_onCursor hran.onCursor,
          Journal.closings_of_onCursor hran.onCursor] at hreported
        exact hreported
      obtain ⟨committed, closed, answers, rfl, h⟩ := hfinished hreported'
      have hconducted : Conducted server.toSession policy statements results
          (during ++ finishing committed closed answers) _ :=
        .of_finished hnil (hran.accounted results hresults) hran.onCursor h
      simp only [runConnected, hresults]
      exact hconducted.after (by simp)

/-- Connecting comes first, and nothing is run where it fails. -/
theorem runStatements_journaled (server : Server σ κ ν) (policy : Policy)
    (credentials : Credentials) (statements : List Statement) (state : σ) (journal : Journal κ ν) :
    ∃ calls, runStatements server.journaled policy credentials statements (state, journal) =
        (runStatements server policy credentials statements state).noting (journal ++ calls) ∧
      ∀ connected ∈ Journal.connections calls, connected = credentials ∧
        (policy.isConnectionError [] = false → Journal.unclosed calls = [] → Reported calls →
          ∃ results,
            (server.run policy 1 statements (server.connect credentials state).2).results =
              .ok results ∧
            Conducted server.toSession policy statements results calls
              (runStatements server policy credentials statements state)) := by
  rcases hconnect : server.connect credentials state with ⟨fault | ⟨⟩, next⟩
  · have hnoted : server.journaled.connect credentials (state, journal) =
        (.error fault, next, journal ++ [.connect credentials (.error fault)]) :=
      noted_of_eq hconnect journal
    refine ⟨[.connect credentials (.error fault)], ?_, fun _ h => absurd h List.not_mem_nil⟩
    by_cases hkind : fault.kind.ofDatabase = true
    · simp [runStatements, hnoted, hconnect, hkind, Ending.noting, Ending.complain]
    · simp [runStatements, hnoted, hconnect, hkind, Ending.noting, Ending.escape]
  · have hnoted : server.journaled.connect credentials (state, journal) =
        (.ok (), next, journal ++ [.connect credentials (.ok ())]) := noted_of_eq hconnect journal
    obtain ⟨calls, hrun, hcalls, hconducted⟩ := runConnected_journaled server policy statements
      next (journal ++ [.connect credentials (.ok ())])
    have hconnections : Journal.connections (.connect credentials (.ok ()) :: calls) =
        [credentials] := congrArg (credentials :: ·) hcalls
    refine ⟨.connect credentials (.ok ()) :: calls, ?_, fun connected hmem => ⟨?_, ?_⟩⟩
    · simp [runStatements, hnoted, hconnect, hrun]
    · rw [hconnections] at hmem
      exact List.mem_singleton.mp hmem
    · intro hnil hclose hreported
      obtain ⟨results, hresults, h⟩ := hconducted hnil hclose hreported
      refine ⟨results, hresults, ?_⟩
      simpa [runStatements, hconnect] using h.connected credentials (.ok ())

/-! ### Running a script -/

/-- Every code by which a loss of the connection is told has characters. -/
theorem isConnectionError_nil (stopOnError : Bool) :
    Policy.isConnectionError { stopOnError } [] = false := rfl

/-- Whatever keeps a script from being run is found before the program connects. -/
theorem run_journaled (server : Server σ κ ν) (settings : Settings) (disk : Disk)
    (arguments : Arguments) (path : Option Text) (state : σ) (journal : Journal κ ν) :
    ∃ calls, run server.journaled settings disk arguments path (state, journal) =
        (run server settings disk arguments path state).noting (journal ++ calls) ∧
      ∀ credentials ∈ Journal.connections calls, Journal.unclosed calls = [] → Reported calls →
        ∃ source results,
          Source.load disk (arguments.value? Page.query.long) path = .ok source ∧
          (server.run { stopOnError := stops arguments settings } 1
            (Script.split settings.dialect source.text)
            (server.connect credentials state).2).results = .ok results ∧
          Conducted server.toSession { stopOnError := stops arguments settings }
            (Script.split settings.dialect source.text) results calls
            (run server settings disk arguments path state) := by
  unfold run
  rcases Source.load disk (arguments.value? Page.query.long) path with error | source
  · refine ⟨[], ?_, fun _ h => absurd h List.not_mem_nil⟩
    cases error <;> simp [withoutScript, Ending.noting, Ending.escape, Ending.complain]
  dsimp only
  generalize (chosen (arguments.value? Page.dsn.long) settings.dsn).filter (!·.isEmpty) = dsn
  rcases dsn with _ | dsn
  · refine ⟨[], ?_, fun _ h => absurd h List.not_mem_nil⟩
    simp [Ending.noting, Ending.after, Ending.complain]
  obtain ⟨calls, hrun, hconducted⟩ := runStatements_journaled server
    { stopOnError := stops arguments settings }
    { user := chosen (arguments.value? Page.user.long) settings.user
      password := chosen (arguments.value? Page.password.long) settings.password
      dsn } (Script.split settings.dialect source.text) state journal
  refine ⟨calls, ?_, fun credentials hmem hclose hreported => ?_⟩
  · simp only [hrun, Ending.after_noting]
  · obtain ⟨rfl, h⟩ := hconducted credentials hmem
    obtain ⟨results, hresults, h⟩ := h (isConnectionError_nil _) hclose hreported
    exact ⟨source, results, rfl, hresults, (h.after (by simp)).after (by simp)⟩

/-- A number with too many digits is returned. The work is committed, but nothing is printed. -/
example :
    let arguments : Arguments := { given := [(Page.query.long, "a"), (Page.dsn.long, "db")] }
    let state : Rehearsal :=
      { answers := [("a", { columns := ["n"], rows := [[some (.int (10 ^ 4300))]] })] }
    let ending := run (Rehearsal.server {}) {} (fun _ => .missing) arguments none state
    ending.state.committed = true ∧ ending.escaped = some Cell.tooManyDigits ∧
      ending.status = 1 ∧ ending.output = [] := by
  decide +kernel

end SqlScript.Command
