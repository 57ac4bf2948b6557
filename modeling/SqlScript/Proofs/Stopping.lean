import SqlScript.Proofs.Accounting

/-!
# Runs that stop at a failure

Two runs of the same statements from the same state, of which one stops at the first failure and the
other goes on, do the same up to there. So the run that goes on is the run that stops, followed by a
run of the statements that are left, from the state in which the first one leaves the database
(`Session.run_continuing`). Statements are left only where the run stopped at a failure by which the
connection is not lost, and then the failure is its last result. Everything that is to be said of
the two is read off this, once for the session and once for the journaled session, whose state holds
the calls.
-/

namespace SqlScript

open SqlScript.Text

variable {σ κ ν : Type}

/-! ### The two policies -/

namespace Policy

/-- The policy by which a run stops at the first failure. -/
def stopping (p : Policy) : Policy := { p with stopOnError := true }

/-- The policy by which a run goes on behind failures while the connection is not lost. -/
def continuing (p : Policy) : Policy := { p with stopOnError := false }

section

variable (p : Policy) (number : Nat) (reason : Text)

@[simp] theorem wording_stopping : p.stopping.wording = p.wording := rfl

@[simp] theorem wording_continuing : p.continuing.wording = p.wording := rfl

@[simp] theorem failureRecords_stopping :
    p.stopping.failureRecords number reason = p.failureRecords number reason := rfl

@[simp] theorem failureRecords_continuing :
    p.continuing.failureRecords number reason = p.failureRecords number reason := rfl

@[simp] theorem stopsAt_stopping : p.stopping.stopsAt reason = true := Bool.or_true _

@[simp] theorem stopsAt_continuing :
    p.continuing.stopsAt reason = p.isConnectionError reason := Bool.or_false _

end

end Policy

/-! ### A run that goes on where another one stopped -/

attribute [ext] Run

namespace Run

/-- A run, and another one that goes on from the state it ended in. -/
def followedBy (first next : Run σ ν) : Run σ ν where
  results := first.results.bind fun before => next.results.map (before ++ ·)
  state := next.state
  log := first.log ++ next.log

/-- **The run stopped at a failure by which the connection is not lost**, its last result. -/
def StoppedShort (p : Policy) (run : Run σ ν) : Prop :=
  ∃ before r reason, run.results = .ok (before ++ [r]) ∧ r.error = some reason ∧
    p.isConnectionError reason = false

/-- **The second run goes on where the first one stopped**, with the statements that are left. -/
def GoesOn (db : Session σ κ ν) (p : Policy) (stopped continued : Run σ ν) : Prop :=
  stopped.StoppedShort p ∧ ∃ number left,
    continued = stopped.followedBy (db.run p.continuing number left stopped.state)

theorem after_followedBy (result : Result ν) (log : List Log.Record) (first next : Run σ ν) :
    (first.followedBy next).after result log = (first.after result log).followedBy next := by
  rcases first with ⟨fault | before, state, records⟩
  · simp [followedBy, after, Except.bind, Except.map]
  · rcases next with ⟨fault | more, state', records'⟩ <;>
      simp [followedBy, after, Except.bind, Except.map]

/-- Another result before the others makes no difference. -/
theorem GoesOn.after {db : Session σ κ ν} {p : Policy} {stopped continued : Run σ ν}
    (h : GoesOn db p stopped continued) (result : Result ν) (log : List Log.Record) :
    GoesOn db p (stopped.after result log) (continued.after result log) := by
  obtain ⟨⟨before, r, reason, hresults, herror, hlost⟩, number, left, rfl⟩ := h
  refine ⟨⟨result :: before, r, reason, ?_, herror, hlost⟩, number, left, ?_⟩
  · simp [Run.after, hresults, Except.map]
  · exact after_followedBy result log stopped _

end Run

/-- **The two runs do the same**, or the one goes on where the other one stopped. -/
theorem Session.run_continuing (db : Session σ κ ν) (p : Policy) (statements : List Statement) :
    ∀ (number : Nat) (state : σ),
      db.run p.continuing number statements state = db.run p.stopping number statements state ∨
        Run.GoesOn db p (db.run p.stopping number statements state)
          (db.run p.continuing number statements state) := by
  induction statements with
  | nil => exact fun number state => Or.inl rfl
  | cons s rest ih =>
    intro number state
    rcases houtcome : db.attempt p.wording s state with ⟨fault | result, next⟩
    · left
      simp [run, houtcome]
    rcases herror : result.error with _ | reason
    · -- neither run stops at a success
      have hrun (q : Policy) (hq : q.wording = p.wording) :
          db.run q number (s :: rest) state =
            (db.run q (number + 1) rest next).after result [executingRecord number s] := by
        simp [run, hq, houtcome, herror]
      rw [hrun p.continuing rfl, hrun p.stopping rfl]
      refine (ih (number + 1) next).imp (fun heq => by rw [heq]) fun h => h.after result _
    by_cases hlost : p.isConnectionError reason = true
    · left
      simp [run, houtcome, herror, hlost]
    · right
      have hstopped : db.run p.stopping number (s :: rest) state =
          ⟨.ok [result], next, executingRecord number s :: p.failureRecords number reason⟩ := by
        simp [run, houtcome, herror]
      rw [hstopped]
      refine ⟨⟨[], result, reason, rfl, herror, by simpa using hlost⟩, number + 1, rest, ?_⟩
      simp [run, houtcome, herror, hlost, Run.followedBy, Run.after, Except.bind]

/-! ### The calls of the two runs -/

namespace Session

variable (db : Session σ κ ν) (p : Policy) (number : Nat) (statements : List Statement) (state : σ)

/-- A run on the journaled session is the run on the session, with its calls beside the state. -/
theorem journaled_run_nil :
    db.journaled.run p number statements (state, []) =
      ⟨(db.run p number statements state).results,
        ((db.run p number statements state).state, db.calls p number statements state),
        (db.run p number statements state).log⟩ := by
  obtain ⟨calls, -, hrun⟩ := db.journaled_run p statements number state []
  simp only [Session.calls, hrun]

/-- **The two runs make the same calls**, or the one that goes on makes more of them and has more
results. -/
theorem calls_continuing :
    (db.run p.continuing number statements state = db.run p.stopping number statements state ∧
      db.calls p.continuing number statements state =
        db.calls p.stopping number statements state) ∨
    ((db.run p.stopping number statements state).StoppedShort p ∧
      ∃ (results : Except Fault (List (Result ν))) (more : Journal κ ν),
        (db.run p.continuing number statements state).results =
          (db.run p.stopping number statements state).results.bind
            (fun before => results.map (before ++ ·)) ∧
        db.calls p.continuing number statements state =
          db.calls p.stopping number statements state ++ more) := by
  have hruns := db.journaled.run_continuing p statements number (state, [])
  rw [journaled_run_nil, journaled_run_nil] at hruns
  rcases hruns with heq | ⟨hshort, next, left, hgoes⟩
  · left
    rw [Run.mk.injEq, Prod.mk.injEq] at heq
    obtain ⟨hresults, ⟨hstate, hcalls⟩, hlog⟩ := heq
    exact ⟨Run.ext hresults hstate hlog, hcalls⟩
  · right
    obtain ⟨more, -, hmore⟩ := db.journaled_run p.continuing left next
      (db.run p.stopping number statements state).state
      (db.calls p.stopping number statements state)
    rw [Run.followedBy, hmore, Run.mk.injEq, Prod.mk.injEq] at hgoes
    exact ⟨hshort, _, more, hgoes.1, hgoes.2.1.2⟩

end Session

/-! ### Where the results are cut -/

namespace Result

/-- The results up to the first failure, which is the last of them, or all if there is none. -/
def upToFailure (results : List (Result ν)) : List (Result ν) :=
  results.take (results.findIdx (!·.ok) + 1)

theorem upToFailure_append {before : List (Result ν)} (hbefore : ∀ r ∈ before, r.ok = true)
    {r : Result ν} (hr : r.ok = false) (more : List (Result ν)) :
    upToFailure (before ++ [r] ++ more) = before ++ [r] := by
  have hindex : (before ++ [r] ++ more).findIdx (!·.ok) = before.length := by
    induction before with
    | nil => simp [List.findIdx_cons, hr]
    | cons first before ih =>
      rw [List.forall_mem_cons] at hbefore
      simp only [List.cons_append, List.findIdx_cons, hbefore.1, Bool.not_true, cond_false,
        ih hbefore.2, List.length_cons]
  rw [upToFailure, hindex]
  exact List.take_left' (by simp)

/-- Nothing is cut off where no result fails but the last. -/
theorem upToFailure_eq_self {results : List (Result ν)}
    (h : ∀ r ∈ results.dropLast, r.ok = true) : upToFailure results = results := by
  rcases List.eq_nil_or_concat' results with rfl | ⟨before, r, rfl⟩
  · rfl
  rw [List.dropLast_concat] at h
  cases hr : r.ok with
  | false => simpa using upToFailure_append h hr []
  | true =>
    have hall : ∀ s ∈ before ++ [r], (!s.ok) = false := by
      simpa [or_imp, forall_and] using ⟨h, hr⟩
    rw [upToFailure, List.findIdx_eq_length_of_false hall]
    exact List.take_of_length_le (Nat.le_succ _)

theorem find?_append_failure {before : List (Result ν)} (hbefore : ∀ r ∈ before, r.ok = true)
    {r : Result ν} (hr : r.ok = false) (more : List (Result ν)) :
    (before ++ [r] ++ more).find? (!·.ok) = some r := by
  have hnone : before.find? (!·.ok) = none := by
    simpa [List.find?_eq_none] using hbefore
  simp [List.find?_append, hnone, hr]

end Result

/-- A run that stops at the first failure has none before its last result. -/
theorem Accounted.ok_of_stopping {p : Policy} {statements : List Statement}
    {results : List (Result ν)} {calls : Journal κ ν}
    (h : Accounted p.stopping statements results calls) : ∀ r ∈ results.dropLast, r.ok = true := by
  intro r hr
  rw [Result.ok, Option.isNone_iff_eq_none, Option.eq_none_iff_forall_not_mem]
  intro reason hreason
  have hgoes : p.stopping.stopOnError = false := (h.goesOn r hr reason hreason).1
  exact Bool.noConfusion hgoes

/-- **How a run that stops at the first failure goes with one that goes on**, whose results are
`all`. -/
structure Truncated (p : Policy) (stopped continued : Run σ ν)
    (stoppedCalls continuedCalls : Journal κ ν) (all : List (Result ν)) : Prop where
  /-- The run that goes on returns its results. -/
  all_results : continued.results = .ok all
  /-- The results of the one that stops are cut behind the first failure. -/
  results : stopped.results = .ok (Result.upToFailure all)
  /-- Its calls are the first ones of the other run. -/
  calls : stoppedCalls <+: continuedCalls
  /-- So are the texts that it sends. -/
  sent : Journal.sent stoppedCalls <+: Journal.sent continuedCalls
  /-- Nothing is cut off if no statement fails, or the first failure tells that the connection is
  lost. -/
  equal : (∀ r ∈ all, r.ok = true) ∨
      (∃ r ∈ all.find? (!·.ok), ∃ reason ∈ r.error, p.isConnectionError reason = true) →
    stopped = continued ∧ stoppedCalls = continuedCalls

namespace Truncated

variable {p : Policy} {stopped continued : Run σ ν} {stoppedCalls continuedCalls : Journal κ ν}

/-- Two runs that are the same, of results that do not fail but for the last. -/
theorem of_eq {all : List (Result ν)} (hresults : stopped.results = .ok all)
    (hok : ∀ r ∈ all.dropLast, r.ok = true) :
    Truncated p stopped stopped stoppedCalls stoppedCalls all :=
  ⟨hresults, by rw [hresults, Result.upToFailure_eq_self hok], List.prefix_rfl, List.prefix_rfl,
    fun _ => ⟨rfl, rfl⟩⟩

/-- A run that stopped at a failure by which the connection is not lost, and one with more results
and calls. -/
theorem of_stoppedShort {before rest : List (Result ν)} {r : Result ν} {reason : Text}
    {more : Journal κ ν} (hstopped : stopped.results = .ok (before ++ [r]))
    (hok : ∀ r ∈ before, r.ok = true) (herror : r.error = some reason)
    (hlost : p.isConnectionError reason = false)
    (hcontinued : continued.results = .ok (before ++ [r] ++ rest)) :
    Truncated p stopped continued stoppedCalls (stoppedCalls ++ more) (before ++ [r] ++ rest) := by
  have hr : r.ok = false := by
    rw [Result.ok, herror, Option.isNone_some]
  refine ⟨hcontinued, by rw [hstopped, Result.upToFailure_append hok hr],
    List.prefix_append _ _, ?_, ?_⟩
  · rw [Journal.sent_append]
    exact List.prefix_append _ _
  · rintro (hall | ⟨first, hfirst, told, htold, hconnection⟩)
    · rw [hall r (by simp)] at hr
      cases hr
    · rw [Result.find?_append_failure hok hr] at hfirst
      obtain rfl := Option.some.inj hfirst
      rw [herror] at htold
      obtain rfl := Option.some.inj htold
      rw [hlost] at hconnection
      cases hconnection

end Truncated

/-- **Stopping only truncates**: if every cursor can be closed, the results of a run that stops at
the first failure are those of the run that goes on, cut behind that failure, and the texts it sends
are the first ones; and the runs are the same if there is no failure or the first one tells that the
connection is lost. -/
theorem Session.run_stopping (db : Session σ κ ν) (p : Policy) (number : Nat)
    (statements : List Statement) (state : σ)
    (hclose : Journal.unclosed (db.calls p.continuing number statements state) = []) :
    ∃ all, Truncated p (db.run p.stopping number statements state)
      (db.run p.continuing number statements state)
      (db.calls p.stopping number statements state)
      (db.calls p.continuing number statements state) all := by
  obtain ⟨all, hall⟩ := (db.ran_run p.continuing number statements state).exists_results hclose
  have hran := db.ran_run p.stopping number statements state
  rcases db.calls_continuing p number statements state with
    ⟨hrun, hcalls⟩ | ⟨⟨before, r, reason, hshort, herror, hlost⟩, results, more, hresults, hcalls⟩
  · rw [hrun] at hall
    rw [hrun, hcalls]
    exact ⟨all, .of_eq hall (hran.accounted all hall).ok_of_stopping⟩
  · have hok : ∀ r ∈ before, r.ok = true := by
      simpa using (hran.accounted _ hshort).ok_of_stopping
    obtain ⟨rest, rfl⟩ : ∃ rest, all = before ++ [r] ++ rest := by
      rw [hall, hshort] at hresults
      rcases results with fault | rest
      · cases hresults
      · exact ⟨rest, Except.ok.inj hresults⟩
    rw [hcalls]
    exact ⟨_, .of_stoppedShort hshort hok herror hlost hall⟩

/-- The second of three statements is refused, and the connection is not lost by it. -/
theorem Session.run_stopping_refused :
    let db := (Rehearsal.server {}).toSession
    let statements : List Statement := [⟨"a", .simple, 0⟩, ⟨"b", .simple, 3⟩, ⟨"c", .simple, 6⟩]
    let state : Rehearsal := { answers := [("b", { error := some ⟨.databaseError, "ORA-00942"⟩ })] }
    let p : Policy := {}
    Journal.unclosed (db.calls p.continuing 1 statements state) = [] ∧
      ∃ all, Truncated p (db.run p.stopping 1 statements state)
        (db.run p.continuing 1 statements state) (db.calls p.stopping 1 statements state)
        (db.calls p.continuing 1 statements state) all :=
  ⟨by decide +kernel, Session.run_stopping _ _ _ _ _ (by decide +kernel)⟩

end SqlScript
