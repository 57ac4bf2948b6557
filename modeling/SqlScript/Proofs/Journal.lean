import SqlScript.Run

/-!
# What a run asks of a database

What a program does to a database is what it asks of it, and of that the database's answers are a
part: which cursor is closed depends on which was opened. So a journal is put between the two. The
journaled session (`Session.journaled`) is the session itself, with every call noted beside its
state, together with the answer, in the order in which the calls were made.

A session answers as it likes, and its states say nothing about what it will answer next. All that
can be said of a run is therefore how its calls and answers go together with its results, and this
is a relation between the three (`Performed`, `Attempted` and `Ran`) in which no state is left. A
run on the journaled session is the run on the session, and its journal and its results are so
related (`Session.journaled_run`); everything that is shown of one run is shown by induction on the
relation.

## Main definitions

* `Call` and `Journal`: a call with its answer, and the calls that were made.
* `Session.journaled`, `Server.journaled`: the database that keeps a journal.
* `Session.calls`: the calls of a run.
* `Ran`: how the calls of a run and its results go together.
-/

namespace SqlScript

open SqlScript.Text

variable {σ κ ν : Type}

/-! ### Journals -/

/-- The fault of an answer, if it is one. -/
def Fault.of? {α : Type} : Except Fault α → Option Fault
  | .error fault => some fault
  | .ok _ => none

@[simp] theorem Fault.of?_error {α : Type} (fault : Fault) :
    Fault.of? (.error fault : Except Fault α) = some fault := rfl

@[simp] theorem Fault.of?_ok {α : Type} (value : α) : Fault.of? (.ok value) = none := rfl

/-- A call of a session, with its answer. -/
inductive Call (κ ν : Type) where
  /-- Connecting. -/
  | connect (credentials : Credentials) (answer : Except Fault Unit)
  /-- Opening a cursor. -/
  | openCursor (answer : Except Fault κ)
  /-- Executing a text. -/
  | execute (cursor : κ) (text : Text) (answer : Except Fault (List Text))
  /-- Fetching the rows. -/
  | fetch (cursor : κ) (answer : Except Fault (List (Row ν)))
  /-- Closing a cursor. -/
  | closeCursor (cursor : κ) (answer : Except Fault Unit)
  /-- Committing. -/
  | commit (answer : Except Fault Unit)
  /-- Closing the connection. -/
  | close (answer : Except Fault Unit)
  /-- Writing a value. -/
  | write (value : ν) (answer : Except Fault Text)

/-- The calls that were made, in order. -/
abbrev Journal (κ ν : Type) := List (Call κ ν)

namespace Call

/-- Who is connected, and to what. -/
def connection? : Call κ ν → Option Credentials
  | connect credentials (.ok ()) => some credentials
  | _ => none

/-- The answer to a request for a cursor. -/
def request? : Call κ ν → Option (Except Fault κ)
  | openCursor answer => some answer
  | _ => none

/-- The text that is executed. -/
def text? : Call κ ν → Option Text
  | execute _ text _ => some text
  | _ => none

/-- The cursor that is closed, successfully or not. -/
def closed? : Call κ ν → Option κ
  | closeCursor cursor _ => some cursor
  | _ => none

/-- The fault of closing a cursor. -/
def unclosed? : Call κ ν → Option Fault
  | closeCursor _ answer => Fault.of? answer
  | _ => none

/-- The fault of a call that a statement is executed by: of opening a cursor, executing the text, or
fetching the rows. -/
def failure? : Call κ ν → Option Fault
  | openCursor answer => Fault.of? answer
  | execute _ _ answer => Fault.of? answer
  | fetch _ answer => Fault.of? answer
  | _ => none

/-- The answer to a commit. -/
def commit? : Call κ ν → Option (Except Fault Unit)
  | commit answer => some answer
  | _ => none

/-- The answer to closing the connection. -/
def close? : Call κ ν → Option (Except Fault Unit)
  | close answer => some answer
  | _ => none

/-- The fault of writing a value. -/
def unwritten? : Call κ ν → Option Fault
  | write _ answer => Fault.of? answer
  | _ => none

/-- Whether a call is about a cursor. -/
def onCursor : Call κ ν → Bool
  | openCursor _ => true
  | execute _ _ _ => true
  | fetch _ _ => true
  | closeCursor _ _ => true
  | _ => false

/-- A call about a cursor is none about the connection, and writes nothing. -/
theorem of_onCursor {call : Call κ ν} (h : call.onCursor = true) :
    call.connection? = none ∧ call.commit? = none ∧ call.close? = none ∧
      call.unwritten? = none := by
  cases call <;> first | exact ⟨rfl, rfl, rfl, rfl⟩ | cases h

end Call

namespace Journal

/-- The connections that were made. -/
def connections (calls : Journal κ ν) : List Credentials := calls.filterMap Call.connection?

/-- The answers to the requests for cursors. -/
def requests (calls : Journal κ ν) : List (Except Fault κ) := calls.filterMap Call.request?

/-- The cursors that were obtained. -/
def obtained (calls : Journal κ ν) : List κ := (requests calls).filterMap Except.toOption

/-- The texts that were sent to be executed. -/
def sent (calls : Journal κ ν) : List Text := calls.filterMap Call.text?

/-- The cursors that were closed, successfully or not. -/
def closed (calls : Journal κ ν) : List κ := calls.filterMap Call.closed?

/-- The faults that closing a cursor raised. -/
def unclosed (calls : Journal κ ν) : List Fault := calls.filterMap Call.unclosed?

/-- The faults that executing statements raised. -/
def failures (calls : Journal κ ν) : List Fault := calls.filterMap Call.failure?

/-- The answers to the commits. -/
def commits (calls : Journal κ ν) : List (Except Fault Unit) := calls.filterMap Call.commit?

/-- The answers to closing the connection. -/
def closings (calls : Journal κ ν) : List (Except Fault Unit) := calls.filterMap Call.close?

/-- The faults that writing values raised. -/
def unwritten (calls : Journal κ ν) : List Fault := calls.filterMap Call.unwritten?

section Append

variable (calls more : Journal κ ν)

@[simp] theorem connections_append :
    connections (calls ++ more) = connections calls ++ connections more :=
  List.filterMap_append

@[simp] theorem requests_append : requests (calls ++ more) = requests calls ++ requests more :=
  List.filterMap_append

@[simp] theorem obtained_append : obtained (calls ++ more) = obtained calls ++ obtained more := by
  simp [obtained]

@[simp] theorem sent_append : sent (calls ++ more) = sent calls ++ sent more :=
  List.filterMap_append

@[simp] theorem closed_append : closed (calls ++ more) = closed calls ++ closed more :=
  List.filterMap_append

@[simp] theorem unclosed_append : unclosed (calls ++ more) = unclosed calls ++ unclosed more :=
  List.filterMap_append

@[simp] theorem failures_append : failures (calls ++ more) = failures calls ++ failures more :=
  List.filterMap_append

@[simp] theorem commits_append : commits (calls ++ more) = commits calls ++ commits more :=
  List.filterMap_append

@[simp] theorem closings_append : closings (calls ++ more) = closings calls ++ closings more :=
  List.filterMap_append

@[simp] theorem unwritten_append :
    unwritten (calls ++ more) = unwritten calls ++ unwritten more :=
  List.filterMap_append

end Append

section OnCursor

variable {calls : Journal κ ν} (h : ∀ call ∈ calls, call.onCursor = true)

include h

theorem connections_of_onCursor : connections calls = [] :=
  List.filterMap_eq_nil_iff.mpr fun call hcall => (Call.of_onCursor (h call hcall)).1

theorem commits_of_onCursor : commits calls = [] :=
  List.filterMap_eq_nil_iff.mpr fun call hcall => (Call.of_onCursor (h call hcall)).2.1

theorem closings_of_onCursor : closings calls = [] :=
  List.filterMap_eq_nil_iff.mpr fun call hcall => (Call.of_onCursor (h call hcall)).2.2.1

theorem unwritten_of_onCursor : unwritten calls = [] :=
  List.filterMap_eq_nil_iff.mpr fun call hcall => (Call.of_onCursor (h call hcall)).2.2.2

end OnCursor

/-- If nothing failed, every cursor that was asked for was obtained. -/
theorem isOk_of_failures_eq_nil {calls : Journal κ ν} (h : failures calls = []) :
    ∀ answer ∈ requests calls, answer.isOk = true := by
  intro answer hanswer
  obtain ⟨call, hcall, hrequest⟩ := List.mem_filterMap.mp hanswer
  have hnone := List.filterMap_eq_nil_iff.mp h call hcall
  cases call with
  | openCursor answer =>
    cases hrequest
    cases answer with
    | error fault => cases hnone
    | ok cursor => rfl
  | _ => cases hrequest

end Journal

/-! ### The database that keeps a journal -/

/-- Make a call, and note it with its answer behind the calls that were made before. -/
def noted {α : Type} (call : Except Fault α → Call κ ν) (ask : σ → Except Fault α × σ) :
    σ × Journal κ ν → Except Fault α × (σ × Journal κ ν)
  | (state, journal) =>
    let (answer, next) := ask state
    (answer, next, journal ++ [call answer])

theorem noted_of_eq {α : Type} {call : Except Fault α → Call κ ν} {ask : σ → Except Fault α × σ}
    {state next : σ} {answer : Except Fault α} (h : ask state = (answer, next))
    (journal : Journal κ ν) :
    noted call ask (state, journal) = (answer, next, journal ++ [call answer]) := by
  simp only [noted, h]

/-- A session that keeps a journal beside its state. -/
def Session.journaled (db : Session σ κ ν) : Session (σ × Journal κ ν) κ ν where
  openCursor := noted .openCursor db.openCursor
  execute cursor text := noted (.execute cursor text) (db.execute cursor text)
  fetch cursor := noted (.fetch cursor) (db.fetch cursor)
  closeCursor cursor := noted (.closeCursor cursor) (db.closeCursor cursor)
  commit := noted .commit db.commit
  close := noted .close db.close
  write value := noted (.write value) (db.write value)

/-- A database that keeps a journal beside its state. -/
def Server.journaled (server : Server σ κ ν) : Server (σ × Journal κ ν) κ ν where
  toSession := server.toSession.journaled
  connect credentials := noted (.connect credentials) (server.connect credentials)

/-- **The calls of a run**, on a session that begins in the given state. -/
def Session.calls (db : Session σ κ ν) (p : Policy) (number : Nat) (statements : List Statement)
    (state : σ) : Journal κ ν :=
  (db.journaled.run p number statements (state, [])).state.2

/-! ### How calls and results go together -/

/-- How a statement is executed on a cursor: the calls, and the result that they lead to. -/
inductive Performed (wording : Wording) (s : Statement) (cursor : κ) : Journal κ ν → Result ν → Prop
  /-- The statement is refused. -/
  | refused (fault : Fault) :
    Performed wording s cursor [.execute cursor s.text (.error fault)]
      { statement := s, error := fault.reason }
  /-- The statement is executed, and is none that has rows. -/
  | silent :
    Performed wording s cursor [.execute cursor s.text (.ok [])]
      { statement := s, message := wording.message s.text }
  /-- The rows cannot be fetched. -/
  | unfetched (columns : List Text) (hcolumns : columns ≠ []) (fault : Fault) :
    Performed wording s cursor
      [.execute cursor s.text (.ok columns), .fetch cursor (.error fault)]
      { statement := s, columns, error := fault.reason }
  /-- There are no rows. -/
  | rowless (columns : List Text) (hcolumns : columns ≠ []) :
    Performed wording s cursor [.execute cursor s.text (.ok columns), .fetch cursor (.ok [])]
      { statement := s, columns, message := wording.message s.text }
  /-- The rows are fetched. -/
  | fetched (columns : List Text) (hcolumns : columns ≠ []) (rows : List (Row ν))
    (hrows : rows ≠ []) :
    Performed wording s cursor [.execute cursor s.text (.ok columns), .fetch cursor (.ok rows)]
      { statement := s, columns, rows }

/-- How a statement is attempted: the calls, and the result, or the fault that is raised. -/
inductive Attempted (wording : Wording) (s : Statement) :
    Journal κ ν → Except Fault (Result ν) → Prop
  /-- No cursor can be opened. -/
  | unopened (fault : Fault) :
    Attempted wording s [.openCursor (.error fault)]
      (.ok { statement := s, error := fault.reason })
  /-- The statement is executed, and the cursor closed. -/
  | closed (cursor : κ) (calls : Journal κ ν) (result : Result ν)
    (h : Performed wording s cursor calls result) :
    Attempted wording s
      (.openCursor (.ok cursor) :: (calls ++ [.closeCursor cursor (.ok ())])) (.ok result)
  /-- The statement is executed, and the cursor cannot be closed. -/
  | unclosed (cursor : κ) (calls : Journal κ ν) (result : Result ν)
    (h : Performed wording s cursor calls result) (fault : Fault) :
    Attempted wording s
      (.openCursor (.ok cursor) :: (calls ++ [.closeCursor cursor (.error fault)]))
      (.error fault)

/-- **How statements are run**: the calls, and the results, or the fault that is raised. -/
inductive Ran (p : Policy) :
    List Statement → Journal κ ν → Except Fault (List (Result ν)) → Prop
  /-- No statement is left. -/
  | nil : Ran p [] [] (.ok [])
  /-- A fault is raised. -/
  | raised (s : Statement) (rest : List Statement) (calls : Journal κ ν) (fault : Fault)
    (h : Attempted p.wording s calls (.error fault)) : Ran p (s :: rest) calls (.error fault)
  /-- The statement fails in a way that ends the run. -/
  | stopped (s : Statement) (rest : List Statement) (calls : Journal κ ν) (result : Result ν)
    (reason : Text) (h : Attempted p.wording s calls (.ok result))
    (herror : result.error = some reason) (hstop : p.stopsAt reason = true) :
    Ran p (s :: rest) calls (.ok [result])
  /-- The run goes on. -/
  | next (s : Statement) (rest : List Statement) (calls more : Journal κ ν) (result : Result ν)
    (results : Except Fault (List (Result ν))) (h : Attempted p.wording s calls (.ok result))
    (hgoes : ∀ reason ∈ result.error, p.stopsAt reason = false) (hrest : Ran p rest more results) :
    Ran p (s :: rest) (calls ++ more) (results.map (result :: ·))

/-! ### The journal changes nothing -/

namespace Session

variable (db : Session σ κ ν)

/-- What is executed on a cursor is one of five things. -/
theorem journaled_perform (wording : Wording) (s : Statement) (cursor : κ) (state : σ)
    (journal : Journal κ ν) :
    ∃ calls, Performed wording s cursor calls (db.perform wording s cursor state).1 ∧
      db.journaled.perform wording s cursor (state, journal) =
        ((db.perform wording s cursor state).1,
          (db.perform wording s cursor state).2, journal ++ calls) := by
  -- the answers tell which of the five ways it is
  rcases hexecute : db.execute cursor s.text state with ⟨fault | columns, next⟩
  · refine ⟨_, by simpa [perform, hexecute] using .refused fault, ?_⟩
    simp [perform, journaled, noted_of_eq hexecute, hexecute]
  cases columns with
  | nil =>
    refine ⟨_, by simpa [perform, hexecute] using .silent, ?_⟩
    simp [perform, journaled, noted_of_eq hexecute, hexecute]
  | cons column columns =>
    have hcolumns : column :: columns ≠ [] := List.cons_ne_nil _ _
    rcases hfetch : db.fetch cursor next with ⟨fault | rows, last⟩
    · refine ⟨_, by simpa [perform, hexecute, hfetch] using .unfetched _ hcolumns fault, ?_⟩
      simp [perform, journaled, noted_of_eq hexecute, noted_of_eq hfetch, hexecute, hfetch]
    cases rows with
    | nil =>
      refine ⟨_, by simpa [perform, hexecute, hfetch] using .rowless _ hcolumns, ?_⟩
      simp [perform, journaled, noted_of_eq hexecute, noted_of_eq hfetch, hexecute, hfetch]
    | cons row rows =>
      have hfetched : Performed wording s cursor _ _ :=
        .fetched _ hcolumns (row :: rows) (List.cons_ne_nil _ _)
      refine ⟨_, by simpa [perform, hexecute, hfetch] using hfetched, ?_⟩
      simp [perform, journaled, noted_of_eq hexecute, noted_of_eq hfetch, hexecute, hfetch]

/-- A statement that gets a cursor is executed on it, and then the cursor is closed. -/
theorem journaled_attempt (wording : Wording) (s : Statement) (state : σ) (journal : Journal κ ν) :
    ∃ calls, Attempted wording s calls (db.attempt wording s state).1 ∧
      db.journaled.attempt wording s (state, journal) =
        ((db.attempt wording s state).1, (db.attempt wording s state).2, journal ++ calls) := by
  rcases hopen : db.openCursor state with ⟨fault | cursor, next⟩
  · refine ⟨_, by simpa [attempt, hopen] using .unopened fault, ?_⟩
    simp [attempt, journaled, noted_of_eq hopen, hopen]
  obtain ⟨calls, hperformed, hperform⟩ :=
    db.journaled_perform wording s cursor next (journal ++ [.openCursor (.ok cursor)])
  have hnoted : db.journaled.openCursor (state, journal) =
      (.ok cursor, next, journal ++ [.openCursor (.ok cursor)]) := noted_of_eq hopen journal
  rcases hclose : db.closeCursor cursor (db.perform wording s cursor next).2 with
    ⟨fault | ⟨⟩, last⟩
  · have hunclosed := Attempted.unclosed cursor calls _ hperformed fault
    refine ⟨_, by simpa [attempt, hopen, hclose] using hunclosed, ?_⟩
    simp only [attempt, hnoted, hperform, hopen, hclose]
    simp [journaled, noted_of_eq hclose]
  · have hclosed := Attempted.closed cursor calls _ hperformed
    refine ⟨_, by simpa [attempt, hopen, hclose] using hclosed, ?_⟩
    simp only [attempt, hnoted, hperform, hopen, hclose]
    simp [journaled, noted_of_eq hclose]

/-- **A run on the journaled session is the run on the session**, and what it adds to the journal
goes together with its results. -/
theorem journaled_run (p : Policy) (statements : List Statement) :
    ∀ (number : Nat) (state : σ) (journal : Journal κ ν),
      ∃ calls, Ran p statements calls (db.run p number statements state).results ∧
        db.journaled.run p number statements (state, journal) =
          ⟨(db.run p number statements state).results,
            ((db.run p number statements state).state, journal ++ calls),
            (db.run p number statements state).log⟩ := by
  induction statements with
  | nil => exact fun number state journal => ⟨[], .nil, by simp [run]⟩
  | cons s rest ih =>
    intro number state journal
    obtain ⟨calls, hattempted, hattempt⟩ := db.journaled_attempt p.wording s state journal
    rcases houtcome : db.attempt p.wording s state with ⟨fault | result, next⟩
    · rw [houtcome] at hattempt hattempted
      refine ⟨calls, by simpa [run, houtcome] using .raised s rest calls fault hattempted, ?_⟩
      simp [run, hattempt, houtcome]
    rw [houtcome] at hattempt hattempted
    obtain ⟨more, hran, hrun⟩ := ih (number + 1) next (journal ++ calls)
    have hnext (hgoes : ∀ reason ∈ result.error, p.stopsAt reason = false) :=
      Ran.next s rest calls more result _ hattempted hgoes hran
    rcases herror : result.error with _ | reason
    · refine ⟨calls ++ more, ?_, ?_⟩
      · simpa [run, houtcome, herror, Run.after] using hnext
      · simp [run, hattempt, houtcome, herror, hrun, Run.after]
    by_cases hstop : p.stopsAt reason = true
    · refine ⟨calls, ?_, ?_⟩
      · simpa [run, houtcome, herror, hstop] using
          Ran.stopped s rest calls result reason hattempted herror hstop
      · simp [run, hattempt, houtcome, herror, hstop]
    · refine ⟨calls ++ more, ?_, ?_⟩
      · simpa [run, houtcome, herror, hstop, Run.after] using hnext
      · simp [run, hattempt, houtcome, herror, hstop, hrun, Run.after]

/-- **The calls of a run and its results go together.** -/
theorem ran_run (p : Policy) (number : Nat) (statements : List Statement) (state : σ) :
    Ran p statements (db.calls p number statements state)
      (db.run p number statements state).results := by
  obtain ⟨calls, hran, hrun⟩ := db.journaled_run p statements number state []
  simpa [Session.calls, hrun] using hran

end Session

end SqlScript
