import SqlScript.Proofs.Journal

/-!
# How results are written

To show results is to write the values of their rows, one after another, until one of them cannot
be written. All that is done beside that, to put the pieces together, asks for nothing. So what is
shown of several results is put together from what is shown of each once those before it are shown
(`Asking.exists_of_mapM_append`), and the fault that keeps results from being shown is one of
writing a value (`Result.exists_unwritten`).

On the journaled session the same is shown, and the journal has all the values with what came of
writing them (`Result.notes_shown`). Whether the results were shown at all can therefore be told
from the journal: they were unless there is a fault of writing in it.
-/

namespace SqlScript

variable {σ κ ν : Type}

/-! ### Asking for one thing after another -/

namespace Asking

variable {α β : Type} {ask : Asking σ α} {next : α → Asking σ β} {state left : σ} {fault : Fault}

/-- What comes next is asked in the state that is left, unless there was a fault. -/
theorem bind_eq (ask : Asking σ α) (next : α → Asking σ β) (state : σ) :
    (ask >>= next) state =
      match ask state with
      | (.ok answer, left) => next answer left
      | (.error fault, left) => (.error fault, left) := by
  change ExceptT.bindCont next (ask state).1 (ask state).2 = _
  rcases ask state with ⟨fault | answer, left⟩ <;> rfl

theorem of_bind_ok {b : β} (h : (ask >>= next) state = (.ok b, left)) :
    ∃ a between, ask state = (.ok a, between) ∧ next a between = (.ok b, left) := by
  rw [bind_eq] at h
  rcases hask : ask state with ⟨fault | a, between⟩ <;> rw [hask] at h
  · cases h
  · exact ⟨a, between, rfl, h⟩

theorem of_bind_error (h : (ask >>= next) state = (.error fault, left)) :
    ask state = (.error fault, left) ∨
      ∃ a between, ask state = (.ok a, between) ∧ next a between = (.error fault, left) := by
  rw [bind_eq] at h
  rcases hask : ask state with ⟨other | a, between⟩ <;> rw [hask] at h
  · cases h
    exact Or.inl rfl
  · exact Or.inr ⟨a, between, rfl, h⟩

/-- Several questions have as many answers. -/
theorem length_of_mapM {f : α → Asking σ β} {xs : List α} {ys : List β}
    (h : xs.mapM f state = (.ok ys, left)) : ys.length = xs.length := by
  induction xs generalizing state ys with
  | nil =>
    rw [List.mapM_nil] at h
    cases h
    rfl
  | cons x xs ih =>
    rw [List.mapM_cons] at h
    obtain ⟨y, between, -, h⟩ := of_bind_ok h
    obtain ⟨rest, last, hrest, h⟩ := of_bind_ok h
    cases h
    exact congrArg (· + 1) (ih hrest)

/-- **Each of several questions** is asked in the state that those before it leave. -/
theorem exists_of_mapM_append {f : α → Asking σ β} {earlier later : List α} {x : α} {ys : List β}
    (h : (earlier ++ x :: later).mapM f state = (.ok ys, left)) :
    ∃ y ∈ ys, ∃ after, f x (earlier.mapM f state).2 = (.ok y, after) := by
  induction earlier generalizing state ys with
  | nil =>
    rw [List.nil_append, List.mapM_cons] at h
    obtain ⟨y, between, hx, h⟩ := of_bind_ok h
    obtain ⟨rest, last, -, h⟩ := of_bind_ok h
    cases h
    exact ⟨y, List.mem_cons_self, between, hx⟩
  | cons first earlier ih =>
    rw [List.cons_append, List.mapM_cons] at h
    obtain ⟨answer, between, hfirst, h⟩ := of_bind_ok h
    obtain ⟨rest, last, hrest, h⟩ := of_bind_ok h
    cases h
    obtain ⟨y, hy, after, hx⟩ := ih hrest
    have hleft : ((first :: earlier).mapM f state).2 = (earlier.mapM f between).2 := by
      rw [List.mapM_cons, bind_eq, hfirst]
      simp only [bind_eq]
      rcases earlier.mapM f between with ⟨fault | answers, final⟩ <;> rfl
    exact ⟨y, List.mem_cons_of_mem answer hy, after, hleft ▸ hx⟩

/-- The fault by which several questions are not answered is raised by one of them. -/
theorem exists_of_mapM_error {f : α → Asking σ β} {xs : List α}
    (h : xs.mapM f state = (.error fault, left)) :
    ∃ x ∈ xs, ∃ before after, f x before = (.error fault, after) := by
  induction xs generalizing state with
  | nil =>
    rw [List.mapM_nil] at h
    cases h
  | cons x xs ih =>
    rw [List.mapM_cons] at h
    rcases of_bind_error h with hx | ⟨y, between, -, h⟩
    · exact ⟨x, List.mem_cons_self, state, left, hx⟩
    rcases of_bind_error h with hxs | ⟨ys, last, -, h⟩
    · obtain ⟨x', hmem, hx'⟩ := ih hxs
      exact ⟨x', List.mem_cons_of_mem x hmem, hx'⟩
    · cases h

end Asking

/-! ### Why results are not shown -/

/-- **A value cannot be written**, in one of the states that the database may be in. -/
def Session.Unwritten (db : Session σ κ ν) (rows : List (Row ν)) (fault : Fault) : Prop :=
  ∃ row ∈ rows, ∃ value, some value ∈ row ∧ ∃ before after,
    db.write value before = (.error fault, after)

namespace Result

variable {db : Session σ κ ν} {state left : σ} {fault : Fault}

theorem unwritten_of_table {columns : List Text} {rows : List (Row ν)}
    (h : table db columns rows state = (.error fault, left)) : db.Unwritten rows fault := by
  rcases Asking.of_bind_error h with hrows | ⟨lines, between, -, h⟩
  · obtain ⟨row, hrow, before, after, hcells⟩ := Asking.exists_of_mapM_error hrows
    obtain ⟨place, hplace, before, after, hcell⟩ := Asking.exists_of_mapM_error hcells
    rcases place with _ | value
    · cases hcell
    · exact ⟨row, hrow, value, hplace, before, after, hcell⟩
  · cases h

theorem unwritten_of_outcome {r : Result ν} (h : r.outcome db state = (.error fault, left)) :
    db.Unwritten r.rows fault := by
  rcases herror : r.error with _ | reason
  · rcases hrows : r.rows with _ | ⟨row, rows⟩ <;> simp only [outcome, herror, hrows] at h
    · cases h
    · exact unwritten_of_table h
  · simp only [outcome, herror] at h
    cases h

/-- Results are shown one under the other, unless there is a single one. -/
theorem shown_cases (db : Session σ κ ν) (results : List (Result ν)) :
    (∃ r, results = [r] ∧ shown db results = r.outcome db) ∨
      shown db results = do return ['\n', '\n'].intercalate (← results.mapM (entry db)) := by
  rcases results with _ | ⟨r, _ | ⟨r', results⟩⟩
  · exact Or.inr rfl
  · exact Or.inl ⟨r, rfl, rfl⟩
  · exact Or.inr rfl

/-- **The fault that keeps results from being shown** is one of writing a value of their rows. -/
theorem exists_unwritten {results : List (Result ν)}
    (h : shown db results state = (.error fault, left)) :
    ∃ r ∈ results, db.Unwritten r.rows fault := by
  rcases shown_cases db results with ⟨r, rfl, heq⟩ | heq <;> rw [heq] at h
  · exact ⟨r, List.mem_singleton_self r, unwritten_of_outcome h⟩
  · rcases Asking.of_bind_error h with hentries | ⟨entries, between, -, h⟩
    · obtain ⟨r, hr, before, after, hentry⟩ := Asking.exists_of_mapM_error hentries
      rcases Asking.of_bind_error hentry with houtcome | ⟨outcome, between, -, h⟩
      · exact ⟨r, hr, unwritten_of_outcome houtcome⟩
      · cases h
    · cases h

end Result

/-! ### Writing on the journaled session -/

/-- The calls by which values are written, with what came of each. -/
def Journal.writings (answers : List (ν × Except Fault Text)) : Journal κ ν :=
  answers.map fun (value, answer) => .write value answer

@[simp] theorem Journal.writings_append (first second : List (ν × Except Fault Text)) :
    (writings (first ++ second) : Journal κ ν) = writings first ++ writings second :=
  List.map_append

/-- Nothing else can be read off them. -/
theorem Journal.filterMap_writings {α : Type} {f : Call κ ν → Option α}
    (h : ∀ value answer, f (.write value answer) = none)
    (answers : List (ν × Except Fault Text)) : (writings answers).filterMap f = [] := by
  refine List.filterMap_eq_nil_iff.mpr fun call hcall => ?_
  obtain ⟨⟨value, answer⟩, -, rfl⟩ := List.mem_map.mp hcall
  exact h value answer

/-- **Asking on the journaled session**: the answer is the same and so is the state that is left,
and the journal has what was written, with a fault in it only if there is no answer. -/
def Notes {α : Type} (ask : Asking σ α) (asked : Asking (σ × Journal κ ν) α) : Prop :=
  ∀ state, ∃ answers : List (ν × Except Fault Text),
    (∀ journal, asked (state, journal) =
      ((ask state).1, (ask state).2, journal ++ Journal.writings answers)) ∧
      Journal.unwritten (Journal.writings answers : Journal κ ν) = (Fault.of? (ask state).1).toList

namespace Notes

variable {α β : Type}

theorem pure (a : α) : Notes (κ := κ) (ν := ν) (Pure.pure a : Asking σ α) (Pure.pure a) :=
  fun _ => ⟨[], fun journal => by rw [Journal.writings, List.map_nil, List.append_nil]; rfl, rfl⟩

theorem bind {ask : Asking σ α} {asked : Asking (σ × Journal κ ν) α} {next : α → Asking σ β}
    {after : α → Asking (σ × Journal κ ν) β} (h : Notes ask asked)
    (hnext : ∀ a, Notes (next a) (after a)) : Notes (ask >>= next) (asked >>= after) := by
  intro state
  obtain ⟨first, hasked, hfirst⟩ := h state
  simp only [Asking.bind_eq, hasked]
  rcases hask : ask state with ⟨fault | a, left⟩ <;> rw [hask] at hfirst
  · exact ⟨first, fun _ => rfl, hfirst⟩
  · obtain ⟨second, hafter, hsecond⟩ := hnext a left
    refine ⟨first ++ second, fun journal => ?_, ?_⟩
    · simp only [hafter, Journal.writings_append, List.append_assoc]
    · rw [Journal.writings_append, Journal.unwritten_append, hfirst, hsecond]
      rfl

theorem mapM {f : α → Asking σ β} {g : α → Asking (σ × Journal κ ν) β}
    (h : ∀ x, Notes (f x) (g x)) (xs : List α) : Notes (xs.mapM f) (xs.mapM g) := by
  induction xs with
  | nil =>
    rw [List.mapM_nil, List.mapM_nil]
    exact pure []
  | cons x xs ih =>
    rw [List.mapM_cons, List.mapM_cons]
    exact (h x).bind fun y => ih.bind fun ys => pure (y :: ys)

theorem write (db : Session σ κ ν) (value : ν) :
    Notes (db.write value) (db.journaled.write value) := by
  intro state
  refine ⟨[(value, (db.write value state).1)], fun _ => rfl, ?_⟩
  cases (db.write value state).1 <;> rfl

theorem cell (db : Session σ κ ν) (place : Option ν) :
    Notes (db.cell place) (db.journaled.cell place) := by
  cases place with
  | none => exact pure []
  | some value => exact write db value

/-- What stands in the journal before is nothing to the answer, nor to what is noted behind it. -/
theorem prepend {ask : Asking σ α} {asked : Asking (σ × Journal κ ν) α} (h : Notes ask asked)
    {state left : σ} {before calls : Journal κ ν} {answer : Except Fault α}
    (hasked : asked (state, before) = (answer, left, calls)) (earlier : Journal κ ν) :
    asked (state, earlier ++ before) = (answer, left, earlier ++ calls) := by
  obtain ⟨answers, hnoted, -⟩ := h state
  rw [hnoted] at hasked ⊢
  cases hasked
  rw [List.append_assoc]

end Notes

namespace Result

variable (db : Session σ κ ν)

theorem notes_table (columns : List Text) (rows : List (Row ν)) :
    Notes (table db columns rows) (table db.journaled columns rows) :=
  (Notes.mapM (fun row => Notes.mapM (Notes.cell db) row) rows).bind fun _ => Notes.pure _

theorem notes_outcome (r : Result ν) : Notes (r.outcome db) (r.outcome db.journaled) := by
  unfold outcome
  split
  · exact Notes.pure _
  · exact Notes.pure _
  · exact notes_table db _ _

theorem notes_entry (r : Result ν) : Notes (r.entry db) (r.entry db.journaled) :=
  (notes_outcome db r).bind fun _ => Notes.pure _

/-- **Showing results notes what is written.** -/
theorem notes_shown (results : List (Result ν)) :
    Notes (shown db results) (shown db.journaled results) := by
  unfold shown
  split
  · exact notes_outcome db _
  · exact (Notes.mapM (notes_entry db) results).bind fun _ => Notes.pure _

end Result

end SqlScript
