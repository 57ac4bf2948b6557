import Mathlib.Data.List.Induction
import SqlScript.Log.Channel

/-!
# A channel that is set up again and again

A call to set up a channel is accepted if it names a level, and otherwise it changes nothing. After
any number of calls the channel is therefore settled by the last one that was accepted
(`Channel.afterCalls_eq`). It has the level of that call, and behind the handlers that were there
before any call it has a single console, which writes where that call said. A console is added by
the first call that is accepted and is found again by every later one, since no other handler has
its name.
-/

namespace SqlScript.Log

open SqlScript.Text

variable {ω : Type}

namespace Handler

/-- A handler without the name of the console writes nothing. -/
theorem exists_of_not_isNamed {handler : Handler ω} (h : handler.isNamed = false) :
    ∃ name, handler = .foreign name := by
  cases handler with
  | console output => exact absurd h (by simp [isNamed, name])
  | foreign name => exact ⟨name, rfl⟩

@[simp] theorem isNamed_console (output : ω) : (console output).isNamed = true := by
  rw [isNamed, name, beq_iff_eq]

end Handler

namespace Channel

/-! ### One call -/

/-- The channel after a call, which gives the name of a level and the output of the console. -/
def attempt (channel : Channel ω) (call : Text × ω) : Channel ω :=
  match channel.setup call.1 call.2 with
  | .ok next => next
  | .error _ => channel

/-- The level and the output of a call, if it is accepted. -/
def accepted? (call : Text × ω) : Option (Nat × ω) := (level? call.1).map (·, call.2)

theorem setup_of_eq_none {name : Text} (h : level? name = none) (channel : Channel ω)
    (output : ω) : channel.setup name output = .error (.unknownLevel name) := by
  rw [setup, h]

theorem setup_of_eq_some {name : Text} {level : Nat} (h : level? name = some level)
    (channel : Channel ω) (output : ω) :
    channel.setup name output = .ok ⟨level, redirect output channel.handlers⟩ := by
  rw [setup, h]

theorem attempt_of_eq_none {name : Text} (h : level? name = none) (channel : Channel ω)
    (output : ω) : channel.attempt (name, output) = channel := by
  rw [attempt, setup_of_eq_none h]

theorem attempt_of_eq_some {name : Text} {level : Nat} (h : level? name = some level)
    (channel : Channel ω) (output : ω) :
    channel.attempt (name, output) = ⟨level, redirect output channel.handlers⟩ := by
  rw [attempt, setup_of_eq_some h]

/-- Handlers without the name of the console are left alone, and those behind them are gone
through. -/
theorem redirect_append {others : List (Handler ω)} (hothers : ∀ h ∈ others, h.isNamed = false)
    (output : ω) (rest : List (Handler ω)) :
    redirect output (others ++ rest) = others ++ redirect output rest := by
  induction others with
  | nil => rfl
  | cons handler others ih =>
    have hname : handler.isNamed = false := hothers handler List.mem_cons_self
    rw [List.cons_append, redirect, hname, if_neg Bool.false_ne_true,
      ih fun h hh => hothers h (List.mem_cons_of_mem handler hh), List.cons_append]

/-! ### A channel with a console -/

/-- The channel as the last accepted call leaves it, or as it was if there is none. -/
def settled (start : Channel ω) : Option (Nat × ω) → Channel ω
  | none => start
  | some (level, output) => ⟨level, start.handlers ++ [.console output]⟩

variable {start : Channel ω} (hstart : ∀ h ∈ start.handlers, h.isNamed = false)

include hstart

/-- **A call that is accepted settles the channel anew**, and one that is rejected leaves it as it
is. -/
theorem attempt_settled (last : Option (Nat × ω)) (call : Text × ω) :
    (start.settled last).attempt call = start.settled ((accepted? call).or last) := by
  obtain ⟨name, output⟩ := call
  rcases hlevel : level? name with _ | level
  · rw [attempt_of_eq_none hlevel, accepted?, hlevel]
    rfl
  · rw [attempt_of_eq_some hlevel, accepted?, hlevel, Option.map_some, Option.some_or, settled,
      mk.injEq]
    refine ⟨rfl, ?_⟩
    cases last with
    | none =>
      have happend := redirect_append hstart output []
      rwa [List.append_nil] at happend
    | some last =>
      rw [settled, redirect_append hstart, redirect, Handler.isNamed_console, if_pos rfl]
      rfl

/-- Once a call has been accepted there is a console, and one only. -/
theorem countP_settled (last : Option (Nat × ω)) :
    (start.settled last).handlers.countP Handler.isNamed = if last.isSome then 1 else 0 := by
  have hnone : start.handlers.countP Handler.isNamed = 0 := by
    rw [List.countP_eq_zero]
    intro h hh
    simp [hstart h hh]
  cases last with
  | none => exact hnone
  | some last =>
    rw [settled, List.countP_append, hnone, List.countP_singleton, Handler.isNamed_console]
    rfl

/-- The handlers that were there before are still there. -/
theorem filter_settled (last : Option (Nat × ω)) :
    (start.settled last).handlers.filter (!Handler.isNamed ·) = start.handlers := by
  have hall : start.handlers.filter (!Handler.isNamed ·) = start.handlers := by
    rw [List.filter_eq_self]
    intro h hh
    simp [hstart h hh]
  cases last with
  | none => exact hall
  | some last =>
    have hconsole : (Handler.console last.2).isNamed = true := Handler.isNamed_console last.2
    rw [settled, List.filter_append, hall, List.filter_cons_of_neg (by simp [hconsole])]
    exact List.append_nil _

/-- **The console of a settled channel writes what is severe enough**, and no other handler writes
anything. -/
theorem deliver_settled (level : Nat) (output : ω) (record : Record) :
    (start.settled (some (level, output))).deliver record =
      if (if level = 0 then Severity.warning.rank else level) ≤ record.severity.rank then
        [(output, record)] else [] := by
  rw [deliver, passes, threshold, settled, List.filterMap_append, List.filterMap_eq_nil_iff.mpr]
  · simp
  · intro h hh
    obtain ⟨name, rfl⟩ := Handler.exists_of_not_isNamed (hstart h hh)
    rfl

/-! ### Any number of calls -/

omit hstart

/-- The channel after calls, in their order. -/
def afterCalls (channel : Channel ω) (calls : List (Text × ω)) : Channel ω :=
  calls.foldl attempt channel

/-- The levels and outputs of the calls that are accepted, in their order. -/
def accepted (calls : List (Text × ω)) : List (Nat × ω) := calls.filterMap accepted?

theorem getLast?_accepted_append (calls : List (Text × ω)) (call : Text × ω) :
    (accepted (calls ++ [call])).getLast? = (accepted? call).or (accepted calls).getLast? := by
  rw [accepted, List.filterMap_append, List.getLast?_append]
  cases h : accepted? call <;> simp [h, accepted]

/-- **After any calls the channel is settled by the last one that was accepted.** -/
theorem afterCalls_eq (hstart : ∀ h ∈ start.handlers, h.isNamed = false)
    (calls : List (Text × ω)) :
    start.afterCalls calls = start.settled (accepted calls).getLast? := by
  induction calls using List.reverseRecOn with
  | nil => rfl
  | append_singleton calls call ih =>
    rw [afterCalls, List.foldl_append, List.foldl_cons, List.foldl_nil, ← afterCalls, ih,
      attempt_settled hstart, getLast?_accepted_append]

/-- **What calls have made of a channel** that had the handlers `others` and no level. -/
structure Follows (others : List (Handler ω)) (calls : List (Text × ω)) (channel : Channel ω) :
    Prop where
  /-- There is one console if a call has been accepted, and none otherwise. -/
  consoles : channel.handlers.countP Handler.isNamed = if accepted calls = [] then 0 else 1
  /-- The other handlers are there, in their order. -/
  others_eq : channel.handlers.filter (!Handler.isNamed ·) = others
  /-- The level is that of the last call that was accepted. -/
  level_eq : channel.level = ((accepted calls).getLast?.map Prod.fst).getD 0
  /-- A further call is an error and changes nothing if it names no level. -/
  rejects : ∀ name output, level? name = none →
    channel.setup name output = .error (.unknownLevel name) ∧
      channel.attempt (name, output) = channel
  /-- It is none if it names a level. -/
  accepts : ∀ name output level, level? name = some level →
    channel.setup name output = .ok (channel.attempt (name, output))
  /-- A record that is severe enough is written once, to the output of the last accepted call. -/
  delivers : ∀ level output, (accepted calls).getLast? = some (level, output) →
    ∀ record : Record, channel.deliver record =
      if (if level = 0 then Severity.warning.rank else level) ≤ record.severity.rank then
        [(output, record)] else []

/-- **Setting up a channel any number of times**: however accepted and rejected calls come, there is
one console at most, and level and output are those of the last call that was accepted. -/
theorem follows_afterCalls (hlevel : start.level = 0)
    (hothers : ∀ h ∈ start.handlers, h.name ≠ some consoleName) (calls : List (Text × ω)) :
    Follows start.handlers calls (start.afterCalls calls) := by
  have hstart : ∀ h ∈ start.handlers, h.isNamed = false := by
    intro h hh
    exact beq_eq_false_iff_ne.mpr (hothers h hh)
  rw [afterCalls_eq hstart]
  refine ⟨?consoles, ?others, ?level, ?rejects, ?accepts, ?delivers⟩
  case consoles =>
    rw [countP_settled hstart]
    simp only [List.getLast?_isSome, ite_not]
  case others => exact filter_settled hstart _
  case level =>
    cases (accepted calls).getLast? with
    | none => exact hlevel
    | some last => rfl
  case rejects =>
    intro name output h
    exact ⟨setup_of_eq_none h _ output, attempt_of_eq_none h _ output⟩
  case accepts =>
    intro name output level h
    rw [attempt_of_eq_some h, setup_of_eq_some h]
  case delivers =>
    intro level output hlast record
    rw [hlast]
    exact deliver_settled hstart level output record

/-- Blank characters and letter case do not matter in the name of a level, and its rank is no name
of it. -/
theorem follows_afterCalls_mixed :
    let start : Channel Nat := ⟨0, [.foreign none, .foreign (some "file".toList)]⟩
    let calls : List (Text × Nat) :=
      [("10".toList, 1), ("error".toList, 2), ("loud".toList, 3), (" Info\n".toList, 4), ([], 5)]
    start.level = 0 ∧ (∀ h ∈ start.handlers, h.name ≠ some consoleName) ∧
      accepted calls = [(40, 2), (20, 4)] ∧
      Follows start.handlers calls (start.afterCalls calls) := by
  intro start calls
  have hothers : ∀ h ∈ start.handlers, h.name ≠ some consoleName := by decide
  exact ⟨rfl, hothers, by decide +kernel, follows_afterCalls rfl hothers calls⟩

end Channel

end SqlScript.Log
