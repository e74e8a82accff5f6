import ScriptMachine.Proofs.CompleteTraces

/-! # Pausing and resuming runs

A run that is paused and resumed is the run that was not paused. A resumed trace begins with the
state at the pause, and shows no operator before it: the rest of it is the rest of the whole trace.
Bounded runs add up in the same way, in what they reach and in the steps that they count.
-/

namespace ScriptMachine

namespace InstructionSet

variable {Value Error Context : Type} {set : InstructionSet Value Error Context}
  {entries : List (TraceEntry Value Error Context)} {state : State Value Error Context}

/-- The entries as a trace of their own. Its first entry does not say how its state was reached. -/
def restart : List (TraceEntry Value Error Context) → List (TraceEntry Value Error Context)
  | [] => []
  | first :: later => { first with explanation := none } :: later

theorem state_getLast?_restart (entries : List (TraceEntry Value Error Context)) :
    (restart entries).getLast?.map (·.state) = entries.getLast?.map (·.state) := by
  match entries with
  | [] => rfl
  | [first] => rfl
  | first :: second :: later => simp [restart]

theorem isChain_restart (chained : List.IsChain set.Follows entries) :
    List.IsChain set.Follows (restart entries) := by
  match entries with
  | [] => exact .nil
  | [first] => exact .singleton _
  | first :: second :: later =>
      obtain ⟨⟨continuing, stepping, explained⟩, tail⟩ := List.isChain_cons_cons.mp chained
      exact .cons_cons ⟨continuing, stepping, explained⟩ tail

section Pause

variable {k : Nat} {paused : TraceEntry Value Error Context}

theorem state_getLast?_restart_drop (located : entries[k]? = some paused) :
    (restart (entries.drop k)).getLast?.map (·.state) = entries.getLast?.map (·.state) := by
  obtain ⟨inside, _⟩ := List.getElem?_eq_some_iff.mp located
  rw [state_getLast?_restart, List.getLast?_drop, if_neg (Nat.not_le.mpr inside)]

theorem Complete.restart_drop (complete : set.Complete state entries)
    (located : entries[k]? = some paused) :
    set.Complete paused.state (restart (entries.drop k)) := by
  refine ⟨?_, isChain_restart (complete.chained.drop k), ?_⟩
  · obtain ⟨inside, rfl⟩ := List.getElem?_eq_some_iff.mp located
    rw [List.drop_eq_getElem_cons inside]
    rfl
  · intro last ends
    have same := state_getLast?_restart_drop located
    rw [ends, Option.map_some] at same
    obtain ⟨final, atEnd, shared⟩ := Option.map_eq_some_iff.mp same.symm
    rw [← shared]
    exact complete.stops final atEnd

end Pause

theorem run_of_stopped (limit : Nat) {progress : Progress Value Error Context}
    (stopped : set.continues progress.state = false) : set.run limit progress = .ok progress := by
  cases limit with
  | zero => rfl
  | succ limit => simp [run, stopped]

theorem run_taken (limit taken : Nat) (state : State Value Error Context) :
    set.run limit { state, taken } =
      (set.run limit { state }).map fun reached => { reached with taken := taken + reached.taken } := by
  induction limit generalizing state taken with
  | zero => rfl
  | succ limit ih =>
      cases continuing : set.continues state with
      | false => simp [run_of_stopped, continuing, Except.map]
      | true =>
          cases stepping : set.step state with
          | error fault => simp [run, continuing, stepping, bind, Except.bind, Except.map]
          | ok stepped =>
              rw [run_succ_of_step continuing stepping, run_succ_of_step continuing stepping,
                ih (taken + 1), ih (0 + 1)]
              cases set.run limit { state := stepped } with
              | error fault => rfl
              | ok reached => simp [Except.map, Nat.add_assoc]

theorem run_add_eq_bind (first second : Nat) (progress : Progress Value Error Context) :
    set.run (first + second) progress = set.run first progress >>= set.run second := by
  induction first generalizing progress with
  | zero => rw [Nat.zero_add]; rfl
  | succ first ih =>
      cases continuing : set.continues progress.state with
      | false =>
          rw [run_of_stopped _ continuing, run_of_stopped _ continuing]
          exact (run_of_stopped _ continuing).symm
      | true =>
          cases stepping : set.step progress.state with
          | error fault => simp [Nat.succ_add, run, continuing, stepping, bind, Except.bind]
          | ok stepped =>
              rw [Nat.succ_add, run_succ_of_step continuing stepping,
                run_succ_of_step continuing stepping, ih]

theorem run_add (first second : Nat) (state : State Value Error Context) :
    set.run (first + second) { state } = (do
      let paused ← set.run first { state }
      let ended ← set.run second { state := paused.state }
      .ok { state := ended.state, taken := paused.taken + ended.taken }) := by
  rw [run_add_eq_bind]
  cases set.run first { state } with
  | error fault => rfl
  | ok paused =>
      change set.run second { state := paused.state, taken := paused.taken } = _
      rw [run_taken]
      simp only [bind, Except.bind]
      cases set.run second { state := paused.state } <;> rfl

end InstructionSet

namespace Machine

open InstructionSet

variable {Value Error Context : Type}

/-- A run can be paused at any entry of its trace. Evaluation from there has the same result, and the
    trace from there is the rest of the trace. Bounded runs in a row are one bounded run, whether
    they end in a state or in a fault. -/
theorem runs_resume (set : InstructionSet Value Error Context) :
    (∃ machine : Machine Value Error Context, machine.toInstructionSet = set) ∧
    (∀ machine : Machine Value Error Context, machine.toInstructionSet = set →
      ∀ count state last, set.Ends count state (.ok last) →
        machine.evaluate state = .ok last ∧
        ∃ entries, machine.trace state = .ok entries ∧ entries.length = count + 1 ∧
          ∀ k ≤ count, ∃ paused, entries[k]? = some paused ∧
            machine.evaluate paused.state = machine.evaluate state ∧
            machine.trace paused.state = .ok (restart (entries.drop k))) ∧
    ∀ (first second : Nat) (state : State Value Error Context),
      set.run (first + second) { state } = (do
        let paused ← set.run first { state }
        let ended ← set.run second { state := paused.state }
        .ok { state := ended.state, taken := paused.taken + ended.taken }) := by
  refine ⟨exists_toInstructionSet_eq set, ?_, run_add⟩
  rintro machine rfl count state last run
  obtain ⟨entries, complete, length⟩ := exists_complete run
  refine ⟨evaluate_eq run, entries, trace_eq complete, length, ?_⟩
  intro k within
  have located : entries[k]? = some entries[k] := List.getElem?_eq_getElem (by omega)
  have resumed := complete.restart_drop located
  obtain ⟨_, final, _, ends⟩ := complete.exists_later
  have same := state_getLast?_restart_drop located
  rw [ends, Option.map_some] at same
  obtain ⟨resumedFinal, resumedEnds, shared⟩ := Option.map_eq_some_iff.mp same
  refine ⟨entries[k], located, ?_, trace_eq resumed⟩
  rw [evaluate_eq_getLast resumed resumedEnds, evaluate_eq_getLast complete ends, shared]

/-- A tally of three steps, paused after the first, and run for one step and then for up to nine. -/
theorem tally_resumes :
    (∃ entries paused, Tally.machine.trace (Tally.start #[0x00, 0x01, 0x01]) = .ok entries ∧
      entries[1]? = some paused ∧
      Tally.machine.evaluate paused.state =
        .ok { Tally.start #[0x00, 0x01, 0x01] with ip := 3, stack := [2] } ∧
      Tally.machine.trace paused.state = .ok (restart (entries.drop 1))) ∧
    Tally.machine.run (1 + 9) { state := Tally.start #[0x00, 0x01, 0x01] } =
      .ok { state := { Tally.start #[0x00, 0x01, 0x01] with ip := 3, stack := [2] }, taken := 3 } := by
  have counted : Tally.machine.Ends 3 (Tally.start #[0x00, 0x01, 0x01])
      (.ok { Tally.start #[0x00, 0x01, 0x01] with ip := 3, stack := [2] }) :=
    .step rfl rfl (.step rfl rfl (.step rfl rfl (.stop rfl)))
  obtain ⟨_, resumes, adds⟩ := runs_resume Tally.machine.toInstructionSet
  obtain ⟨evaluated, entries, traced, _, pauses⟩ := resumes Tally.machine rfl 3 _ _ counted
  obtain ⟨paused, located, same, rest⟩ := pauses 1 (by decide)
  exact ⟨⟨entries, paused, traced, located, same.trans evaluated, rest⟩, adds 1 9 _⟩

end Machine

end ScriptMachine
