import ScriptMachine.Proofs.ExecutionModes

/-! # Complete traces

A trace is told by three facts: where it begins, that each entry is one step after the one before it,
and that the run stops at its last entry. A list of entries with these facts is the trace, so two
traces are compared by comparing single steps, and no run has to be followed again.
-/

namespace ScriptMachine

namespace InstructionSet

variable {Value Error Context : Type} (set : InstructionSet Value Error Context)

/-- The entries lead from this state, step by step, to a state where the run stops. -/
structure Complete (state : State Value Error Context)
    (entries : List (TraceEntry Value Error Context)) : Prop where
  starts : entries.head? = some { explanation := none, state }
  chained : List.IsChain set.Follows entries
  stops : ∀ last, entries.getLast? = some last → set.continues last.state = false

variable {set} {limit : Nat} {before last : TraceEntry Value Error Context}
  {entries later : List (TraceEntry Value Error Context)} {state : State Value Error Context}

theorem traceSteps_eq_of_chained (chained : List.IsChain set.Follows (before :: later))
    (ends : (before :: later).getLast? = some last) (stopped : set.continues last.state = false)
    (enough : later.length ≤ limit) : set.traceSteps limit before.state = .ok later := by
  induction later generalizing before limit with
  | nil =>
      obtain rfl : before = last := by simpa using ends
      cases limit with
      | zero => rfl
      | succ limit => simp [traceSteps, stopped]
  | cons after later ih =>
      obtain ⟨follows, tail⟩ := List.isChain_cons_cons.mp chained
      obtain ⟨continuing, stepping, opcode, reading, explained⟩ := follows_iff.mp follows
      obtain ⟨limit, rfl⟩ := Nat.exists_eq_add_of_le' (Nat.le_of_add_left_le enough)
      have dispatching : set.current before.state = .ok (set.dispatch opcode) := by
        simp [current, reading]
      have traced := ih tail (by simpa using ends) (Nat.le_of_succ_le_succ enough)
      rw [traceSteps_succ_of_step continuing dispatching stepping, traced, ← explained]
      rfl

theorem ends_of_chained (chained : List.IsChain set.Follows (before :: later))
    (ends : (before :: later).getLast? = some last) (stopped : set.continues last.state = false) :
    set.Ends later.length before.state (.ok last.state) := by
  induction later generalizing before with
  | nil =>
      obtain rfl : before = last := by simpa using ends
      exact .stop stopped
  | cons after later ih =>
      obtain ⟨follows, tail⟩ := List.isChain_cons_cons.mp chained
      exact .step follows.continuing follows.stepping (ih tail (by simpa using ends))

namespace Complete

theorem exists_later (complete : set.Complete state entries) :
    ∃ later last, entries = { explanation := none, state } :: later ∧
      entries.getLast? = some last := by
  obtain ⟨later, rfl⟩ := List.head?_eq_some_iff.mp complete.starts
  exact ⟨later, _, rfl, List.getLast?_cons⟩

end Complete

end InstructionSet

namespace Machine

variable {Value Error Context : Type} {machine : Machine Value Error Context} {count : Nat}
  {state last : State Value Error Context} {entries : List (TraceEntry Value Error Context)}

theorem trace_eq (complete : machine.Complete state entries) : machine.trace state = .ok entries := by
  obtain ⟨later, final, rfl, ends⟩ := complete.exists_later
  have stopped := complete.stops final ends
  have run := InstructionSet.ends_of_chained complete.chained ends stopped
  have traced := InstructionSet.traceSteps_eq_of_chained complete.chained ends stopped (le_horizon run)
  rw [trace, traced]
  rfl

theorem evaluate_eq_getLast {final : TraceEntry Value Error Context}
    (complete : machine.Complete state entries) (ends : entries.getLast? = some final) :
    machine.evaluate state = .ok final.state := by
  rw [evaluate_eq_map_trace, trace_eq complete]
  simp [Except.map, ends]

theorem exists_complete (run : machine.Ends count state (.ok last)) :
    ∃ entries, machine.Complete state entries ∧ entries.length = count + 1 := by
  obtain ⟨entries, _, length, first, chained, located⟩ := exists_trace_eq run
  refine ⟨entries, ⟨List.head?_eq_getElem?.trans first, chained, ?_⟩, length⟩
  intro final ends
  rw [List.getLast?_eq_getElem?, length, Nat.add_sub_cancel] at ends
  rw [ends, Option.map_some, Option.some.injEq] at located
  rw [located]
  exact run.stopped

end Machine

end ScriptMachine
