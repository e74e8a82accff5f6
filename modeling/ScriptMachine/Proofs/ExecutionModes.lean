import Mathlib.Data.List.Chain
import Mathlib.Logic.Function.Iterate
import ScriptMachine.Machine.Run
import ScriptMachine.Tally

/-! # Execution modes

A script can be run to its end at once, step by step, or with a trace. `Ends` says what a complete
run is without any of these: it takes steps for as long as the run goes on, and it ends in a state
where the run stops, or in the fault of a step. Every mode is then compared with `Ends`, and only
through it with the others. The horizon of a machine plays no part in `Ends`; that no run is cut
short by it is `Machine.le_horizon`, and that every instruction set has machines is
`Machine.exists_toInstructionSet_eq`.
-/

namespace ScriptMachine

/-- What a wording reads in a state: the same text in every state if it is fixed, and the text that
    is computed from this state otherwise. -/
inductive Wording.Says {σ : Type} : Wording σ → σ → String → Prop where
  | fixed {text : String} {state : σ} : Says (.fixed text) state text
  | computed {text : σ → String} {state : σ} : Says (.computed text) state (text state)

theorem Wording.says_iff {σ : Type} {wording : Wording σ} {state : σ} {text : String} :
    wording.Says state text ↔ text = wording.resolve state := by
  constructor
  · rintro (_ | _) <;> rfl
  · rintro rfl
    cases wording with
    | fixed => exact .fixed
    | computed => exact .computed

namespace InstructionSet

variable {Value Error Context : Type} (set : InstructionSet Value Error Context)

/-- The run from a state takes this many steps, and ends with this result. A step that faults is
    counted, and is the last. -/
inductive Ends : Nat → State Value Error Context → Except Fault (State Value Error Context) → Prop where
  | stop {state} (stopped : set.continues state = false) : Ends 0 state (.ok state)
  | fault {state fault} (continuing : set.continues state = true)
      (faulting : set.step state = .error fault) : Ends 1 state (.error fault)
  | step {count state stepped result} (continuing : set.continues state = true)
      (stepping : set.step state = .ok stepped) (later : Ends count stepped result) :
      Ends (count + 1) state result

/-- Take `count` steps in a row, without asking whether the run goes on. -/
def steps (count : Nat) (state : State Value Error Context) :
    Except Fault (State Value Error Context) :=
  (fun reached => reached >>= set.step)^[count] (.ok state)

/-- The second entry of a trace is one step after the first. It holds the two texts of the operator of
    the byte that the first is about to execute, as they read before the step. -/
structure Follows (before after : TraceEntry Value Error Context) : Prop where
  continuing : set.continues before.state = true
  stepping : set.step before.state = .ok after.state
  explained : ∃ opcode asm description, before.state.script[before.state.ip]? = some opcode ∧
    ((set.operators opcode).getD set.undefined).asm.Says before.state asm ∧
    ((set.operators opcode).getD set.undefined).description.Says before.state description ∧
    after.explanation = some { asm, description }

variable {set} {count limit : Nat} {state stepped last : State Value Error Context} {fault : Fault}
  {result : Except Fault (State Value Error Context)}

theorem steps_succ_of_step (stepping : set.step state = .ok stepped) :
    set.steps (count + 1) state = set.steps count stepped := by
  have reached : (Except.ok state >>= set.step) = .ok stepped := stepping
  simp only [steps, Function.iterate_succ_apply, reached]

theorem exists_opcode_of_step (stepping : set.step state = .ok stepped) :
    ∃ opcode, state.script[state.ip]? = some opcode ∧ set.current state = .ok (set.dispatch opcode) := by
  cases reading : state.script[state.ip]? with
  | none => simp [step, current, reading, bind, Except.bind] at stepping
  | some opcode => exact ⟨opcode, rfl, by simp [current, reading]⟩

theorem follows_iff {before after : TraceEntry Value Error Context} :
    set.Follows before after ↔ set.continues before.state = true ∧
      set.step before.state = .ok after.state ∧
      ∃ opcode, before.state.script[before.state.ip]? = some opcode ∧
        after.explanation = some ((set.dispatch opcode).explain before.state) := by
  constructor
  · rintro ⟨continuing, stepping, opcode, asm, description, reading, saysAsm, saysDescription, shown⟩
    rw [Wording.says_iff] at saysAsm saysDescription
    subst saysAsm saysDescription
    exact ⟨continuing, stepping, opcode, reading, shown⟩
  · rintro ⟨continuing, stepping, opcode, reading, shown⟩
    exact ⟨continuing, stepping, opcode, _, _, reading, Wording.says_iff.mpr rfl,
      Wording.says_iff.mpr rfl, shown⟩

theorem run_succ_of_step (continuing : set.continues state = true)
    (stepping : set.step state = .ok stepped) (taken : Nat) :
    set.run (limit + 1) { state, taken } = set.run limit { state := stepped, taken := taken + 1 } := by
  simp only [run, continuing, if_true, stepping, bind, Except.bind]

theorem traceSteps_succ_of_step {opcode : UInt8} (continuing : set.continues state = true)
    (dispatching : set.current state = .ok (set.dispatch opcode))
    (stepping : set.step state = .ok stepped) :
    set.traceSteps (limit + 1) state = (set.traceSteps limit stepped).map
      ({ explanation := some ((set.dispatch opcode).explain state), state := stepped } :: ·) := by
  simp only [traceSteps, continuing, if_true, dispatching, stepping, bind, Except.bind]
  cases set.traceSteps limit stepped <;> rfl

/-- The byte is looked up twice for a trace entry. A fault of the first lookup is the fault that the
    step would have made. -/
theorem traceSteps_succ_of_fault (continuing : set.continues state = true)
    (faulting : set.step state = .error fault) :
    set.traceSteps (limit + 1) state = .error fault := by
  cases dispatching : set.current state with
  | error missing =>
      have same : missing = fault := by
        simpa [step, dispatching, bind, Except.bind] using faulting
      simp only [traceSteps, continuing, if_true, dispatching, same, bind, Except.bind]
  | ok operator =>
      simp only [traceSteps, continuing, if_true, dispatching, faulting, bind, Except.bind]

theorem map_state_run_eq (limit taken : Nat) (state : State Value Error Context) :
    (set.run limit { state, taken }).map (·.state) =
      (set.traceSteps limit state).map fun later => (later.getLast?.map (·.state)).getD state := by
  induction limit generalizing state taken with
  | zero => rfl
  | succ limit ih =>
      cases continuing : set.continues state with
      | false => simp [run, traceSteps, continuing, Except.map]
      | true =>
          cases stepping : set.step state with
          | error fault =>
              rw [traceSteps_succ_of_fault continuing stepping]
              simp [run, continuing, stepping, bind, Except.bind, Except.map]
          | ok stepped =>
              obtain ⟨opcode, _, dispatching⟩ := exists_opcode_of_step stepping
              rw [run_succ_of_step continuing stepping,
                traceSteps_succ_of_step continuing dispatching stepping, ih]
              cases set.traceSteps limit stepped with
              | error fault => rfl
              | ok later => cases ends : later.getLast? <;> simp [Except.map, List.getLast?_cons, ends]

namespace Ends

theorem goesOn_eq (run : set.Ends count state result) :
    (∀ fewer < count, set.goesOn fewer state = true) ∧ set.goesOn count state = false := by
  induction run with
  | stop stopped => exact ⟨fun fewer small => absurd small (Nat.not_lt_zero fewer), stopped⟩
  | fault continuing faulting =>
      refine ⟨fun fewer small => ?_, by simp [goesOn, faulting]⟩
      obtain rfl := Nat.lt_one_iff.mp small
      exact continuing
  | step continuing stepping later ih =>
      obtain ⟨before, after⟩ := ih
      refine ⟨fun fewer small => ?_, by rw [goesOn_succ continuing stepping, after]⟩
      cases fewer with
      | zero => exact continuing
      | succ fewer =>
          rw [goesOn_succ continuing stepping]
          exact before fewer (by omega)

theorem stopped (run : set.Ends count state (.ok last)) : set.continues last = false := by
  -- The result is an index of `Ends`, so it has to be a variable before the induction.
  generalize ended : Except.ok last = result at run
  induction run with
  | stop stopped =>
      cases ended
      exact stopped
  | fault => cases ended
  | step continuing stepping later ih => exact ih ended

theorem steps_eq (run : set.Ends count state result) : set.steps count state = result := by
  induction run with
  | stop => rfl
  | fault continuing faulting => exact faulting
  | step continuing stepping later ih => rw [steps_succ_of_step stepping, ih]

theorem run_eq (run : set.Ends count state result) : ∀ {limit}, count ≤ limit → ∀ taken,
    set.run limit { state, taken } =
      result.map fun last => { state := last, taken := taken + count } := by
  induction run with
  | stop stopped =>
      intro limit enough taken
      cases limit with
      | zero => rfl
      | succ limit => simp [InstructionSet.run, stopped, Except.map]
  | fault continuing faulting =>
      intro limit enough taken
      obtain ⟨limit, rfl⟩ := Nat.exists_eq_add_of_le' enough
      simp [InstructionSet.run, continuing, faulting, bind, Except.bind, Except.map]
  | step continuing stepping later ih =>
      intro limit enough taken
      obtain ⟨limit, rfl⟩ := Nat.exists_eq_add_of_le' (Nat.le_of_add_left_le enough)
      rw [run_succ_of_step continuing stepping, ih (by omega)]
      simp only [Nat.add_assoc, Nat.add_comm 1]

theorem exists_traceSteps_eq (run : set.Ends count state (.ok last)) : ∀ {limit}, count ≤ limit →
    ∃ later, set.traceSteps limit state = .ok later ∧ later.length = count ∧
      ∀ explanation, List.IsChain set.Follows ({ explanation, state } :: later) ∧
        (({ explanation, state } :: later)[count]?.map (·.state)) = some last := by
  generalize ended : Except.ok last = result at run
  induction run with
  | stop stopped =>
      intro limit enough
      cases ended
      refine ⟨[], ?_, rfl, fun explanation => ⟨.singleton _, rfl⟩⟩
      cases limit with
      | zero => rfl
      | succ limit => simp [traceSteps, stopped]
  | fault => cases ended
  | @step count state stepped result continuing stepping later ih =>
      intro limit enough
      obtain ⟨limit, rfl⟩ := Nat.exists_eq_add_of_le' (Nat.le_of_add_left_le enough)
      obtain ⟨opcode, reading, dispatching⟩ := exists_opcode_of_step stepping
      obtain ⟨entries, traced, length, chained⟩ := ih ended (show _ ≤ limit by omega)
      let entry : TraceEntry Value Error Context :=
        { explanation := some ((set.dispatch opcode).explain state), state := stepped }
      refine ⟨entry :: entries, ?_, by simp [length], fun explanation => ⟨?_, ?_⟩⟩
      · rw [traceSteps_succ_of_step continuing dispatching stepping, traced]
        rfl
      · exact .cons_cons (follows_iff.mpr ⟨continuing, stepping, opcode, reading, rfl⟩) (chained _).1
      · simpa using (chained _).2

theorem traceSteps_eq_error (run : set.Ends count state (.error fault)) : ∀ {limit}, count ≤ limit →
    set.traceSteps limit state = .error fault := by
  generalize ended : Except.error fault = result at run
  induction run with
  | stop => cases ended
  | fault continuing faulting =>
      intro limit enough
      cases ended
      obtain ⟨limit, rfl⟩ := Nat.exists_eq_add_of_le' enough
      exact traceSteps_succ_of_fault continuing faulting
  | step continuing stepping later ih =>
      intro limit enough
      obtain ⟨limit, rfl⟩ := Nat.exists_eq_add_of_le' (Nat.le_of_add_left_le enough)
      obtain ⟨opcode, reading, dispatching⟩ := exists_opcode_of_step stepping
      rw [traceSteps_succ_of_step continuing dispatching stepping, ih ended (by omega)]
      rfl

end Ends

end InstructionSet

namespace Machine

variable {Value Error Context : Type} {machine : Machine Value Error Context} {count : Nat}
  {state last : State Value Error Context} {fault : Fault}
  {result : Except Fault (State Value Error Context)}

/-- A complete run lies within the horizon: where it goes on at the horizon it would go on for ever,
    and so also at its end. -/
theorem le_horizon (run : machine.Ends count state result) : count ≤ machine.horizon state := by
  obtain ⟨before, after⟩ := run.goesOn_eq
  by_contra beyond
  have forever := machine.goesOn_of_horizon state (before _ (by omega)) count
  rw [after] at forever
  cases forever

theorem evaluate_eq (run : machine.Ends count state result) : machine.evaluate state = result := by
  rw [evaluate, run.run_eq (le_horizon run)]
  cases result <;> rfl

theorem exists_trace_eq (run : machine.Ends count state (.ok last)) :
    ∃ entries, machine.trace state = .ok entries ∧ entries.length = count + 1 ∧
      entries[0]? = some { explanation := none, state } ∧
      List.IsChain machine.Follows entries ∧ entries[count]?.map (·.state) = some last := by
  obtain ⟨later, traced, length, chained⟩ := run.exists_traceSteps_eq (le_horizon run)
  refine ⟨{ explanation := none, state } :: later, ?_, by simp [length], rfl, chained none⟩
  rw [trace, traced]
  rfl

theorem trace_eq_error (run : machine.Ends count state (.error fault)) :
    machine.trace state = .error fault := by
  rw [trace, run.traceSteps_eq_error (le_horizon run)]
  rfl

theorem evaluate_eq_map_trace (machine : Machine Value Error Context)
    (state : State Value Error Context) :
    machine.evaluate state =
      (machine.trace state).map fun entries => (entries.getLast?.map (·.state)).getD state := by
  rw [evaluate, InstructionSet.map_state_run_eq, trace]
  cases machine.traceSteps (machine.horizon state) state with
  | error fault => rfl
  | ok later => cases ends : later.getLast? <;> simp [Except.map, List.getLast?_cons, ends]

/-- All modes agree on a run that ends in a state, and on a run that ends in a fault, for every
    instruction set and whichever horizon its machine was given. -/
theorem modes_agree (set : InstructionSet Value Error Context) :
    (∃ machine : Machine Value Error Context, machine.toInstructionSet = set) ∧
    ∀ machine : Machine Value Error Context, machine.toInstructionSet = set → ∀ count state,
      (∀ last, set.Ends count state (.ok last) →
        machine.evaluate state = .ok last ∧
        set.steps count state = .ok last ∧
        set.run count { state } = .ok { state := last, taken := count } ∧
        ∃ entries, machine.trace state = .ok entries ∧
          entries.length = count + 1 ∧
          entries[0]? = some { explanation := none, state } ∧
          (∀ k < count, ∃ before after, entries[k]? = some before ∧ entries[k + 1]? = some after ∧
            set.Follows before after) ∧
          ∃ final, entries[count]? = some final ∧ set.continues final.state = false ∧
            machine.evaluate state = .ok final.state) ∧
      (∀ fault, set.Ends count state (.error fault) →
        machine.evaluate state = .error fault ∧
        machine.trace state = .error fault ∧
        set.steps count state = .error fault ∧
        ∀ limit, count ≤ limit → set.run limit { state } = .error fault) := by
  refine ⟨exists_toInstructionSet_eq set, ?_⟩
  rintro machine rfl count state
  refine ⟨fun last run => ?_, fun fault run => ?_⟩
  · obtain ⟨entries, traced, length, first, chained, ended⟩ := exists_trace_eq run
    obtain ⟨final, located, rfl⟩ := Option.map_eq_some_iff.mp ended
    have ran := run.run_eq (Nat.le_refl count) 0
    rw [Nat.zero_add] at ran
    refine ⟨evaluate_eq run, run.steps_eq, ran, entries, traced, length, first, ?_,
      final, located, run.stopped, evaluate_eq run⟩
    intro k small
    have inside : k + 1 < entries.length := by omega
    exact ⟨entries[k], entries[k + 1], List.getElem?_eq_getElem _, List.getElem?_eq_getElem _,
      chained.getElem k inside⟩
  · exact ⟨evaluate_eq run, trace_eq_error run, run.steps_eq,
      fun limit enough => run.run_eq enough 0⟩

/-- A tally whose trace has texts of both kinds, fixed and computed, and one that ends in a fault
    because a sum does not fit its word. -/
theorem modes_agree_on_tallies :
    (∃ last entries, Tally.machine.Ends 5 (Tally.startJoined #[0x00, 0x01] #[0x00, 0x03]) (.ok last) ∧
      Tally.machine.evaluate (Tally.startJoined #[0x00, 0x01] #[0x00, 0x03]) = .ok last ∧
      last.stack = [1] ∧
      Tally.machine.trace (Tally.startJoined #[0x00, 0x01] #[0x00, 0x03]) = .ok entries ∧
      (∀ k < 5, ∃ before after, entries[k]? = some before ∧ entries[k + 1]? = some after ∧
        Tally.machine.Follows before after) ∧
      entries.map (·.explanation) =
        [none,
          some ⟨"OP_0", "Push a 0 onto the stack."⟩,
          some ⟨"OP_INCREMENT", "Add 1 to the top stack item."⟩,
          some ⟨"OP_CODESEPARATOR(ip: 2)",
            "Used internally to separate the unlocking and locking scripts."⟩,
          some ⟨"OP_0", "Push a 0 onto the stack."⟩,
          some ⟨"OP_ADD",
            "Pop the top two items off the stack (0, 1) and push their sum onto the stack."⟩]) ∧
    (∃ full : Tally.State, full.stack = [Tally.numberBound - 1] ∧
      Tally.machine.Ends 1 full (.error .additionOverflow) ∧
      Tally.machine.trace full = .error .additionOverflow) := by
  have counted : Tally.machine.Ends 5 (Tally.startJoined #[0x00, 0x01] #[0x00, 0x03])
      (.ok { Tally.startJoined #[0x00, 0x01] #[0x00, 0x03] with ip := 5, stack := [1] }) :=
    .step rfl rfl (.step rfl rfl (.step rfl rfl (.step rfl rfl (.step rfl rfl (.stop rfl)))))
  have overflowing : Tally.machine.Ends 1 { Tally.start #[0x01] with stack := [Tally.numberBound - 1] }
      (.error .additionOverflow) :=
    .fault rfl rfl
  obtain ⟨_, agree⟩ := modes_agree Tally.machine.toInstructionSet
  obtain ⟨evaluated, _, _, entries, traced, _, _, follows, _⟩ := (agree _ rfl 5 _).1 _ counted
  refine ⟨⟨_, entries, counted, evaluated, rfl, traced, follows, ?_⟩,
    ⟨_, rfl, overflowing, ((agree _ rfl 1 _).2 _ overflowing).2.1⟩⟩
  obtain rfl := Except.ok.inj traced
  decide +kernel

end Machine

end ScriptMachine
