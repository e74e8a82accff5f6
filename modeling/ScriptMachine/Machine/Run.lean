import ScriptMachine.Machine.State

/-! # Instruction sets and their runs

From the rules of an instruction set to its steps, from steps to runs, and from runs to the machines
that know when a run has come to its end. Operators and the move past a byte can fault. Whether a run
goes on is a function of the state, so instruction sets in which asking for it can fault are left out.
-/

namespace ScriptMachine

/-! ## Instruction sets

An instruction set says which operator each byte stands for, what happens between reading a byte and
acting on it, and when a run goes on. Together these fix what one step does.
-/

/-- The rules by which a machine runs a script. -/
structure InstructionSet (Value Error Context : Type) where
  /-- The operator of each byte that has one. -/
  operators : UInt8 → Option (Operator (State Value Error Context))
  /-- The operator of every other byte. -/
  undefined : Operator (State Value Error Context)
  /-- What is done between reading a byte and acting on it: moving past the byte. -/
  next : State Value Error Context → Except Fault (State Value Error Context)
  /-- Whether a run goes on from a state. -/
  continues : State Value Error Context → Bool

namespace InstructionSet

variable {Value Error Context : Type} (set : InstructionSet Value Error Context)

def dispatch (opcode : UInt8) : Operator (State Value Error Context) :=
  (set.operators opcode).getD set.undefined

/-- The bytes that have an operator of their own, ascending, each with its operator. -/
def definedOperators : List (UInt8 × Operator (State Value Error Context)) :=
  allBytes.filterMap fun opcode => (set.operators opcode).map (opcode, ·)

/-- The operator that the next step will apply. A position outside the script is a fault. -/
def current (state : State Value Error Context) :
    Except Fault (Operator (State Value Error Context)) :=
  match state.script[state.ip]? with
  | some opcode => .ok (set.dispatch opcode)
  | none => .error (.outOfBounds state.script.size state.ip)

/-- One step: read a byte, move past it, apply its operator. -/
def step (state : State Value Error Context) : Except Fault (State Value Error Context) := do
  let operator ← set.current state
  let moved ← set.next state
  operator.apply moved

/-- Whether `count` steps can be taken from a state, each where the run goes on, and the run goes on
    after them too. -/
def goesOn : Nat → State Value Error Context → Bool
  | 0, state => set.continues state
  | count + 1, state =>
      set.continues state &&
        match set.step state with
        | .ok stepped => goesOn count stepped
        | .error _ => false

end InstructionSet

/-! ## Runs

Bounded runs of any instruction set, and complete runs of machines. A machine is an instruction set
together with a horizon: the number of steps within which a run from a state ends, if it ends at
all. A complete run is then a run bounded by the horizon, and no bound is lost by that.
-/

/-- How far a run has come. -/
structure Progress (Value Error Context : Type) where
  /-- The state reached. -/
  state : State Value Error Context
  /-- The number of steps taken to reach it. -/
  taken : Nat := 0
  deriving Repr, DecidableEq

/-- One line of a trace: a state, and the operator that led to it. The first line has none. -/
structure TraceEntry (Value Error Context : Type) where
  explanation : Option Explanation
  state : State Value Error Context
  deriving Repr, DecidableEq

namespace InstructionSet

variable {Value Error Context : Type} (set : InstructionSet Value Error Context)

/-- Take steps while the run goes on, `limit` of them at most. -/
def run : Nat → Progress Value Error Context → Except Fault (Progress Value Error Context)
  | 0, progress => .ok progress
  | limit + 1, progress =>
      if set.continues progress.state then do
        let stepped ← set.step progress.state
        run limit { state := stepped, taken := progress.taken + 1 }
      else .ok progress

/-- The trace entries of such a run after its first one. Each operator is explained in the state in
    which its byte is read. -/
def traceSteps : Nat → State Value Error Context →
    Except Fault (List (TraceEntry Value Error Context))
  | 0, _ => .ok []
  | limit + 1, state =>
      if set.continues state then do
        let operator ← set.current state
        let stepped ← set.step state
        let later ← traceSteps limit stepped
        .ok ({ explanation := some (operator.explain state), state := stepped } :: later)
      else .ok []

end InstructionSet

/-- An instruction set whose runs have a known horizon. -/
structure Machine (Value Error Context : Type) extends InstructionSet Value Error Context where
  /-- The number of steps within which a run from a state ends, if it ends at all. -/
  horizon : State Value Error Context → Nat
  /-- A run that still goes on at its horizon never ends. -/
  goesOn_of_horizon : ∀ state, toInstructionSet.goesOn (horizon state) state = true →
    ∀ count, toInstructionSet.goesOn count state = true

namespace Machine

variable {Value Error Context : Type} (machine : Machine Value Error Context)

/-- Run to the end. A run without an end has no last state; the state at its horizon stands in. -/
def evaluate (state : State Value Error Context) : Except Fault (State Value Error Context) :=
  (machine.run (machine.horizon state) { state }).map (·.state)

/-- Run to the end and keep every state on the way, the first and the last included. -/
def trace (state : State Value Error Context) :
    Except Fault (List (TraceEntry Value Error Context)) :=
  (machine.traceSteps (machine.horizon state) state).map ({ explanation := none, state } :: ·)

end Machine

/-! ## Horizons of instruction sets that move

Where every step moves the position on, and runs go on only inside the script, a run ends within as
many steps as bytes are left.
-/

namespace InstructionSet

variable {Value Error Context : Type} {set : InstructionSet Value Error Context}

/-- Runs go on only where a byte is left, and every step of a run moves on in the same script. -/
structure Moves (set : InstructionSet Value Error Context) : Prop where
  inside : ∀ state, set.continues state = true → state.ip < state.script.size
  moves : ∀ state stepped, set.continues state = true → set.step state = .ok stepped →
    state.ip < stepped.ip ∧ stepped.script = state.script

theorem continues_of_goesOn {count : Nat} {state : State Value Error Context}
    (going : set.goesOn count state = true) : set.continues state = true := by
  cases count with
  | zero => exact going
  | succ count => exact (Bool.and_eq_true_iff.mp going).1

theorem exists_step_of_goesOn {count : Nat} {state : State Value Error Context}
    (going : set.goesOn (count + 1) state = true) :
    ∃ stepped, set.step state = .ok stepped ∧ set.goesOn count stepped = true := by
  have after := (Bool.and_eq_true_iff.mp going).2
  cases stepping : set.step state with
  | error fault => simp [stepping] at after
  | ok stepped => exact ⟨stepped, rfl, by simpa [stepping] using after⟩

theorem goesOn_succ {count : Nat} {state stepped : State Value Error Context}
    (continuing : set.continues state = true) (stepping : set.step state = .ok stepped) :
    set.goesOn (count + 1) state = set.goesOn count stepped := by
  simp [goesOn, continuing, stepping]

/-- Fewer steps than bytes are left in a run that moves and goes on. -/
theorem Moves.lt_of_goesOn (moving : set.Moves) {count : Nat} {state : State Value Error Context}
    (going : set.goesOn count state = true) : count < state.script.size - state.ip := by
  induction count generalizing state with
  | zero =>
      have := moving.inside state going
      omega
  | succ count ih =>
      obtain ⟨stepped, stepping, after⟩ := exists_step_of_goesOn going
      have ⟨further, same⟩ := moving.moves state stepped (continues_of_goesOn going) stepping
      have := ih after
      rw [same] at this
      omega

end InstructionSet

def Machine.ofMoves {Value Error Context : Type} (set : InstructionSet Value Error Context)
    (moving : set.Moves) : Machine Value Error Context where
  toInstructionSet := set
  horizon state := state.script.size - state.ip
  goesOn_of_horizon _ going := absurd (moving.lt_of_goesOn going) (Nat.lt_irrefl _)

/-- Every instruction set is that of some machine, so nothing is lost by asking for a horizon. -/
theorem Machine.exists_toInstructionSet_eq {Value Error Context : Type}
    (set : InstructionSet Value Error Context) :
    ∃ machine : Machine Value Error Context, machine.toInstructionSet = set := by
  have known (state : State Value Error Context) :
      ∃ horizon, set.goesOn horizon state = true → ∀ count, set.goesOn count state = true := by
    by_cases ends : ∃ horizon, set.goesOn horizon state = false
    · obtain ⟨horizon, ended⟩ := ends
      exact ⟨horizon, fun going => by simp [ended] at going⟩
    · exact ⟨0, fun _ count => by simpa using not_exists.mp ends count⟩
  exact ⟨{ toInstructionSet := set
           horizon := fun state => (known state).choose
           goesOn_of_horizon := fun state => (known state).choose_spec }, rfl⟩

end ScriptMachine
