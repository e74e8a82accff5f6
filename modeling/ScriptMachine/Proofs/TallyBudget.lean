import Mathlib.Algebra.Order.BigOperators.Group.List
import Mathlib.Algebra.Order.Group.Nat
import Mathlib.Algebra.Order.Ring.Int
import ScriptMachine.Proofs.KeptProperties

/-! # Tallies within their budget

An addition can bring together any two numbers that were counted up before, so a bound on single numbers
would double with each of them. What no operator increases by more than one is the sum of all absolute
values on the stack. That sum together with the bytes that are left is the budget of a state: it never
grows along a run, and as long as it fits a word, so does every number.

`Acts` says what each byte makes of a stack, with numbers of any size. While the budget fits a word, a
step of the machine is nothing else.
-/

namespace ScriptMachine.Tally

/-- The byte has an operator. -/
def IsOpcode (byte : UInt8) : Prop :=
  byte = 0x00 ∨ byte = 0x01 ∨ byte = 0x02 ∨ byte = 0x03 ∨ byte = separator

instance : DecidablePred IsOpcode :=
  fun _ => inferInstanceAs (Decidable (_ ∨ _))

/-- The byte turns the first stack into the second, and makes this error if it makes one. -/
inductive Acts : UInt8 → List Int → List Int → Option Error → Prop where
  | pushZero {stack} : Acts 0x00 stack (0 :: stack) none
  | increment {top rest} : Acts 0x01 (top :: rest) ((top + 1) :: rest) none
  | decrement {top rest} : Acts 0x02 (top :: rest) ((top + -1) :: rest) none
  | addition {first second rest} : Acts 0x03 (first :: second :: rest) ((first + second) :: rest) none
  | passSeparator {stack} : Acts separator stack stack none
  /-- There is no number to count up or down. -/
  | noTop {byte} (counts : byte = 0x01 ∨ byte = 0x02) : Acts byte [] [] (some .emptyStack)
  /-- There are no two numbers to add, and a single one is lost. -/
  | noPair {stack} (few : stack.length < 2) : Acts 0x03 stack [] (some .emptyStack)
  | undefined {byte stack} (foreign : ¬ IsOpcode byte) : Acts byte stack stack (some .undefined)

/-- The sum of the absolute values of numbers. -/
def magnitude (numbers : List Int) : Nat :=
  (numbers.map Int.natAbs).sum

/-- The absolute values on the stack together with the bytes that are left. -/
def budget (state : State) : Nat :=
  magnitude state.stack + (state.script.size - state.ip)

@[simp] theorem magnitude_nil : magnitude [] = 0 := rfl

@[simp] theorem magnitude_cons (number : Int) (numbers : List Int) :
    magnitude (number :: numbers) = number.natAbs + magnitude numbers := by
  simp [magnitude]

theorem natAbs_le_magnitude {number : Int} {numbers : List Int} (member : number ∈ numbers) :
    number.natAbs ≤ magnitude numbers :=
  List.le_sum_of_mem (List.mem_map_of_mem member)

variable {state : State} {byte : UInt8} {stack after : List Int} {error : Option Error}

/-! ## Steps -/

theorem Acts.magnitude_le (acts : Acts byte stack after error) :
    magnitude after ≤ magnitude stack + 1 := by
  cases acts <;> simp <;> omega

theorem add_eq_ok {left right : Int} (small : ((left + right).natAbs : Int) < numberBound) :
    add left right = .ok (left + right) := by
  apply if_pos
  simp only [numberBound] at *
  omega

theorem changeTop_of_cons {top change : Int} {rest : List Int}
    (stacked : state.stack = top :: rest)
    (small : ((top + change).natAbs : Int) < numberBound) :
    changeTop state change = .ok { state with stack := (top + change) :: rest } := by
  simp only [changeTop, stacked, add_eq_ok small, bind, Except.bind]

theorem changeTop_of_nil {change : Int} (stacked : state.stack = []) :
    changeTop state change = .ok { state with stack := [], error := some .emptyStack } := by
  simp only [changeTop, stacked, State.fail]

theorem addTopTwo_of_cons_cons {first second : Int} {rest : List Int}
    (stacked : state.stack = first :: second :: rest)
    (small : ((first + second).natAbs : Int) < numberBound) :
    addTopTwo state = .ok { state with stack := (first + second) :: rest } := by
  simp only [addTopTwo, stacked, add_eq_ok small, bind, Except.bind]

theorem addTopTwo_of_few (few : state.stack.length < 2) :
    addTopTwo state = .ok { state with stack := [], error := some .emptyStack } := by
  unfold addTopTwo
  split
  · next stacked =>
      simp only [stacked, List.length_cons] at few
      omega
  · rfl

theorem exists_acts_changeTop {change : Int} (unit : change.natAbs = 1)
    (counts : ∀ top rest, Acts byte (top :: rest) ((top + change) :: rest) none)
    (misses : Acts byte [] [] (some .emptyStack)) (fresh : state.error = none)
    (small : (magnitude state.stack : Int) + 1 < numberBound) :
    ∃ after error, Acts byte state.stack after error ∧
      changeTop state change = .ok { state with stack := after, error } := by
  cases stacked : state.stack with
  | nil => exact ⟨[], _, misses, changeTop_of_nil stacked⟩
  | cons top rest =>
      simp only [stacked, magnitude_cons] at small
      exact ⟨_, none, counts top rest, fresh ▸ changeTop_of_cons stacked (by omega)⟩

theorem exists_acts_addTopTwo (fresh : state.error = none)
    (small : (magnitude state.stack : Int) + 1 < numberBound) :
    ∃ after error, Acts 0x03 state.stack after error ∧
      addTopTwo state = .ok { state with stack := after, error } := by
  obtain few | ⟨first, second, rest, stacked⟩ :
      state.stack.length < 2 ∨ ∃ first second rest, state.stack = first :: second :: rest := by
    obtain _ | ⟨first, _ | ⟨second, rest⟩⟩ := state.stack <;> simp
  · exact ⟨[], _, .noPair few, addTopTwo_of_few few⟩
  · simp only [stacked, magnitude_cons] at small
    exact ⟨_, none, stacked ▸ .addition, fresh ▸ addTopTwo_of_cons_cons stacked (by omega)⟩

theorem operators_eq_none (foreign : ¬ IsOpcode byte) : operators byte = none := by
  simp only [IsOpcode, not_or] at foreign
  simp [operators, foreign]

/-- While the numbers leave room for one more, an operator does what it does to numbers of any
    size. -/
theorem exists_acts (byte : UInt8) (state : State) (fresh : state.error = none)
    (small : (magnitude state.stack : Int) + 1 < numberBound) :
    ∃ after error, Acts byte state.stack after error ∧
      (instructionSet.dispatch byte).apply state = .ok { state with stack := after, error } := by
  by_cases known : IsOpcode byte
  · obtain rfl | rfl | rfl | rfl | rfl := known
    · exact ⟨_, none, .pushZero, fresh ▸ rfl⟩
    · exact exists_acts_changeTop rfl (fun _ _ => .increment) (.noTop (.inl rfl)) fresh small
    · exact exists_acts_changeTop rfl (fun _ _ => .decrement) (.noTop (.inr rfl)) fresh small
    · exact exists_acts_addTopTwo fresh small
    · exact ⟨_, none, .passSeparator, fresh ▸ rfl⟩
  · refine ⟨_, _, .undefined known, ?_⟩
    simp only [InstructionSet.dispatch, instructionSet, operators_eq_none known]
    rfl

theorem continues_iff :
    machine.continues state = true ↔ state.error = none ∧ state.ip < state.script.size := by
  change state.hasMore = true ↔ _
  simp [State.hasMore, State.hasByte]

theorem exists_step (continuing : machine.continues state = true)
    (fits : state.script.size < positionBound)
    (small : (magnitude state.stack : Int) + 1 < numberBound) :
    ∃ byte after error, state.script[state.ip]? = some byte ∧ Acts byte state.stack after error ∧
      machine.step state = .ok { state with ip := state.ip + 1, stack := after, error } := by
  obtain ⟨fresh, inside⟩ := continues_iff.mp continuing
  have reading : state.script[state.ip]? = some state.script[state.ip] :=
    Array.getElem?_eq_getElem inside
  let moved : State := { state with ip := state.ip + 1 }
  obtain ⟨after, error, acts, applied⟩ := exists_acts state.script[state.ip] moved fresh small
  refine ⟨_, after, error, reading, acts, ?_⟩
  have current : machine.current state = .ok (instructionSet.dispatch state.script[state.ip]) := by
    simp only [InstructionSet.current, reading]
    rfl
  have advanced : machine.next state = .ok moved := by
    apply if_pos
    omega
  simp only [InstructionSet.step, current, advanced, bind, Except.bind]
  exact applied

/-! ## Runs -/

/-- The state has no more than this to spend. -/
structure Within (limit : Nat) (state : State) : Prop where
  fits : state.script.size < positionBound
  spent : budget state ≤ limit

theorem Within.natAbs_le {limit : Nat} (within : Within limit state) :
    ∀ number ∈ state.stack, number.natAbs ≤ limit := by
  intro number member
  have bound := natAbs_le_magnitude member
  have spent := within.spent
  simp only [budget] at spent
  omega

theorem keeps_within {limit : Nat} (small : (limit : Int) < numberBound) :
    machine.Keeps (Within limit) := by
  intro state within continuing
  obtain ⟨fits, spent⟩ := within
  obtain ⟨_, inside⟩ := continues_iff.mp continuing
  simp only [budget] at spent
  obtain ⟨byte, after, error, _, acts, stepping⟩ := exists_step continuing fits (by omega)
  refine ⟨_, stepping, fits, ?_⟩
  -- The byte that was passed pays for what the stack gained.
  have growth := acts.magnitude_le
  simp only [budget]
  omega

/-- From every state whose budget fits a word, a run ends without a fault, in one go, in part or with a
    trace, and no number on the way is beyond that budget. A fresh state has its script to spend, so
    no script that fits a word makes a sum that does not, however many additions it makes. -/
theorem numbers_stay_within_budget :
    (∀ state : State, state.script.size < positionBound → (budget state : Int) < numberBound →
      (∃ last entries, machine.evaluate state = .ok last ∧ machine.continues last = false ∧
        (∀ number ∈ last.stack, number.natAbs ≤ budget state) ∧
        machine.trace state = .ok entries ∧
        ∀ entry ∈ entries, ∀ number ∈ entry.state.stack, number.natAbs ≤ budget state) ∧
      ∀ limit, ∃ progress, machine.run limit { state } = .ok progress ∧
        ∀ number ∈ progress.state.stack, number.natAbs ≤ budget state) ∧
    ∀ script : Script, (script.size : Int) < numberBound →
      ∃ last entries, machine.evaluate (start script) = .ok last ∧
        machine.continues last = false ∧ machine.trace (start script) = .ok entries ∧
        ∀ entry ∈ entries, ∀ number ∈ entry.state.stack, number.natAbs ≤ script.size := by
  have within {state : State} (fits : state.script.size < positionBound) :
      Within (budget state) state := ⟨fits, Nat.le_refl _⟩
  constructor
  · intro state fits small
    have keeps := keeps_within small
    constructor
    · obtain ⟨last, entries, evaluated, stopped, atEnd, traced, onTheWay⟩ :=
        Machine.exists_results keeps moves (within fits)
      exact ⟨last, entries, evaluated, stopped, atEnd.natAbs_le, traced,
        fun entry member => (onTheWay entry member).natAbs_le⟩
    · intro limit
      obtain ⟨progress, ran, held⟩ := keeps.exists_run (within fits) limit 0
      exact ⟨progress, ran, held.natAbs_le⟩
  · intro script small
    have fresh : budget (start script) = script.size := by
      simp [budget, start, State.start]
    have fits : (start script).script.size < positionBound := by
      simp only [start, State.start, numberBound, positionBound] at *
      omega
    obtain ⟨last, entries, evaluated, stopped, _, traced, onTheWay⟩ :=
      Machine.exists_results (keeps_within (fresh ▸ small)) moves (within fits)
    rw [fresh] at onTheWay
    exact ⟨last, entries, evaluated, stopped, traced,
      fun entry member => (onTheWay entry member).natAbs_le⟩

/-- Two numbers and three bytes that together just fit a word, and five bytes of a fresh script. -/
theorem budget_next_to_the_bound :
    (∃ state : State, state.ip = 1 ∧ budget state = 0x7fffffffffffffff ∧
      (∃ last, machine.evaluate state = .ok last ∧ last.stack = [0, 5] ∧
        ∀ number ∈ last.stack, number.natAbs ≤ 0x7fffffffffffffff) ∧
      ∃ progress, machine.run 1 { state } = .ok progress ∧
        ∀ number ∈ progress.state.stack, number.natAbs ≤ 0x7fffffffffffffff) ∧
    ∃ last entries, machine.evaluate (start #[0x00, 0x01, 0x00, 0x01, 0x03]) = .ok last ∧
      machine.trace (start #[0x00, 0x01, 0x00, 0x01, 0x03]) = .ok entries ∧
      ∀ entry ∈ entries, ∀ number ∈ entry.state.stack, number.natAbs ≤ 5 := by
  obtain ⟨fromState, fromScript⟩ := numbers_stay_within_budget
  constructor
  · let state : State :=
      { start #[0xff, 0x03, 0x01, 0x00] with
        ip := 1, stack := [0x4000000000000000, -0x3ffffffffffffffc] }
    obtain ⟨⟨last, _, evaluated, _, bounded, _⟩, runs⟩ := fromState state (by decide) (by decide)
    refine ⟨state, rfl, rfl, ⟨last, evaluated, ?_, bounded⟩, runs 1⟩
    have known : machine.evaluate state = .ok { state with ip := 4, stack := [0, 5] } := rfl
    obtain rfl := Except.ok.inj (evaluated.symm.trans known)
    rfl
  · obtain ⟨last, entries, evaluated, _, traced, bounded⟩ :=
      fromScript #[0x00, 0x01, 0x00, 0x01, 0x03] (by decide)
    exact ⟨last, entries, evaluated, traced, bounded⟩

end ScriptMachine.Tally
