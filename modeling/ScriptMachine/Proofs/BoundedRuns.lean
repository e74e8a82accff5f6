import Mathlib.Algebra.Order.Floor.Div
import ScriptMachine.Proofs.CheckedReading
import ScriptMachine.Proofs.Decoding
import ScriptMachine.Proofs.Traces

/-! # Bounded runs

Every instruction set that is put together from push primitives ends its runs, whatever its table
and whatever else decides when a run goes on: each step moves on by the stride at least, since no
primitive moves backwards, and a run stops outside of the script. The stride bounds the number of
steps, and no step of such a run is a fault.
-/

namespace ScriptMachine

variable {Context : Type}

namespace State

variable {Value Error : Type}

/-- Move on by `count` bytes, one byte at a time. -/
def passBytes : Nat → State Value Error Context → Except Fault (State Value Error Context)
  | 0, state => .ok state
  | count + 1, state => do
      let moved ← state.advance 1
      passBytes count moved

/-- Moving byte by byte overflows exactly where moving at once does. -/
theorem passBytes_of_pos {count : Nat} (positive : 0 < count) (state : State Value Error Context) :
    state.passBytes count = state.advance count := by
  induction count, positive using Nat.le_induction generalizing state with
  | base =>
      simp only [passBytes, advance]
      split <;> rfl
  | succ count positive ih =>
      rw [passBytes]
      by_cases room : state.ip + 1 < positionBound
      · simp only [advance, if_pos room, bind, Except.bind, ih, Nat.add_assoc, Nat.add_comm 1]
      · have further : ¬ state.ip + (count + 1) < positionBound := by omega
        simp only [advance, if_neg room, if_neg further, bind, Except.bind]

end State

/-- An instruction set put together from push primitives. It moves past one byte or more before it
    acts, and goes on by any rule that stays inside the script. -/
structure PushDialect (Context : Type) where
  table : PrimitiveTable
  fallback : Primitive
  stride : Nat
  continues : State Item EvalError Context → Bool
  stride_pos : 0 < stride
  inside : ∀ state, continues state = true → state.ip < state.script.size

namespace PushDialect

variable (dialect : PushDialect Context)

def instructionSet : InstructionSet Item EvalError Context where
  operators opcode := (dialect.table opcode).map Primitive.operator
  undefined := dialect.fallback.operator
  next state := state.passBytes dialect.stride
  continues := dialect.continues

/-- The language with the same table that goes on wherever a byte is left. -/
def language : PushLanguage where
  table := dialect.table
  fallback := dialect.fallback
  stride := dialect.stride
  ignoresErrors := true

theorem step_eq_language (state : State Item EvalError Context) :
    dialect.instructionSet.step state = dialect.language.instructionSet.step state := by
  change (do
    let operator ← dialect.instructionSet.current state
    let moved ← state.passBytes dialect.stride
    operator.apply moved) = _
  rw [state.passBytes_of_pos dialect.stride_pos]
  rfl

theorem moves : dialect.instructionSet.Moves where
  inside := dialect.inside
  moves state stepped continuing stepping := by
    have byteLeft : dialect.language.continues state = true := by
      simpa [PushLanguage.continues, PushLanguage.hasRoom, State.hasByte, language] using
        dialect.inside state continuing
    rw [step_eq_language] at stepping
    exact (dialect.language.moves_of_stride dialect.stride_pos).moves state stepped byteLeft stepping

/-- Nothing that a step from this state does is a fault: the byte is there, the position after the
    stride is a word, and the ranges that are read are inside the script. -/
structure StepsSafely (state : State Item EvalError Context) (opcode : UInt8) : Prop where
  byte : state.script[state.ip]? = some opcode
  room : state.ip + dialect.stride < positionBound
  ranges : (dialect.language.primitive opcode).readChecked state.script (state.ip + dialect.stride) =
    .ok ((dialect.language.primitive opcode).read state.script (state.ip + dialect.stride))

variable {dialect} {state : State Item EvalError Context}

theorem exists_stepsSafely (fits : state.script.size + dialect.stride < positionBound)
    (continuing : dialect.continues state = true) : ∃ opcode, dialect.StepsSafely state opcode := by
  have inside := dialect.inside state continuing
  refine ⟨_, Array.getElem?_eq_getElem inside, by omega, ?_⟩
  exact Primitive.readChecked_eq (by omega) _ _

theorem StepsSafely.step_eq {opcode : UInt8} (safe : dialect.StepsSafely state opcode) :
    dialect.instructionSet.step state = .ok
      ((dialect.language.primitive opcode).perform { state with ip := state.ip + dialect.stride }) := by
  rw [step_eq_language, PushLanguage.step_eq, safe.byte]
  exact if_pos safe.room

theorem exists_step (fits : state.script.size + dialect.stride < positionBound)
    (continuing : dialect.continues state = true) :
    ∃ stepped, dialect.instructionSet.step state = .ok stepped ∧
      state.ip + dialect.stride ≤ stepped.ip ∧ stepped.script = state.script := by
  obtain ⟨opcode, safe⟩ := exists_stepsSafely fits continuing
  refine ⟨_, safe.step_eq, ?_, Primitive.script_perform _ _⟩
  exact (dialect.language.primitive opcode).ip_le_ip_perform
    { state with ip := state.ip + dialect.stride }

theorem ceilDiv_succ_le {size stride position further : Nat} (positive : 0 < stride)
    (inside : position < size) (moved : position + stride ≤ further) :
    (size - further) ⌈/⌉ stride + 1 ≤ (size - position) ⌈/⌉ stride := by
  have enough : size - position ≤ stride * ((size - position) ⌈/⌉ stride) :=
    le_smul_ceilDiv positive
  cases total : (size - position) ⌈/⌉ stride with
  | zero =>
      rw [total] at enough
      omega
  | succ fewer =>
      rw [total, Nat.mul_succ] at enough
      have left : size - further ≤ stride * fewer := by omega
      exact Nat.succ_le_succ ((ceilDiv_le_iff_le_mul positive).mpr left)

theorem exists_ends (fits : state.script.size + dialect.stride < positionBound) :
    ∃ count last, count ≤ (state.script.size - state.ip) ⌈/⌉ dialect.stride ∧
      dialect.instructionSet.Ends count state (.ok last) := by
  -- The bytes that are left get fewer with every step, also where the run goes on after an error.
  induction left : state.script.size - state.ip using Nat.strongRecOn generalizing state with
  | ind left ih =>
      subst left
      cases continuing : dialect.continues state with
      | false => exact ⟨0, state, Nat.zero_le _, .stop continuing⟩
      | true =>
          obtain ⟨stepped, stepping, moved, same⟩ := exists_step fits continuing
          have inside := dialect.inside state continuing
          have positive := dialect.stride_pos
          have fewer : stepped.script.size - stepped.ip < state.script.size - state.ip := by
            rw [same]
            omega
          obtain ⟨count, last, within, ended⟩ := ih _ fewer (by rwa [same]) rfl
          refine ⟨count + 1, last, ?_, .step continuing stepping ended⟩
          rw [same] at within
          exact (Nat.succ_le_succ within).trans (ceilDiv_succ_le positive inside moved)

end PushDialect

namespace PushLanguage

variable (language : PushLanguage)

/-- Every push language with a stride is a dialect. -/
def dialect (positive : 0 < language.stride) : PushDialect Context where
  table := language.table
  fallback := language.fallback
  stride := language.stride
  continues := language.continues
  stride_pos := positive
  inside _ continuing := language.ip_lt_of_continues continuing

theorem instructionSet_dialect (positive : 0 < language.stride) :
    (language.dialect positive).instructionSet =
      (language.instructionSet : InstructionSet Item EvalError Context) := by
  have moved : (fun state : State Item EvalError Context => state.passBytes language.stride) =
      fun state => state.advance language.stride :=
    funext fun state => state.passBytes_of_pos positive
  change { language.instructionSet with next := fun state => state.passBytes language.stride } = _
  rw [moved]
  rfl

end PushLanguage

/-- Every run of a dialect ends, from any state, within as many steps as there are strides left in
    the script, and nothing on the way is a fault. Bitcoin Cash is a dialect with a stride of one byte
    that goes on while there is a byte and no error. -/
theorem runs_end_within_strides :
    (∀ (dialect : PushDialect Context) (state : State Item EvalError Context),
      state.script.size + dialect.stride < positionBound →
      (∃ machine : Machine Item EvalError Context, machine.toInstructionSet = dialect.instructionSet) ∧
      ∃ count last, count ≤ (state.script.size - state.ip) ⌈/⌉ dialect.stride ∧
        (state.script.size ≤ state.ip → count = 0) ∧
        dialect.instructionSet.Ends count state (.ok last) ∧
        ∀ machine : Machine Item EvalError Context,
          machine.toInstructionSet = dialect.instructionSet →
          machine.evaluate state = .ok last ∧
          ∃ entries, machine.trace state = .ok entries ∧ entries.length = count + 1 ∧
            ∀ entry ∈ entries.dropLast, ∃ opcode, dialect.StepsSafely entry.state opcode) ∧
    ∀ config, ∃ dialect : PushDialect BitcoinCash.Context,
      dialect.instructionSet = (BitcoinCash.machine config).toInstructionSet ∧
      dialect.stride = 1 ∧ dialect.continues = State.hasMore := by
  refine ⟨?_, ?_⟩
  · intro dialect state fits
    obtain ⟨count, last, within, ended⟩ := dialect.exists_ends fits
    refine ⟨Machine.exists_toInstructionSet_eq _, count, last, within, ?_, ended, ?_⟩
    · intro outside
      rw [Nat.sub_eq_zero_of_le outside, zero_ceilDiv] at within
      exact Nat.le_zero.mp within
    · intro machine same
      have run : machine.Ends count state (.ok last) := same ▸ ended
      obtain ⟨entries, traced, length, first, chained, _⟩ := Machine.exists_trace_eq run
      refine ⟨Machine.evaluate_eq run, entries, traced, length, ?_⟩
      rw [same] at chained
      intro entry member
      have script := dialect.moves.script_of_mem chained (List.head?_eq_getElem?.trans first) entry
        (List.mem_of_mem_dropLast member)
      obtain ⟨after, follows⟩ := InstructionSet.exists_follows_of_mem_dropLast chained member
      exact PushDialect.exists_stepsSafely (by rwa [script]) follows.continuing
  · intro config
    exact ⟨(BitcoinCash.language config).dialect Nat.one_pos,
      PushLanguage.instructionSet_dialect _ _, rfl, funext (BitcoinCash.continues_eq config)⟩

/-- Two bytes at a time, and on after every error: five bytes are three strides, and the last one
    ends behind the script. -/
theorem five_bytes_end_within_three_strides :
    (#[0xff, 0x51, 0xff, 0x51, 0xff] : Script).size + 2 < positionBound ∧
    ∃ count last, count ≤ 3 ∧
      Machine.evaluate
        (PushLanguage.machine { table := BitcoinCash.numberTable, stride := 2, ignoresErrors := true })
        (BitcoinCash.start #[0xff, 0x51, 0xff, 0x51, 0xff]) = .ok last ∧
      last.ip = 6 ∧ last.error = some .unknownOpcode := by
  let language : PushLanguage :=
    { table := BitcoinCash.numberTable, stride := 2, ignoresErrors := true }
  have fits : (#[0xff, 0x51, 0xff, 0x51, 0xff] : Script).size + 2 < positionBound := by decide
  obtain ⟨_, count, last, within, _, _, agree⟩ := runs_end_within_strides.1
    (language.dialect Nat.two_pos) (BitcoinCash.start #[0xff, 0x51, 0xff, 0x51, 0xff]) fits
  obtain ⟨evaluated, _⟩ := agree language.machine (language.instructionSet_dialect _).symm
  have executed : language.machine.evaluate (BitcoinCash.start #[0xff, 0x51, 0xff, 0x51, 0xff]) =
      .ok { BitcoinCash.start #[0xff, 0x51, 0xff, 0x51, 0xff] with
        ip := 6, error := some .unknownOpcode } := rfl
  have same := Except.ok.inj (evaluated.symm.trans executed)
  rw [Nat.ceilDiv_eq_add_pred_div] at within
  change count ≤ (5 - 0 + 2 - 1) / 2 at within
  exact ⟨fits, count, last, within, evaluated, by rw [same], by rw [same]⟩

end ScriptMachine
