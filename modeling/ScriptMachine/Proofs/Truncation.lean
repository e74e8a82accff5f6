import ScriptMachine.Proofs.CompleteTraces
import ScriptMachine.Proofs.StepEffects

/-! # Truncated scripts

A script that is accepted is a program, and cutting it short leaves a shorter program, or a shorter
program and the beginning of one more instruction. The positions of its trace are the ends of its
instructions, so they tell the two apart. The beginning of an instruction is never taken for anything
else: together with the missing bytes it has to give the instruction, and of all errors only that of
a push that lacks bytes can be mended by further ones.
-/

namespace ScriptMachine.BitcoinCash

variable {config : Config} {state : State} {program : Program config}
  {entries : List (TraceEntry Item EvalError Context)}

theorem readInstruction_of_beginning {instruction : Instruction config}
    {beginning missing : List UInt8} (split : instruction.bytes = beginning ++ missing)
    (lacking : missing ≠ []) : readInstruction config beginning = .error .malformedPush := by
  have whole := readInstruction_bytes instruction []
  rw [List.append_nil, split] at whole
  cases reading : readInstruction config beginning with
  | ok read =>
      -- A complete instruction inside of another one would have to be as long as that one.
      obtain ⟨inner, rest, rfl⟩ := exists_instruction_of_readInstruction reading
      rw [List.append_assoc, readInstruction_bytes, Except.ok.injEq, Prod.mk.injEq] at whole
      have lengths := whole.2
      have positive := List.length_pos_of_ne_nil lacking
      simp only [List.length_append] at lengths
      omega
  | error error =>
      by_cases missed : error = .malformedPush
      · rw [missed]
      · rw [readInstruction_append reading missed missing] at whole
        cases whole

/-! ## The trace of a program -/

theorem state_getElem_of_chained (chained : List.IsChain (machine config).Follows entries)
    (starts : entries.head? = some { explanation := none, state })
    (ready : Ready state program.bytes) (index : Nat) (inside : index < entries.length) :
    index ≤ program.length ∧ entries[index].state = consume state (program.take index) := by
  induction index with
  | zero =>
      have first : entries[0] = { explanation := none, state } := by
        rw [List.head?_eq_getElem?, List.getElem?_eq_getElem inside] at starts
        exact Option.some.inj starts
      rw [first]
      exact ⟨Nat.zero_le _, rfl⟩
  | succ index ih =>
      obtain ⟨few, reached⟩ := ih (by omega)
      have follows := chained.getElem index inside
      have split : program.bytes = Program.bytes (program.take index) ++
          Program.bytes (program.drop index) := by
        rw [← Program.bytes_append, List.take_append_drop]
      have next : Ready entries[index].state (Program.bytes (program.drop index)) := by
        rw [reached]
        rw [split] at ready
        exact ready.consume
      have more : index < program.length := by
        apply Nat.lt_of_le_of_ne few
        intro finished
        have stopped : (machine config).continues entries[index].state = false := by
          rw [next.continues, finished, List.drop_length]
          rfl
        rw [follows.continuing] at stopped
        cases stopped
      rw [List.drop_eq_getElem_cons more, Program.bytes_cons] at next
      have stepped : entries[index + 1].state = consume entries[index].state [program[index]] :=
        Except.ok.inj (follows.stepping.symm.trans next.step_instruction)
      refine ⟨more, ?_⟩
      rw [stepped, reached, ← consume_append, ← List.take_succ_eq_append_getElem more]

/-! ## Cuts -/

variable {script : Script} {size : Nat}

/-- The first `size` bytes of a script. -/
def cut (script : Script) (size : Nat) : Script :=
  script.extract 0 size

theorem toList_cut (script : Script) (size : Nat) :
    (cut script size).toList = script.toList.take size := by
  simp [cut]

theorem size_cut_le (script : Script) (size : Nat) : (cut script size).size ≤ script.size := by
  simp only [cut, Array.size_extract]
  omega

theorem evaluate_cut_between {executed later : Program config} (fits : script.size < positionBound)
    (whole : script.toList = Program.bytes (executed ++ later)) :
    (machine config).evaluate (start (cut script executed.bytes.length)) =
      .ok (consume (start (cut script executed.bytes.length)) executed) := by
  apply evaluate_program (Nat.lt_of_le_of_lt (size_cut_le _ _) fits)
  rw [toList_cut, whole, Program.bytes_append, List.take_left]

theorem evaluate_cut_inside {executed later : Program config} {instruction : Instruction config}
    (fits : script.size < positionBound)
    (whole : script.toList = Program.bytes (executed ++ instruction :: later))
    (behind : executed.bytes.length < size)
    (before : size < executed.bytes.length + instruction.bytes.length) :
    (machine config).evaluate (start (cut script size)) =
      .ok (halt (consume (start (cut script size)) executed) .malformedPush) := by
  obtain ⟨used, rfl⟩ := Nat.exists_eq_add_of_lt behind
  have beginning : (cut script (executed.bytes.length + used + 1)).toList =
      executed.bytes ++ instruction.bytes.take (used + 1) := by
    have short : used + 1 - instruction.bytes.length = 0 := by omega
    rw [toList_cut, whole, Program.bytes_append, Program.bytes_cons, Nat.add_assoc,
      List.take_length_add_append, List.take_append, short, List.take_zero, List.append_nil]
  apply evaluate_stuck (Nat.lt_of_le_of_lt (size_cut_le _ _) fits) beginning
  · rw [Ne, List.take_eq_nil_iff]
    simp [instruction.bytes_ne_nil]
  · apply readInstruction_of_beginning (List.take_append_drop (used + 1) instruction.bytes).symm
    rw [Ne, List.drop_eq_nil_iff]
    omega

section Marks

variable (chained : List.IsChain (machine config).Follows entries)
  (starts : entries.head? = some { explanation := none, state := start script })
  (ready : Ready (start script) program.bytes)

include chained starts ready

theorem evaluate_cut_at_mark {entry : TraceEntry Item EvalError Context} (member : entry ∈ entries) :
    ∃ final, (machine config).evaluate (start (cut script entry.state.ip)) = .ok final ∧
      final.error = none ∧ final.ip = entry.state.ip ∧ final.stack = entry.state.stack := by
  obtain ⟨index, inside, rfl⟩ := List.getElem_of_mem member
  obtain ⟨_, reached⟩ := state_getElem_of_chained chained starts ready index inside
  have split : script.toList = Program.bytes (program.take index ++ program.drop index) := by
    rw [List.take_append_drop]
    exact ready.ahead
  rw [reached, ip_consume_start]
  exact ⟨_, evaluate_cut_between ready.fits split, rfl, ip_consume_start _ _, rfl⟩

theorem evaluate_cut_off_mark {index : Nat} (passed : InstructionSet.Passed entries index size)
    (unmarked : ∀ entry ∈ entries, entry.state.ip ≠ size) :
    ∃ final reached, (machine config).evaluate (start (cut script size)) = .ok final ∧
      entries[index]? = some reached ∧ final.error = some .malformedPush ∧
      final.stack = reached.state.stack ∧ final.ip = reached.state.ip + 1 := by
  obtain ⟨before, after, atBefore, atAfter, low, high⟩ := passed
  obtain ⟨inside, rfl⟩ := List.getElem?_eq_some_iff.mp atBefore
  obtain ⟨insideNext, rfl⟩ := List.getElem?_eq_some_iff.mp atAfter
  have behind := Nat.lt_of_le_of_ne low (unmarked _ (List.getElem_mem inside))
  obtain ⟨_, reached⟩ := state_getElem_of_chained chained starts ready index inside
  obtain ⟨more, next⟩ := state_getElem_of_chained chained starts ready (index + 1) insideNext
  rw [reached, ip_consume_start] at behind
  have extended : Program.bytes (program.take (index + 1)) =
      Program.bytes (program.take index) ++ program[index].bytes := by
    rw [List.take_succ_eq_append_getElem more, Program.bytes_append, Program.bytes_cons]
    simp [Program.bytes]
  rw [next, ip_consume_start, extended, List.length_append] at high
  have split : script.toList =
      Program.bytes (program.take index ++ program[index] :: program.drop (index + 1)) := by
    rw [← List.drop_eq_getElem_cons more, List.take_append_drop]
    exact ready.ahead
  refine ⟨_, _, evaluate_cut_inside ready.fits split behind high, atBefore, rfl, ?_, ?_⟩
  · rw [reached]
    rfl
  · rw [reached]
    rfl

end Marks

/-- A script that is accepted is accepted up to every position of its trace, with the stack that it
    has there. Cut anywhere else it ends with a push that lacks bytes, right behind the opcode of
    that push, and with the stack from before it. -/
theorem truncation_is_recognised (config : Config) (script : Script) (accepted : State)
    (fits : script.size < positionBound)
    (evaluated : (machine config).evaluate (start script) = .ok accepted)
    (fresh : accepted.error = none) :
    ∃ entries, (machine config).trace (start script) = .ok entries ∧ ∀ size ≤ script.size,
      ∃ final, (machine config).evaluate (start (cut script size)) = .ok final ∧
        (∀ entry ∈ entries, entry.state.ip = size →
          final.error = none ∧ final.ip = size ∧ final.stack = entry.state.stack) ∧
        ((∀ entry ∈ entries, entry.state.ip ≠ size) →
          final.error = some .malformedPush ∧
          ∃ reached, (entries.filter fun entry => entry.state.ip < size).getLast? = some reached ∧
            final.stack = reached.state.stack ∧ final.ip = reached.state.ip + 1) := by
  obtain ⟨program, whole, rfl⟩ := (accepted_iff fits).mp ⟨evaluated, fresh⟩
  have ready : Ready (start script) program.bytes := whole ▸ Ready.start fits
  obtain ⟨entries, complete, _⟩ := Machine.exists_complete ready.ends_finished
  have starts := complete.starts
  have chained := complete.chained
  obtain ⟨_, last, _, ends⟩ := complete.exists_later
  have lastIp : last.state.ip = script.size := by
    have same := Except.ok.inj ((Machine.evaluate_eq_getLast complete ends).symm.trans evaluated)
    rw [same, ip_consume_start, ← whole, Array.length_toList]
  refine ⟨entries, Machine.trace_eq complete, ?_⟩
  intro size inside
  by_cases marked : ∃ entry ∈ entries, entry.state.ip = size
  · obtain ⟨entry, member, rfl⟩ := marked
    obtain ⟨final, accepted, _⟩ := evaluate_cut_at_mark chained starts ready member
    refine ⟨final, accepted, ?_, fun unmarked => absurd rfl (unmarked entry member)⟩
    intro other otherMember same
    obtain ⟨again, repeated, result⟩ := evaluate_cut_at_mark chained starts ready otherMember
    rw [same] at repeated result
    cases accepted.symm.trans repeated
    exact result
  · have unmarked : ∀ entry ∈ entries, entry.state.ip ≠ size := by simpa using marked
    have short : size < last.state.ip := by
      have apart := unmarked last (List.mem_of_getLast? ends)
      omega
    obtain ⟨index, passed⟩ := InstructionSet.exists_passed starts ends (Nat.zero_le size) short
    obtain ⟨final, reached, refused, here, error, stack, position⟩ :=
      evaluate_cut_off_mark chained starts ready passed unmarked
    refine ⟨final, refused, fun entry member same => absurd same (unmarked entry member), ?_⟩
    intro _
    refine ⟨error, reached, ?_, stack, position⟩
    rw [(moves config).getLast?_filter_of_passed chained passed unmarked, here]

/-- `OP_1` and a push of two bytes, cut between the two and inside of the second. -/
theorem truncation_of_two_pushes :
    (∃ final, (machine {}).evaluate (start #[0x51]) = .ok final ∧
      final.error = none ∧ final.ip = 1 ∧ final.stack = [.number 1]) ∧
    ∃ final, (machine {}).evaluate (start #[0x51, 0x02, 0x4c]) = .ok final ∧
      final.error = some .malformedPush ∧ final.ip = 2 ∧ final.stack = [.number 1] := by
  obtain ⟨entries, traced, cuts⟩ :=
    truncation_is_recognised {} #[0x51, 0x02, 0x4c, 0xff] _ (by decide) rfl rfl
  cases traced
  constructor
  · obtain ⟨final, evaluated, marked, _⟩ := cuts 1 (by decide)
    exact ⟨final, evaluated, marked _ (.tail _ (.head _)) rfl⟩
  · obtain ⟨final, evaluated, _, unmarked⟩ := cuts 3 (by decide)
    obtain ⟨error, reached, last, stack, position⟩ := unmarked (by decide)
    cases last
    exact ⟨final, evaluated, error, position, stack⟩

end ScriptMachine.BitcoinCash
