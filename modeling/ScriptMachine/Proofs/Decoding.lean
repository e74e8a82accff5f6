import ScriptMachine.Proofs.ExecutionModes
import ScriptMachine.Proofs.FrontReading

/-! # Decoding

Evaluation decodes the push grammar. A run executes the longest program that a script begins with,
instruction by instruction, and then either stops at the end of the script or makes one error in
front of the bytes that are left. Both are statements about a state anywhere in a run, so that the
position, the script behind it and the stack below carry through the induction over the program.
-/

namespace ScriptMachine.BitcoinCash

variable {config : Config} {state : State} {bytes rest : List UInt8}

/-- The state is about to execute these bytes, and no error was made so far. -/
structure Ready (state : State) (bytes : List UInt8) : Prop where
  ahead : state.script.toList.drop state.ip = bytes
  fresh : state.error = none
  fits : state.script.size < positionBound

/-- The state after a program has been executed. -/
def consume (state : State) (program : Program config) : State :=
  { state with
    ip := state.ip + program.bytes.length
    stack := program.items.reverse ++ state.stack }

/-- The state after an instruction that made an error. Only its opcode has been passed. -/
def halt (state : State) (error : EvalError) : State :=
  { state with ip := state.ip + 1, error := some error }

@[simp]
theorem consume_nil (state : State) : consume state ([] : Program config) = state := rfl

theorem consume_singleton (state : State) (instruction : Instruction config) :
    consume state [instruction] =
      { state with
        ip := state.ip + instruction.bytes.length
        stack := instruction.item :: state.stack } := by
  simp [consume, Program.bytes, Program.items]

theorem consume_cons (state : State) (instruction : Instruction config) (program : Program config) :
    consume state (instruction :: program) = consume (consume state [instruction]) program := by
  simp [consume, Program.bytes, Program.items, Nat.add_assoc]

theorem consume_append (state : State) (first second : Program config) :
    consume state (first ++ second) = consume (consume state first) second := by
  simp [consume, Program.bytes, Program.items, Nat.add_assoc]

theorem continues_eq (config : Config) (state : State) :
    (machine config).continues state = state.hasMore := by
  change ((false || state.error.isNone) && state.hasByte && true) = state.hasMore
  rw [Bool.false_or, Bool.and_true, State.hasMore]

theorem continues_iff :
    (machine config).continues state = true ↔ state.error = none ∧ state.ip < state.script.size := by
  rw [continues_eq, State.hasMore, State.hasByte, Bool.and_eq_true, Option.isNone_iff_eq_none,
    decide_eq_true_eq]

theorem room_of_continues (continuing : (machine config).continues state = true)
    (fits : state.script.size < positionBound) : state.ip + 1 < positionBound := by
  have inside := (continues_iff.mp continuing).2
  exact Nat.lt_of_le_of_lt inside fits

theorem moves (config : Config) : (machine config).Moves :=
  (language config).moves_of_stride Nat.one_pos

theorem step_of_opcode {opcode : UInt8} (reading : state.script[state.ip]? = some opcode)
    (room : state.ip + 1 < positionBound) :
    (machine config).step state =
      .ok (((language config).primitive opcode).perform { state with ip := state.ip + 1 }) := by
  change (language config).instructionSet.step state = _
  rw [PushLanguage.step_eq, reading]
  exact if_pos room

theorem explain_dispatch (config : Config) (opcode : UInt8) (state : State) :
    ((machine config).dispatch opcode).explain state =
      { asm := ((language config).primitive opcode).asm
        description := ((language config).primitive opcode).description } := by
  change ((language config).instructionSet.dispatch opcode).explain state = _
  rw [PushLanguage.dispatch_eq]
  rfl

namespace Ready

theorem start {script : Script} (fits : script.size < positionBound) :
    Ready (start script) script.toList :=
  ⟨rfl, rfl, fits⟩

theorem continues (ready : Ready state bytes) :
    (machine config).continues state = !bytes.isEmpty := by
  obtain ⟨rfl, fresh, fits⟩ := ready
  rw [continues_eq, State.hasMore, fresh, State.hasByte]
  by_cases inside : state.ip < state.script.size
  · simp [inside]
  · simp [inside, Nat.not_lt.mp inside]

theorem consume {program : Program config} (ready : Ready state (program.bytes ++ rest)) :
    Ready (consume state program) rest := by
  refine ⟨?_, ready.fresh, ready.fits⟩
  rw [BitcoinCash.consume, ← List.drop_drop, ready.ahead, List.drop_left]

theorem step (ready : Ready state bytes) (remaining : bytes ≠ []) :
    (machine config).step state = .ok
      (match readInstruction config bytes with
      | .ok (item, used) => { state with ip := state.ip + used, stack := item :: state.stack }
      | .error error => halt state error) := by
  obtain ⟨ahead, fresh, fits⟩ := ready
  cases bytes with
  | nil => exact absurd rfl remaining
  | cons opcode rest =>
      have reading : state.script[state.ip]? = some opcode := by
        rw [← Array.getElem?_toList, ← List.head?_drop, ahead]
        rfl
      have inside : state.ip < state.script.size := by
        obtain ⟨inside, _⟩ := Array.getElem?_eq_some_iff.mp reading
        exact inside
      have behind : state.script.toList.drop (state.ip + 1) = rest := by
        rw [← List.drop_drop, ahead]
        rfl
      have room : state.ip + 1 < positionBound := Nat.lt_of_le_of_lt inside fits
      have performed := ((language config).primitive opcode).perform_eq
        (show ({ state with ip := state.ip + 1 } : State).ip ≤ state.script.size from inside)
      simp only [behind] at performed
      rw [step_of_opcode reading room, performed, readInstruction]
      cases ((language config).primitive opcode).readFront rest with
      | error error => rfl
      | ok read =>
          obtain ⟨item, used⟩ := read
          simp only [Except.map, Nat.add_assoc, Nat.add_comm 1]

theorem step_instruction {instruction : Instruction config}
    (ready : Ready state (instruction.bytes ++ rest)) :
    (machine config).step state = .ok (BitcoinCash.consume state [instruction]) := by
  rw [ready.step (by simp [instruction.bytes_ne_nil]), readInstruction_bytes, consume_singleton]

theorem ends_program {program : Program config} (ready : Ready state (program.bytes ++ rest))
    {count : Nat} {result : Except Fault State}
    (later : (machine config).Ends count (BitcoinCash.consume state program) result) :
    (machine config).Ends (program.length + count) state result := by
  induction program generalizing state with
  | nil => simpa using later
  | cons instruction program ih =>
      have split : Ready state (instruction.bytes ++ (Program.bytes program ++ rest)) := by
        simpa [Program.bytes] using ready
      have next : Ready (BitcoinCash.consume state [instruction]) (Program.bytes program ++ rest) :=
        Ready.consume (by simpa [Program.bytes] using split)
      rw [consume_cons] at later
      have remaining := ih next later
      rw [List.length_cons, Nat.add_right_comm]
      refine .step ?_ split.step_instruction remaining
      rw [split.continues]
      simp [instruction.bytes_ne_nil]

theorem ends_finished {program : Program config} (ready : Ready state program.bytes) :
    (machine config).Ends program.length state (.ok (BitcoinCash.consume state program)) := by
  have split : Ready state (program.bytes ++ []) := by simpa using ready
  exact split.ends_program (.stop (by rw [split.consume.continues]; rfl))

theorem ends_stuck {program : Program config} {error : EvalError}
    (ready : Ready state (program.bytes ++ rest)) (remaining : rest ≠ [])
    (failing : readInstruction config rest = .error error) :
    (machine config).Ends (program.length + 1) state
      (.ok (halt (BitcoinCash.consume state program) error)) := by
  have stopped := ready.consume
  refine ready.ends_program (.step ?_ ?_ (.stop ?_))
  · rw [stopped.continues]
    simp [remaining]
  · rw [stopped.step remaining, failing]
  · rw [continues_eq]
    rfl

end Ready

theorem exists_ready (continuing : (machine config).continues state = true)
    (fits : state.script.size < positionBound) : ∃ bytes, bytes ≠ [] ∧ Ready state bytes := by
  obtain ⟨fresh, inside⟩ := continues_iff.mp continuing
  exact ⟨state.script.toList.drop state.ip, by simpa using inside, rfl, fresh, fits⟩

theorem stuck_iff :
    Stuck config rest ↔ rest ≠ [] ∧ ∃ error, readInstruction config rest = .error error := by
  refine and_congr_right fun remaining => ⟨fun without => ?_, ?_⟩
  · obtain ⟨instruction, after, rfl⟩ | unassigned | nonMinimal | malformed :=
      readInstruction_cases config rest
    · exact absurd (List.prefix_append _ _) (without instruction)
    · exact ⟨_, unassigned.readInstruction_eq⟩
    · exact ⟨_, nonMinimal.readInstruction_eq⟩
    · exact ⟨_, malformed⟩
  · rintro ⟨error, failing⟩ instruction ⟨after, rfl⟩
    rw [readInstruction_bytes] at failing
    cases failing

theorem exists_split (config : Config) (bytes : List UInt8) :
    ∃ (program : Program config) (rest : List UInt8), bytes = program.bytes ++ rest ∧
      (rest = [] ∨ Stuck config rest) := by
  induction length : bytes.length using Nat.strongRecOn generalizing bytes with
  | ind size ih =>
      by_cases front : ∃ instruction : Instruction config, instruction.bytes <+: bytes
      · obtain ⟨instruction, after, rfl⟩ := front
        have nonempty := List.length_pos_of_ne_nil instruction.bytes_ne_nil
        have shorter : after.length < size := by
          rw [List.length_append] at length
          omega
        obtain ⟨program, rest, rfl, ended⟩ := ih after.length shorter after rfl
        exact ⟨instruction :: program, rest, by simp [Program.bytes], ended⟩
      · refine ⟨[], bytes, rfl, ?_⟩
        by_cases empty : bytes = []
        · exact .inl empty
        · exact .inr ⟨empty, not_exists.mp front⟩

section Evaluation

variable {script : Script} {program : Program config} {error : EvalError}

theorem evaluate_program (fits : script.size < positionBound) (whole : script.toList = program.bytes) :
    (machine config).evaluate (start script) = .ok (consume (start script) program) := by
  have ready := Ready.start fits
  rw [whole] at ready
  exact Machine.evaluate_eq ready.ends_finished

theorem evaluate_stuck (fits : script.size < positionBound)
    (split : script.toList = program.bytes ++ rest) (remaining : rest ≠ [])
    (failing : readInstruction config rest = .error error) :
    (machine config).evaluate (start script) = .ok (halt (consume (start script) program) error) := by
  have ready := Ready.start fits
  rw [split] at ready
  exact Machine.evaluate_eq (ready.ends_stuck remaining failing)

end Evaluation

theorem reverse_stack_consume_start (script : Script) (program : Program config) :
    (consume (start script) program).stack.reverse = program.items := by
  simp [consume, start, State.start]

theorem ip_consume_start (script : Script) (program : Program config) :
    (consume (start script) program).ip = program.bytes.length := by
  simp [consume, start, State.start]

theorem evaluate_cases (config : Config) {script : Script} (fits : script.size < positionBound) :
    ∃ program : Program config,
      (script.toList = program.bytes ∧
        (machine config).evaluate (start script) = .ok (consume (start script) program)) ∨
      ∃ rest error, script.toList = program.bytes ++ rest ∧ Stuck config rest ∧
        readInstruction config rest = .error error ∧
        (machine config).evaluate (start script) = .ok (halt (consume (start script) program) error) := by
  obtain ⟨program, rest, split, finished | stuck⟩ := exists_split config script.toList
  · have whole : script.toList = program.bytes := by simpa [finished] using split
    exact ⟨program, .inl ⟨whole, evaluate_program fits whole⟩⟩
  · obtain ⟨remaining, error, failing⟩ := stuck_iff.mp stuck
    exact ⟨program, .inr ⟨rest, error, split, stuck, failing,
      evaluate_stuck fits split remaining failing⟩⟩

/-- The scripts that are evaluated without an error are the programs. -/
theorem accepted_iff {script : Script} {final : State} (fits : script.size < positionBound) :
    ((machine config).evaluate (start script) = .ok final ∧ final.error = none) ↔
      ∃ program : Program config, script.toList = program.bytes ∧
        final = consume (start script) program := by
  constructor
  · rintro ⟨evaluated, accepted⟩
    obtain ⟨program, ⟨whole, executed⟩ | ⟨rest, error, split, stuck, failing, failed⟩⟩ :=
      evaluate_cases config fits
    · exact ⟨program, whole, Except.ok.inj (evaluated.symm.trans executed)⟩
    · rw [Except.ok.inj (evaluated.symm.trans failed)] at accepted
      cases accepted
  · rintro ⟨program, whole, rfl⟩
    exact ⟨evaluate_program fits whole, rfl⟩

/-- Evaluation decodes the grammar. A script is accepted exactly if it is a program, and then it is
    executed to its end. Any other script is executed up to its first stuck bytes, and these
    decide the error. -/
theorem evaluate_decodes (config : Config) (script : Script) (fits : script.size < positionBound) :
    ∃ final, (machine config).evaluate (start script) = .ok final ∧
      (final.error = none ↔ ∃ program : Program config, script.toList = program.bytes) ∧
      (∀ program : Program config, script.toList = program.bytes →
        final.ip = script.size ∧ final.stack.reverse = program.items) ∧
      ((¬ ∃ program : Program config, script.toList = program.bytes) →
        ∃ (good : Program config) (rest : List UInt8),
          script.toList = good.bytes ++ rest ∧ Stuck config rest ∧
          final.stack.reverse = good.items ∧ final.ip = good.bytes.length + 1 ∧
          (Unassigned rest → final.error = some .unknownOpcode) ∧
          (NonMinimal config rest → final.error = some .nonMinimalPush) ∧
          (¬ Unassigned rest → ¬ NonMinimal config rest → final.error = some .malformedPush)) := by
  have executed {final : State} (evaluated : (machine config).evaluate (start script) = .ok final)
      (program : Program config) (whole : script.toList = program.bytes) :
      final = consume (start script) program :=
    Except.ok.inj (evaluated.symm.trans (evaluate_program fits whole))
  obtain ⟨good, ⟨whole, evaluated⟩ | ⟨rest, error, split, stuck, failing, evaluated⟩⟩ :=
    evaluate_cases config fits
  · refine ⟨_, evaluated, ⟨fun _ => ⟨good, whole⟩, fun _ => rfl⟩, fun program same => ?_,
      fun refused => absurd ⟨good, whole⟩ refused⟩
    rw [executed evaluated program same, ip_consume_start, reverse_stack_consume_start, ← same]
    exact ⟨Array.length_toList, rfl⟩
  · have refused : ¬ ∃ program : Program config, script.toList = program.bytes := by
      rintro ⟨program, same⟩
      have accepted := congrArg State.error (executed evaluated program same)
      exact Option.some_ne_none error accepted
    refine ⟨_, evaluated, ⟨fun accepted => absurd accepted (Option.some_ne_none error),
      fun accepted => absurd accepted refused⟩, fun program same => absurd ⟨program, same⟩ refused,
      fun _ => ⟨good, rest, split, stuck, reverse_stack_consume_start script good,
        congrArg (· + 1) (ip_consume_start script good), ?_, ?_, ?_⟩⟩
    · intro unassigned
      exact congrArg some (Except.error.inj (failing.symm.trans unassigned.readInstruction_eq))
    · intro nonMinimal
      exact congrArg some (Except.error.inj (failing.symm.trans nonMinimal.readInstruction_eq))
    · intro assigned minimal
      obtain ⟨instruction, after, rfl⟩ | unassigned | nonMinimal | malformed :=
        readInstruction_cases config rest
      · exact absurd (List.prefix_append _ _) (stuck.2 instruction)
      · exact absurd unassigned assigned
      · exact absurd nonMinimal minimal
      · exact congrArg some (Except.error.inj (failing.symm.trans malformed))

/-- `OP_1` and a push of two bytes. -/
theorem evaluate_decodes_two_pushes :
    ∃ final, (machine {}).evaluate (start #[0x51, 0x02, 0x4c, 0xff]) = .ok final ∧
      final.error = none ∧ final.ip = 4 ∧
      final.stack.reverse = [.number 1, .bytes [0x4c, 0xff]] := by
  let program : Program {} := [.number 1 (by decide), .direct [0x4c, 0xff] (by decide)]
  have whole : (#[0x51, 0x02, 0x4c, 0xff] : Script).toList = program.bytes := rfl
  obtain ⟨final, evaluated, accepted, executed, _⟩ :=
    evaluate_decodes {} #[0x51, 0x02, 0x4c, 0xff] (by decide)
  exact ⟨final, evaluated, accepted.mpr ⟨program, whole⟩, executed program whole⟩

end ScriptMachine.BitcoinCash
