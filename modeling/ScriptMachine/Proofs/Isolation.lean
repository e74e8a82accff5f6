import ScriptMachine.Proofs.Decoding

/-! # Isolation of the unlocking script

The separator keeps a locking script out of the run of an unlocking script as long as it is reached
as an opcode, or the run ends before it. A push that asks for more bytes than the unlocking script
has left takes them from the separator and the locking script instead, since a script is bounded as
a whole and not by its halves. What decides is the unlocking script followed by the separator alone:
if that ends in an error which further bytes cannot mend, no locking script makes a difference, and
if not, some do.
-/

namespace ScriptMachine.BitcoinCash

variable {config : Config} {rest : List UInt8}

/-- Both runs end, and they end at the same position, with the same stack and the same error. -/
def EndAlike (config : Config) (first second : State) : Prop :=
  ∃ firstFinal secondFinal, (machine config).evaluate first = .ok firstFinal ∧
    (machine config).evaluate second = .ok secondFinal ∧ firstFinal.ip = secondFinal.ip ∧
    firstFinal.stack = secondFinal.stack ∧ firstFinal.error = secondFinal.error

/-- Whatever the locking script is, the run of the unlocking script ends alike. -/
def Isolated (config : Config) (unlocking : Script) : Prop :=
  ∀ first second : Script, (unlocking.join first separator).size < positionBound →
    (unlocking.join second separator).size < positionBound →
    EndAlike config (startJoined unlocking first) (startJoined unlocking second)

/-! ## Ample bytes -/

/-- More bytes than any push can ask for. -/
def ample : Nat := 4 + 256 ^ 4

theorem Meaning.readFront_ample {opcode : UInt8} {primitive : Primitive}
    (meaning : Meaning config opcode primitive) {bytes : List UInt8} (enough : ample ≤ bytes.length) :
    primitive.readFront bytes ≠ .error .malformedPush := by
  have sized (width : Width) (minimum : Nat) :
      (Primitive.sized width minimum).readFront bytes ≠ .error .malformedPush := by
    have field := littleEndian_lt (bytes.take width.byteCount)
    have narrow : width.byteCount ≤ 4 := by cases width <;> decide
    have taken : (bytes.take width.byteCount).length ≤ 4 := by
      rw [List.length_take]
      omega
    have bound : 256 ^ (bytes.take width.byteCount).length ≤ 256 ^ 4 :=
      Nat.pow_le_pow_right (by decide) taken
    have complete : width.byteCount + littleEndian (bytes.take width.byteCount) ≤ bytes.length := by
      unfold ample at enough
      omega
    rw [Primitive.readFront, if_pos complete]
    split <;> simp
  cases meaning with
  | number value range => simp [Primitive.readFront]
  | direct opcode range =>
      have enough : opcode.toNat ≤ bytes.length := by
        unfold ample at enough
        omega
      simp [Primitive.readFront, enough]
  | pushData1 => exact sized .one 75
  | pushData2 => exact sized .two 256
  | pushData4 enabled => exact sized .four 65536
  | disabled disabled => simp [Primitive.readFront]
  | reserved => simp [Primitive.readFront]
  | above opcode above => simp [Primitive.readFront]

theorem readInstruction_ample (remaining : rest ≠ []) {more : List UInt8} (enough : ample ≤ more.length) :
    readInstruction config (rest ++ more) ≠ .error .malformedPush := by
  cases rest with
  | nil => exact absurd rfl remaining
  | cons opcode rest =>
      obtain ⟨primitive, meaning⟩ := exists_meaning config opcode
      have mended := meaning.readFront_ample
        (show ample ≤ (rest ++ more).length by rw [List.length_append]; omega)
      rw [List.cons_append, readInstruction_cons meaning]
      cases read : primitive.readFront (rest ++ more) with
      | ok item => exact nofun
      | error error =>
          intro malformed
          rw [read] at mended
          exact mended (by simpa [Except.map] using malformed)

/-! ## Joined scripts -/

theorem toList_join_separator (unlocking locking : Script) :
    (unlocking.join locking separator).toList =
      unlocking.toList ++ [separator] ++ locking.toList := by
  simp

theorem size_join_separator (unlocking locking : Script) :
    (unlocking.join locking separator).size = unlocking.size + 1 + locking.size := by
  simp [Script.join]

/-- The unlocking script and the separator end in an error that further bytes cannot mend. -/
def Sealed (config : Config) (unlocking : Script) : Prop :=
  ∃ (program : Program config) (rest : List UInt8) (error : EvalError),
    unlocking.toList ++ [separator] = program.bytes ++ rest ∧ rest ≠ [] ∧
    readInstruction config rest = .error error ∧ error ≠ .malformedPush

namespace Sealed

theorem exists_evaluate_eq {unlocking : Script} (locked : Sealed config unlocking) :
    ∃ position stack error, position ≤ unlocking.size + 1 ∧ error ≠ .malformedPush ∧
      ∀ locking, (unlocking.join locking separator).size < positionBound →
        (machine config).evaluate (startJoined unlocking locking) =
          .ok { startJoined unlocking locking with ip := position, stack, error := some error } := by
  obtain ⟨program, rest, error, split, remaining, failing, lasting⟩ := locked
  refine ⟨program.bytes.length + 1, program.items.reverse, error, ?_, lasting, ?_⟩
  · have lengths := congrArg List.length split
    have positive := List.length_pos_of_ne_nil remaining
    simp only [List.length_append, List.length_singleton, Array.length_toList] at lengths
    omega
  · intro locking fits
    have joined : (unlocking.join locking separator).toList =
        program.bytes ++ (rest ++ locking.toList) := by
      rw [toList_join_separator, split, List.append_assoc]
    have evaluated := evaluate_stuck fits joined (List.append_ne_nil_of_left_ne_nil remaining _)
      (readInstruction_append failing lasting _)
    simpa [consume, halt, startJoined, start, State.start] using evaluated

theorem isolated {unlocking : Script} (locked : Sealed config unlocking) :
    Isolated config unlocking := by
  obtain ⟨position, stack, error, _, _, evaluated⟩ := locked.exists_evaluate_eq
  intro first second firstFits secondFits
  exact ⟨_, _, evaluated first firstFits, evaluated second secondFits, rfl, rfl, rfl⟩

theorem of_evaluate {unlocking : Script} (fits : unlocking.size < positionBound) {final : State}
    (evaluated : (machine config).evaluate (start unlocking) = .ok final)
    (lasting : final.error ≠ some .malformedPush) : Sealed config unlocking := by
  obtain ⟨program, ⟨whole, _⟩ | ⟨rest, error, split, stuck, failing, failed⟩⟩ :=
    evaluate_cases config fits
  · refine ⟨program, [separator], .unknownOpcode, by rw [whole], List.cons_ne_nil _ _, ?_, nofun⟩
    exact (Unassigned.above separator [] (by decide)).readInstruction_eq
  · have different : error ≠ .malformedPush := by
      rintro rfl
      rw [Except.ok.inj (evaluated.symm.trans failed)] at lasting
      exact lasting rfl
    exact ⟨program, rest ++ [separator], error, by rw [split, List.append_assoc],
      List.append_ne_nil_of_left_ne_nil stuck.1 _, readInstruction_append failing different _, different⟩

end Sealed

theorem length_le_stack {script : Script} {program : Program config} {final : State}
    (fits : script.size < positionBound) (split : script.toList = program.bytes ++ rest)
    (evaluated : (machine config).evaluate (start script) = .ok final) :
    program.length ≤ final.stack.length := by
  obtain ⟨later, after, rfl, ended⟩ := exists_split config rest
  have further : script.toList = Program.bytes (program ++ later) ++ after := by
    simpa [Program.bytes] using split
  obtain rfl | stuck := ended
  · have executed := evaluate_program fits (by simpa using further)
    rw [Except.ok.inj (evaluated.symm.trans executed)]
    simp [consume, Program.items]
    omega
  · obtain ⟨remaining, error, failing⟩ := stuck_iff.mp stuck
    have executed := evaluate_stuck fits further remaining failing
    rw [Except.ok.inj (evaluated.symm.trans executed)]
    simp [halt, consume, Program.items]
    omega

theorem EndAlike.final_eq {first second firstFinal secondFinal : State}
    (alike : EndAlike config first second)
    (firstEvaluated : (machine config).evaluate first = .ok firstFinal)
    (secondEvaluated : (machine config).evaluate second = .ok secondFinal) :
    firstFinal.ip = secondFinal.ip ∧ firstFinal.stack = secondFinal.stack ∧
      firstFinal.error = secondFinal.error := by
  obtain ⟨_, _, firstEnded, secondEnded, same⟩ := alike
  cases firstEvaluated.symm.trans firstEnded
  cases secondEvaluated.symm.trans secondEnded
  exact same

section Exposed

variable {unlocking : Script} {program : Program config}

theorem join_fits (short : unlocking.size < 2 ^ 63) (locking : Script) (size : locking.size ≤ ample) :
    (unlocking.join locking separator).size < positionBound := by
  rw [size_join_separator]
  unfold ample at size
  unfold positionBound
  omega

/-- A push that took the separator as its last byte lets the locking script be executed. -/
theorem not_isolated_of_program (short : unlocking.size < 2 ^ 63)
    (whole : unlocking.toList ++ [separator] = program.bytes) : ¬ Isolated config unlocking := by
  intro isolated
  have emptyFits := join_fits short #[] (by decide)
  have zeroFits := join_fits short #[0x00] (by decide)
  let longer : Program config := program ++ [.number 0 (by decide)]
  have longerBytes : longer.bytes = program.bytes ++ [0x00] := by
    simp [longer, Program.bytes, Instruction.bytes, numberOpcode]
  have emptyWhole : (unlocking.join #[] separator).toList = program.bytes := by
    rw [toList_join_separator, whole, List.append_nil]
  have zeroWhole : (unlocking.join #[0x00] separator).toList = longer.bytes := by
    rw [toList_join_separator, whole, longerBytes]
  obtain ⟨samePosition, _, _⟩ :=
    (isolated _ _ emptyFits zeroFits).final_eq
      (evaluate_program emptyFits emptyWhole) (evaluate_program zeroFits zeroWhole)
  rw [ip_consume_start, ip_consume_start, longerBytes, List.length_append] at samePosition
  simp at samePosition

/-- A push that lacks bytes with an empty locking script gets them from a long one. -/
theorem not_isolated_of_malformed (short : unlocking.size < 2 ^ 63)
    (split : unlocking.toList ++ [separator] = program.bytes ++ rest) (remaining : rest ≠ [])
    (malformed : readInstruction config rest = .error .malformedPush) :
    ¬ Isolated config unlocking := by
  intro isolated
  let padding : List UInt8 := List.replicate ample 0
  have enough : ample ≤ padding.length := (List.length_replicate).ge
  have emptyFits := join_fits short #[] (by simp)
  have paddedFits := join_fits short padding.toArray (by simp [padding])
  have paddedSplit : (unlocking.join padding.toArray separator).toList =
      program.bytes ++ (rest ++ padding) := by
    rw [toList_join_separator, split, List.append_assoc]
  have emptyEvaluated := evaluate_stuck emptyFits
    (by rw [toList_join_separator, split, List.append_nil]) remaining malformed
  cases reading : readInstruction config (rest ++ padding) with
  | error error =>
      have paddedEvaluated := evaluate_stuck paddedFits paddedSplit
        (List.append_ne_nil_of_left_ne_nil remaining _) reading
      obtain ⟨_, _, sameError⟩ :=
        (isolated _ _ emptyFits paddedFits).final_eq emptyEvaluated paddedEvaluated
      have same : error = .malformedPush := (Option.some.inj sameError).symm
      exact readInstruction_ample remaining enough (same ▸ reading)
  | ok read =>
      obtain ⟨instruction, after, front⟩ := exists_instruction_of_readInstruction reading
      have further : (unlocking.join padding.toArray separator).toList =
          Program.bytes (program ++ [instruction]) ++ after := by
        rw [paddedSplit, front]
        simp [Program.bytes]
      obtain ⟨_, final, _, paddedEvaluated, _⟩ := isolated _ _ emptyFits paddedFits
      have grown := length_le_stack paddedFits further paddedEvaluated
      obtain ⟨_, sameStack, _⟩ :=
        (isolated _ _ emptyFits paddedFits).final_eq emptyEvaluated paddedEvaluated
      rw [← sameStack] at grown
      simp [halt, consume, start, State.start, Program.items] at grown

theorem Sealed.of_isolated (short : unlocking.size < 2 ^ 63) (isolated : Isolated config unlocking) :
    Sealed config unlocking := by
  obtain ⟨program, rest, split, rfl | stuck⟩ := exists_split config (unlocking.toList ++ [separator])
  · rw [List.append_nil] at split
    exact absurd isolated (not_isolated_of_program short split)
  · obtain ⟨remaining, error, failing⟩ := stuck_iff.mp stuck
    refine ⟨program, rest, error, split, remaining, failing, ?_⟩
    rintro rfl
    exact not_isolated_of_malformed short split remaining failing isolated

end Exposed

theorem sealed_iff_evaluate {unlocking : Script}
    (fits : (unlocking.join #[] separator).size < positionBound) :
    Sealed config unlocking ↔
      ∃ final, (machine config).evaluate (startJoined unlocking #[]) = .ok final ∧
        (final.error = some .unknownOpcode ∨ final.error = some .nonMinimalPush) := by
  constructor
  · intro locked
    obtain ⟨position, stack, error, _, lasting, evaluated⟩ := locked.exists_evaluate_eq
    refine ⟨_, evaluated #[] fits, ?_⟩
    cases error with
    | malformedPush => exact absurd rfl lasting
    | nonMinimalPush => exact .inr rfl
    | unknownOpcode => exact .inl rfl
  · rintro ⟨final, evaluated, failed⟩
    obtain ⟨program, ⟨_, executed⟩ | ⟨rest, error, split, stuck, failing, executed⟩⟩ :=
      evaluate_cases config fits
    · rw [Except.ok.inj (evaluated.symm.trans executed)] at failed
      exact failed.elim nofun nofun
    · rw [Except.ok.inj (evaluated.symm.trans executed)] at failed
      rw [toList_join_separator, List.append_nil] at split
      refine ⟨program, rest, error, split, stuck.1, failing, ?_⟩
      rintro rfl
      exact failed.elim nofun nofun

/-- The separator isolates every unlocking script that does not lack bytes by itself. In general it
    isolates a script exactly if the run with an empty locking script ends with an unknown opcode or
    a push that is not minimal, and then no run passes the separator. -/
theorem separator_isolates_iff (config : Config) (unlocking : Script)
    (short : unlocking.size < 2 ^ 63) :
    (∀ final, (machine config).evaluate (start unlocking) = .ok final →
      final.error ≠ some .malformedPush → Isolated config unlocking) ∧
    (Isolated config unlocking ↔
      ∃ final, (machine config).evaluate (startJoined unlocking #[]) = .ok final ∧
        (final.error = some .unknownOpcode ∨ final.error = some .nonMinimalPush)) ∧
    (Isolated config unlocking →
      ∀ locking, (unlocking.join locking separator).size < positionBound →
        ∃ final, (machine config).evaluate (startJoined unlocking locking) = .ok final ∧
          final.error ≠ none ∧ final.ip ≤ unlocking.size + 1) := by
  have fits : unlocking.size < positionBound := by
    unfold positionBound
    omega
  refine ⟨?_, ?_, ?_⟩
  · intro final evaluated lasting
    exact (Sealed.of_evaluate fits evaluated lasting).isolated
  · rw [← sealed_iff_evaluate (join_fits short #[] (by decide))]
    exact ⟨Sealed.of_isolated short, Sealed.isolated⟩
  · intro isolated locking joinedFits
    obtain ⟨position, stack, error, within, _, evaluated⟩ :=
      (Sealed.of_isolated short isolated).exists_evaluate_eq
    exact ⟨_, evaluated locking joinedFits, Option.some_ne_none error, within⟩

/-- A whole push is isolated. So is an `OP_PUSHDATA1` for five bytes of which the script has four:
    it takes the separator, and is then refused as not minimal. -/
theorem separator_isolates_two_scripts :
    Isolated {} #[0x01, 0xab] ∧ Isolated {} #[0x4c, 0x05, 0x01, 0x02, 0x03, 0x04] := by
  refine ⟨?_, ?_⟩
  · exact (separator_isolates_iff {} #[0x01, 0xab] (by decide)).1 _ rfl nofun
  · exact (separator_isolates_iff {} #[0x4c, 0x05, 0x01, 0x02, 0x03, 0x04] (by decide)).2.1.mpr
      ⟨_, rfl, .inr rfl⟩

/-- A push of two bytes at the end of the unlocking script takes the separator and the first byte of
    the locking script. -/
theorem truncated_push_crosses_separator :
    ¬ EndAlike {} (startJoined #[0x02] #[]) (startJoined #[0x02] #[0x07]) := by
  intro alike
  obtain ⟨samePosition, _, _⟩ := alike.final_eq rfl rfl
  exact absurd samePosition (by decide)

end ScriptMachine.BitcoinCash
