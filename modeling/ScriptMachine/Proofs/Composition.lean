import ScriptMachine.Proofs.Relocation
import ScriptMachine.Proofs.StepEffects

/-! # Composition of scripts

Two scripts in a row run one after the other: the second one is executed as if it stood alone, behind
the bytes of the first and on top of its stack. That holds where the first script is executed to its
end. Where it is not, further bytes change nothing, unless bytes were what it lacked.
-/

namespace ScriptMachine.BitcoinCash

variable {config : Config} {first second : Script} {program : Program config}

theorem consume_start_append (whole : first.toList = program.bytes) (second : Script) :
    consume (start (first ++ second)) program =
      relocate first program.items.reverse {} (start second) := by
  have length : program.bytes.length = first.size := by rw [← whole, Array.length_toList]
  simp [consume, relocate, start, State.start, length]

theorem evaluate_append (whole : first.toList = program.bytes)
    (fits : first.size + second.size < positionBound) {count : Nat} {last : State}
    (ended : (machine config).Ends count (start second) (.ok last)) :
    (machine config).evaluate (start (first ++ second)) =
      .ok (relocate first program.items.reverse {} last) := by
  have joinedFits : (first ++ second).size < positionBound := by rwa [Array.size_append]
  have ready := Ready.start joinedFits
  rw [Array.toList_append, whole] at ready
  have later : (machine config).Ends count (consume (start (first ++ second)) program)
      (.ok (relocate first program.items.reverse {} last)) := by
    rw [consume_start_append whole]
    exact ends_relocate fits ended
  exact Machine.evaluate_eq (ready.ends_program later)

theorem evaluate_append_of_lasting {rest : List UInt8} {error : EvalError}
    (fits : first.size + second.size < positionBound) (split : first.toList = program.bytes ++ rest)
    (remaining : rest ≠ []) (failing : readInstruction config rest = .error error)
    (lasting : error ≠ .malformedPush) :
    (machine config).evaluate (start (first ++ second)) =
      .ok (halt (consume (start (first ++ second)) program) error) := by
  have joinedFits : (first ++ second).size < positionBound := by rwa [Array.size_append]
  refine evaluate_stuck joinedFits ?_ (List.append_ne_nil_of_left_ne_nil remaining second.toList)
    (readInstruction_append failing lasting second.toList)
  rw [Array.toList_append, split, List.append_assoc]

/-- The separator is an opcode like any other, and the language has no operator for it. -/
theorem evaluate_separator (config : Config) {locking : Script}
    (fits : (#[separator] ++ locking).size < positionBound) :
    (machine config).evaluate (start (#[separator] ++ locking)) =
      .ok (halt (start (#[separator] ++ locking)) .unknownOpcode) := by
  have unassigned : Unassigned (separator :: locking.toList) := .above separator _ (by decide)
  have split : (#[separator] ++ locking).toList =
      Program.bytes ([] : Program config) ++ separator :: locking.toList := by
    simp [Program.bytes]
  exact evaluate_stuck fits split (List.cons_ne_nil _ _) unassigned.readInstruction_eq

/-- How the run of two scripts in a row ends, given how each of them ends by itself. -/
structure Composes (first : Script) (alone next both : State) : Prop where
  accepted : alone.error = none →
    both.stack = next.stack ++ alone.stack ∧ both.ip = first.size + next.ip ∧ both.error = next.error
  lasting : alone.error = some .unknownOpcode ∨ alone.error = some .nonMinimalPush →
    both.ip = alone.ip ∧ both.stack = alone.stack ∧ both.error = alone.error

theorem exists_composes (config : Config) (fits : first.size + second.size < positionBound) :
    ∃ alone next both, (machine config).evaluate (start first) = .ok alone ∧
      (machine config).evaluate (start second) = .ok next ∧
      (machine config).evaluate (start (first ++ second)) = .ok both ∧
      Composes first alone next both := by
  have firstFits : first.size < positionBound := by omega
  have secondFits : (start second).script.size < positionBound := by
    change second.size < positionBound
    omega
  have bothFits : (start (first ++ second)).script.size < positionBound := by
    change (first ++ second).size < positionBound
    rwa [Array.size_append]
  obtain ⟨_, next, _, ended, _⟩ := exists_ends config secondFits
  obtain ⟨program, ⟨whole, evaluated⟩ | ⟨rest, error, split, stuck, failing, evaluated⟩⟩ :=
    evaluate_cases config firstFits
  · refine ⟨_, next, _, evaluated, Machine.evaluate_eq ended, evaluate_append whole fits ended, ?_,
      ?_⟩
    · intro _
      simp [relocate, consume, start, State.start]
    · intro failed
      rcases failed with failed | failed
      · cases failed
      · cases failed
  · by_cases missing : error = .malformedPush
    · -- The first script lacks bytes. Nothing is said of what it does with those of the second.
      obtain ⟨_, both, _, bothEnded, _⟩ := exists_ends config bothFits
      refine ⟨_, next, both, evaluated, Machine.evaluate_eq ended, Machine.evaluate_eq bothEnded, ?_,
        ?_⟩
      · intro accepted
        cases accepted
      · intro failed
        subst missing
        rcases failed with failed | failed
        · cases failed
        · cases failed
    · refine ⟨_, next, _, evaluated, Machine.evaluate_eq ended,
        evaluate_append_of_lasting fits split stuck.1 failing missing, ?_, fun _ => ⟨rfl, rfl, rfl⟩⟩
      intro accepted
      cases accepted

/-- Scripts in a row run one after the other. If the first is accepted, the second runs behind it and
    on its stack as it would alone; if the first ends with an unknown opcode or a push that is not
    minimal, so does the whole. An accepted unlocking script therefore always ends at the separator,
    whatever the locking script is. -/
theorem scripts_compose (config : Config) :
    (∀ first second : Script, first.size + second.size < positionBound →
      ∃ alone next both, (machine config).evaluate (start first) = .ok alone ∧
        (machine config).evaluate (start second) = .ok next ∧
        (machine config).evaluate (start (first ++ second)) = .ok both ∧
        Composes first alone next both) ∧
    ∀ unlocking locking : Script, unlocking.size + 1 + locking.size < positionBound →
      ∀ alone, (machine config).evaluate (start unlocking) = .ok alone → alone.error = none →
        ∃ both, (machine config).evaluate (startJoined unlocking locking) = .ok both ∧
          both.error = some .unknownOpcode ∧ both.ip = unlocking.size + 1 ∧
          both.stack = alone.stack := by
  refine ⟨fun first second fits => exists_composes config fits, ?_⟩
  intro unlocking locking fits alone evaluated accepted
  have joined : startJoined unlocking locking = start (unlocking ++ (#[separator] ++ locking)) := by
    simp [startJoined, Script.join]
  have lockedFits : unlocking.size + (#[separator] ++ locking).size < positionBound := by
    simp only [Array.size_append, List.size_toArray, List.length_singleton]
    omega
  obtain ⟨_, next, both, aloneEvaluated, nextEvaluated, bothEvaluated, composes⟩ :=
    exists_composes config lockedFits
  cases evaluated.symm.trans aloneEvaluated
  obtain ⟨stack, position, error⟩ := composes.accepted accepted
  rw [evaluate_separator config (by omega), Except.ok.injEq] at nextEvaluated
  subst next
  exact ⟨both, joined ▸ bothEvaluated, error, position, stack⟩

/-- A number before a push and a reserved byte, a reserved byte before a number, and a push of the
    separator's own value before the separator. -/
theorem three_scripts_compose :
    (∃ both, (machine {}).evaluate (start (#[0x51] ++ #[0x01, 0xab, 0x50])) = .ok both ∧
      both.stack = [.bytes [0xab], .number 1] ∧ both.ip = 4 ∧ both.error = some .unknownOpcode) ∧
    (∃ both, (machine {}).evaluate (start (#[0x50] ++ #[0x51])) = .ok both ∧
      both.ip = 1 ∧ both.stack = [] ∧ both.error = some .unknownOpcode) ∧
    (∃ both, (machine {}).evaluate (startJoined #[0x01, 0xab] #[0x51]) = .ok both ∧
      both.error = some .unknownOpcode ∧ both.ip = 3 ∧ both.stack = [.bytes [0xab]]) := by
  obtain ⟨composed, joined⟩ := scripts_compose {}
  refine ⟨?_, ?_, ?_⟩
  · obtain ⟨alone, next, both, evaluated, nextEvaluated, bothEvaluated, composes⟩ :=
      composed #[0x51] #[0x01, 0xab, 0x50] (by decide)
    cases evaluated
    cases nextEvaluated
    exact ⟨both, bothEvaluated, composes.accepted rfl⟩
  · obtain ⟨alone, next, both, evaluated, _, bothEvaluated, composes⟩ :=
      composed #[0x50] #[0x51] (by decide)
    cases evaluated
    exact ⟨both, bothEvaluated, composes.lasting (.inl rfl)⟩
  · exact joined #[0x01, 0xab] #[0x51] (by decide) _ rfl rfl

end ScriptMachine.BitcoinCash
