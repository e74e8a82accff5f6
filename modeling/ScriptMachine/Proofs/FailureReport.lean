import ScriptMachine.Proofs.CommandOutcomes
import ScriptMachine.Proofs.StepEffects

/-! # The report of a failure

A report on a failed run is made from the last state alone, and names the byte in front of its
position. That this is the opcode that failed is no matter of course: it holds because a push that
fails has passed nothing but its opcode, whatever it had read of its data by then.
-/

namespace ScriptMachine

namespace InstructionSet

variable {Value Error Context : Type} {set : InstructionSet Value Error Context}
  {entries earlier : List (TraceEntry Value Error Context)}
  {before final : TraceEntry Value Error Context}

/-- A step that began before this position passed it, so its byte was not executed. -/
def IsOperand (entries : List (TraceEntry Value Error Context)) (position : Nat) : Prop :=
  ∃ index before after, entries[index]? = some before ∧ entries[index + 1]? = some after ∧
    before.state.ip < position ∧ position < after.state.ip

theorem exists_last_step (several : 2 ≤ entries.length) :
    ∃ earlier before final, entries = earlier ++ [before, final] := by
  obtain rfl | ⟨front, final, rfl⟩ := List.eq_nil_or_concat entries
  · simp at several
  · obtain rfl | ⟨earlier, before, rfl⟩ := List.eq_nil_or_concat front
    · simp at several
    · exact ⟨earlier, before, final, by simp⟩

theorem follows_of_isChain (chained : List.IsChain set.Follows (earlier ++ [before, final])) :
    set.Follows before final :=
  List.isChain_pair.mp chained.right_of_append

theorem Moves.not_isOperand (moving : set.Moves)
    (chained : List.IsChain set.Follows (earlier ++ [before, final])) :
    ¬ IsOperand (earlier ++ [before, final]) before.state.ip := by
  rintro ⟨index, start, stop, atStart, atStop, low, high⟩
  have follows := follows_of_isChain chained
  have forward := (moving.moves _ _ follows.continuing follows.stepping).1
  have atBefore : (earlier ++ [before, final])[earlier.length]? = some before := by simp
  have atFinal : (earlier ++ [before, final])[earlier.length + 1]? = some final := by simp
  have same : index = earlier.length := moving.passed_unique chained
    ⟨start, stop, atStart, atStop, Nat.le_of_lt low, high⟩
    ⟨before, final, atBefore, atFinal, Nat.le_refl _, forward⟩
  rw [same, atBefore, Option.some.injEq] at atStart
  rw [atStart] at low
  exact Nat.lt_irrefl _ low

end InstructionSet

namespace BitcoinCash

variable {config : Config} {state last : State}

theorem exists_failing_step (fresh : state.error = none) (fits : state.script.size < positionBound)
    (evaluated : (machine config).evaluate state = .ok last) (failed : last.error ≠ none) :
    ∃ earlier before final, (machine config).trace state = .ok (earlier ++ [before, final]) ∧
      List.IsChain (machine config).Follows (earlier ++ [before, final]) ∧
      (∀ entry ∈ earlier ++ [before, final], entry.state.script = state.script) ∧
      final.state = last ∧ Fails before.state last := by
  obtain ⟨count, reached, _, ended, _⟩ := exists_ends config fits
  obtain rfl : reached = last := Except.ok.inj ((Machine.evaluate_eq ended).symm.trans evaluated)
  obtain ⟨entries, traced, length, first, chained, located⟩ := Machine.exists_trace_eq ended
  have several : 2 ≤ entries.length := by
    cases count with
    | zero =>
        -- Without a step the last state would be the first, which has no error.
        rw [first] at located
        cases located
        exact absurd fresh failed
    | succ count => omega
  obtain ⟨earlier, before, final, rfl⟩ := InstructionSet.exists_last_step several
  have script := (moves config).script_of_mem chained (List.head?_eq_getElem?.trans first)
  obtain rfl : final.state = reached := by
    obtain rfl : count = earlier.length + 1 := by simpa using length.symm
    simpa using located
  have follows := InstructionSet.follows_of_isChain chained
  obtain ⟨stepped, stepping, _, ⟨⟨item, pushes⟩, _⟩ | ⟨fails, _⟩⟩ :=
    exists_step follows.continuing (by rwa [script before (by simp)])
  · rw [← Except.ok.inj (follows.stepping.symm.trans stepping)] at pushes
    exact absurd pushes.error failed
  · rw [← Except.ok.inj (follows.stepping.symm.trans stepping)] at fails
    exact ⟨earlier, before, final, traced, chained, script, rfl, fails⟩

end BitcoinCash

theorem Opcode.mnemonicFor_ne_empty (byte : UInt8) : mnemonicFor byte ≠ "" := by
  unfold mnemonicFor
  cases assigned : ofByte? byte with
  | none => simp
  | some opcode =>
      unfold ofByte? at assigned
      split at assigned
      · cases assigned
        simp [named]
      · split at assigned
        · cases assigned
          simp [data]
        · obtain ⟨name, _, rfl⟩ := Option.map_eq_some_iff.mp assigned
          simp [named]

namespace CommandLine

variable {options : Options} {start last : BitcoinCash.State} {opcode : UInt8} {error : EvalError}

theorem exists_records_outcome
    (evaluated : (BitcoinCash.machine options.config).evaluate start = .ok last) :
    ∃ earlier, (options.outcome start).records = earlier ++ [conclusion last] := by
  obtain ⟨reached, ended, same⟩ | ⟨fault, _, faulted⟩ :=
    options.shown_cases (BitcoinCash.machine options.config) start
  · obtain rfl : reached = last := Except.ok.inj (same.symm.trans evaluated)
    simp only [Options.outcome, Shown.outcome, ended]
    exact ⟨_, rfl⟩
  · cases faulted.symm.trans evaluated

/-- A record about an error is admitted at every level, so it is the last entry of every log. -/
theorem exists_log_eq {arguments : List String} {earlier : List Log.Record} {message : String}
    (logged : (outcome arguments).records = earlier ++ [⟨.error, message⟩])
    (rendering : Log.Rendering) (world : World) :
    ∃ front elapsed, (execute rendering world arguments).log =
      Log.text rendering world.environment (front ++ [{ record := ⟨.error, message⟩, elapsed }]) := by
  have admitted : world.environment.minimum.admits .error = true := by
    cases world.environment.minimum <;> rfl
  rw [execute_eq, logged, Log.select_append, Log.select_singleton, if_pos admitted,
    Log.Clock.entries_concat]
  exact ⟨_, _, rfl⟩

theorem failedMnemonic_eq (behind : 1 ≤ last.ip)
    (reading : last.script[last.ip - 1]? = some opcode) :
    failedMnemonic last = Opcode.mnemonicFor opcode := by
  rw [failedMnemonic, if_neg (Nat.ne_of_gt behind), reading]
  rfl

/-- A run starts without an error, from one script or from two that are joined, and ends with one.
    Then the byte in front of the last position is the one that the last step executed, so that the
    report names the opcode that failed. It never lacks a name, and never names a byte of data. -/
theorem failure_report_names_opcode (config : BitcoinCash.Config) (start last : BitcoinCash.State)
    (error : EvalError) (fresh : start.error = none) (fits : start.script.size < positionBound)
    (evaluated : (BitcoinCash.machine config).evaluate start = .ok last)
    (failed : last.error = some error) :
    1 ≤ last.ip ∧ last.ip - 1 < last.script.size ∧ last.script = start.script ∧
    ∃ earlier before final opcode,
      (BitcoinCash.machine config).trace start = .ok (earlier ++ [before, final]) ∧
      final.state = last ∧
      final.explanation =
        some (((BitcoinCash.machine config).dispatch opcode).explain before.state) ∧
      before.state.ip = last.ip - 1 ∧
      start.script[before.state.ip]? = some opcode ∧
      last.script[last.ip - 1]? = some opcode ∧
      ¬ InstructionSet.IsOperand (earlier ++ [before, final]) (last.ip - 1) ∧
      failedMnemonic last = Opcode.mnemonicFor opcode ∧ Opcode.mnemonicFor opcode ≠ "" ∧
      ∀ arguments, ¬ AsksForHelp arguments → WellFormed arguments start →
        requestedConfig arguments = config →
        ∀ (rendering : Log.Rendering) (world : World), ∃ front elapsed,
          (execute rendering world arguments).log =
            Log.text rendering world.environment (front ++ [{
              record := ⟨.error, "Evaluation failed at ip " ++ toString last.ip ++ " (" ++
                Opcode.mnemonicFor opcode ++ "): " ++ error.message⟩
              elapsed }]) := by
  obtain ⟨earlier, before, final, traced, chained, script, rfl, fails⟩ :=
    BitcoinCash.exists_failing_step fresh fits evaluated (by simp [failed])
  have follows := InstructionSet.follows_of_isChain chained
  have sameBefore := script before (by simp)
  have sameFinal := script final (by simp)
  have behind : final.state.ip - 1 = before.state.ip := by rw [fails.ip, Nat.add_sub_cancel]
  have positive : 1 ≤ final.state.ip := fails.ip ▸ Nat.le_add_left 1 _
  obtain ⟨_, _, opcode, reading, explained⟩ := InstructionSet.follows_iff.mp follows
  have named : failedMnemonic final.state = Opcode.mnemonicFor opcode :=
    failedMnemonic_eq positive (by rw [behind, sameFinal, ← sameBefore, reading])
  rw [behind]
  refine ⟨positive, ?_, sameFinal, earlier, before, final, opcode, traced, rfl, explained, rfl, ?_,
    ?_, (BitcoinCash.moves config).not_isOperand chained, named, Opcode.mnemonicFor_ne_empty opcode,
    ?_⟩
  · rw [sameFinal, ← sameBefore]
    exact (BitcoinCash.continues_iff.mp follows.continuing).2
  · rwa [← sameBefore]
  · rwa [sameFinal, ← sameBefore]
  · intro arguments noHelp formed same rendering world
    rw [← same, ← config_collect] at evaluated
    obtain ⟨earlier, logged⟩ := exists_records_outcome evaluated
    have concluded : conclusion final.state =
        ⟨.error, "Evaluation failed at ip " ++ toString final.state.ip ++ " (" ++
          Opcode.mnemonicFor opcode ++ "): " ++ error.message⟩ := by
      rw [conclusion, failed, named]
    rw [concluded, ← outcome_of_wellFormed noHelp formed] at logged
    exact exists_log_eq logged rendering world

/-- An unlocking script of one number and the start of a push: the push takes the separator for its
    length, and it is the push that is reported. -/
theorem report_names_truncated_push :
    ∃ last, (BitcoinCash.machine {}).evaluate (BitcoinCash.startJoined #[0x51, 0x4c] #[0x00]) =
      .ok last ∧
    last.ip = 2 ∧ failedMnemonic last = "OP_PUSHDATA1" ∧
    ∀ (rendering : Log.Rendering) (world : World), ∃ front elapsed,
      (execute rendering world ["514c", "00"]).log =
        Log.text rendering world.environment (front ++ [{
          record := ⟨.error, "Evaluation failed at ip 2 (OP_PUSHDATA1): " ++
            EvalError.malformedPush.message⟩
          elapsed }]) := by
  have evaluated : (BitcoinCash.machine {}).evaluate
      (BitcoinCash.startJoined #[0x51, 0x4c] #[0x00]) =
      .ok { BitcoinCash.startJoined #[0x51, 0x4c] #[0x00] with
        ip := 2, stack := [.number 1], error := some .malformedPush } := rfl
  have formed : WellFormed ["514c", "00"] (BitcoinCash.startJoined #[0x51, 0x4c] #[0x00]) :=
    ⟨by decide, .joined (show Hex.decode "514c" = .ok [0x51, 0x4c] from rfl)
      (show Hex.decode "00" = .ok [0x00] from rfl)⟩
  obtain ⟨_, _, _, _, _, _, opcode, _, _, _, _, _, reading, _, named, _, report⟩ :=
    failure_report_names_opcode {} _ _ .malformedPush rfl (by decide) evaluated rfl
  obtain rfl : opcode = 0x4c := (Option.some.inj reading).symm
  have mnemonic : Opcode.mnemonicFor 0x4c = "OP_PUSHDATA1" := by decide +kernel
  have logged := report ["514c", "00"] (by simp [AsksForHelp]) formed rfl
  rw [mnemonic] at named logged
  exact ⟨_, evaluated, rfl, named, logged⟩

end CommandLine

end ScriptMachine
