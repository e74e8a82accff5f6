import Mathlib.Logic.Basic
import ScriptMachine.Proofs.Decoding
import ScriptMachine.Proofs.Traces

/-! # What steps do

A step of the machine pushes one item and moves behind it, or makes an error and passes the opcode
alone. There is nothing in between: a step that fails has not touched the stack. Along a trace the
stack therefore only grows, an error is the end, and there are as many steps as items pushed, but for
the one that failed.
-/

namespace ScriptMachine.BitcoinCash

variable {config : Config} {state before after : State} {bytes rest : List UInt8}

/-- The position moves on inside of the script, and nothing happens to the script and the context. -/
structure Advances (before after : State) : Prop where
  script : after.script = before.script
  context : after.context = before.context
  forward : before.ip < after.ip
  inside : after.ip ≤ before.script.size

/-- One item came onto the stack. Data is the end of the bytes that were passed, and begins behind
    the opcode. -/
structure Pushes (before after : State) (item : Item) : Prop where
  error : after.error = none
  stack : after.stack = item :: before.stack
  payload : ∀ content, item = .bytes content →
    before.ip < after.ip - content.length ∧
    (before.script.extract (after.ip - content.length) after.ip).toList = content

/-- An error was made, and only the opcode was passed. -/
structure Fails (before after : State) : Prop where
  error : after.error ≠ none
  stack : after.stack = before.stack
  ip : after.ip = before.ip + 1

theorem Pushes.not_fails {item : Item} (pushes : Pushes before after item) : ¬ Fails before after :=
  fun fails => fails.error pushes.error

theorem Instruction.exists_head {instruction : Instruction config} {content : List UInt8}
    (pushed : instruction.item = .bytes content) :
    ∃ head, head ≠ [] ∧ instruction.bytes = head ++ content := by
  cases instruction with
  | number value range => cases pushed
  | direct payload range =>
      cases pushed
      exact ⟨[UInt8.ofNat content.length], List.cons_ne_nil _ _, rfl⟩
  | pushData1 payload range =>
      cases pushed
      exact ⟨0x4c :: lengthField 1 content.length, List.cons_ne_nil _ _, rfl⟩
  | pushData2 payload range =>
      cases pushed
      exact ⟨0x4d :: lengthField 2 content.length, List.cons_ne_nil _ _, rfl⟩
  | pushData4 payload range enabled =>
      cases pushed
      exact ⟨0x4e :: lengthField 4 content.length, List.cons_ne_nil _ _, rfl⟩

namespace Ready

theorem advances_consume {instruction : Instruction config}
    (ready : Ready state (instruction.bytes ++ rest)) :
    Advances state (BitcoinCash.consume state [instruction]) := by
  have nonempty := List.length_pos_of_ne_nil instruction.bytes_ne_nil
  have lengths := congrArg List.length ready.ahead
  rw [List.length_drop, List.length_append, Array.length_toList] at lengths
  have inside : state.ip + instruction.bytes.length ≤ state.script.size := by omega
  rw [consume_singleton]
  exact ⟨rfl, rfl, Nat.lt_add_of_pos_right nonempty, inside⟩

theorem pushes_consume {instruction : Instruction config}
    (ready : Ready state (instruction.bytes ++ rest)) :
    Pushes state (BitcoinCash.consume state [instruction]) instruction.item := by
  rw [consume_singleton]
  refine ⟨ready.fresh, rfl, ?_⟩
  intro content pushed
  obtain ⟨head, nonempty, split⟩ := instruction.exists_head pushed
  have positive := List.length_pos_of_ne_nil nonempty
  have length : instruction.bytes.length = head.length + content.length := by
    rw [split, List.length_append]
  have begins : state.ip + instruction.bytes.length - content.length = state.ip + head.length := by
    omega
  have taken : state.ip + instruction.bytes.length - (state.ip + head.length) = content.length := by
    omega
  simp only [begins]
  refine ⟨by omega, ?_⟩
  rw [Array.toList_extract, List.extract_eq_take_drop, taken, ← List.drop_drop, ready.ahead, split,
    List.append_assoc, List.drop_left, List.take_left]

theorem step_cases (config : Config) (ready : Ready state bytes) (remaining : bytes ≠ []) :
    (∃ (instruction : Instruction config) (rest : List UInt8), bytes = instruction.bytes ++ rest ∧
      (machine config).step state = .ok (BitcoinCash.consume state [instruction])) ∨
    ∃ error, (machine config).step state = .ok (halt state error) := by
  cases reading : readInstruction config bytes with
  | ok read =>
      obtain ⟨instruction, rest, rfl⟩ := exists_instruction_of_readInstruction reading
      exact .inl ⟨instruction, rest, rfl, ready.step_instruction⟩
  | error error => exact .inr ⟨error, by rw [ready.step remaining, reading]⟩

end Ready

theorem exists_step (continuing : (machine config).continues state = true)
    (fits : state.script.size < positionBound) :
    ∃ stepped, (machine config).step state = .ok stepped ∧ Advances state stepped ∧
      Xor (∃ item, Pushes state stepped item) (Fails state stepped) := by
  obtain ⟨bytes, remaining, ready⟩ := exists_ready continuing fits
  rcases ready.step_cases config remaining with
    ⟨instruction, rest, rfl, stepping⟩ | ⟨error, stepping⟩
  · have pushes := ready.pushes_consume
    exact ⟨_, stepping, ready.advances_consume, .inl ⟨⟨_, pushes⟩, pushes.not_fails⟩⟩
  · have fails : Fails state (halt state error) := ⟨Option.some_ne_none error, rfl, rfl⟩
    have inside := (continues_iff.mp continuing).2
    refine ⟨_, stepping, ⟨rfl, rfl, Nat.lt_succ_self _, inside⟩, .inr ⟨fails, ?_⟩⟩
    rintro ⟨item, pushes⟩
    exact pushes.not_fails fails

theorem exists_ends (config : Config) (fits : state.script.size < positionBound) :
    ∃ count last pushed, (machine config).Ends count state (.ok last) ∧
      last.stack = pushed ++ state.stack ∧
      count = pushed.length + if last.error = state.error then 0 else 1 := by
  by_cases fresh : state.error = none
  · have ready : Ready state (state.script.toList.drop state.ip) := ⟨rfl, fresh, fits⟩
    obtain ⟨program, rest, split, finished | stuck⟩ :=
      exists_split config (state.script.toList.drop state.ip)
    · rw [split, finished, List.append_nil] at ready
      exact ⟨_, _, program.items.reverse, ready.ends_finished, rfl, by simp [consume, Program.items]⟩
    · obtain ⟨remaining, error, failing⟩ := stuck_iff.mp stuck
      rw [split] at ready
      refine ⟨_, _, program.items.reverse, ready.ends_stuck remaining failing, rfl, ?_⟩
      simp [halt, Program.items, fresh]
  · have stopped : (machine config).continues state = false := by
      rw [← Bool.not_eq_true, continues_iff]
      exact fun continuing => fresh continuing.1
    exact ⟨0, state, [], .stop stopped, rfl, by simp⟩

section Trace

variable {entries : List (TraceEntry Item EvalError Context)}
  {first : TraceEntry Item EvalError Context}

theorem stacks_grow (fits : first.state.script.size < positionBound)
    (starts : entries.head? = some first) (chained : List.IsChain (machine config).Follows entries) :
    List.IsChain (fun before after => before.state.stack <:+ after.state.stack) entries := by
  have script := (moves config).script_of_mem chained starts
  refine List.IsChain.imp_of_mem_imp ?_ chained
  intro before after member _ follows
  obtain ⟨stepped, stepping, _, ⟨⟨item, pushes⟩, _⟩ | ⟨fails, _⟩⟩ :=
    exists_step follows.continuing (by rwa [script before member])
  · rw [Except.ok.inj (follows.stepping.symm.trans stepping)]
    exact ⟨[item], pushes.stack.symm⟩
  · rw [Except.ok.inj (follows.stepping.symm.trans stepping)]
    exact ⟨[], fails.stack.symm⟩

theorem fresh_of_mem_dropLast (chained : List.IsChain (machine config).Follows entries) :
    ∀ entry ∈ entries.dropLast, entry.state.error = none := by
  intro entry member
  obtain ⟨after, follows⟩ := InstructionSet.exists_follows_of_mem_dropLast chained member
  exact (continues_iff.mp follows.continuing).1

end Trace

/-- From every state without an error in which a byte is left, a step pushes or fails, never both.
    So in every trace the stacks grow, only the last entry can hold an error, every byte from the
    first position up to the last is passed by exactly one step, and the steps are as many as the
    items pushed, and one more if the run made an error. -/
theorem steps_push_or_fail (config : Config) :
    (∀ state : State, state.error = none → state.ip < state.script.size →
      state.script.size < positionBound →
      ∃ stepped, (machine config).step state = .ok stepped ∧ Advances state stepped ∧
        Xor (∃ item, Pushes state stepped item) (Fails state stepped)) ∧
    ∀ state : State, state.script.size < positionBound →
      ∃ entries last pushed, (machine config).trace state = .ok entries ∧
        entries.head? = some { explanation := none, state } ∧ entries.getLast? = some last ∧
        (machine config).evaluate state = .ok last.state ∧
        List.IsChain (fun before after => before.state.stack <:+ after.state.stack) entries ∧
        (∀ entry ∈ entries.dropLast, entry.state.error = none) ∧
        (state.error ≠ none → entries.length = 1) ∧
        (∀ position, (∃ index, InstructionSet.Passed entries index position) ↔
          state.ip ≤ position ∧ position < last.state.ip) ∧
        (∀ position index other, InstructionSet.Passed entries index position →
          InstructionSet.Passed entries other position → index = other) ∧
        last.state.stack = pushed ++ state.stack ∧
        entries.length = 1 + (pushed.length + if last.state.error = state.error then 0 else 1) := by
  refine ⟨fun state fresh inside fits => exists_step (continues_iff.mpr ⟨fresh, inside⟩) fits, ?_⟩
  intro state fits
  obtain ⟨count, final, pushed, ended, stack, counted⟩ := exists_ends config fits
  obtain ⟨entries, traced, length, first, chained, located⟩ := Machine.exists_trace_eq ended
  obtain ⟨last, atEnd, rfl⟩ := Option.map_eq_some_iff.mp located
  have starts : entries.head? = some { explanation := none, state } :=
    List.head?_eq_getElem?.trans first
  have ends : entries.getLast? = some last := by
    rw [List.getLast?_eq_getElem?, length, Nat.add_sub_cancel, atEnd]
  have fresh := fresh_of_mem_dropLast chained
  refine ⟨entries, last, pushed, traced, starts, ends, Machine.evaluate_eq ended,
    stacks_grow fits starts chained, fresh, ?_, (moves config).exists_passed_iff chained starts ends,
    ?_, stack, by omega⟩
  · intro failed
    cases entries with
    | nil => cases starts
    | cons entry later =>
        cases starts
        cases later with
        | nil => rfl
        | cons next later => exact absurd (fresh _ List.mem_cons_self) failed
  · intro position index other passed again
    exact (moves config).passed_unique chained passed again

/-- `OP_1`, a push of two bytes and a reserved byte: three steps, of which two push. -/
theorem two_steps_push_and_one_fails :
    (∃ stepped, (machine {}).step (start #[0x51, 0x02, 0x4c, 0xff, 0x50]) = .ok stepped ∧
      ∃ item, Pushes (start #[0x51, 0x02, 0x4c, 0xff, 0x50]) stepped item) ∧
    ∃ entries, (machine {}).trace (start #[0x51, 0x02, 0x4c, 0xff, 0x50]) = .ok entries ∧
      entries.length = 4 ∧
      ∀ position, (∃ index, InstructionSet.Passed entries index position) ↔
        0 ≤ position ∧ position < 5 := by
  obtain ⟨ofStep, ofTrace⟩ := steps_push_or_fail {}
  constructor
  · obtain ⟨stepped, stepping, _, ⟨pushes, _⟩ | ⟨fails, _⟩⟩ :=
      ofStep (start #[0x51, 0x02, 0x4c, 0xff, 0x50]) rfl (by decide) (by decide)
    · exact ⟨stepped, stepping, pushes⟩
    · cases stepping
      exact absurd rfl fails.error
  · obtain ⟨entries, last, pushed, traced, _, _, evaluated, _, _, _, passed, _, stack, counted⟩ :=
      ofTrace (start #[0x51, 0x02, 0x4c, 0xff, 0x50]) (by decide)
    have executed : (machine {}).evaluate (start #[0x51, 0x02, 0x4c, 0xff, 0x50]) =
        .ok { start #[0x51, 0x02, 0x4c, 0xff, 0x50] with
          ip := 5, stack := [.bytes [0x4c, 0xff], .number 1], error := some .unknownOpcode } := rfl
    rw [Except.ok.inj (evaluated.symm.trans executed)] at passed stack counted
    have items : [.bytes [0x4c, 0xff], .number 1] = pushed ++ [] := stack
    rw [List.append_nil] at items
    rw [← items] at counted
    exact ⟨entries, traced, counted, passed⟩

end ScriptMachine.BitcoinCash
