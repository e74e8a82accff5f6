import ScriptMachine.Proofs.Decoding

/-! # Round trip

The rungs leave no length out, from one byte up to the most that the highest rung can hold. So every
list of items that fit on the ladder can be written as a script, each item on its lowest rung, and
evaluation gives the list back. No other items can come onto a stack.
-/

namespace ScriptMachine.BitcoinCash

variable {config : Config}

/-- Data of this length or more is too long for every rung. -/
def ladderEnd (config : Config) : Nat :=
  if config.enablePushData4 then 4294967296 else 65536

/-- The item fits on the ladder. -/
def Pushable (config : Config) : Item → Prop
  | .number value => -1 ≤ value ∧ value ≤ 16
  | .bytes payload => 1 ≤ payload.length ∧ payload.length < ladderEnd config

instance : DecidablePred (Pushable config)
  | .number value => inferInstanceAs (Decidable (-1 ≤ value ∧ value ≤ 16))
  | .bytes payload =>
      inferInstanceAs (Decidable (1 ≤ payload.length ∧ payload.length < ladderEnd config))

/-- The bytes that push an item from its lowest rung. -/
def encodeItem : Item → List UInt8
  | .number value => [numberOpcode value]
  | .bytes payload =>
      if payload.length ≤ 75 then UInt8.ofNat payload.length :: payload
      else if payload.length ≤ 255 then 0x4c :: (lengthField 1 payload.length ++ payload)
      else if payload.length ≤ 65535 then 0x4d :: (lengthField 2 payload.length ++ payload)
      else 0x4e :: (lengthField 4 payload.length ++ payload)

def encode (items : List Item) : List UInt8 :=
  items.flatMap encodeItem

theorem Pushable.exists_instruction {item : Item} (pushable : Pushable config item) :
    ∃ instruction : Instruction config, instruction.item = item ∧
      instruction.bytes = encodeItem item := by
  cases item with
  | number value => exact ⟨.number value pushable, rfl, rfl⟩
  | bytes payload =>
      obtain ⟨nonempty, below⟩ := pushable
      unfold ladderEnd at below
      rw [encodeItem]
      by_cases direct : payload.length ≤ 75
      · exact ⟨.direct payload ⟨nonempty, direct⟩, rfl, (if_pos direct).symm⟩
      rw [if_neg direct]
      by_cases one : payload.length ≤ 255
      · exact ⟨.pushData1 payload (by omega), rfl, (if_pos one).symm⟩
      rw [if_neg one]
      by_cases two : payload.length ≤ 65535
      · exact ⟨.pushData2 payload (by omega), rfl, (if_pos two).symm⟩
      rw [if_neg two]
      by_cases enabled : config.enablePushData4 = true
      · rw [if_pos enabled] at below
        exact ⟨.pushData4 payload (by omega) enabled, rfl, rfl⟩
      · rw [if_neg enabled] at below
        omega

theorem exists_program {items : List Item} (pushable : ∀ item ∈ items, Pushable config item) :
    ∃ program : Program config, program.items = items ∧ program.bytes = encode items := by
  induction items with
  | nil => exact ⟨[], rfl, rfl⟩
  | cons item items ih =>
      obtain ⟨first, others⟩ := List.forall_mem_cons.mp pushable
      obtain ⟨instruction, sameItem, sameBytes⟩ := first.exists_instruction
      obtain ⟨program, sameItems, sameRest⟩ := ih others
      refine ⟨instruction :: program, ?_, ?_⟩
      · rw [← sameItem, ← sameItems]
        rfl
      · rw [encode, List.flatMap_cons, ← sameBytes, ← encode, ← sameRest]
        rfl

theorem Instruction.pushable_item (instruction : Instruction config) :
    Pushable config instruction.item := by
  have long : 65536 ≤ ladderEnd config := by
    unfold ladderEnd
    split <;> omega
  cases instruction with
  | number value range => exact range
  | direct payload range => exact ⟨range.1, by omega⟩
  | pushData1 payload range => exact ⟨by omega, by omega⟩
  | pushData2 payload range => exact ⟨by omega, by omega⟩
  | pushData4 payload range enabled =>
      refine ⟨by omega, ?_⟩
      rw [ladderEnd, if_pos enabled]
      exact range.2

/-- Evaluation undoes the encoding of every list of items that fit on the ladder, and leaves nothing
    else on a stack. -/
theorem evaluate_encode (config : Config) :
    (∀ items : List Item, (∀ item ∈ items, Pushable config item) →
      (encode items).length < positionBound →
      ∃ final, (machine config).evaluate (start (encode items).toArray) = .ok final ∧
        final.error = none ∧ final.ip = (encode items).length ∧ final.stack.reverse = items) ∧
    ∀ (script : Script) (final : State), script.size < positionBound →
      (machine config).evaluate (start script) = .ok final → final.error = none →
      ∀ item ∈ final.stack, Pushable config item := by
  constructor
  · intro items pushable fits
    obtain ⟨program, sameItems, sameBytes⟩ := exists_program pushable
    have whole : (encode items).toArray.toList = program.bytes := sameBytes.symm
    refine ⟨_, evaluate_program (by simpa using fits) whole, rfl, ?_, ?_⟩
    · rw [ip_consume_start, sameBytes]
    · rw [reverse_stack_consume_start, sameItems]
  · intro script final fits evaluated accepted item member
    obtain ⟨program, whole, rfl⟩ := (accepted_iff fits).mp ⟨evaluated, accepted⟩
    rw [← List.mem_reverse, reverse_stack_consume_start] at member
    obtain ⟨instruction, _, rfl⟩ := List.mem_map.mp member
    exact instruction.pushable_item

/-- Minus one and 76 bytes, one more than a direct push can hold, all of them opcodes themselves. -/
theorem evaluate_encode_seventy_six_bytes :
    (∃ final, (machine {}).evaluate
        (start (encode [.number (-1), .bytes (List.replicate 76 0x4c)]).toArray) = .ok final ∧
      final.error = none ∧ final.ip = 79 ∧
      final.stack.reverse = [.number (-1), .bytes (List.replicate 76 0x4c)]) ∧
    ∀ item ∈ [.bytes [0xab], .number 16], Pushable {} item := by
  obtain ⟨encoded, decoded⟩ := evaluate_encode {}
  exact ⟨encoded [.number (-1), .bytes (List.replicate 76 0x4c)] (by decide) (by decide),
    decoded #[0x60, 0x01, 0xab] _ (by decide) rfl rfl⟩

end ScriptMachine.BitcoinCash
