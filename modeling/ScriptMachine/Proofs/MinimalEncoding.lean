import ScriptMachine.Proofs.Decoding

/-! # Minimal encodings

Every item has a lowest rung, and an instruction of the grammar stands on the lowest rung of its
item with one exception: `OP_PUSHDATA1` may be used for 75 bytes, for which `OP_DATA_75` is lower.
So the items of a program determine the program, unless one of them is 75 bytes long. Where one is,
there are always two programs.
-/

namespace ScriptMachine.BitcoinCash

variable {config : Config}

/-- The instruction on the lowest rung that has room for an item. -/
def lowestRung (config : Config) : Item → Option (Instruction config)
  | .number value =>
      if range : -1 ≤ value ∧ value ≤ 16 then some (.number value range) else none
  | .bytes payload =>
      if direct : 1 ≤ payload.length ∧ payload.length ≤ 75 then some (.direct payload direct)
      else if one : 75 ≤ payload.length ∧ payload.length < 256 then some (.pushData1 payload one)
      else if two : 256 ≤ payload.length ∧ payload.length < 65536 then some (.pushData2 payload two)
      else if four : 65536 ≤ payload.length ∧ payload.length < 4294967296 then
        if enabled : config.enablePushData4 = true then some (.pushData4 payload four enabled)
        else none
      else none

namespace Instruction

theorem lowestRung_item (instruction : Instruction config)
    (other : ∀ payload, instruction.item = .bytes payload → payload.length ≠ 75) :
    lowestRung config instruction.item = some instruction := by
  cases instruction with
  | number value range => simp [item, lowestRung, range]
  | direct payload range => simp only [item, lowestRung, range, and_self, dif_pos]
  | pushData1 payload range =>
      have length : payload.length ≠ 75 := other payload rfl
      rw [item, lowestRung, dif_neg (by omega), dif_pos range]
  | pushData2 payload range =>
      rw [item, lowestRung, dif_neg (by omega), dif_neg (by omega), dif_pos range]
  | pushData4 payload range enabled =>
      rw [item, lowestRung, dif_neg (by omega), dif_neg (by omega), dif_neg (by omega), dif_pos range,
        dif_pos enabled]

theorem eq_of_item_eq {first second : Instruction config} (same : first.item = second.item)
    (other : ∀ payload, first.item = .bytes payload → payload.length ≠ 75) : first = second := by
  have firstLowest := first.lowestRung_item other
  have secondLowest := second.lowestRung_item (same ▸ other)
  rw [same, secondLowest] at firstLowest
  exact (Option.some.inj firstLowest).symm

theorem exists_twin {instruction : Instruction config} {payload : List UInt8}
    (pushed : instruction.item = .bytes payload) (length : payload.length = 75) :
    ∃ twin : Instruction config, twin.item = instruction.item ∧ twin.bytes ≠ instruction.bytes ∧
      twin.bytes.length ≤ instruction.bytes.length + 1 := by
  cases instruction with
  | number value range => cases pushed
  | direct content range =>
      cases pushed
      refine ⟨.pushData1 payload (by omega), rfl, ?_, ?_⟩
      · simp [bytes, length]
      · simp [bytes, Nat.add_comm]
  | pushData1 content range =>
      cases pushed
      refine ⟨.direct payload (by omega), rfl, ?_, ?_⟩
      · simp [bytes, length]
      · simp only [bytes, List.length_cons, List.length_append]
        omega
  | pushData2 content range =>
      cases pushed
      omega
  | pushData4 content range enabled =>
      cases pushed
      omega

end Instruction

namespace Program

theorem eq_of_items_eq {first second : Program config} (same : first.items = second.items)
    (other : ∀ payload, .bytes payload ∈ first.items → payload.length ≠ 75) : first = second := by
  induction first generalizing second with
  | nil => exact (List.map_eq_nil_iff.mp same.symm).symm
  | cons instruction first ih =>
      cases second with
      | nil => cases same
      | cons twin second =>
          obtain ⟨sameItem, sameItems⟩ := List.cons.inj same
          have equal : instruction = twin := by
            refine Instruction.eq_of_item_eq sameItem fun payload pushed => other payload ?_
            rw [← pushed]
            exact List.mem_cons_self
          rw [equal, ih sameItems fun payload pushed => other payload (List.mem_cons_of_mem _ pushed)]

theorem exists_twin {program : Program config} {payload : List UInt8}
    (pushed : .bytes payload ∈ program.items) (length : payload.length = 75) :
    ∃ twin : Program config, twin.items = program.items ∧ twin.bytes ≠ program.bytes ∧
      twin.bytes.length ≤ program.bytes.length + 1 := by
  obtain ⟨instruction, member, pushes⟩ := List.mem_map.mp pushed
  obtain ⟨before, after, rfl⟩ := List.append_of_mem member
  obtain ⟨twin, sameItem, different, longer⟩ := Instruction.exists_twin pushes length
  refine ⟨before ++ twin :: after, ?_, ?_, ?_⟩
  · simp [items, sameItem]
  · simpa [bytes] using different
  · simp only [bytes, List.flatMap_append, List.flatMap_cons, List.length_append]
    omega

end Program

/-- An accepted script is the only accepted script with its final stack, unless an item on that
    stack is 75 bytes long. -/
theorem encoding_unique_iff (config : Config) (script : Script) (final : State)
    (fits : script.size + 1 < positionBound)
    (evaluated : (machine config).evaluate (start script) = .ok final)
    (accepted : final.error = none) :
    (∀ other otherFinal, other.size < positionBound →
      (machine config).evaluate (start other) = .ok otherFinal → otherFinal.error = none →
      otherFinal.stack = final.stack → other = script) ↔
    ∀ payload, .bytes payload ∈ final.stack → payload.length ≠ 75 := by
  obtain ⟨program, whole, rfl⟩ := (accepted_iff (Nat.lt_of_succ_lt fits)).mp ⟨evaluated, accepted⟩
  have onStack (item : Item) : item ∈ (consume (start script) program).stack ↔ item ∈ program.items := by
    rw [← reverse_stack_consume_start script program, List.mem_reverse]
  simp only [onStack]
  constructor
  · -- A program with 75 bytes on its stack has a twin, which would have to be the same script.
    intro unique payload pushed length
    obtain ⟨twin, sameItems, different, longer⟩ := Program.exists_twin pushed length
    have size : script.size = program.bytes.length := by rw [← whole, Array.length_toList]
    have short : twin.bytes.toArray.size < positionBound := by
      rw [List.size_toArray]
      omega
    have same := unique twin.bytes.toArray _ short (evaluate_program short rfl) rfl
      (by simp [consume, sameItems, start, State.start])
    exact different (by rw [← whole, ← same])
  · intro noTwin other otherFinal short otherEvaluated otherAccepted sameStack
    obtain ⟨twin, otherWhole, rfl⟩ := (accepted_iff short).mp ⟨otherEvaluated, otherAccepted⟩
    have sameItems : program.items = twin.items := by
      rw [← reverse_stack_consume_start script, ← reverse_stack_consume_start other, sameStack]
    apply Array.toList_inj.mp
    rw [whole, otherWhole, Program.eq_of_items_eq sameItems noTwin]

/-- `OP_1` and a push of two bytes have no other encoding. -/
theorem encoding_unique_two_pushes :
    (machine {}).evaluate (start #[0x51, 0x02, 0x4c, 0xff]) = .ok
      { start #[0x51, 0x02, 0x4c, 0xff] with ip := 4, stack := [.bytes [0x4c, 0xff], .number 1] } ∧
    ∀ other final, other.size < positionBound → (machine {}).evaluate (start other) = .ok final →
      final.error = none → final.stack = [.bytes [0x4c, 0xff], .number 1] →
      other = #[0x51, 0x02, 0x4c, 0xff] := by
  have evaluated : (machine {}).evaluate (start #[0x51, 0x02, 0x4c, 0xff]) = .ok
      { start #[0x51, 0x02, 0x4c, 0xff] with ip := 4, stack := [.bytes [0x4c, 0xff], .number 1] } := rfl
  refine ⟨evaluated, (encoding_unique_iff {} _ _ (by decide) evaluated rfl).mpr ?_⟩
  intro payload pushed
  have same : payload = [0x4c, 0xff] := by simpa using pushed
  rw [same]
  decide

/-- `OP_PUSHDATA1` is accepted for 75 bytes, which `OP_DATA_75` pushes as well. -/
theorem two_encodings_of_seventy_five_bytes :
    ∃ first second : State,
      (machine {}).evaluate (start (0x4b :: List.replicate 75 0x2a).toArray) = .ok first ∧
      (machine {}).evaluate (start (0x4c :: 0x4b :: List.replicate 75 0x2a).toArray) = .ok second ∧
      first.error = none ∧ second.error = none ∧ first.stack = second.stack ∧
      first.script ≠ second.script := by
  let direct : Program {} := [.direct (List.replicate 75 0x2a) (by decide)]
  let variableLength : Program {} := [.pushData1 (List.replicate 75 0x2a) (by decide)]
  exact ⟨_, _, evaluate_program (by decide) (show _ = direct.bytes from rfl),
    evaluate_program (by decide) (show _ = variableLength.bytes from rfl), rfl, rfl, rfl, by decide⟩

end ScriptMachine.BitcoinCash
