import Mathlib.Tactic.IntervalCases
import ScriptMachine.Proofs.PushGrammar

/-! # Reading from the front

A primitive reads a script at a position. What it reads depends only on the bytes from that position
on, and this is made explicit here by a second definition of reading that sees nothing else. Bytes
in front of which the language reads an item are then the bytes of an instruction of the grammar
followed by anything, and all other bytes give the error that the grammar has a reason for.
-/

namespace ScriptMachine

namespace Primitive

/-- What the primitive takes from the front of some bytes: the item to push, and the number of bytes
    that make it up. -/
def readFront : Primitive → List UInt8 → Except EvalError (Item × Nat)
  | .number value, _ => .ok (.number value, 0)
  | .bytes count, rest =>
      if count ≤ rest.length then .ok (.bytes (rest.take count), count) else .error .malformedPush
  | .sized width minimum, rest =>
      let length := littleEndian (rest.take width.byteCount)
      if width.byteCount + length ≤ rest.length then
        if length < minimum then .error .nonMinimalPush
        else .ok (.bytes ((rest.drop width.byteCount).take length), width.byteCount + length)
      else .error .malformedPush
  | .refused, _ => .error .nonMinimalPush
  | .undefined, _ => .error .unknownOpcode

theorem take_eq {script : Script} {position : Nat} (inside : position ≤ script.size) (count : Nat) :
    take script position count =
      if count ≤ (script.toList.drop position).length then
        .ok ((script.toList.drop position).take count)
      else .error .malformedPush := by
  have room : position + count ≤ script.size ↔ count ≤ (script.toList.drop position).length := by
    simp only [List.length_drop, Array.length_toList]
    omega
  simp only [take, room, Script.slice_eq]

theorem read_eq (primitive : Primitive) {script : Script} {position : Nat}
    (inside : position ≤ script.size) :
    primitive.read script position =
      (primitive.readFront (script.toList.drop position)).map
        fun (item, used) => (item, position + used) := by
  cases primitive with
  | number value => rfl
  | bytes count =>
      rw [read, take_eq inside, readFront]
      split <;> rfl
  | sized width minimum =>
      rw [read, take_eq inside, readFront]
      generalize ahead : script.toList.drop position = rest
      have total : rest.length = script.size - position := by simp [← ahead]
      by_cases field : width.byteCount ≤ rest.length
      · have further : position + width.byteCount ≤ script.size := by omega
        have behind : script.toList.drop (position + width.byteCount) =
            rest.drop width.byteCount := by rw [← ahead, List.drop_drop]
        have payload : littleEndian (rest.take width.byteCount) ≤ (rest.drop width.byteCount).length ↔
            width.byteCount + littleEndian (rest.take width.byteCount) ≤ rest.length := by
          rw [List.length_drop]
          omega
        simp only [field, if_true, bind, Except.bind, take_eq further, behind, payload]
        by_cases complete : width.byteCount + littleEndian (rest.take width.byteCount) ≤ rest.length
        · simp only [complete, if_true]
          split
          · rfl
          · simp only [Except.map, Nat.add_assoc]
        · simp only [complete, if_false, Except.map]
      · have missing : ¬ width.byteCount + littleEndian (rest.take width.byteCount) ≤ rest.length := by
          omega
        simp only [field, missing, if_false, bind, Except.bind, Except.map]
  | refused => rfl
  | undefined => rfl

theorem perform_eq {Context : Type} (primitive : Primitive) {state : State Item EvalError Context}
    (inside : state.ip ≤ state.script.size) :
    primitive.perform state =
      match primitive.readFront (state.script.toList.drop state.ip) with
      | .ok (item, used) => { state with ip := state.ip + used, stack := item :: state.stack }
      | .error error => { state with error := some error } := by
  rw [perform, read_eq primitive inside]
  cases primitive.readFront (state.script.toList.drop state.ip) <;> rfl

theorem readFront_sized {width : Width} {payload : List UInt8}
    (small : payload.length < 256 ^ width.byteCount) (minimum : Nat) (rest : List UInt8) :
    (sized width minimum).readFront
        (BitcoinCash.lengthField width.byteCount payload.length ++ payload ++ rest) =
      if payload.length < minimum then .error .nonMinimalPush
      else .ok (.bytes payload, width.byteCount + payload.length) := by
  have field : (BitcoinCash.lengthField width.byteCount payload.length ++ payload ++ rest).take
      width.byteCount = BitcoinCash.lengthField width.byteCount payload.length := by
    rw [List.append_assoc, List.take_left' (BitcoinCash.length_lengthField _ _)]
  have behind : (BitcoinCash.lengthField width.byteCount payload.length ++ payload ++ rest).drop
      width.byteCount = payload ++ rest := by
    rw [List.append_assoc, List.drop_left' (BitcoinCash.length_lengthField _ _)]
  have complete : width.byteCount + payload.length ≤
      (BitcoinCash.lengthField width.byteCount payload.length ++ payload ++ rest).length := by
    simp
  simp only [readFront, field, behind, BitcoinCash.littleEndian_lengthField small, complete, if_true,
    List.take_left]

theorem sized_cases (width : Width) (bytes : List UInt8) :
    (∃ payload rest, payload.length < 256 ^ width.byteCount ∧
      bytes = BitcoinCash.lengthField width.byteCount payload.length ++ payload ++ rest) ∨
    ∀ minimum, (sized width minimum).readFront bytes = .error .malformedPush := by
  by_cases complete : width.byteCount + littleEndian (bytes.take width.byteCount) ≤ bytes.length
  · left
    let field := bytes.take width.byteCount
    have fieldLength : field.length = width.byteCount := by
      simp only [field, List.length_take]
      omega
    let payload := (bytes.drop width.byteCount).take (littleEndian field)
    have payloadLength : payload.length = littleEndian field := by
      simp only [payload, List.length_take, List.length_drop]
      exact Nat.min_eq_left (by simp only [field]; omega)
    refine ⟨payload, (bytes.drop width.byteCount).drop (littleEndian field), ?_, ?_⟩
    · rw [payloadLength, ← fieldLength]
      exact BitcoinCash.littleEndian_lt field
    · have written : BitcoinCash.lengthField width.byteCount payload.length = field := by
        rw [payloadLength, ← fieldLength, BitcoinCash.lengthField_littleEndian]
      rw [written, List.append_assoc, List.take_append_drop, List.take_append_drop]
  · right
    intro minimum
    simp only [readFront, complete, if_false]

end Primitive

namespace BitcoinCash

variable {config : Config}

theorem toNat_numberOpcode {value : Int} (range : -1 ≤ value ∧ value ≤ 16) :
    (numberOpcode value).toNat = if value = 0 then 0 else (0x50 + value).toNat := by
  unfold numberOpcode
  split
  · rfl
  · rw [UInt8.toNat_ofNat']
    omega

/-- What each byte stands for. -/
inductive Meaning (config : Config) : UInt8 → Primitive → Prop where
  | number (value : Int) (range : -1 ≤ value ∧ value ≤ 16) :
      Meaning config (numberOpcode value) (.number value)
  | direct (opcode : UInt8) (range : 1 ≤ opcode.toNat ∧ opcode.toNat ≤ 75) :
      Meaning config opcode (.bytes opcode.toNat)
  | pushData1 : Meaning config 0x4c (.sized .one 75)
  | pushData2 : Meaning config 0x4d (.sized .two 256)
  | pushData4 (enabled : config.enablePushData4 = true) : Meaning config 0x4e (.sized .four 65536)
  | disabled (disabled : config.enablePushData4 = false) : Meaning config 0x4e .refused
  | reserved : Meaning config 0x50 .undefined
  | above (opcode : UInt8) (above : 0x60 < opcode) : Meaning config opcode .undefined

theorem exists_meaning (config : Config) (opcode : UInt8) :
    ∃ primitive, Meaning config opcode primitive := by
  have bound := opcode.toNat_lt
  have numbered (value : Int) (range : -1 ≤ value ∧ value ≤ 16)
      (same : opcode.toNat = if value = 0 then 0 else (0x50 + value).toNat) :
      ∃ primitive, Meaning config opcode primitive := by
    obtain rfl : opcode = numberOpcode value :=
      UInt8.toNat_inj.mp (same.trans (toNat_numberOpcode range).symm)
    exact ⟨_, .number value range⟩
  by_cases direct : 1 ≤ opcode.toNat ∧ opcode.toNat ≤ 75
  · exact ⟨_, .direct opcode direct⟩
  by_cases above : 96 < opcode.toNat
  · exact ⟨_, .above opcode (UInt8.lt_iff_toNat_lt.mpr above)⟩
  obtain zero | rfl | rfl | rfl | rfl | small : opcode.toNat = 0 ∨ opcode = 0x4c ∨
      opcode = 0x4d ∨ opcode = 0x4e ∨ opcode = 0x50 ∨ opcode.toNat = 79 ∨ 81 ≤ opcode.toNat := by
    simp only [← UInt8.toNat_inj, UInt8.reduceToNat]
    omega
  · exact numbered 0 (by decide) zero
  · exact ⟨_, .pushData1⟩
  · exact ⟨_, .pushData2⟩
  · cases enabled : config.enablePushData4 with
    | true => exact ⟨_, .pushData4 enabled⟩
    | false => exact ⟨_, .disabled enabled⟩
  · exact ⟨_, .reserved⟩
  · refine numbered (opcode.toNat - 80) (by omega) ?_
    split <;> omega

theorem Meaning.primitive_eq {opcode : UInt8} {primitive : Primitive}
    (meaning : Meaning config opcode primitive) : (language config).primitive opcode = primitive := by
  simp only [PushLanguage.primitive, language, table]
  cases meaning with
  | number value range =>
      obtain ⟨low, high⟩ := range
      interval_cases value <;> rfl
  | direct opcode range =>
      have noNumber : numberTable opcode = none := by
        simp only [numberTable, ← UInt8.toNat_inj, UInt8.le_iff_toNat_le, UInt8.reduceToNat]
        rw [if_neg (by omega), if_neg (by omega), if_neg (by omega)]
      have constant : constantTable opcode = some (.bytes opcode.toNat) := by
        simp only [constantTable, UInt8.le_iff_toNat_le, UInt8.reduceToNat]
        rw [if_pos range]
      simp [noNumber, constant]
  | pushData1 => rfl
  | pushData2 => rfl
  | pushData4 enabled =>
      simp only [variableTable, enabled]
      rfl
  | disabled disabled =>
      simp only [variableTable, disabled]
      rfl
  | reserved => rfl
  | above opcode above =>
      have above : 0x60 < opcode.toNat := UInt8.lt_iff_toNat_lt.mp above
      have noNumber : numberTable opcode = none := by
        simp only [numberTable, ← UInt8.toNat_inj, UInt8.le_iff_toNat_le, UInt8.reduceToNat]
        rw [if_neg (by omega), if_neg (by omega), if_neg (by omega)]
      have noConstant : constantTable opcode = none := by
        simp only [constantTable, UInt8.le_iff_toNat_le, UInt8.reduceToNat]
        rw [if_neg (by omega)]
      have noVariable : variableTable config opcode = none := by
        simp only [variableTable, ← UInt8.toNat_inj, UInt8.reduceToNat]
        rw [if_neg (by omega), if_neg (by omega), if_neg (by omega)]
      simp [noNumber, noConstant, noVariable]

/-- What the language reads in front of some bytes: the item to push, and the number of bytes that
    make up the instruction. -/
def readInstruction (config : Config) : List UInt8 → Except EvalError (Item × Nat)
  | [] => .error .malformedPush
  | opcode :: rest =>
      (((language config).primitive opcode).readFront rest).map fun (item, used) => (item, used + 1)

theorem readInstruction_cons {opcode : UInt8} {primitive : Primitive}
    (meaning : Meaning config opcode primitive) (rest : List UInt8) :
    readInstruction config (opcode :: rest) =
      (primitive.readFront rest).map fun (item, used) => (item, used + 1) := by
  rw [readInstruction, meaning.primitive_eq]

section Sized

variable {opcode : UInt8} {width : Width} {minimum : Nat} {payload : List UInt8}

theorem readInstruction_sized (meaning : Meaning config opcode (.sized width minimum))
    (small : payload.length < 256 ^ width.byteCount) (rest : List UInt8) :
    readInstruction config (opcode :: (lengthField width.byteCount payload.length ++ payload ++ rest)) =
      if payload.length < minimum then .error .nonMinimalPush
      else .ok (.bytes payload, width.byteCount + payload.length + 1) := by
  rw [readInstruction_cons meaning, Primitive.readFront_sized small]
  split <;> rfl

theorem Meaning.sized_cases (meaning : Meaning config opcode (.sized width minimum))
    (bytes : List UInt8) :
    (∃ payload rest, payload.length < 256 ^ width.byteCount ∧
      bytes = lengthField width.byteCount payload.length ++ payload ++ rest) ∨
    readInstruction config (opcode :: bytes) = .error .malformedPush := by
  obtain complete | missing := Primitive.sized_cases width bytes
  · exact .inl complete
  · right
    rw [readInstruction_cons meaning, missing]
    rfl

end Sized

theorem readInstruction_bytes (instruction : Instruction config) (rest : List UInt8) :
    readInstruction config (instruction.bytes ++ rest) =
      .ok (instruction.item, instruction.bytes.length) := by
  have sized {opcode : UInt8} {width : Width} {minimum : Nat} {payload : List UInt8}
      (meaning : Meaning config opcode (.sized width minimum))
      (range : minimum ≤ payload.length ∧ payload.length < 256 ^ width.byteCount) :
      readInstruction config (opcode :: (lengthField width.byteCount payload.length ++ payload) ++ rest) =
        .ok (.bytes payload, (opcode :: (lengthField width.byteCount payload.length ++ payload)).length) := by
    rw [List.cons_append, readInstruction_sized meaning range.2, if_neg (by omega)]
    simp
  cases instruction with
  | number value range =>
      rw [Instruction.bytes, List.cons_append, readInstruction_cons (.number value range)]
      rfl
  | direct payload range =>
      have same : (UInt8.ofNat payload.length).toNat = payload.length := by
        rw [UInt8.toNat_ofNat']
        omega
      rw [Instruction.bytes, List.cons_append,
        readInstruction_cons (.direct (UInt8.ofNat payload.length) (by omega)), same]
      simp [Primitive.readFront, Except.map, Instruction.item]
  | pushData1 payload range => exact sized .pushData1 range
  | pushData2 payload range => exact sized .pushData2 range
  | pushData4 payload range enabled => exact sized (.pushData4 enabled) range

theorem Unassigned.readInstruction_eq {bytes : List UInt8} (unassigned : Unassigned bytes) :
    readInstruction config bytes = .error .unknownOpcode := by
  cases unassigned with
  | reserved rest => rw [readInstruction_cons .reserved]; rfl
  | above opcode rest above => rw [readInstruction_cons (.above opcode above)]; rfl

theorem NonMinimal.readInstruction_eq {bytes : List UInt8} (nonMinimal : NonMinimal config bytes) :
    readInstruction config bytes = .error .nonMinimalPush := by
  cases nonMinimal with
  | pushData1 payload rest short =>
      exact (readInstruction_sized .pushData1 (Nat.lt_trans short (by decide)) rest).trans
        (if_pos short)
  | pushData2 payload rest short =>
      exact (readInstruction_sized .pushData2 (Nat.lt_trans short (by decide)) rest).trans
        (if_pos short)
  | pushData4 payload rest short enabled =>
      exact (readInstruction_sized (.pushData4 enabled) (Nat.lt_trans short (by decide)) rest).trans
        (if_pos short)
  | disabled rest disabled => rw [readInstruction_cons (.disabled disabled)]; rfl

theorem readInstruction_cases (config : Config) (bytes : List UInt8) :
    (∃ (instruction : Instruction config) (rest : List UInt8), bytes = instruction.bytes ++ rest) ∨
    Unassigned bytes ∨ NonMinimal config bytes ∨
    readInstruction config bytes = .error .malformedPush := by
  cases bytes with
  | nil => exact .inr (.inr (.inr rfl))
  | cons opcode rest =>
      obtain ⟨primitive, meaning⟩ := exists_meaning config opcode
      cases meaning with
      | number value range => exact .inl ⟨.number value range, rest, rfl⟩
      | direct opcode range =>
          by_cases enough : opcode.toNat ≤ rest.length
          · have length : (rest.take opcode.toNat).length = opcode.toNat := by simp [enough]
            refine .inl ⟨.direct (rest.take opcode.toNat) (by omega), rest.drop opcode.toNat, ?_⟩
            simp [Instruction.bytes, length]
          · refine .inr (.inr (.inr ?_))
            rw [readInstruction_cons (.direct opcode range), Primitive.readFront, if_neg enough]
            rfl
      | pushData1 =>
          obtain ⟨payload, rest, small, rfl⟩ | malformed := Meaning.pushData1.sized_cases rest
          · by_cases short : payload.length < 75
            · exact .inr (.inr (.inl (.pushData1 payload rest short)))
            · exact .inl ⟨.pushData1 payload ⟨by omega, small⟩, rest, rfl⟩
          · exact .inr (.inr (.inr malformed))
      | pushData2 =>
          obtain ⟨payload, rest, small, rfl⟩ | malformed := Meaning.pushData2.sized_cases rest
          · by_cases short : payload.length < 256
            · exact .inr (.inr (.inl (.pushData2 payload rest short)))
            · exact .inl ⟨.pushData2 payload ⟨by omega, small⟩, rest, rfl⟩
          · exact .inr (.inr (.inr malformed))
      | pushData4 enabled =>
          obtain ⟨payload, rest, small, rfl⟩ | malformed := (Meaning.pushData4 enabled).sized_cases rest
          · by_cases short : payload.length < 65536
            · exact .inr (.inr (.inl (.pushData4 payload rest short enabled)))
            · exact .inl ⟨.pushData4 payload ⟨by omega, small⟩ enabled, rest, rfl⟩
          · exact .inr (.inr (.inr malformed))
      | disabled disabled => exact .inr (.inr (.inl (.disabled rest disabled)))
      | reserved => exact .inr (.inl (.reserved rest))
      | above opcode above => exact .inr (.inl (.above opcode rest above))

theorem exists_instruction_of_readInstruction {bytes : List UInt8} {read : Item × Nat}
    (reading : readInstruction config bytes = .ok read) :
    ∃ (instruction : Instruction config) (rest : List UInt8), bytes = instruction.bytes ++ rest := by
  obtain front | unassigned | nonMinimal | malformed := readInstruction_cases config bytes
  · exact front
  · cases reading.symm.trans unassigned.readInstruction_eq
  · cases reading.symm.trans nonMinimal.readInstruction_eq
  · cases reading.symm.trans malformed

theorem Unassigned.append {bytes : List UInt8} (unassigned : Unassigned bytes) (more : List UInt8) :
    Unassigned (bytes ++ more) := by
  cases unassigned with
  | reserved rest => exact .reserved _
  | above opcode rest above => exact .above opcode _ above

theorem NonMinimal.append {bytes : List UInt8} (nonMinimal : NonMinimal config bytes)
    (more : List UInt8) : NonMinimal config (bytes ++ more) := by
  cases nonMinimal with
  | pushData1 payload rest short =>
      rw [List.cons_append, List.append_assoc]
      exact .pushData1 payload (rest ++ more) short
  | pushData2 payload rest short =>
      rw [List.cons_append, List.append_assoc]
      exact .pushData2 payload (rest ++ more) short
  | pushData4 payload rest short enabled =>
      rw [List.cons_append, List.append_assoc]
      exact .pushData4 payload (rest ++ more) short enabled
  | disabled rest disabled => exact .disabled (rest ++ more) disabled

/-- Only missing bytes can be mended by further bytes. -/
theorem readInstruction_append {bytes : List UInt8} {error : EvalError}
    (failing : readInstruction config bytes = .error error) (lasting : error ≠ .malformedPush)
    (more : List UInt8) : readInstruction config (bytes ++ more) = .error error := by
  obtain ⟨instruction, after, rfl⟩ | unassigned | nonMinimal | malformed :=
    readInstruction_cases config bytes
  · rw [readInstruction_bytes] at failing
    cases failing
  · rw [unassigned.readInstruction_eq] at failing
    rw [(unassigned.append more).readInstruction_eq, failing]
  · rw [nonMinimal.readInstruction_eq] at failing
    rw [(nonMinimal.append more).readInstruction_eq, failing]
  · rw [malformed] at failing
    exact absurd (Except.error.inj failing).symm lasting

end BitcoinCash

end ScriptMachine
