import Mathlib.Algebra.Group.Nat.Defs
import Mathlib.Tactic.Common
import ScriptMachine.BitcoinCash

/-! # The push grammar

The scripts that push without an error, described by what they are made of and not by how they are
run. An instruction carries what it pushes and the range in which its own opcode may be used, so
that only instructions of the grammar can be written down. A script is a program when it is the
bytes of some instructions, one after the other.

The grammar leaves one length to two instructions: 75 bytes can stand behind `OP_DATA_75` and behind
`OP_PUSHDATA1`.
-/

namespace ScriptMachine.BitcoinCash

/-- A length in `width` bytes, low byte first. -/
def lengthField : Nat → Nat → List UInt8
  | 0, _ => []
  | width + 1, length => UInt8.ofNat length :: lengthField width (length / 256)

/-- The byte that pushes a number from -1 to 16. -/
def numberOpcode (value : Int) : UInt8 :=
  if value = 0 then 0x00 else UInt8.ofNat (0x50 + value).toNat

/-- One instruction of the grammar. -/
inductive Instruction (config : Config) where
  | number (value : Int) (range : -1 ≤ value ∧ value ≤ 16)
  | direct (payload : List UInt8) (range : 1 ≤ payload.length ∧ payload.length ≤ 75)
  | pushData1 (payload : List UInt8) (range : 75 ≤ payload.length ∧ payload.length < 256)
  | pushData2 (payload : List UInt8) (range : 256 ≤ payload.length ∧ payload.length < 65536)
  | pushData4 (payload : List UInt8) (range : 65536 ≤ payload.length ∧ payload.length < 4294967296)
      (enabled : config.enablePushData4 = true)

namespace Instruction

variable {config : Config}

/-- The instruction as it stands in a script. -/
def bytes : Instruction config → List UInt8
  | .number value _ => [numberOpcode value]
  | .direct payload _ => UInt8.ofNat payload.length :: payload
  | .pushData1 payload _ => 0x4c :: (lengthField 1 payload.length ++ payload)
  | .pushData2 payload _ => 0x4d :: (lengthField 2 payload.length ++ payload)
  | .pushData4 payload _ _ => 0x4e :: (lengthField 4 payload.length ++ payload)

/-- What the instruction pushes. -/
def item : Instruction config → Item
  | .number value _ => .number value
  | .direct payload _ | .pushData1 payload _ | .pushData2 payload _ | .pushData4 payload _ _ =>
      .bytes payload

theorem bytes_ne_nil (instruction : Instruction config) : instruction.bytes ≠ [] := by
  cases instruction <;> exact List.cons_ne_nil _ _

end Instruction

/-- Instructions that are executed one after the other. -/
abbrev Program (config : Config) := List (Instruction config)

namespace Program

variable {config : Config}

def bytes (program : Program config) : List UInt8 :=
  program.flatMap Instruction.bytes

/-- What the program pushes, in the order in which it is pushed. -/
def items (program : Program config) : List Item :=
  program.map Instruction.item

theorem bytes_cons (instruction : Instruction config) (later : Program config) :
    bytes (instruction :: later) = instruction.bytes ++ later.bytes :=
  List.flatMap_cons

theorem bytes_append (first second : Program config) :
    bytes (first ++ second) = first.bytes ++ second.bytes :=
  List.flatMap_append

end Program

/-- Bytes are left, and no instruction stands in front of them. -/
def Stuck (config : Config) (rest : List UInt8) : Prop :=
  rest ≠ [] ∧ ∀ instruction : Instruction config, ¬ instruction.bytes <+: rest

/-- The first byte belongs to no instruction of the grammar. -/
inductive Unassigned : List UInt8 → Prop where
  | reserved (rest : List UInt8) : Unassigned (0x50 :: rest)
  | above (opcode : UInt8) (rest : List UInt8) (above : 0x60 < opcode) : Unassigned (opcode :: rest)

/-- The first byte is that of a push with a length field which may not be used here: the field and
    the payload are complete but a lower rung has room for the payload, or the rung is switched
    off. -/
inductive NonMinimal (config : Config) : List UInt8 → Prop where
  | pushData1 (payload rest : List UInt8) (short : payload.length < 75) :
      NonMinimal config (0x4c :: (lengthField 1 payload.length ++ payload ++ rest))
  | pushData2 (payload rest : List UInt8) (short : payload.length < 256) :
      NonMinimal config (0x4d :: (lengthField 2 payload.length ++ payload ++ rest))
  | pushData4 (payload rest : List UInt8) (short : payload.length < 65536)
      (enabled : config.enablePushData4 = true) :
      NonMinimal config (0x4e :: (lengthField 4 payload.length ++ payload ++ rest))
  | disabled (rest : List UInt8) (disabled : config.enablePushData4 = false) :
      NonMinimal config (0x4e :: rest)

/-! ## Length fields -/

theorem littleEndian_cons (low : UInt8) (high : List UInt8) :
    littleEndian (low :: high) = low.toNat + 256 * littleEndian high :=
  rfl

theorem littleEndian_lt (field : List UInt8) : littleEndian field < 256 ^ field.length := by
  induction field with
  | nil => exact Nat.one_pos
  | cons low high ih =>
      have := low.toNat_lt
      rw [littleEndian_cons, List.length_cons, Nat.pow_succ]
      omega

@[simp]
theorem length_lengthField (width length : Nat) : (lengthField width length).length = width := by
  induction width generalizing length with
  | zero => rfl
  | succ width ih => simp [lengthField, ih]

theorem littleEndian_lengthField {width length : Nat} (small : length < 256 ^ width) :
    littleEndian (lengthField width length) = length := by
  induction width generalizing length with
  | zero =>
      obtain rfl : length = 0 := by simpa using small
      rfl
  | succ width ih =>
      have smaller : length / 256 < 256 ^ width :=
        Nat.div_lt_of_lt_mul (by rwa [Nat.mul_comm, ← Nat.pow_succ])
      rw [lengthField, littleEndian_cons, ih smaller, UInt8.toNat_ofNat']
      omega

theorem lengthField_littleEndian (field : List UInt8) :
    lengthField field.length (littleEndian field) = field := by
  induction field with
  | nil => rfl
  | cons low high ih =>
      have := low.toNat_lt
      have first : UInt8.ofNat (low.toNat + 256 * littleEndian high) = low := by
        apply UInt8.toNat_inj.mp
        rw [UInt8.toNat_ofNat']
        omega
      have others : (low.toNat + 256 * littleEndian high) / 256 = littleEndian high := by omega
      rw [List.length_cons, littleEndian_cons, lengthField, first, others, ih]

end ScriptMachine.BitcoinCash
