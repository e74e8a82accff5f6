import ScriptMachine.Push.Language

/-! # Bitcoin Cash

The opcodes of Bitcoin Cash by name, and the part of its language that pushes values.
-/

namespace ScriptMachine

/-! ## The opcode catalogue

The bytes 0x00 to 0xbb are assigned, one opcode each and without a gap. An opcode's mnemonic is its
name in capitals behind `OP_`; the opcodes that push their own number of bytes keep that number
apart, as in `OP_DATA_20`.
-/

/-- Names of the opcodes after the data pushes, in the order of their bytes from 0x4c on. -/
def Opcode.namesAfterData : List String :=
  ["PushData1", "PushData2", "PushData4", "1Negate", "Reserved", "1", "2", "3", "4", "5", "6", "7",
    "8", "9", "10", "11", "12", "13", "14", "15", "16", "Nop", "Ver", "If", "NotIf", "VerIf",
    "VerNotIf", "Else", "EndIf", "Verify", "Return", "ToAltStack", "FromAltStack", "2Drop", "2Dup",
    "3Dup", "2Over", "2Rot", "2Swap", "IfDup", "Depth", "Drop", "Dup", "Nip", "Over", "Pick",
    "Roll", "Rot", "Swap", "Tuck", "Cat", "Split", "Num2Bin", "Bin2Num", "Size", "Invert", "And",
    "Or", "Xor", "Equal", "EqualVerify", "Reserved1", "Reserved2", "1Add", "1Sub", "2Mul", "2Div",
    "Negate", "Abs", "Not", "0NotEqual", "Add", "Sub", "Mul", "Div", "Mod", "LShift", "RShift",
    "BoolAnd", "BoolOr", "NumEqual", "NumEqualVerify", "NumNotEqual", "LessThan", "GreaterThan",
    "LessThanOrEqual", "GreaterThanOrEqual", "Min", "Max", "Within", "Ripemd160", "Sha1", "Sha256",
    "Hash160", "Hash256", "CodeSeparator", "CheckSig", "CheckSigVerify", "CheckMultiSig",
    "CheckMultiSigVerify", "Nop1", "CheckLockTimeVerify", "CheckSequenceVerify", "Nop4", "Nop5",
    "Nop6", "Nop7", "Nop8", "Nop9", "Nop10", "CheckDataSig", "CheckDataSigVerify"]

/-- An assigned opcode: its byte, its name and the mnemonic it is listed under. -/
structure Opcode where
  byte : UInt8
  name : String
  mnemonic : String
  deriving Repr, DecidableEq

namespace Opcode

/-- The opcode that pushes the bytes after it, as many as its own value says. -/
def data (byte : UInt8) : Opcode :=
  ⟨byte, "Data" ++ toString byte.toNat, "OP_DATA_" ++ toString byte.toNat⟩

/-- The opcode of a byte whose mnemonic is its name in capitals. -/
def named (byte : UInt8) (name : String) : Opcode :=
  ⟨byte, name, "OP_" ++ name.toUpper⟩

/-- The opcode assigned to a byte. -/
def ofByte? (byte : UInt8) : Option Opcode :=
  if byte = 0x00 then some (named byte "0")
  else if byte ≤ 0x4b then some (data byte)
  else (namesAfterData[byte.toNat - 0x4c]?).map (named byte)

/-- The place of the opcode in the catalogue. The catalogue has no gap, so that is its byte. -/
def index (opcode : Opcode) : Nat :=
  opcode.byte.toNat

/-- The mnemonic a byte is reported under. A byte that is not assigned is reported by number. -/
def mnemonicFor (byte : UInt8) : String :=
  match ofByte? byte with
  | some opcode => opcode.mnemonic
  | none => "OP_UNKNOWN" ++ toString byte.toNat

/-- The report on a byte that is not assigned. -/
def unassignedMessage (byte : UInt8) : String :=
  "byte 0x" ++ Hex.encode [byte] ++ " is not an assigned opcode"

end Opcode

/-! ## The Bitcoin Cash push language

The part of Bitcoin Cash script that pushes values: numbers from -1 to 16, data of 1 to 75 bytes, and
longer data with a length field. Every other byte is unknown, the separator between an unlocking and
a locking script included.
-/

namespace BitcoinCash

/-- How the language is set up. -/
structure Config where
  /-- Whether data can be pushed with a length field of four bytes. -/
  enablePushData4 : Bool := false
  deriving Repr, DecidableEq

/-- What a program can know of the chain and of the transaction it is part of. -/
structure Context where
  blockHeight : UInt32 := 0
  blockTime : UInt32 := 0
  lockTime : UInt32 := 0
  sequenceNumber : UInt32 := 0
  deriving Repr, DecidableEq

abbrev State := ScriptMachine.State Item EvalError Context

/-- The byte between an unlocking and a locking script. -/
def separator : UInt8 := 0xab

/-- The bytes that push a number: zero, minus one, and one to sixteen. -/
def numberTable : PrimitiveTable := fun opcode =>
  if opcode = 0x00 then some (.number 0)
  else if opcode = 0x4f then some (.number (-1))
  else if 0x51 ≤ opcode ∧ opcode ≤ 0x60 then some (.number (opcode.toNat - 0x50))
  else none

/-- The bytes that push as many bytes as their value says. -/
def constantTable : PrimitiveTable := fun opcode =>
  if 0x01 ≤ opcode ∧ opcode ≤ 0x4b then some (.bytes opcode.toNat) else none

/-- The bytes that push data with a length field. -/
def variableTable (config : Config) : PrimitiveTable := fun opcode =>
  if opcode = 0x4c then some (.ladder .one)
  else if opcode = 0x4d then some (.ladder .two)
  else if opcode = 0x4e then
    some (if config.enablePushData4 then .ladder .four else .refused)
  else none

/-- All bytes that stand for a push. No byte stands for two. -/
def table (config : Config) : PrimitiveTable := fun opcode =>
  (numberTable opcode).or ((constantTable opcode).or (variableTable config opcode))

def language (config : Config) : PushLanguage where
  table := table config

def machine (config : Config) : Machine Item EvalError Context :=
  (language config).machine

def start (script : Script) : State :=
  .start script {}

/-- The state in which an unlocking and a locking script start. -/
def startJoined (unlocking locking : Script) : State :=
  start (unlocking.join locking separator)

end BitcoinCash

end ScriptMachine
