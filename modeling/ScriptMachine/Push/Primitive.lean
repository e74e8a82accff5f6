import ScriptMachine.Machine.State

/-! # Pushes

The operators that push numbers and bytes, and the items and errors that come of them.
-/

namespace ScriptMachine

/-! ## Stack items of push languages

What a push leaves on the stack, and the errors a push can make.
-/

/-- An item that a push leaves on the stack. -/
inductive Item where
  /-- A number that an opcode stands for. -/
  | number (value : Int)
  /-- Bytes taken from the script. -/
  | bytes (content : List UInt8)
  deriving Repr, DecidableEq

namespace Item

/-- The item's kind. -/
def kindName : Item → String
  | .number _ => "Number"
  | .bytes _ => "Bytes"

/-- The item as text: a number in decimal, bytes behind `0x` with two digits for each. -/
def text : Item → String
  | .number value => toString value
  | .bytes content => content.foldl (fun shown byte => shown ++ .ofList (Hex.digitPair byte)) "0x"

end Item

/-- The errors that a program can make by pushing. -/
inductive EvalError where
  /-- The script ends before the data that is to be pushed. -/
  | malformedPush
  /-- The data had to be pushed by an operator for shorter data. -/
  | nonMinimalPush
  /-- The byte stands for no operator. -/
  | unknownOpcode
  deriving Repr, DecidableEq

def EvalError.message : EvalError → String
  | .malformedPush => "Script must be long enough to push the requested number of bytes."
  | .nonMinimalPush => "Push operations must use the smallest possible encoding."
  | .unknownOpcode => "Called an unknown or unimplemented opcode."

/-! ## Length fields

Data of varying length is pushed with its length written in front of it, low byte first, in one, two
or four bytes. Each width has a least length, below which a smaller encoding has to be used.
-/

/-- The width of a length field. -/
inductive Width where
  | one
  | two
  | four
  deriving Repr, DecidableEq

namespace Width

def byteCount : Width → Nat
  | .one => 1
  | .two => 2
  | .four => 4

/-- The number of lengths that the field can hold: it holds those below this bound. -/
def representableLengths (width : Width) : Nat :=
  Nat.pow 256 width.byteCount

/-- The least length that has to be pushed with a field of this width. -/
def minimumLength : Width → Nat
  | .one => 75
  | .two => 256
  | .four => 65536

/-- The field's kind of number, as descriptions name it. -/
def kindName : Width → String
  | .one => "Uint8"
  | .two => "little-endian Uint16"
  | .four => "little-endian Uint32"

end Width

/-- The number that bytes stand for, low byte first. -/
def littleEndian (bytes : List UInt8) : Nat :=
  bytes.foldr (fun byte rest => byte.toNat + 256 * rest) 0

/-! ## Push primitives

The operators from which push languages are made. What a primitive does depends on the script and the
position alone: it either reads one item and the position after it, or makes an error.
-/

/-- An operator from which push languages are made. -/
inductive Primitive where
  /-- Push a number. -/
  | number (value : Int)
  /-- Push the next `count` bytes. -/
  | bytes (count : Nat)
  /-- Read a length, push that many bytes. The length has to be `minimum` or more. -/
  | sized (width : Width) (minimum : Nat)
  /-- The four-byte push where it is switched off: no use of it is minimal. -/
  | refused
  /-- The operator of bytes that stand for nothing. -/
  | undefined
  deriving Repr, DecidableEq

namespace Primitive

/-- The push with a length field, held to the least length of its width. -/
def ladder (width : Width) : Primitive :=
  .sized width width.minimumLength

def asm : Primitive → String
  | .number value => if value = -1 then "OP_1NEGATE" else "OP_" ++ toString value
  | .bytes count => "OP_DATA_" ++ toString count
  | .sized width _ => "OP_PUSHDATA" ++ toString width.byteCount
  | .refused => "OP_PUSHDATA4"
  | .undefined => "undefined"

/-- What a push with a length field does, in words. -/
def sizedDescription (width : Width) : String :=
  "Read the next " ++ width.kindName ++ " and push that number of bytes to the stack."

def description : Primitive → String
  | .number value => "Push the number " ++ toString value ++ " onto the stack."
  | .bytes count =>
      if count = 1 then "Push the next byte onto the stack as binary data."
      else "Push the next " ++ toString count ++ " bytes onto the stack as binary data."
  | .sized width _ => sizedDescription width
  | .refused => sizedDescription .four
  | .undefined => "An undefined or unimplemented opcode was called."

/-- The `count` bytes of a script from a position on, if it has that many. -/
def take (script : Script) (position count : Nat) : Except EvalError (List UInt8) :=
  if position + count ≤ script.size then .ok (script.slice position count)
  else .error .malformedPush

/-- What the primitive takes from a script at a position: the item to push, and the position after
    the bytes that make it up. A payload that is too short is reported as missing bytes even where
    its length is not minimal. -/
def read (script : Script) (position : Nat) : Primitive → Except EvalError (Item × Nat)
  | .number value => .ok (.number value, position)
  | .bytes count => do
      let payload ← take script position count
      .ok (.bytes payload, position + count)
  | .sized width minimum => do
      let field ← take script position width.byteCount
      let length := littleEndian field
      let payload ← take script (position + width.byteCount) length
      if length < minimum then .error .nonMinimalPush
      else .ok (.bytes payload, position + width.byteCount + length)
  | .refused => .error .nonMinimalPush
  | .undefined => .error .unknownOpcode

variable {Context : Type}

/-- Carry out the primitive. An item that was read goes onto the stack and the position moves past
    it; an error is recorded and nothing else changes. -/
def perform (primitive : Primitive) (state : State Item EvalError Context) :
    State Item EvalError Context :=
  match primitive.read state.script state.ip with
  | .ok (item, position) => { state.push item with ip := position }
  | .error error => state.fail error

/-- The primitive as an operator of a machine. -/
def operator (primitive : Primitive) : Operator (State Item EvalError Context) where
  asm := .fixed primitive.asm
  description := .fixed primitive.description
  apply := fun state => .ok (primitive.perform state)

end Primitive

/-- Which primitive each byte stands for. -/
abbrev PrimitiveTable := UInt8 → Option Primitive

namespace PrimitiveTable

/-- The table of a list of entries. Of two entries for one byte the later counts. -/
def ofEntries (entries : List (UInt8 × Primitive)) : PrimitiveTable :=
  fun opcode => (entries.reverse.find? (·.1 = opcode)).map (·.2)

/-- The bytes that have a primitive, ascending, each with its primitive. -/
def entries (table : PrimitiveTable) : List (UInt8 × Primitive) :=
  allBytes.filterMap fun opcode => (table opcode).map (opcode, ·)

end PrimitiveTable

end ScriptMachine
