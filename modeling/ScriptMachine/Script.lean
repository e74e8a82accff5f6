import ScriptMachine.Text

/-! # Scripts

A script is the bytes that a machine runs. An unlocking and a locking script are joined by one
separator byte and then run as one script. Outside of the machine a script is a text of hexadecimal
digits.
-/

namespace ScriptMachine

/-- The bytes of a program. A run looks at them by position, so they are kept in an array. -/
abbrev Script := Array UInt8

/-- All bytes, ascending. -/
def allBytes : List UInt8 :=
  (List.range 256).map UInt8.ofNat

namespace Script

/-- The unlocking script, the separator byte and the locking script, in this order. -/
def join (unlocking locking : Script) (separator : UInt8) : Script :=
  unlocking ++ #[separator] ++ locking

/-- The bytes from a position on, at most `count` of them. -/
def slice (script : Script) (position count : Nat) : List UInt8 :=
  (script.extract position (position + count)).toList

@[simp]
theorem toList_join (unlocking locking : Script) (separator : UInt8) :
    (join unlocking locking separator).toList = unlocking.toList ++ separator :: locking.toList := by
  simp [join]

@[simp]
theorem slice_eq (script : Script) (position count : Nat) :
    script.slice position count = (script.toList.drop position).take count := by
  simp [slice, List.extract_eq_take_drop]

end Script

/-! ## Bytes as hexadecimal text

Every byte is written as two lower-case digits. Reading takes both cases and ignores blanks at the
ends; a text of odd length is refused before any of its characters is looked at.
-/

namespace Hex

/-- Why a text is not the hexadecimal form of any bytes. -/
inductive Error where
  /-- The digits do not pair up. -/
  | oddLength (length : Nat)
  /-- The first character that is not a digit, and how many digits come before it. -/
  | invalidCharacter (character : Char) (position : Nat)
  deriving Repr, DecidableEq

def Error.message : Error → String
  | .oddLength length => "hex string has odd length " ++ toString length
  | .invalidCharacter character position =>
      "invalid hex character " ++ Text.quoteChar character ++ " at position " ++ toString position

/-- The value of a hexadecimal digit in either case. -/
def digitValue? (c : Char) : Option Nat :=
  if '0' ≤ c ∧ c ≤ '9' then some (c.toNat - '0'.toNat)
  else if 'a' ≤ c ∧ c ≤ 'f' then some (c.toNat - 'a'.toNat + 10)
  else if 'A' ≤ c ∧ c ≤ 'F' then some (c.toNat - 'A'.toNat + 10)
  else none

/-- Whether the character is no hexadecimal digit. -/
def isForeign (c : Char) : Bool :=
  (digitValue? c).isNone

/-- The two digits of a byte, high digit first. -/
def digitPair (byte : UInt8) : List Char :=
  [Nat.digitChar (byte.toNat / 16), Nat.digitChar (byte.toNat % 16)]

/-- Bytes as hexadecimal text. -/
def encode (bytes : List UInt8) : String :=
  String.ofList (bytes.flatMap digitPair)

/-- The byte that two digits stand for. -/
def byteOf (high low : Char) : UInt8 :=
  UInt8.ofNat (16 * (digitValue? high).getD 0 + (digitValue? low).getD 0)

/-- The bytes that digits stand for, two by two. -/
def pairUp : List Char → List UInt8
  | high :: low :: rest => byteOf high low :: pairUp rest
  | _ => []

/-- Read digits without blanks around them. -/
def decodeChars (chars : List Char) : Except Error (List UInt8) :=
  if chars.length % 2 = 1 then .error (.oddLength chars.length)
  else
    match chars.find? isForeign with
    | some character => .error (.invalidCharacter character (chars.findIdx isForeign))
    | none => .ok (pairUp chars)

/-- Read hexadecimal text. Positions and lengths in a refusal count characters of the trimmed
    text. -/
def decode (text : String) : Except Error (List UInt8) :=
  decodeChars (Text.trim text.toList)

end Hex

end ScriptMachine
