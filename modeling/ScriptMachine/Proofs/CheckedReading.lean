import ScriptMachine.Push.Primitive

/-! # Checked reading

A primitive looks for the end of its data before it takes the data, and taking bytes between two
positions that a script does not have would be a fault. Reading is spelled out here with every range
checked at the moment it is taken and every end computed in 64-bit words. In a script whose length is
a word, no such range is ever outside and no such sum is ever lost: checked reading is reading.
-/

namespace ScriptMachine

namespace Script

/-- The bytes from `start` up to `stop`. A range outside of the script is a fault. -/
def range (script : Script) (start stop : Nat) : Except Fault (List UInt8) :=
  if start ≤ stop ∧ stop ≤ script.size then .ok (script.slice start (stop - start))
  else .error (.outOfBounds script.size stop)

/-- The position `count` bytes after `start`, if a word can hold it and the script reaches it. -/
def stopAfter? (script : Script) (start count : Nat) : Option Nat :=
  if start + count < positionBound ∧ start + count ≤ script.size then some (start + count) else none

variable {script : Script} {start count : Nat}

theorem range_add (inside : start + count ≤ script.size) :
    script.range start (start + count) = .ok (script.slice start count) := by
  rw [range, if_pos ⟨Nat.le_add_right start count, inside⟩, Nat.add_sub_cancel_left]

theorem stopAfter?_eq_some (fits : script.size < positionBound) (inside : start + count ≤ script.size) :
    script.stopAfter? start count = some (start + count) :=
  if_pos ⟨Nat.lt_of_le_of_lt inside fits, inside⟩

theorem stopAfter?_eq_none (outside : ¬ start + count ≤ script.size) :
    script.stopAfter? start count = none :=
  if_neg fun found => outside found.2

end Script

namespace Primitive

/-- What the primitive takes from a script at a position, with every range checked. -/
def readChecked (script : Script) (position : Nat) :
    Primitive → Except Fault (Except EvalError (Item × Nat))
  | .number value => .ok (.ok (.number value, position))
  | .bytes count =>
      match script.stopAfter? position count with
      | none => .ok (.error .malformedPush)
      | some stop => do
          let payload ← script.range position stop
          .ok (.ok (.bytes payload, stop))
  | .sized width minimum =>
      match script.stopAfter? position width.byteCount with
      | none => .ok (.error .malformedPush)
      | some start => do
          let field ← script.range position start
          match script.stopAfter? start (littleEndian field) with
          | none => .ok (.error .malformedPush)
          | some stop =>
              if littleEndian field < minimum then .ok (.error .nonMinimalPush)
              else do
                let payload ← script.range start stop
                .ok (.ok (.bytes payload, stop))
  | .refused => .ok (.error .nonMinimalPush)
  | .undefined => .ok (.error .unknownOpcode)

theorem take_of_le {script : Script} {position count : Nat} (inside : position + count ≤ script.size) :
    take script position count = .ok (script.slice position count) :=
  if_pos inside

theorem take_of_not_le {script : Script} {position count : Nat}
    (outside : ¬ position + count ≤ script.size) :
    take script position count = .error .malformedPush :=
  if_neg outside

/-- Checked reading meets no fault, and reads what reading reads. -/
theorem readChecked_eq {script : Script} (fits : script.size < positionBound) (position : Nat)
    (primitive : Primitive) :
    primitive.readChecked script position = .ok (primitive.read script position) := by
  cases primitive with
  | number value => rfl
  | bytes count =>
      rw [readChecked, read]
      by_cases inside : position + count ≤ script.size
      · rw [Script.stopAfter?_eq_some fits inside, take_of_le inside]
        simp only [Script.range_add inside, bind, Except.bind]
      · rw [Script.stopAfter?_eq_none inside, take_of_not_le inside]
        rfl
  | sized width minimum =>
      rw [readChecked, read]
      by_cases field : position + width.byteCount ≤ script.size
      · rw [Script.stopAfter?_eq_some fits field, take_of_le field]
        simp only [Script.range_add field, bind, Except.bind]
        generalize littleEndian (script.slice position width.byteCount) = length
        by_cases payload : position + width.byteCount + length ≤ script.size
        · rw [Script.stopAfter?_eq_some fits payload, take_of_le payload]
          simp only [Script.range_add payload]
          by_cases short : length < minimum
          · rw [if_pos short, if_pos short]
          · rw [if_neg short, if_neg short]
        · rw [Script.stopAfter?_eq_none payload, take_of_not_le payload]
      · rw [Script.stopAfter?_eq_none field, take_of_not_le field]
        rfl
  | refused => rfl
  | undefined => rfl

end Primitive

end ScriptMachine
