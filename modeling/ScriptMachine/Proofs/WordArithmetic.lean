import Mathlib.Algebra.BigOperators.Group.Finset.Basic
import Mathlib.Algebra.BigOperators.Ring.Finset
import ScriptMachine.Proofs.CheckedReading
import ScriptMachine.Proofs.PushGrammar

/-! # Data pushes in machine words

A position, a count and a length are 64-bit words, whose sums wrap around. The data pushes are spelled
out here in such words: an end is looked for by an addition that tells when it has wrapped, a length
is put together by shifts from its high byte down, and bytes are taken only between the words that
came out. None of this shows. From every state whose position is a word, the end of the script or far
behind it included, a data push does what sums of natural numbers say.
-/

namespace ScriptMachine

namespace Word

/-- The sum of two words, if it is one. A sum that wraps comes out below its first term. -/
def add? (first second : UInt64) : Option UInt64 :=
  if first + second < first then none else some (first + second)

/-- The number in a length field, by shifting in one byte after the other, the high one first. -/
def ofField (field : List UInt8) : UInt64 :=
  field.reverse.foldl (fun high low => (high <<< 8) ||| low.toUInt64) 0

theorem add?_ofNat {first second : Nat} (firstWord : first < positionBound)
    (secondWord : second < positionBound) :
    add? (.ofNat first) (.ofNat second) =
      if first + second < positionBound then some (.ofNat (first + second)) else none := by
  have wraps : UInt64.ofNat first + UInt64.ofNat second < UInt64.ofNat first ↔
      ¬ first + second < positionBound := by
    rw [← UInt64.ofNat_add, UInt64.lt_iff_toNat_lt, UInt64.toNat_ofNat', UInt64.toNat_ofNat']
    simp only [positionBound] at *
    omega
  simp only [add?, wraps, UInt64.ofNat_add, ite_not]

theorem ofField_cons (low : UInt8) (high : List UInt8) :
    ofField (low :: high) = (ofField high <<< 8) ||| low.toUInt64 := by
  simp [ofField, List.foldl_reverse]

/-- No bit is shifted out of a word by a field that a word has room for. -/
theorem toNat_ofField {field : List UInt8} (short : field.length ≤ 8) :
    (ofField field).toNat = littleEndian field := by
  induction field with
  | nil => rfl
  | cons low high ih =>
      rw [List.length_cons] at short
      have room : littleEndian high < 256 ^ 7 :=
        Nat.lt_of_lt_of_le (BitcoinCash.littleEndian_lt high)
          (Nat.pow_le_pow_right (by decide) (by omega))
      have shifted : (ofField high <<< 8).toNat = littleEndian high <<< 8 := by
        rw [UInt64.toNat_shiftLeft, ih (by omega)]
        apply Nat.mod_eq_of_lt
        change littleEndian high <<< 8 < 2 ^ 64
        rw [Nat.shiftLeft_eq]
        omega
      rw [ofField_cons, UInt64.toNat_or, shifted, UInt8.toNat_toUInt64,
        ← Nat.shiftLeft_add_eq_or_of_lt low.toNat_lt, Nat.shiftLeft_eq, BitcoinCash.littleEndian_cons]
      omega

end Word

namespace Script

/-- The position `count` bytes after `start`, if it is a word and the script reaches it. -/
def wordStop? (script : Script) (start count : UInt64) : Option UInt64 :=
  (Word.add? start count).filter (· ≤ .ofNat script.size)

theorem wordStop?_ofNat {script : Script} {start count : Nat} (fits : script.size < positionBound)
    (startWord : start < positionBound) (countWord : count < positionBound) :
    script.wordStop? (.ofNat start) (.ofNat count) =
      (script.stopAfter? start count).map UInt64.ofNat := by
  rw [wordStop?, Word.add?_ofNat startWord countWord, stopAfter?]
  by_cases room : start + count < positionBound
  · have reached : UInt64.ofNat (start + count) ≤ UInt64.ofNat script.size ↔
        start + count ≤ script.size := by
      rw [UInt64.le_iff_toNat_le, UInt64.toNat_ofNat_of_lt' room, UInt64.toNat_ofNat_of_lt' fits]
    rw [if_pos room, Option.filter_some]
    simp only [reached, room, true_and, decide_eq_true_eq, apply_ite (Option.map UInt64.ofNat),
      Option.map_some, Option.map_none]
  · simp [room]

/-- The length in the field at a position: the sum of its bytes, each by its place. -/
def lengthAt (script : Script) (position width : Nat) : Nat :=
  ∑ place ∈ Finset.range width, script[position + place]!.toNat * 256 ^ place

theorem littleEndian_slice {script : Script} {position width : Nat}
    (inside : position + width ≤ script.size) :
    littleEndian (script.slice position width) = script.lengthAt position width := by
  induction width generalizing position with
  | zero => simp [littleEndian, lengthAt]
  | succ width ih =>
      have here : position < script.size := by omega
      have first : script.slice position (width + 1) =
          script[position]! :: script.slice (position + 1) width := by
        rw [slice_eq, List.drop_eq_getElem_cons (by simpa using here), List.take_succ_cons, slice_eq,
          Array.getElem_toList, getElem!_pos script position here]
      rw [first, BitcoinCash.littleEndian_cons, ih (by omega), lengthAt, lengthAt,
        Finset.sum_range_succ', Finset.mul_sum, Nat.add_comm]
      congr 1
      · apply Finset.sum_congr rfl
        intro place _
        rw [Nat.pow_succ, Nat.add_assoc, Nat.add_comm 1, Nat.mul_comm 256, Nat.mul_assoc]
      · rw [Nat.pow_zero, Nat.mul_one, Nat.add_zero]

end Script

namespace State

variable {Context : Type}

/-- Push the bytes between two positions, and move behind them. -/
def pushRange (state : State Item EvalError Context) (start stop : UInt64) :
    Except Fault (State Item EvalError Context) := do
  let payload ← state.script.range start.toNat stop.toNat
  .ok { state.push (.bytes payload) with ip := stop.toNat }

/-- Push the next `count` bytes, in words. -/
def pushBytes (state : State Item EvalError Context) (count : UInt64) :
    Except Fault (State Item EvalError Context) :=
  match state.script.wordStop? (.ofNat state.ip) count with
  | none => .ok (state.fail .malformedPush)
  | some stop => state.pushRange (.ofNat state.ip) stop

/-- Push `length` bytes from a position on, in words. That they are enough is the last thing that is
    looked at. -/
def pushPayload (state : State Item EvalError Context) (start length minimum : UInt64) :
    Except Fault (State Item EvalError Context) :=
  match state.script.wordStop? start length with
  | none => .ok (state.fail .malformedPush)
  | some stop =>
      if length < minimum then .ok (state.fail .nonMinimalPush) else state.pushRange start stop

/-- Read a length and push that many bytes, in words. -/
def pushSized (state : State Item EvalError Context) (width : Width) (minimum : UInt64) :
    Except Fault (State Item EvalError Context) :=
  match state.script.wordStop? (.ofNat state.ip) (.ofNat width.byteCount) with
  | none => .ok (state.fail .malformedPush)
  | some start => do
      let field ← state.script.range state.ip start.toNat
      state.pushPayload start (Word.ofField field) minimum

end State

/-! ## The pushes by sums -/

variable {Context : Type} {state : State Item EvalError Context} {width : Width}
  {start count length minimum : Nat}

namespace Primitive

theorem perform_bytes :
    (bytes count).perform state =
      if state.ip + count ≤ state.script.size then
        { state with
          ip := state.ip + count
          stack := .bytes (state.script.extract state.ip (state.ip + count)).toList :: state.stack }
      else { state with error := some .malformedPush } := by
  rw [perform, read]
  by_cases inside : state.ip + count ≤ state.script.size
  · rw [take_of_le inside, if_pos inside]
    rfl
  · rw [take_of_not_le inside, if_neg inside]
    rfl

theorem perform_sized (start : Nat) (behind : start = state.ip + width.byteCount) (length : Nat)
    (told : length = state.script.lengthAt state.ip width.byteCount) :
    (sized width minimum).perform state =
      if state.script.size < start then { state with error := some .malformedPush }
      else if state.script.size < start + length then { state with error := some .malformedPush }
      else if length < minimum then { state with error := some .nonMinimalPush }
      else
        { state with
          ip := start + length
          stack := .bytes (state.script.extract start (start + length)).toList :: state.stack } := by
  rw [perform, read]
  subst behind
  by_cases complete : state.ip + width.byteCount ≤ state.script.size
  · rw [take_of_le complete, if_neg (Nat.not_lt.mpr complete)]
    simp only [bind, Except.bind, Script.littleEndian_slice complete, ← told]
    by_cases inside : state.ip + width.byteCount + length ≤ state.script.size
    · rw [take_of_le inside, if_neg (Nat.not_lt.mpr inside)]
      by_cases short : length < minimum
      · simp only [if_pos short]
        rfl
      · simp only [if_neg short]
        rfl
    · rw [take_of_not_le inside, if_pos (Nat.not_le.mp inside)]
      rfl
  · rw [take_of_not_le complete, if_pos (Nat.not_le.mp complete)]
    rfl

end Primitive

/-! ## The pushes in words -/

namespace State

theorem pushRange_ofNat (fits : state.script.size < positionBound)
    (inside : start + count ≤ state.script.size) :
    state.pushRange (.ofNat start) (.ofNat (start + count)) =
      .ok { state with
        ip := start + count
        stack := .bytes (state.script.extract start (start + count)).toList :: state.stack } := by
  have stopWord : start + count < positionBound := Nat.lt_of_le_of_lt inside fits
  have startWord : start < positionBound := Nat.lt_of_le_of_lt (Nat.le_add_right _ _) stopWord
  rw [pushRange, UInt64.toNat_ofNat_of_lt' stopWord, UInt64.toNat_ofNat_of_lt' startWord,
    Script.range_add inside]
  rfl

theorem pushBytes_ofNat (word : state.ip < positionBound)
    (fits : state.script.size < positionBound) (countWord : count < positionBound) :
    state.pushBytes (.ofNat count) = .ok ((Primitive.bytes count).perform state) := by
  rw [pushBytes, Script.wordStop?_ofNat fits word countWord, Primitive.perform_bytes]
  by_cases inside : state.ip + count ≤ state.script.size
  · rw [Script.stopAfter?_eq_some fits inside, if_pos inside]
    exact pushRange_ofNat fits inside
  · rw [Script.stopAfter?_eq_none inside, if_neg inside]
    rfl

theorem pushPayload_ofNat (fits : state.script.size < positionBound)
    (startWord : start < positionBound) (lengthWord : length < positionBound)
    (minimumWord : minimum < positionBound) :
    state.pushPayload (.ofNat start) (.ofNat length) (.ofNat minimum) = .ok
      (if state.script.size < start + length then { state with error := some .malformedPush }
      else if length < minimum then { state with error := some .nonMinimalPush }
      else
        { state with
          ip := start + length
          stack := .bytes (state.script.extract start (start + length)).toList :: state.stack }) := by
  rw [pushPayload, Script.wordStop?_ofNat fits startWord lengthWord]
  by_cases inside : start + length ≤ state.script.size
  · have below : UInt64.ofNat length < UInt64.ofNat minimum ↔ length < minimum := by
      rw [UInt64.lt_iff_toNat_lt, UInt64.toNat_ofNat_of_lt' lengthWord,
        UInt64.toNat_ofNat_of_lt' minimumWord]
    rw [Script.stopAfter?_eq_some fits inside, if_neg (Nat.not_lt.mpr inside)]
    by_cases short : length < minimum
    · simp only [Option.map_some, below, if_pos short]
      rfl
    · simp only [Option.map_some, below, if_neg short]
      exact pushRange_ofNat fits inside
  · rw [Script.stopAfter?_eq_none inside, if_pos (Nat.not_le.mp inside)]
    rfl

theorem pushSized_ofNat (word : state.ip < positionBound)
    (fits : state.script.size < positionBound) (minimumWord : minimum < positionBound) :
    state.pushSized width (.ofNat minimum) =
      .ok ((Primitive.sized width minimum).perform state) := by
  have few : width.byteCount ≤ 4 := by cases width <;> decide
  have countWord : width.byteCount < positionBound := Nat.lt_of_le_of_lt few (by decide)
  rw [pushSized, Script.wordStop?_ofNat fits word countWord, Primitive.perform_sized _ rfl _ rfl]
  by_cases complete : state.ip + width.byteCount ≤ state.script.size
  · have startWord : state.ip + width.byteCount < positionBound := Nat.lt_of_le_of_lt complete fits
    have short : (state.script.slice state.ip width.byteCount).length ≤ 8 := by
      simp only [Script.slice_eq, List.length_take]
      omega
    have told := Word.toNat_ofField short
    rw [Script.littleEndian_slice complete] at told
    have field : Word.ofField (state.script.slice state.ip width.byteCount) =
        .ofNat (state.script.lengthAt state.ip width.byteCount) := by
      rw [← told, UInt64.ofNat_toNat]
    have lengthWord : state.script.lengthAt state.ip width.byteCount < positionBound :=
      told ▸ UInt64.toNat_lt _
    rw [Script.stopAfter?_eq_some fits complete, if_neg (Nat.not_lt.mpr complete),
      ← pushPayload_ofNat fits startWord lengthWord minimumWord, ← field]
    simp only [Option.map_some, UInt64.toNat_ofNat_of_lt' startWord, Script.range_add complete, bind,
      Except.bind]
  · rw [Script.stopAfter?_eq_none complete, if_pos (Nat.not_le.mp complete)]
    rfl

end State

/-- From every state, a push of data does what sums of natural numbers say, and so does the push that
    has only words to count with: the ends that it finds have not wrapped, the length that it shifts
    together has lost no bit, and no range that it takes is outside of the script. An error takes the
    place of the one before it and changes nothing else; a push leaves the error as it was. -/
theorem data_pushes_are_exact (state : State Item EvalError Context)
    (word : state.ip < positionBound) (fits : state.script.size < positionBound) :
    (∀ count < positionBound, ∃ after,
      (Primitive.bytes count).operator.apply state = .ok after ∧
      state.pushBytes (.ofNat count) = .ok after ∧
      after =
        if state.ip + count ≤ state.script.size then
          { state with
            ip := state.ip + count
            stack :=
              .bytes (state.script.extract state.ip (state.ip + count)).toList :: state.stack }
        else { state with error := some .malformedPush }) ∧
    ∀ (width : Width), ∀ minimum < positionBound, ∃ after,
      (Primitive.sized width minimum).operator.apply state = .ok after ∧
      state.pushSized width (.ofNat minimum) = .ok after ∧
      let start := state.ip + width.byteCount
      let length := ∑ place ∈ Finset.range width.byteCount,
        state.script[state.ip + place]!.toNat * 256 ^ place
      after =
        if state.script.size < start then { state with error := some .malformedPush }
        else if state.script.size < start + length then { state with error := some .malformedPush }
        else if length < minimum then { state with error := some .nonMinimalPush }
        else
          { state with
            ip := start + length
            stack :=
              .bytes (state.script.extract start (start + length)).toList :: state.stack } := by
  constructor
  · intro count countWord
    exact ⟨_, rfl, State.pushBytes_ofNat word fits countWord, Primitive.perform_bytes⟩
  · intro width minimum minimumWord
    exact ⟨_, rfl, State.pushSized_ofNat word fits minimumWord,
      Primitive.perform_sized _ rfl _ rfl⟩

/-- At the last position that a word can hold, the end of two bytes wraps around to the second byte
    of the script. A length field in front of its data is read from the low byte up. -/
theorem data_pushes_at_either_end :
    (∃ state : BitcoinCash.State, state.ip = 0xffffffffffffffff ∧ state.script.size = 4 ∧
      state.error = some .unknownOpcode ∧
      (Primitive.bytes 2).operator.apply state = .ok { state with error := some .malformedPush } ∧
      state.pushBytes 2 = .ok { state with error := some .malformedPush }) ∧
    (Primitive.sized .two 2).operator.apply (BitcoinCash.start #[0x02, 0x00, 0xaa, 0xbb]) =
      .ok { BitcoinCash.start #[0x02, 0x00, 0xaa, 0xbb] with
        ip := 4, stack := [.bytes [0xaa, 0xbb]] } ∧
    (BitcoinCash.start #[0x02, 0x00, 0xaa, 0xbb]).pushSized .two 2 =
      .ok { BitcoinCash.start #[0x02, 0x00, 0xaa, 0xbb] with
        ip := 4, stack := [.bytes [0xaa, 0xbb]] } := by
  constructor
  · let state : BitcoinCash.State :=
      { BitcoinCash.start #[0x02, 0x00, 0xaa, 0xbb] with
        ip := 0xffffffffffffffff, error := some .unknownOpcode }
    obtain ⟨ofCount, _⟩ := data_pushes_are_exact state (by decide) (by decide)
    obtain ⟨after, applied, pushed, rfl⟩ := ofCount 2 (by decide)
    exact ⟨state, rfl, rfl, rfl, applied, pushed⟩
  · obtain ⟨_, ofWidth⟩ := data_pushes_are_exact
      (BitcoinCash.start #[0x02, 0x00, 0xaa, 0xbb]) (by decide) (by decide)
    obtain ⟨after, applied, pushed, rfl⟩ := ofWidth .two 2 (by decide)
    exact ⟨applied, pushed⟩

end ScriptMachine
