import ScriptMachine.Proofs.TallyBudget

/-! # Balanced tallies

Whether a tally makes an error can be seen without running it. Every zero adds a number to the stack and
every addition takes one away, so the bytes before a position tell how many numbers its operator finds.
A script without an error is one in which every operator finds enough, and a script with an error stops
behind the first byte where that fails. Counting up and down is all that changes the sum of the stack.

Both facts are carried along a run by one property: the counts so far are those of the stack (`Counted`),
or the run has just passed the first bad byte (`Broken`).
-/

namespace ScriptMachine.Tally

/-- How often a byte stands before a position. -/
def occurrences (script : Script) (position : Nat) (byte : UInt8) : Nat :=
  (script.toList.take position).count byte

/-- The zeros less the additions before a position. -/
def depth (script : Script) (position : Nat) : Int :=
  occurrences script position 0x00 - occurrences script position 0x03

/-- The increments less the decrements before a position. -/
def balance (script : Script) (position : Nat) : Int :=
  occurrences script position 0x01 - occurrences script position 0x02

variable {script : Script} {position : Nat} {byte : UInt8} {stack after : List Int}
  {error : Option Error} {state : State}

/-- The byte at the position has an operator, and the bytes before it leave as many numbers as the
    operator takes. -/
structure Sound (script : Script) (position : Nat) : Prop where
  opcode : ∀ byte ∈ script[position]?, IsOpcode byte
  one : script[position]? = some 0x01 ∨ script[position]? = some 0x02 → 1 ≤ depth script position
  two : script[position]? = some 0x03 → 2 ≤ depth script position

instance : Decidable (Sound script position) :=
  decidable_of_iff
    ((script[position]?).all (fun byte => decide (IsOpcode byte)) = true ∧
      (script[position]? = some 0x01 ∨ script[position]? = some 0x02 → 1 ≤ depth script position) ∧
      (script[position]? = some 0x03 → 2 ≤ depth script position))
    ⟨fun ⟨opcode, one, two⟩ => ⟨by simpa [Option.all_eq_true] using opcode, one, two⟩,
      fun ⟨opcode, one, two⟩ => ⟨by simpa [Option.all_eq_true] using opcode, one, two⟩⟩

/-- The script is sound at all of its positions. -/
def Balanced (script : Script) : Prop :=
  ∀ position < script.size, Sound script position

instance : Decidable (Balanced script) :=
  Nat.decidableBallLT script.size fun position _ => Sound script position

/-- The first position at which the script is not sound, and the byte there. -/
structure FirstBreak (script : Script) (position : Nat) (byte : UInt8) : Prop where
  located : script[position]? = some byte
  unsound : ¬ Sound script position
  soundBefore : ∀ earlier < position, Sound script earlier

theorem occurrences_succ (located : script[position]? = some byte) (other : UInt8) :
    occurrences script (position + 1) other =
      occurrences script position other + if byte = other then 1 else 0 := by
  have located : script.toList[position]? = some byte := by simpa using located
  simp [occurrences, List.take_add_one, located, List.count_singleton]

theorem FirstBreak.not_balanced (broken : FirstBreak script position byte) : ¬ Balanced script := by
  intro balanced
  obtain ⟨inside, _⟩ := Array.getElem?_eq_some_iff.mp broken.located
  exact broken.unsound (balanced position inside)

/-! ## Steps -/

theorem sound_iff (located : script[position]? = some byte) :
    Sound script position ↔ IsOpcode byte ∧
      (byte = 0x01 ∨ byte = 0x02 → 1 ≤ depth script position) ∧
      (byte = 0x03 → 2 ≤ depth script position) := by
  constructor
  · intro sound
    obtain ⟨opcode, one, two⟩ := sound
    simp only [located, Option.some.injEq] at one two
    exact ⟨opcode byte located, one, two⟩
  · intro sound
    obtain ⟨opcode, one, two⟩ := sound
    constructor <;> simp only [located, Option.some.injEq]
    · intro other same
      obtain rfl : byte = other := by simpa using same
      exact opcode
    · exact one
    · exact two

theorem Acts.counts (acts : Acts byte stack after none) (located : script[position]? = some byte)
    (length : (stack.length : Int) = depth script position)
    (sum : stack.sum = balance script position) :
    (after.length : Int) = depth script (position + 1) ∧
      after.sum = balance script (position + 1) := by
  simp only [depth, balance, occurrences_succ located] at *
  cases acts <;> simp [separator] at * <;> omega

theorem Acts.error_cases (acts : Acts byte stack after error)
    (located : script[position]? = some byte)
    (length : (stack.length : Int) = depth script position) :
    (Sound script position ∧ error = none) ∨
      (¬ Sound script position ∧
        error = some (if IsOpcode byte then .emptyStack else .undefined)) := by
  rw [sound_iff located, ← length]
  cases acts with
  | pushZero => exact .inl (by simp [IsOpcode])
  | increment => exact .inl (by simp [IsOpcode])
  | decrement => exact .inl (by simp [IsOpcode])
  | addition => exact .inl (by simp [IsOpcode]; omega)
  | passSeparator => exact .inl (by simp [IsOpcode, separator])
  | noTop counts => exact .inr (by obtain rfl | rfl := counts <;> simp [IsOpcode])
  | noPair few => exact .inr (by simp [IsOpcode]; omega)
  | undefined foreign => exact .inr (by simp [foreign])

/-! ## Runs -/

/-- The run has come to a position of the script with as many numbers on the stack, and the sum of them,
    as the counts before the position say. -/
structure Counted (script : Script) (state : State) : Prop where
  running : state.script = script
  inside : state.ip ≤ script.size
  fresh : state.error = none
  sound : ∀ position < state.ip, Sound script position
  length : (state.stack.length : Int) = depth script state.ip
  sum : state.stack.sum = balance script state.ip
  small : magnitude state.stack ≤ state.ip

/-- The run has just passed the first byte that is not sound, and tells what is wrong with it. -/
def Broken (script : Script) (state : State) : Prop :=
  ∃ position byte, FirstBreak script position byte ∧ state.ip = position + 1 ∧
    state.error = some (if IsOpcode byte then .emptyStack else .undefined)

theorem counted_start (script : Script) : Counted script (start script) where
  running := rfl
  inside := Nat.zero_le _
  fresh := rfl
  sound position before := absurd before (Nat.not_lt_zero position)
  length := by simp [start, State.start, depth, occurrences]
  sum := by simp [start, State.start, balance, occurrences]
  small := Nat.le_refl 0

/-- One more byte is counted, or it is the first that is not sound. -/
theorem Counted.exists_step (counted : Counted script state)
    (short : (script.size : Int) < numberBound) (continuing : machine.continues state = true) :
    ∃ stepped, machine.step state = .ok stepped ∧
      (Counted script stepped ∨ Broken script stepped) := by
  obtain ⟨rfl, _, _, sound, length, sum, small⟩ := counted
  obtain ⟨_, inside⟩ := continues_iff.mp continuing
  have fits : state.script.size < positionBound := by
    simp only [numberBound, positionBound] at *
    omega
  obtain ⟨byte, after, error, located, acts, stepping⟩ :=
    Tally.exists_step continuing fits (by omega)
  refine ⟨_, stepping, ?_⟩
  obtain ⟨soundHere, rfl⟩ | ⟨unsound, rfl⟩ := acts.error_cases located length
  · have growth := acts.magnitude_le
    obtain ⟨lengthAfter, sumAfter⟩ := acts.counts located length sum
    refine .inl ⟨rfl, inside, rfl, ?_, lengthAfter, sumAfter, by simp only; omega⟩
    intro position before
    obtain earlier | rfl := Nat.lt_succ_iff_lt_or_eq.mp before
    · exact sound position earlier
    · exact soundHere
  · exact .inr ⟨state.ip, byte, ⟨located, unsound, sound⟩, rfl, rfl⟩

theorem keeps_counted_or_broken (short : (script.size : Int) < numberBound) :
    machine.Keeps fun state => Counted script state ∨ Broken script state := by
  intro state held continuing
  obtain counted | ⟨_, _, _, _, failed⟩ := held
  · exact counted.exists_step short continuing
  · obtain ⟨fresh, _⟩ := continues_iff.mp continuing
    simp [fresh] at failed

/-- A script runs without an error exactly if it is balanced. Then it is run to its end, and it leaves as
    many numbers as its depth says, whose sum is its balance. Otherwise it stops behind the first
    position that is not sound, with an error that tells a byte without an operator from an operator
    without enough numbers. -/
theorem runs_iff_balanced (script : Script) (short : (script.size : Int) < numberBound) :
    ∃ last, machine.evaluate (start script) = .ok last ∧
      (last.error = none ↔ Balanced script) ∧
      (Balanced script → last.ip = script.size ∧
        (last.stack.length : Int) = depth script script.size ∧
        last.stack.sum = balance script script.size) ∧
      (¬ Balanced script → ∃ position byte, FirstBreak script position byte ∧
        last.ip = position + 1 ∧
        last.error = some (if IsOpcode byte then .emptyStack else .undefined)) := by
  obtain ⟨last, _, evaluated, stopped, counted | broken, _⟩ :=
    Machine.exists_results (keeps_counted_or_broken short) moves (.inl (counted_start script))
  · have finished : last.ip = script.size := by
      have inside := counted.inside
      have behind : ¬ last.ip < script.size := by
        intro before
        have continuing := continues_iff.mpr ⟨counted.fresh, counted.running.symm ▸ before⟩
        simp [stopped] at continuing
      omega
    have balanced : Balanced script := by
      intro position before
      exact counted.sound position (by omega)
    refine ⟨last, evaluated, by simp [counted.fresh, balanced], ?_, fun not => absurd balanced not⟩
    intro _
    exact ⟨finished, finished ▸ counted.length, finished ▸ counted.sum⟩
  · obtain ⟨position, byte, first, moved, failed⟩ := broken
    have unbalanced := first.not_balanced
    exact ⟨last, evaluated, by simp [failed, unbalanced], fun balanced => absurd balanced unbalanced,
      fun _ => ⟨position, byte, first, moved, failed⟩⟩

/-- Two counted numbers added behind a separator, and an addition that finds only one. -/
theorem balanced_and_unbalanced_runs :
    ((#[0x00, 0x01, 0x00, 0x01, 0xab, 0x03] : Script).size : Int) < numberBound ∧
    (∃ last, machine.evaluate (start #[0x00, 0x01, 0x00, 0x01, 0xab, 0x03]) = .ok last ∧
      last.error = none ∧ last.ip = 6 ∧ last.stack.length = 1 ∧ last.stack.sum = 2) ∧
    ∃ last, machine.evaluate (start #[0x00, 0x03, 0xff]) = .ok last ∧
      ∃ position byte, FirstBreak #[0x00, 0x03, 0xff] position byte ∧ last.ip = position + 1 ∧
        last.error = some (if IsOpcode byte then .emptyStack else .undefined) := by
  refine ⟨by decide, ?_, ?_⟩
  · obtain ⟨last, evaluated, fresh, finished, _⟩ :=
      runs_iff_balanced #[0x00, 0x01, 0x00, 0x01, 0xab, 0x03] (by decide)
    have balanced : Balanced #[0x00, 0x01, 0x00, 0x01, 0xab, 0x03] := by decide
    obtain ⟨atEnd, length, sum⟩ := finished balanced
    exact ⟨last, evaluated, fresh.mpr balanced, atEnd, Int.ofNat.inj length, sum⟩
  · obtain ⟨last, evaluated, _, _, broken⟩ := runs_iff_balanced #[0x00, 0x03, 0xff] (by decide)
    exact ⟨last, evaluated, broken (by decide)⟩

end ScriptMachine.Tally
