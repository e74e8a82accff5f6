import ScriptMachine.Machine.Run
import ScriptMachine.Push.Primitive

/-! # Languages of pushes

Instruction sets made of push primitives, and their machines.
-/

namespace ScriptMachine

/-! ## Push languages

An instruction set made of push primitives: a table, a primitive for all other bytes, how far the
position moves before a byte is acted on, and when a run stops.
-/

/-- The choices that make up a push language. -/
structure PushLanguage where
  /-- The primitive of each byte that has one. -/
  table : PrimitiveTable
  /-- The primitive of every other byte. -/
  fallback : Primitive := .undefined
  /-- How far the position moves before a byte is acted on. -/
  stride : Nat := 1
  /-- Whether a run goes on after an error. -/
  ignoresErrors : Bool := false
  /-- A run goes on only while the stack is smaller than this, if it is given. -/
  stackBelow : Option Nat := none

namespace PushLanguage

variable {Context : Type} (language : PushLanguage)

def primitive (opcode : UInt8) : Primitive :=
  (language.table opcode).getD language.fallback

/-- Whether the stack is small enough for a run to go on. -/
def hasRoom (state : State Item EvalError Context) : Bool :=
  match language.stackBelow with
  | some bound => state.stack.length < bound
  | none => true

/-- Whether a run goes on: a byte is left, no error counts, and the stack is small enough. -/
def continues (state : State Item EvalError Context) : Bool :=
  (language.ignoresErrors || state.error.isNone) && state.hasByte && language.hasRoom state

def instructionSet : InstructionSet Item EvalError Context where
  operators opcode := (language.table opcode).map Primitive.operator
  undefined := language.fallback.operator
  next state := state.advance language.stride
  continues := language.continues

end PushLanguage

/-! ## The horizon of a push language

A step of a push language pushes one item or makes an error. With a stride of one or more the
position moves on either way, so a run ends within as many steps as bytes are left. With no stride at
all, a step that makes an error, or that pushes without moving, is taken again and again unless an
error or the size of the stack stops the run; the other steps are bounded by the room on the stack or
by the bytes that are left.
-/

variable {Context : Type}

namespace Primitive

theorem le_of_read {primitive : Primitive} {script : Script} {position stop : Nat} {item : Item}
    (reading : primitive.read script position = .ok (item, stop)) : position ≤ stop := by
  cases primitive with
  | number value =>
      simp only [read, Except.ok.injEq, Prod.mk.injEq] at reading
      omega
  | bytes count =>
      cases payload : take script position count <;>
        simp [read, payload, bind, Except.bind] at reading
      omega
  | sized width minimum =>
      cases lengthRead : take script position width.byteCount with
      | error error => simp [read, lengthRead, bind, Except.bind] at reading
      | ok field =>
          cases payloadRead : take script (position + width.byteCount) (littleEndian field) with
          | error error =>
              simp [read, lengthRead, payloadRead, bind, Except.bind] at reading
          | ok payload =>
              simp only [read, lengthRead, payloadRead, bind, Except.bind] at reading
              split at reading <;> simp at reading
              omega
  | refused => simp [read] at reading
  | undefined => simp [read] at reading

@[simp]
theorem script_perform (primitive : Primitive) (state : State Item EvalError Context) :
    (primitive.perform state).script = state.script := by
  unfold perform
  split <;> rfl

theorem ip_le_ip_perform (primitive : Primitive) (state : State Item EvalError Context) :
    state.ip ≤ (primitive.perform state).ip := by
  unfold perform
  split
  · next reading => exact le_of_read reading
  · exact Nat.le_refl _

end Primitive

namespace PushLanguage

variable (language : PushLanguage)

theorem dispatch_eq (opcode : UInt8) :
    (language.instructionSet : InstructionSet Item EvalError Context).dispatch opcode =
      (language.primitive opcode).operator := by
  simp only [InstructionSet.dispatch, instructionSet, primitive]
  cases language.table opcode <;> rfl

theorem step_eq (state : State Item EvalError Context) :
    language.instructionSet.step state =
      match state.script[state.ip]? with
      | none => .error (.outOfBounds state.script.size state.ip)
      | some opcode =>
          if state.ip + language.stride < positionBound then
            .ok ((language.primitive opcode).perform { state with ip := state.ip + language.stride })
          else .error .additionOverflow := by
  cases reading : state.script[state.ip]? with
  | none => simp [InstructionSet.step, InstructionSet.current, reading, bind, Except.bind]
  | some opcode =>
      simp only [InstructionSet.step, InstructionSet.current, reading, dispatch_eq, bind,
        Except.bind]
      by_cases room : state.ip + language.stride < positionBound <;>
        simp [instructionSet, State.advance, room, Primitive.operator]

theorem ip_lt_of_continues {state : State Item EvalError Context}
    (continuing : language.continues state = true) : state.ip < state.script.size := by
  simp only [continues, State.hasByte, Bool.and_eq_true, decide_eq_true_eq] at continuing
  exact continuing.1.2

theorem moves_of_stride (positive : 0 < language.stride) :
    (language.instructionSet : InstructionSet Item EvalError Context).Moves where
  inside _ continuing := language.ip_lt_of_continues continuing
  moves state stepped _ stepping := by
    rw [step_eq] at stepping
    split at stepping
    · simp at stepping
    · next opcode reading =>
        split at stepping <;> simp only [Except.ok.injEq, reduceCtorEq] at stepping
        subst stepped
        have := (language.primitive opcode).ip_le_ip_perform
          { state with ip := state.ip + language.stride }
        simp only at this
        exact ⟨by omega, by simp⟩

/-- The number of steps within which a run ends, if it ends at all: the room on a bounded stack where
    the position stands still by itself, the bytes that are left in all other languages. -/
def horizon (state : State Item EvalError Context) : Nat :=
  match language.stride, language.stackBelow with
  | 0, some bound => bound - state.stack.length
  | _, _ => state.script.size - state.ip

theorem goesOn_of_step {state stepped : State Item EvalError Context}
    (continuing : language.continues state = true)
    (stepping : language.instructionSet.step state = .ok stepped)
    (forever : ∀ count, language.instructionSet.goesOn count stepped = true) (count : Nat) :
    language.instructionSet.goesOn count state = true := by
  cases count with
  | zero => exact continuing
  | succ count => rw [InstructionSet.goesOn_succ continuing stepping]; exact forever count

/-- A run that comes back to the same state never ends. -/
theorem goesOn_of_fixed {state : State Item EvalError Context}
    (continuing : language.continues state = true)
    (stepping : language.instructionSet.step state = .ok state) (count : Nat) :
    language.instructionSet.goesOn count state = true := by
  induction count with
  | zero => exact continuing
  | succ count ih => rw [InstructionSet.goesOn_succ continuing stepping]; exact ih

theorem step_of_stride_zero (still : language.stride = 0) (state : State Item EvalError Context)
    {opcode : UInt8} (reading : state.script[state.ip]? = some opcode)
    (room : state.ip < positionBound) :
    language.instructionSet.step state = .ok ((language.primitive opcode).perform state) := by
  rw [step_eq, reading]
  simp [still, room]

/-- Without a stride and without a bound on the stack, a push that does not move is repeated for
    ever. -/
theorem goesOn_of_push_in_place (still : language.stride = 0)
    (unbounded : language.stackBelow = none) {opcode : UInt8} {item : Item} (count : Nat) :
    ∀ state : State Item EvalError Context, language.continues state = true →
      state.script[state.ip]? = some opcode → state.ip < positionBound →
      (language.primitive opcode).read state.script state.ip = .ok (item, state.ip) →
      language.instructionSet.goesOn count state = true := by
  induction count with
  | zero => exact fun _ continuing _ _ _ => continuing
  | succ count ih =>
      intro state continuing reading room inPlace
      have stepping := language.step_of_stride_zero still state reading room
      rw [InstructionSet.goesOn_succ continuing stepping]
      have pushed : (language.primitive opcode).perform state = state.push item := by
        simp [Primitive.perform, inPlace, State.push]
      rw [pushed]
      refine ih (state.push item) ?_ reading room inPlace
      simp only [continues, hasRoom, unbounded] at continuing ⊢
      exact continuing

/-- Without a stride, a run that still goes on at its horizon never ends. -/
theorem goesOn_of_horizon_le (still : language.stride = 0) (limit : Nat) :
    ∀ state : State Item EvalError Context, language.horizon state ≤ limit →
      language.instructionSet.goesOn limit state = true →
      ∀ count, language.instructionSet.goesOn count state = true := by
  induction limit with
  | zero =>
      intro state reached going
      exfalso
      have inside := language.ip_lt_of_continues going
      have fits : language.hasRoom state = true := (Bool.and_eq_true_iff.mp going).2
      unfold horizon at reached
      unfold hasRoom at fits
      split at reached
      · next bound _ bounded =>
          rw [bounded] at fits
          simp at fits
          omega
      · omega
  | succ limit ih =>
      intro state reached going
      have continuing := InstructionSet.continues_of_goesOn going
      obtain ⟨stepped, stepping, after⟩ := InstructionSet.exists_step_of_goesOn going
      have inside := language.ip_lt_of_continues continuing
      have reading : state.script[state.ip]? = some state.script[state.ip] :=
        Array.getElem?_eq_getElem inside
      have room : state.ip < positionBound := by
        rw [step_eq, reading] at stepping
        simp only [still, Nat.add_zero] at stepping
        by_cases room : state.ip < positionBound
        · exact room
        · simp [room] at stepping
      have performed := language.step_of_stride_zero still state reading room
      rw [performed, Except.ok.injEq] at stepping
      cases taken : (language.primitive state.script[state.ip]).read state.script state.ip with
      | error error =>
          have failed : stepped = state.fail error := by
            rw [← stepping]
            simp [Primitive.perform, taken]
          refine language.goesOn_of_step continuing (failed ▸ stepping ▸ performed) ?_
          subst failed
          refine language.goesOn_of_fixed (InstructionSet.continues_of_goesOn after) ?_
          rw [language.step_of_stride_zero still (state.fail error) reading room]
          simp [Primitive.perform, State.fail, taken]
      | ok read =>
          obtain ⟨item, stop⟩ := read
          have pushed : stepped = { state.push item with ip := stop } := by
            rw [← stepping]
            simp [Primitive.perform, taken]
          have further := Primitive.le_of_read taken
          by_cases bounded : ∃ bound, language.stackBelow = some bound
          · obtain ⟨bound, bounded⟩ := bounded
            refine language.goesOn_of_step continuing (stepping ▸ performed) (ih stepped ?_ after)
            subst pushed
            simp only [horizon, still, bounded, State.push, List.length_cons] at reached ⊢
            omega
          · have unbounded : language.stackBelow = none := by
              cases limited : language.stackBelow with
              | none => rfl
              | some bound => exact absurd ⟨bound, limited⟩ bounded
            by_cases inPlace : stop = state.ip
            · subst inPlace
              exact fun count => language.goesOn_of_push_in_place still unbounded count state
                continuing reading room taken
            · refine language.goesOn_of_step continuing (stepping ▸ performed) (ih stepped ?_ after)
              subst pushed
              simp only [horizon, still, unbounded, State.push] at reached ⊢
              omega

theorem goesOn_of_horizon (state : State Item EvalError Context)
    (going : language.instructionSet.goesOn (language.horizon state) state = true) (count : Nat) :
    language.instructionSet.goesOn count state = true := by
  by_cases still : language.stride = 0
  · exact language.goesOn_of_horizon_le still _ state (Nat.le_refl _) going count
  · have ended := (language.moves_of_stride (Nat.pos_of_ne_zero still)).lt_of_goesOn going
    unfold horizon at ended
    split at ended
    · next bound none _ => exact absurd none still
    · exact absurd ended (Nat.lt_irrefl _)

def machine : Machine Item EvalError Context where
  toInstructionSet := language.instructionSet
  horizon := language.horizon
  goesOn_of_horizon := language.goesOn_of_horizon

end PushLanguage

end ScriptMachine
