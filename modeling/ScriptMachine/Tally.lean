import ScriptMachine.Machine.Run
import ScriptMachine.Push.Primitive

/-! # The tally language

A small language of numbers: push a zero, count the top up or down, add the two topmost numbers. The
separator between an unlocking and a locking script does nothing.
-/

namespace ScriptMachine.Tally

/-- The errors that a tally program can make. -/
inductive Error where
  /-- An error of the push languages, made by a push primitive. -/
  | common (error : EvalError)
  /-- The byte stands for no operator. -/
  | undefined
  /-- An operator found too few numbers on the stack. -/
  | emptyStack
  deriving Repr, DecidableEq

def Error.message : Error → String
  | .common error => error.message
  | .undefined => "The program called an undefined opcode."
  | .emptyStack => "The program tried to pop from an empty stack."

abbrev State := ScriptMachine.State Int Error Unit

/-- The byte between an unlocking and a locking script. -/
def separator : UInt8 := 0xab

/-- Numbers are signed 64-bit words: they lie below this bound and not below its negative. -/
def numberBound : Int := 0x8000000000000000

/-- The sum of two numbers. A sum that is no word is a fault. -/
def add (left right : Int) : Except Fault Int :=
  if -numberBound ≤ left + right ∧ left + right < numberBound then .ok (left + right)
  else .error .additionOverflow

def pushZero : Operator State where
  asm := .fixed "OP_0"
  description := .fixed "Push a 0 onto the stack."
  apply := fun state => .ok (state.push 0)

/-- Change the top of the stack by a constant. -/
def changeTop (state : State) (change : Int) : Except Fault State :=
  match state.stack with
  | top :: rest => do
      let sum ← add top change
      .ok { state with stack := sum :: rest }
  | [] => .ok (state.fail .emptyStack)

def increment : Operator State where
  asm := .fixed "OP_INCREMENT"
  description := .fixed "Add 1 to the top stack item."
  apply := fun state => changeTop state 1

def decrement : Operator State where
  asm := .fixed "OP_DECREMENT"
  description := .fixed "Subtract 1 from the top stack item."
  apply := fun state => changeTop state (-1)

/-- Put the sum of the two topmost numbers in their place. A number without a second one is lost. -/
def addTopTwo (state : State) : Except Fault State :=
  match state.stack with
  | first :: second :: rest => do
      let sum ← add first second
      .ok { state with stack := sum :: rest }
  | _ => .ok { state with stack := [], error := some .emptyStack }

/-- A stack item as words show it, if there is one. -/
def itemText : Option Int → String
  | some number => toString number
  | none => "undefined"

/-- What adding does to the stack of a state, in words. -/
def addDescription (state : State) : String :=
  "Pop the top two items off the stack (" ++ itemText state.stack[0]? ++ ", " ++
    itemText state.stack[1]? ++ ") and push their sum onto the stack."

def addition : Operator State where
  asm := .fixed "OP_ADD"
  description := .computed addDescription
  apply := addTopTwo

/-- The separator as a trace shows it. -/
def separatorAsm (state : State) : String :=
  "OP_CODESEPARATOR(ip: " ++ toString state.ip ++ ")"

def passSeparator : Operator State where
  asm := .computed separatorAsm
  description := .fixed "Used internally to separate the unlocking and locking scripts."
  apply := .ok

/-- The operator of bytes that stand for nothing. -/
def undefined : Operator State where
  asm := .fixed "undefined"
  description := .fixed "Error: the program called an undefined opcode."
  apply := fun state => .ok (state.fail .undefined)

/-- The operator of each byte that has one. -/
def operators (opcode : UInt8) : Option (Operator State) :=
  if opcode = 0x00 then some pushZero
  else if opcode = 0x01 then some increment
  else if opcode = 0x02 then some decrement
  else if opcode = 0x03 then some addition
  else if opcode = separator then some passSeparator
  else none

def instructionSet : InstructionSet Int Error Unit where
  operators := operators
  undefined := undefined
  next state := state.advance 1
  continues := State.hasMore

theorem changeTop_keeps {state stepped : State} {change : Int}
    (changed : changeTop state change = .ok stepped) :
    stepped.ip = state.ip ∧ stepped.script = state.script := by
  unfold changeTop add at changed
  split at changed
  · split at changed <;> simp only [bind, Except.bind, Except.ok.injEq, reduceCtorEq] at changed
    subst stepped
    exact ⟨rfl, rfl⟩
  · cases changed
    exact ⟨rfl, rfl⟩

theorem addTopTwo_keeps {state stepped : State} (added : addTopTwo state = .ok stepped) :
    stepped.ip = state.ip ∧ stepped.script = state.script := by
  unfold addTopTwo add at added
  split at added
  · split at added <;> simp only [bind, Except.bind, Except.ok.injEq, reduceCtorEq] at added
    subst stepped
    exact ⟨rfl, rfl⟩
  · cases added
    exact ⟨rfl, rfl⟩

theorem dispatch_keeps {opcode : UInt8} {state stepped : State}
    (applied : (instructionSet.dispatch opcode).apply state = .ok stepped) :
    stepped.ip = state.ip ∧ stepped.script = state.script := by
  simp only [InstructionSet.dispatch, instructionSet, operators] at applied
  repeat' split at applied
  · cases applied
    exact ⟨rfl, rfl⟩
  · exact changeTop_keeps applied
  · exact changeTop_keeps applied
  · exact addTopTwo_keeps applied
  · cases applied
    exact ⟨rfl, rfl⟩
  · cases applied
    exact ⟨rfl, rfl⟩

/-- A run goes on only inside the script, and every step moves past the byte that it reads. -/
theorem moves : instructionSet.Moves where
  inside state continuing := by
    simp only [instructionSet, State.hasMore, State.hasByte, Bool.and_eq_true,
      decide_eq_true_eq] at continuing
    exact continuing.2
  moves state stepped _ stepping := by
    simp only [InstructionSet.step, bind, Except.bind] at stepping
    split at stepping
    · simp at stepping
    · next operator reading =>
        split at stepping
        · simp at stepping
        · next moved advanced =>
            simp only [instructionSet, State.advance] at advanced
            split at advanced <;> simp only [Except.ok.injEq, reduceCtorEq] at advanced
            simp only [InstructionSet.current] at reading
            split at reading <;> simp only [Except.ok.injEq, reduceCtorEq] at reading
            subst reading advanced
            have ⟨sameIp, sameScript⟩ := dispatch_keeps stepping
            exact ⟨by simp [sameIp], sameScript⟩

def machine : Machine Int Error Unit :=
  .ofMoves instructionSet moves

def start (script : Script) : State :=
  .start script ()

/-- The state in which an unlocking and a locking script start. -/
def startJoined (unlocking locking : Script) : State :=
  start (unlocking.join locking separator)

/-- The tally operator of a push primitive. The stack holds numbers only, so there is none for the
    primitives that push bytes. -/
def ofPrimitive? (primitive : Primitive) : Option (Operator State) :=
  let explained (apply : State → State) : Operator State :=
    { asm := .fixed primitive.asm
      description := .fixed primitive.description
      apply := fun state => .ok (apply state) }
  match primitive with
  | .number value => some (explained (·.push value))
  | .refused => some (explained (·.fail (.common .nonMinimalPush)))
  | .undefined => some (explained (·.fail (.common .unknownOpcode)))
  | .bytes _ | .sized _ _ => none

end ScriptMachine.Tally
