import ScriptMachine.Script

/-! # States and operators

What a machine holds while it runs a script, and what it does for one opcode. An operator can end in
a fault. The words that explain it cannot: they are functions of the state, so operators whose texts
fail in some states are left out.
-/

namespace ScriptMachine

/-! ## Faults

A fault ends a run without a state: what was asked for lies outside what the machine can do at all.
An error that a program makes is no fault. It is kept in the state, and the run stops there.
-/

/-- Why an action has no resulting state. -/
inductive Fault where
  /-- A script of `length` bytes has no byte at `index`. -/
  | outOfBounds (length index : Nat)
  /-- A sum does not fit its 64-bit word. -/
  | additionOverflow
  deriving Repr, DecidableEq

def Fault.message : Fault → String
  | .outOfBounds length index =>
      "index out of bounds: the len is " ++ toString length ++ " but the index is " ++
        toString index
  | .additionOverflow => "attempt to add with overflow"

/-- Positions in a script are 64-bit words: every position is below this bound. -/
def positionBound : Nat := 0x10000000000000000

/-! ## Machine states

What a machine holds while it runs a script. The kinds of stack items, errors and surroundings
differ between instruction sets, so they are parameters.
-/

/-- The state of a machine. -/
structure State (Value Error Context : Type) where
  /-- Position in the script of the next byte to execute. -/
  ip : Nat
  /-- The bytes being run. -/
  script : Script
  /-- The stack, its top first. -/
  stack : List Value
  /-- The error that the program made last, if it made one. -/
  error : Option Error
  /-- What the program can know of its surroundings. -/
  context : Context
  deriving Repr, DecidableEq

namespace State

variable {Value Error Context : Type}

/-- The state in which a script starts: at its first byte, with nothing on the stack. -/
def start (script : Script) (context : Context) : State Value Error Context :=
  { ip := 0, script, stack := [], error := none, context }

def push (state : State Value Error Context) (item : Value) : State Value Error Context :=
  { state with stack := item :: state.stack }

/-- Record an error. An earlier one is forgotten. -/
def fail (state : State Value Error Context) (error : Error) : State Value Error Context :=
  { state with error := some error }

/-- Move on by `distance` bytes. The new position has to be one that a word can hold. -/
def advance (state : State Value Error Context) (distance : Nat) :
    Except Fault (State Value Error Context) :=
  if state.ip + distance < positionBound then .ok { state with ip := state.ip + distance }
  else .error .additionOverflow

def hasByte (state : State Value Error Context) : Bool :=
  state.ip < state.script.size

/-- Whether the program made no error so far and a byte is left to execute. -/
def hasMore (state : State Value Error Context) : Bool :=
  state.error.isNone && state.hasByte

end State

/-! ## Operators

What a machine does for one opcode, together with the words that explain it in a trace.
-/

/-- A text that explains an operator. -/
inductive Wording (σ : Type) where
  /-- The same words in every state. -/
  | fixed (text : String)
  /-- Words that depend on the state the operator is about to change. -/
  | computed (text : σ → String)

namespace Wording

variable {σ : Type}

/-- The words in a given state. -/
def resolve (wording : Wording σ) (state : σ) : String :=
  match wording with
  | .fixed text => text
  | .computed text => text state

/-- The words, if they are the same in every state. -/
def text? : Wording σ → Option String
  | .fixed text => some text
  | .computed _ => none

/-- The wording as an operator's outline shows it. -/
def outline : Wording σ → String
  | .fixed text => "Static(" ++ Text.quoteText text ++ ")"
  | .computed _ => "Dynamic(..)"

end Wording

/-- An operator on states of type `σ`. -/
structure Operator (σ : Type) where
  /-- The operator's name in assembly. -/
  asm : Wording σ
  /-- What the operator does. -/
  description : Wording σ
  /-- The change the operator makes. -/
  apply : σ → Except Fault σ

/-- An operator's words in some state. -/
structure Explanation where
  asm : String
  description : String
  deriving Repr, DecidableEq

namespace Operator

variable {σ : Type}

/-- The operator's words in a given state. -/
def explain (operator : Operator σ) (state : σ) : Explanation :=
  { asm := operator.asm.resolve state, description := operator.description.resolve state }

/-- A one-line outline of the operator: its words, without the change it makes. -/
def outline (operator : Operator σ) : String :=
  "Operator \x7b asm: " ++ operator.asm.outline ++ ", description: " ++
    operator.description.outline ++ ", .. \x7d"

end Operator

end ScriptMachine
