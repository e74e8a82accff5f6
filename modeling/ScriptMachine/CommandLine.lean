import ScriptMachine.BitcoinCash
import ScriptMachine.Log

/-! # The command line

A command runs one script, or an unlocking and a locking script joined, and shows either every state
or only the last. On the way it logs what it does. It ends with an exit code wherever something is
wrong, straight after it has logged what that is.
-/

namespace ScriptMachine

/-! ## Reports on states and traces -/

namespace Report

/-- The first line of a state: a label, the position and the size of the stack. -/
def headLine (label : String) (state : BitcoinCash.State) : String :=
  "      " ++ Text.pad .left 8 label ++ " ip: " ++ Text.pad .right 4 (toString state.ip) ++
    "  stack: " ++ toString state.stack.length

/-- The line of a stack item at some depth. -/
def itemLine (depth : Nat) (item : Item) : String :=
  "        [" ++ toString depth ++ "] " ++ Text.pad .left 6 item.kindName ++ " " ++ item.text

def errorLine (error : EvalError) : String :=
  "        error: " ++ error.message

/-- The lines of a state: its head, the stack from the top down, and its error if it has one. -/
def stateLines (label : String) (state : BitcoinCash.State) : List String :=
  headLine label state :: state.stack.mapIdx itemLine ++ (state.error.map errorLine).toList

/-- The line of an operator that was carried out as step number `index`. -/
def operatorLine (index : Nat) (explanation : Explanation) : String :=
  "#" ++ Text.pad .left 4 (toString index) ++ " " ++ Text.pad .left 20 explanation.asm ++ " " ++
    explanation.description

def entryLines (index : Nat)
    (entry : TraceEntry Item EvalError BitcoinCash.Context) : List String :=
  match entry.explanation with
  | some explanation => operatorLine index explanation :: stateLines "" entry.state
  | none => stateLines "initial" entry.state

def traceLines (entries : List (TraceEntry Item EvalError BitcoinCash.Context)) : List String :=
  (entries.mapIdx entryLines).flatten

/-- Lines as text, each with an end of line. -/
def text (lines : List String) : String :=
  String.join (lines.map (· ++ "\n"))

end Report

namespace CommandLine

/-! ## Arguments -/

/-- The name by which the program is called. -/
def program : String := "script_debug"

/-- How to use the program. -/
def usage : String :=
  Report.text
    ["Script Trace",
      "",
      "USAGE:",
      "    " ++ program ++ " <unlocking_hex> [locking_hex] [OPTIONS]",
      "",
      "ARGS:",
      "    <unlocking_hex>    Script to evaluate (unlocking script when a locking script follows)",
      "    [locking_hex]      Locking script, joined after OP_CODESEPARATOR",
      "",
      "OPTIONS:",
      "    -e, --evaluate          Print only the final state",
      "        --enable-pushdata4  Let OP_PUSHDATA4 push data instead of failing",
      "    -h, --help              Print this help message",
      "",
      "ENVIRONMENT:",
      "    AUTHVM_LOG              Minimum log level: debug, info, warn, error (default info)",
      "    AUTHVM_LOG_TIMESTAMP    Set to 0 to hide the elapsed-time prefix",
      "",
      "EXAMPLES:",
      "    # Trace a script",
      "    " ++ program ++ " 5152",
      "",
      "    # Evaluate an unlocking and a locking script",
      "    " ++ program ++
        " 0151 76a914404371705fa9bd789a2fcd52d2c580b65d35549d88ac --evaluate"]

/-- What the arguments ask for. -/
structure Options where
  /-- The scripts in hexadecimal, in order. -/
  scripts : List String := []
  /-- Whether only the last state is shown. -/
  evaluateOnly : Bool := false
  config : BitcoinCash.Config := {}
  deriving Repr, DecidableEq

/-- Why arguments cannot be carried out. -/
inductive Problem where
  /-- An option that the program does not know. -/
  | unexpectedArgument (argument : String)
  /-- A third script. -/
  | extraScript (script : String)
  /-- No script at all. -/
  | missingScript
  /-- A script that is no hexadecimal text. -/
  | invalidScript (script : String) (error : Hex.Error)
  deriving Repr, DecidableEq

/-- Whether the argument asks for help, if it comes first. -/
def isHelp (argument : String) : Bool :=
  argument = "--help" || argument = "-h"

/-- Take one argument into account. -/
def Options.take (options : Options) (argument : String) : Except Problem Options :=
  if argument = "--evaluate" ∨ argument = "-e" then .ok { options with evaluateOnly := true }
  else if argument = "--enable-pushdata4" then
    .ok { options with config := { enablePushData4 := true } }
  else if argument.toList.head? = some '-' then .error (.unexpectedArgument argument)
  else if options.scripts.length < 2 then
    .ok { options with scripts := options.scripts ++ [argument] }
  else .error (.extraScript argument)

def decodeScript (script : String) : Except Problem Script :=
  match Hex.decode script with
  | .ok bytes => .ok bytes.toArray
  | .error error => .error (.invalidScript script error)

/-- The state in which the scripts start. -/
def Options.start (options : Options) : Except Problem BitcoinCash.State :=
  match options.scripts with
  | [] => .error .missingScript
  | [script] => do
      let bytes ← decodeScript script
      .ok (BitcoinCash.start bytes)
  | unlocking :: locking :: _ => do
      let unlockingBytes ← decodeScript unlocking
      let lockingBytes ← decodeScript locking
      .ok (BitcoinCash.startJoined unlockingBytes lockingBytes)

/-! ## Commands -/

/-- A part of a command: it logs, and either comes to a result or ends the command with a code. -/
abbrev Command (m : Type → Type) := ExceptT Nat (StateT Log.Memory m)

/-- The mnemonic of the byte before the position, or nothing where there is no such byte. -/
def failedMnemonic (state : BitcoinCash.State) : String :=
  if state.ip = 0 then ""
  else ((state.script[state.ip - 1]?).map Opcode.mnemonicFor).getD ""

section Parts

variable {m : Type → Type} [Monad m] [Host m] {α : Type}

def exit (code : Nat) : Command m α :=
  throw code

def printLines (lines : List String) : Command m Unit :=
  lines.forM fun line => Host.print (line ++ "\n")

def showUsage : Command m Unit :=
  Log.info usage

def Problem.report : Problem → Command m Unit
  | .unexpectedArgument argument => do
      Log.error ("Unexpected argument: " ++ argument ++ "\n")
      showUsage
  | .extraScript script => Log.error ("Unexpected extra script: " ++ script)
  | .missingScript => do
      Log.error "Missing script to evaluate"
      showUsage
  | .invalidScript script error => Log.error ("Invalid script '" ++ script ++ "': " ++ error.message)

/-- Go on with what the arguments ask for, or end the command with the problem. -/
def orRefuse : Except Problem α → Command m α
  | .ok value => return value
  | .error problem => do
      problem.report
      exit 1

/-- Go on with the result of a run. Runs fault only in scripts of `positionBound` bytes or more, which
    no memory holds. What is done about a fault is therefore a convention: the first state is shown
    and the fault is logged, so that every list of arguments has an outcome. -/
def orAbandon (start : BitcoinCash.State) : Except Fault α → Command m α
  | .ok value => return value
  | .error fault => do
      printLines (Report.stateLines "initial" start)
      Log.error fault.message
      exit 1

/-- The machine, with a word on how many bytes have an operator. -/
def buildMachine (config : BitcoinCash.Config) :
    Command m (Machine Item EvalError BitcoinCash.Context) := do
  let machine := BitcoinCash.machine config
  let defined := machine.definedOperators.length
  Log.debug fun _ => "dispatch table built: " ++ toString defined ++ " defined opcodes, " ++
    toString (256 - defined) ++ " undefined"
  return machine

/-- Run to the end and show every state. -/
def traceStates (machine : Machine Item EvalError BitcoinCash.Context) (start : BitcoinCash.State) :
    Command m BitcoinCash.State := do
  let entries ← orAbandon start (machine.trace start)
  Log.debug fun _ => "debug trace finished after " ++ toString (entries.length - 1) ++ " steps"
  printLines (Report.traceLines entries)
  return (entries.getLast?.map (·.state)).getD start

/-- Run to the end. Unless only the last state is asked for, every state is shown. -/
def Options.lastState (options : Options) (machine : Machine Item EvalError BitcoinCash.Context)
    (start : BitcoinCash.State) : Command m BitcoinCash.State :=
  if options.evaluateOnly then orAbandon start (machine.evaluate start)
  else traceStates machine start

/-- Tell how a run ended. A run that made an error ends the command. -/
def conclude (last : BitcoinCash.State) : Command m Unit :=
  match last.error with
  | some error => do
      Log.error ("Evaluation failed at ip " ++ toString last.ip ++ " (" ++ failedMnemonic last ++
        "): " ++ error.message)
      exit 1
  | none =>
      if last.stack.isEmpty then Log.warn "Evaluation finished with an empty stack"
      else Log.info ("Evaluation finished with " ++ toString last.stack.length ++ " stack items")

/-- Run from a state, and tell how that ended. -/
def Options.carryOut (options : Options) (start : BitcoinCash.State) : Command m Unit := do
  Log.info ("Evaluating " ++ toString start.script.size ++ " bytes: " ++
    Hex.encode start.script.toList)
  let machine ← buildMachine options.config
  let last ← options.lastState machine start
  printLines (Report.stateLines "result" last)
  conclude last

/-- Carry out arguments that do not ask for help. -/
def perform (arguments : List String) : Command m Unit := do
  let options ← orRefuse (arguments.foldlM Options.take {})
  let start ← orRefuse options.start
  options.carryOut start

/-- Carry out a list of arguments. -/
def command : List String → Command m Unit
  | [] => do
      showUsage
      exit 1
  | first :: later =>
      if isHelp first then do
        showUsage
        exit 0
      else perform (first :: later)

end Parts

/-- The exit code of a command that ended on its own, or that was ended. -/
def exitCode : Except Nat Unit → Nat
  | .ok _ => 0
  | .error code => code

/-- What a command leaves behind: the text on each of its streams, and its exit code. -/
structure Result where
  /-- The text on the standard output. -/
  output : String
  /-- The text on the standard error. -/
  log : String
  exitCode : Nat
  deriving Repr, DecidableEq

/-- Carry out a list of arguments on a simulated host. -/
def execute (rendering : Log.Rendering) (world : World) (arguments : List String) : Result :=
  let ((ended, _), session) := (command arguments : Command Simulation Unit) {} world {}
  { output := session.output
    log := rendering.text world.environment.terminal session.pieces
    exitCode := exitCode ended }

end CommandLine

end ScriptMachine
