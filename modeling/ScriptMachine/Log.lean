import ScriptMachine.Text

/-! # The log

A program logs records while it runs. A record is written at once, or not at all if its level is too
low. Between two records the log remembers what it has asked of its host before: the least level to be
written, whether times are shown, and the time of the first record that was written.
-/

namespace ScriptMachine

namespace Log

/-! ## Levels -/

/-- How much a record matters. -/
inductive Level where
  /-- What helps to follow the program's own working. -/
  | debug
  /-- What the program does. -/
  | info
  /-- What may not be as it was meant. -/
  | warn
  /-- What went wrong. -/
  | error
  deriving Repr, DecidableEq

/-- The colours that levels are shown in. -/
inductive Color where
  | cyan
  | yellow
  | red
  deriving Repr, DecidableEq

structure Style where
  foreground : Option Color := none
  bold : Bool := false
  dimmed : Bool := false
  deriving Repr, DecidableEq

namespace Level

/-- The place of the level among all levels, the least first. -/
def rank : Level → Nat
  | .debug => 0
  | .info => 1
  | .warn => 2
  | .error => 3

instance : Ord Level where
  compare left right := compare left.rank right.rank

/-- Whether records of a level are written where `minimum` is the least level to be written. -/
def admits (minimum level : Level) : Bool :=
  minimum.rank ≤ level.rank

/-- The level of a name, in any case and with blanks around it. Two levels have a second name. -/
def parse? (name : String) : Option Level :=
  let plain := String.ofList ((Text.trim name.toList).map Char.toLower)
  if plain = "debug" ∨ plain = "trace" then some .debug
  else if plain = "info" then some .info
  else if plain = "warn" ∨ plain = "warning" then some .warn
  else if plain = "error" then some .error
  else none

def name : Level → String
  | .debug => "DEBUG"
  | .info => "INFO"
  | .warn => "WARN"
  | .error => "ERROR"

def column (alignment : Text.Alignment) (width : Nat) (level : Level) : String :=
  Text.pad alignment width level.name

/-- How records of the level look. -/
def style : Level → Style
  | .debug => { foreground := some .cyan, dimmed := true }
  | .info => {}
  | .warn => { foreground := some .yellow, bold := true }
  | .error => { foreground := some .red, bold := true }

end Level

/-! ## Records -/

/-- One message of a program. -/
structure Record where
  level : Level
  message : String
  deriving Repr, DecidableEq

/-- The line of a record, without a time. -/
def Record.line (record : Record) : String :=
  record.level.column .left 5 ++ " " ++ record.message ++ "\n"

/-- One thing that a terminal is asked to do. -/
inductive Piece where
  /-- Give the text after this a new look. -/
  | style (style : Style)
  /-- Show a time since the first record, in nanoseconds. -/
  | elapsed (nanoseconds : Nat)
  | text (text : String)
  /-- Give the text after this its plain look again. -/
  | reset
  deriving Repr, DecidableEq

end Log

/-! ## Hosts -/

/-- The environment variables that a program asks for. -/
inductive Variable where
  /-- The least level to be written to the log. -/
  | logLevel
  /-- Hides the times in the log where it is a zero. -/
  | logTimestamp
  deriving Repr, DecidableEq

def Variable.name : Variable → String
  | .logLevel => "AUTHVM_LOG"
  | .logTimestamp => "AUTHVM_LOG_TIMESTAMP"

/-- What a program can ask of the host that runs it. -/
class Host (m : Type → Type) where
  /-- The value of an environment variable, if it is set. -/
  value? : Variable → m (Option String)
  /-- The time in nanoseconds, on a clock that never goes back. -/
  now : m Nat
  /-- Write a text to the standard output. -/
  print : String → m Unit
  /-- Write a piece to the standard error. -/
  write : Log.Piece → m Unit

instance {m n : Type → Type} [MonadLift m n] [Host m] : Host n where
  value? wanted := liftM (Host.value? wanted : m (Option String))
  now := liftM (Host.now : m Nat)
  print text := liftM (Host.print text : m Unit)
  write piece := liftM (Host.write piece : m Unit)

namespace Log

/-! ## Logging -/

/-- What the log remembers between two records. -/
structure Memory where
  /-- The least level to be written, once it has been asked for. -/
  minimum : Option Level := none
  /-- The time of the first record that was written. -/
  started : Option Nat := none
  /-- Whether times are shown, once that has been asked for. -/
  stamped : Option Bool := none
  deriving Repr, DecidableEq

/-- The least level to be written, given the value of its variable. A value that is missing or is no
    name of a level counts as `info`. -/
def minimumOf (value : Option String) : Level :=
  (value.bind Level.parse?).getD .info

/-- Whether times are shown, given the value of its variable. -/
def stampedOf (value : Option String) : Bool :=
  value.map Text.trimmed ≠ some "0"

section Calls

variable {m : Type → Type} [Monad m] [MonadStateOf Memory m] [Host m]

/-- The least level to be written. The host is asked for it once. -/
def minimum : m Level := do
  match (← getThe Memory).minimum with
  | some level => return level
  | none =>
      let level := minimumOf (← Host.value? .logLevel)
      modifyThe Memory fun memory => { memory with minimum := some level }
      return level

def enabled (level : Level) : m Bool :=
  return (← minimum).admits level

/-- The time since the first record that was written. For that record the clock is read twice. -/
def elapsed : m Nat := do
  match (← getThe Memory).started with
  | some started => return (← Host.now) - started
  | none =>
      let started ← Host.now
      modifyThe Memory fun memory => { memory with started := some started }
      return (← Host.now) - started

/-- Whether times are shown. The host is asked once. -/
def stamped : m Bool := do
  match (← getThe Memory).stamped with
  | some shown => return shown
  | none =>
      let shown := stampedOf (← Host.value? .logTimestamp)
      modifyThe Memory fun memory => { memory with stamped := some shown }
      return shown

/-- Write a record, with its time if times are shown. -/
def write (record : Record) : m Unit := do
  let time ← elapsed
  Host.write (.style record.level.style)
  if ← stamped then Host.write (.elapsed time)
  Host.write (.text record.line)
  Host.write .reset

/-- Log a record: write it, unless its level is too low. -/
def log (record : Record) : m Unit := do
  if ← enabled record.level then write record

/-- Log a message for debugging. Unlike other messages it is not even made where its level is too
    low. -/
def debug (message : Unit → String) : m Unit := do
  if ← enabled .debug then log ⟨.debug, message ()⟩

def info (message : String) : m Unit :=
  log ⟨.info, message⟩

def warn (message : String) : m Unit :=
  log ⟨.warn, message⟩

def error (message : String) : m Unit :=
  log ⟨.error, message⟩

end Calls

/-! ## Rendering -/

/-- The environment variables that terminals look at. -/
structure Terminal where
  /-- The kind of terminal. -/
  kind : Option String := none
  /-- Switches colours off, whatever its value. -/
  noColor : Option String := none
  deriving Repr, DecidableEq

/-- How pieces are turned into text. What is done about styles is up to a library for terminals. -/
structure Rendering where
  elapsed : Nat → String
  style : Terminal → Style → String
  reset : Terminal → String

namespace Rendering

def piece (rendering : Rendering) (terminal : Terminal) : Piece → String
  | .style style => rendering.style terminal style
  | .elapsed nanoseconds => rendering.elapsed nanoseconds
  | .text text => text
  | .reset => rendering.reset terminal

def text (rendering : Rendering) (terminal : Terminal) (pieces : List Piece) : String :=
  String.join (pieces.map (rendering.piece terminal))

/-- The same rendering, with all times shown as the same text. -/
def timeless (rendering : Rendering) (stamp : String) : Rendering :=
  { rendering with elapsed := fun _ => stamp }

end Rendering

/-- A time in seconds and thousandths. -/
def elapsedStamp (nanoseconds : Nat) : String :=
  let milliseconds := nanoseconds / 1000000
  let seconds := toString (milliseconds / 1000)
  let thousandths := toString (1000 + milliseconds % 1000)
  "[" ++ Text.pad .right 4 seconds ++ "." ++ String.ofList (thousandths.toList.drop 1) ++ "s] "

/-- A terminal control sequence that sets how the text after it looks. -/
def control (parameter : String) : String :=
  "\x1b[" ++ parameter ++ "m"

def Color.parameter : Color → String
  | .cyan => "36"
  | .yellow => "33"
  | .red => "31"

/-- The control sequences for a style, which does away with the style before it. -/
def Style.sequence (style : Style) : String :=
  control "0" ++ (if style.bold then control "1" else "") ++
    (if style.dimmed then control "2" else "") ++
    (style.foreground.map fun color => control color.parameter).getD ""

def Terminal.colored (terminal : Terminal) : Bool :=
  terminal.kind.isSome && terminal.kind ≠ some "dumb" && terminal.noColor.isNone

/-- The rendering that programs use: control sequences, where the terminal shows colours. -/
def Rendering.standard : Rendering where
  elapsed := elapsedStamp
  style terminal style := if terminal.colored then style.sequence else ""
  reset terminal := if terminal.colored then control "0" else ""

/-! ## Simulated hosts -/

/-- The values of the environment variables that concern the log, where they are set. -/
structure Environment where
  level : Option String := none
  timestamp : Option String := none
  terminal : Terminal := {}
  deriving Repr, DecidableEq

def Environment.value? (environment : Environment) : Variable → Option String
  | .logLevel => environment.level
  | .logTimestamp => environment.timestamp

/-- The times that a clock shows when it is read, the first time first. -/
structure Clock where
  reading : Nat → Nat
  monotone : ∀ {earlier later}, earlier ≤ later → reading earlier ≤ reading later

end Log

/-- The surroundings of a simulated host. -/
structure World where
  environment : Log.Environment
  clock : Log.Clock

/-- What a program has done so far on a simulated host. -/
structure Session where
  output : String := ""
  /-- All that was written to the standard error. -/
  pieces : List Log.Piece := []
  /-- How often the clock was read. -/
  readings : Nat := 0
  deriving Repr, DecidableEq

/-- Programs on a simulated host. -/
abbrev Simulation := ReaderT World (StateM Session)

instance : Host Simulation where
  value? wanted := fun world session => (world.environment.value? wanted, session)
  now := fun world session =>
    (world.clock.reading session.readings, { session with readings := session.readings + 1 })
  print text := fun _ session => ((), { session with output := session.output ++ text })
  write piece := fun _ session => ((), { session with pieces := session.pieces ++ [piece] })

end ScriptMachine
