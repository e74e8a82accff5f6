import ScriptMachine.Proofs.LogCalls

/-! # The outcome of a command as data

A command prints and logs as it goes, and can end at many places. What it does on the whole is told
here without any host: the lines it prints, the records it logs whatever their level, and its exit
code. `execute_eq` says that this is what it does on every host. The environment and the clock come in
only where the records are written.
-/

namespace ScriptMachine

namespace Log

/-- The entries of a log as they are written. -/
def text (rendering : Rendering) (environment : Environment) (entries : List Entry) : String :=
  rendering.text environment.terminal (entries.flatMap (·.pieces environment.stamped))

theorem text_append (rendering : Rendering) (environment : Environment) (first second : List Entry) :
    text rendering environment (first ++ second) =
      text rendering environment first ++ text rendering environment second := by
  simp only [text, Rendering.text, List.flatMap_append, List.map_append, String.join_append]

end Log

namespace CommandLine

/-- What a command does. -/
structure Outcome where
  /-- The lines printed to the standard output. -/
  lines : List String := []
  /-- All records that are logged, whatever their level. -/
  records : List Log.Record
  exitCode : Nat
  deriving Repr, DecidableEq

/-- The record that tells how to use the program. -/
def usageRecord : Log.Record :=
  ⟨.info, usage⟩

/-- What is logged about a problem. -/
def Problem.records : Problem → List Log.Record
  | .unexpectedArgument argument =>
      [⟨.error, "Unexpected argument: " ++ argument ++ "\n"⟩, usageRecord]
  | .extraScript script => [⟨.error, "Unexpected extra script: " ++ script⟩]
  | .missingScript => [⟨.error, "Missing script to evaluate"⟩, usageRecord]
  | .invalidScript script error =>
      [⟨.error, "Invalid script '" ++ script ++ "': " ++ error.message⟩]

/-- What is logged about a machine: how many bytes have an operator. -/
def tableRecord (machine : Machine Item EvalError BitcoinCash.Context) : Log.Record :=
  let defined := machine.definedOperators.length
  ⟨.debug, "dispatch table built: " ++ toString defined ++ " defined opcodes, " ++
    toString (256 - defined) ++ " undefined"⟩

/-- What is logged before a script is run. -/
def openingRecords (machine : Machine Item EvalError BitcoinCash.Context)
    (start : BitcoinCash.State) : List Log.Record :=
  [⟨.info, "Evaluating " ++ toString start.script.size ++ " bytes: " ++
      Hex.encode start.script.toList⟩, tableRecord machine]

/-- What is logged about a trace. -/
def traceRecord (entries : List (TraceEntry Item EvalError BitcoinCash.Context)) : Log.Record :=
  ⟨.debug, "debug trace finished after " ++ toString (entries.length - 1) ++ " steps"⟩

/-- What is logged about the last state. -/
def conclusion (last : BitcoinCash.State) : Log.Record :=
  match last.error with
  | some error =>
      ⟨.error, "Evaluation failed at ip " ++ toString last.ip ++ " (" ++ failedMnemonic last ++
        "): " ++ error.message⟩
  | none =>
      if last.stack.isEmpty then ⟨.warn, "Evaluation finished with an empty stack"⟩
      else ⟨.info, "Evaluation finished with " ++ toString last.stack.length ++ " stack items"⟩

/-- What a run shows, and the last state that it comes to, unless the command ends with it. -/
structure Shown where
  lines : List String
  records : List Log.Record
  ended : Except Nat BitcoinCash.State

/-- What is shown of a run that ends in a fault. -/
def Shown.ofFault (start : BitcoinCash.State) (fault : Fault) : Shown where
  lines := Report.stateLines "initial" start
  records := [⟨.error, fault.message⟩]
  ended := .error 1

/-- What a run from a state shows. -/
def Options.shown (options : Options) (machine : Machine Item EvalError BitcoinCash.Context)
    (start : BitcoinCash.State) : Shown :=
  if options.evaluateOnly then
    match machine.evaluate start with
    | .ok last => { lines := [], records := [], ended := .ok last }
    | .error fault => .ofFault start fault
  else
    match machine.trace start with
    | .ok entries =>
        { lines := Report.traceLines entries
          records := [traceRecord entries]
          ended := .ok ((entries.getLast?.map (·.state)).getD start) }
    | .error fault => .ofFault start fault

/-- The outcome of a command, given what was logged before its run and what the run shows. -/
def Shown.outcome (shown : Shown) (before : List Log.Record) : Outcome :=
  match shown.ended with
  | .ok last =>
      { lines := shown.lines ++ Report.stateLines "result" last
        records := before ++ shown.records ++ [conclusion last]
        exitCode := if last.error.isSome then 1 else 0 }
  | .error code =>
      { lines := shown.lines, records := before ++ shown.records, exitCode := code }

/-- The outcome of running from a state. -/
def Options.outcome (options : Options) (start : BitcoinCash.State) : Outcome :=
  (options.shown (BitcoinCash.machine options.config) start).outcome
    (openingRecords (BitcoinCash.machine options.config) start)

/-- The outcome of arguments that there is a problem with. -/
def Problem.outcome (problem : Problem) : Outcome where
  records := problem.records
  exitCode := 1

/-- The outcome of arguments that do not ask for help. -/
def performed (arguments : List String) : Outcome :=
  match arguments.foldlM Options.take {} with
  | .error problem => problem.outcome
  | .ok options =>
      match options.start with
      | .error problem => problem.outcome
      | .ok start => options.outcome start

/-- The outcome of a list of arguments. -/
def outcome : List String → Outcome
  | [] => { records := [usageRecord], exitCode := 1 }
  | first :: later =>
      if isHelp first then { records := [usageRecord], exitCode := 0 } else performed (first :: later)

variable {world : World} {options : Options} {start : BitcoinCash.State}

/-- A command comes to an outcome, wherever it begins. -/
def ComesTo (world : World) (part : Command Simulation Unit) (outcome : Outcome) : Prop :=
  ∃ ended, Emits world part outcome.lines outcome.records ended ∧ exitCode ended = outcome.exitCode

theorem emits_report (problem : Problem) : Emits world problem.report [] problem.records (.ok ()) := by
  cases problem with
  | unexpectedArgument argument => exact (Emits.log _).bind (.log usageRecord)
  | extraScript script => exact .log _
  | missingScript => exact (Emits.log _).bind (.log usageRecord)
  | invalidScript script error => exact .log _

theorem emits_orRefuse_error {α : Type} (problem : Problem) :
    Emits world (orRefuse (.error problem) : Command Simulation α) [] problem.records (.error 1) :=
  ((emits_report problem).bind (.exit 1)).of_eq rfl (List.append_nil _)

theorem emits_orAbandon_error {α : Type} (start : BitcoinCash.State) (fault : Fault) :
    Emits world (orAbandon start (.error fault) : Command Simulation α)
      (Report.stateLines "initial" start) [⟨.error, fault.message⟩] (.error 1) :=
  ((Emits.printLines _).bind ((Emits.log _).bind (.exit 1))).of_eq (List.append_nil _) rfl

theorem emits_traceStates {machine : Machine Item EvalError BitcoinCash.Context}
    {entries : List (TraceEntry Item EvalError BitcoinCash.Context)}
    (traced : machine.trace start = .ok entries) :
    Emits world (traceStates machine start) (Report.traceLines entries) [traceRecord entries]
      (.ok ((entries.getLast?.map (·.state)).getD start)) := by
  rw [traceStates, traced]
  let last := (entries.getLast?.map (·.state)).getD start
  refine ((Emits.pure entries).bind ((Emits.debug _).bind
    ((Emits.printLines (Report.traceLines entries)).bind (.pure last)))).of_eq ?_ ?_
  · exact List.append_nil _
  · rfl

theorem emits_lastState (options : Options) (machine : Machine Item EvalError BitcoinCash.Context)
    (start : BitcoinCash.State) :
    Emits world (options.lastState machine start) (options.shown machine start).lines
      (options.shown machine start).records (options.shown machine start).ended := by
  unfold Options.lastState Options.shown
  cases options.evaluateOnly with
  | true =>
      rw [if_pos rfl, if_pos rfl]
      cases machine.evaluate start with
      | ok last => exact .pure last
      | error fault => exact emits_orAbandon_error start fault
  | false =>
      rw [if_neg Bool.false_ne_true, if_neg Bool.false_ne_true]
      cases traced : machine.trace start with
      | ok entries => exact emits_traceStates traced
      | error fault =>
          rw [traceStates, traced]
          exact (emits_orAbandon_error start fault).bind_error _

theorem emits_conclude (last : BitcoinCash.State) :
    Emits world (conclude last) [] [conclusion last]
      (if last.error.isSome then .error 1 else .ok ()) := by
  unfold conclude conclusion
  cases last.error with
  | some error => exact (Emits.log _).bind (.exit 1)
  | none =>
      cases last.stack.isEmpty with
      | true => exact .log _
      | false => exact .log _

theorem emits_buildMachine (config : BitcoinCash.Config) :
    Emits world (buildMachine config) []
      [tableRecord (BitcoinCash.machine config)] (.ok (BitcoinCash.machine config)) :=
  (Emits.debug _).bind (.pure _)

theorem comesTo_carryOut (options : Options) (start : BitcoinCash.State) :
    ComesTo world (options.carryOut start) (options.outcome start) := by
  have ran : Emits world _ _ _ _ :=
    emits_lastState options (BitcoinCash.machine options.config) start
  unfold Options.outcome Options.carryOut
  generalize options.shown (BitcoinCash.machine options.config) start = shown at ran ⊢
  obtain ⟨lines, records, code | last⟩ := shown
  · refine ⟨.error code, ?_, rfl⟩
    exact (Emits.log _).bind ((emits_buildMachine _).bind (ran.bind_error _))
  · refine ⟨if last.error.isSome then .error 1 else .ok (), ?_, ?_⟩
    · refine ((Emits.log _).bind ((emits_buildMachine _).bind (ran.bind
        ((Emits.printLines _).bind (emits_conclude last))))).of_eq ?_ ?_
      · simp [Shown.outcome]
      · simp [Shown.outcome, openingRecords]
    · change exitCode (if last.error.isSome then .error 1 else .ok ()) =
        if last.error.isSome then 1 else 0
      cases last.error <;> rfl

theorem comesTo_perform (arguments : List String) :
    ComesTo world (perform arguments) (performed arguments) := by
  unfold perform
  cases taken : arguments.foldlM Options.take {} with
  | error problem =>
      have refused : performed arguments = problem.outcome := by simp [performed, taken]
      rw [refused]
      exact ⟨.error 1, (emits_orRefuse_error problem).bind_error _, rfl⟩
  | ok options =>
      cases started : options.start with
      | error problem =>
          have refused : performed arguments = problem.outcome := by
            simp [performed, taken, started]
          rw [refused]
          refine ⟨.error 1, (Emits.pure options).bind ?_, rfl⟩
          rw [started]
          exact (emits_orRefuse_error problem).bind_error _
      | ok start =>
          have accepted : performed arguments = options.outcome start := by
            simp [performed, taken, started]
          rw [accepted]
          obtain ⟨ended, emits, code⟩ : ComesTo world _ _ := comesTo_carryOut options start
          refine ⟨ended, (Emits.pure options).bind ?_, code⟩
          rw [started]
          exact (Emits.pure start).bind emits

theorem comesTo_command (arguments : List String) :
    ComesTo world (command arguments) (outcome arguments) := by
  cases arguments with
  | nil => exact ⟨.error 1, (Emits.log _).bind (.exit 1), rfl⟩
  | cons first later =>
      simp only [command, outcome]
      cases isHelp first with
      | true => exact ⟨.error 0, (Emits.log _).bind (.exit 0), rfl⟩
      | false => exact comesTo_perform (first :: later)

/-- On every host a command does what its outcome says. Of the records those that the level admits
    are written, with the times that the clock shows. -/
theorem execute_eq (rendering : Log.Rendering) (world : World) (arguments : List String) :
    execute rendering world arguments =
      { output := Report.text (outcome arguments).lines
        log := Log.text rendering world.environment
          (world.clock.entries (world.environment.minimum.select (outcome arguments).records))
        exitCode := (outcome arguments).exitCode } := by
  obtain ⟨ended, emits, code⟩ : ComesTo world _ _ := comesTo_command arguments
  obtain ⟨memory, session, ran, reached⟩ := emits (.nothing world)
  rw [execute, ran]
  simp only [reached.output, reached.pieces, code, List.nil_append, Log.text]

end CommandLine

end ScriptMachine
