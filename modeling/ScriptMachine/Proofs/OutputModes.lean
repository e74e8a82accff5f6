import ScriptMachine.Proofs.CommandOutcomes
import ScriptMachine.Proofs.LogFiltering
import ScriptMachine.Proofs.StepEffects

/-! # Showing every state, or only the last

The two ways in which a command shows a run differ by what they show on the way, and by a record that
counts the steps of a trace. Both end with the same state, and everything that a command says or does
after the run depends on that state alone.
-/

namespace ScriptMachine.CommandLine

variable {options : Options} {config : BitcoinCash.Config} {start last : BitcoinCash.State}
  {before after : List String}
  {entries : List (TraceEntry Item EvalError BitcoinCash.Context)}

/-- The text of records whose times make no difference. -/
def blocks (rendering : Log.Rendering) (environment : Log.Environment) (records : List Log.Record) :
    String :=
  Log.text rendering environment (records.map fun record => { record, elapsed := 0 })

/-- What a command leaves out if it shows only the last state. `opening` is what both ways of showing
    the run log before it. -/
structure Abridges (level : Log.Level) (rendering : Log.Rendering) (environment : Log.Environment)
    (opening : List Log.Record) (entries : List (TraceEntry Item EvalError BitcoinCash.Context))
    (last : BitcoinCash.State) (full brief : Result) : Prop where
  exitCode : brief.exitCode = full.exitCode
  result : brief.output = Report.text (Report.stateLines "result" last)
  trace : full.output = Report.text (Report.traceLines entries) ++ brief.output
  silent : level ≠ .debug → brief.log = full.log
  counted : level = .debug →
    brief.log = blocks rendering environment (opening ++ [conclusion last]) ∧
    full.log = blocks rendering environment (opening ++ [traceRecord entries, conclusion last])

/-! ## Adding the option -/

theorem not_asksForHelp_insert (noHelp : ¬ AsksForHelp (before ++ after)) :
    ¬ AsksForHelp (before ++ "--evaluate" :: after) := by
  cases before with
  | nil => simp [AsksForHelp]
  | cons first before => exact noHelp

theorem wellFormed_insert (formed : WellFormed (before ++ after) start) :
    WellFormed (before ++ "--evaluate" :: after) start := by
  obtain ⟨known, starts⟩ := formed
  constructor
  · intro argument member
    rw [List.mem_append, List.mem_cons] at member
    rcases member with member | rfl | member
    · exact known argument (List.mem_append_left after member)
    · exact .inl rfl
    · exact known argument (List.mem_append_right before member)
  · rw [List.filter_append] at starts
    rwa [List.filter_append, List.filter_cons_of_neg (by decide)]

theorem collect_insert (before after : List String) :
    Options.collect {} (before ++ "--evaluate" :: after) =
      { Options.collect {} (before ++ after) with evaluateOnly := true } := by
  have noScript : isScript "--evaluate" = false := by decide
  simp [Options.collect, noScript]

theorem evaluateOnly_collect {arguments : List String}
    (traced : "--evaluate" ∉ arguments ∧ "-e" ∉ arguments) :
    (Options.collect {} arguments).evaluateOnly = false := by
  change (false || arguments.any fun argument => argument = "--evaluate" ∨ argument = "-e") = false
  rw [Bool.false_or, List.any_eq_false]
  intro argument member
  rw [decide_eq_true_eq]
  rintro (rfl | rfl)
  · exact traced.1 member
  · exact traced.2 member

/-! ## What is shown -/

theorem outcome_brief (brief : options.evaluateOnly = true) (same : options.config = config)
    (evaluated : (BitcoinCash.machine config).evaluate start = .ok last) :
    options.outcome start =
      { lines := Report.stateLines "result" last
        records := openingRecords (BitcoinCash.machine config) start ++ [conclusion last]
        exitCode := if last.error.isSome then 1 else 0 } := by
  subst same
  simp [Options.outcome, Options.shown, Shown.outcome, brief, evaluated]

theorem outcome_full (full : options.evaluateOnly = false) (same : options.config = config)
    (traced : (BitcoinCash.machine config).trace start = .ok entries)
    (evaluated : (BitcoinCash.machine config).evaluate start = .ok last) :
    options.outcome start =
      { lines := Report.traceLines entries ++ Report.stateLines "result" last
        records := openingRecords (BitcoinCash.machine config) start ++
          [traceRecord entries, conclusion last]
        exitCode := if last.error.isSome then 1 else 0 } := by
  subst same
  have ends : (entries.getLast?.map (·.state)).getD start = last := by
    rw [Machine.evaluate_eq_map_trace, traced] at evaluated
    exact Except.ok.inj evaluated
  simp [Options.outcome, Options.shown, Shown.outcome, full, traced, ends]

theorem log_execute {rendering : Log.Rendering} {environment : Log.Environment} {level : Log.Level}
    (timeless : Log.Timeless rendering environment) (selects : Log.Selects environment.level level)
    (clock : Log.Clock) (arguments : List String) :
    (execute rendering { environment, clock } arguments).log =
      blocks rendering environment (level.select (outcome arguments).records) := by
  rw [execute_eq, ← selects.minimumOf_eq]
  apply timeless.text_congr
  rw [Log.map_record_entries, List.map_map]
  simp [Log.Environment.minimum, Function.comp_def]

theorem select_traceRecord {level : Log.Level} (above : level ≠ .debug)
    (earlier later : List Log.Record) :
    level.select (earlier ++ traceRecord entries :: later) = level.select (earlier ++ later) := by
  have low : ¬ level.rank ≤ (traceRecord entries).level.rank := by
    cases level with
    | debug => exact absurd rfl above
    | info | warn | error => simp [Log.Level.rank, traceRecord]
  rw [Log.select_append, Log.select_cons, if_neg low, ← Log.select_append]

theorem text_append (first second : List String) :
    Report.text (first ++ second) = Report.text first ++ Report.text second := by
  rw [Report.text, List.map_append, String.join_append]
  rfl

/-- Asking for the last state alone leaves out the states on the way and the record about the trace,
    which no level but the lowest shows. The exit code, the last state and all other records stay,
    whatever the clocks show, as long as all times are shown as the same text. -/
theorem evaluate_option_only_abridges (rendering : Log.Rendering) (stamp : String)
    (environment : Log.Environment) (level : Log.Level) (clock other : Log.Clock)
    (before after : List String) (start : BitcoinCash.State)
    (selects : Log.Selects environment.level level)
    (traced : "--evaluate" ∉ before ++ after ∧ "-e" ∉ before ++ after)
    (noHelp : ¬ AsksForHelp (before ++ after)) (formed : WellFormed (before ++ after) start)
    (fits : start.script.size < positionBound) :
    ∃ entries last,
      (BitcoinCash.machine (requestedConfig (before ++ after))).trace start = .ok entries ∧
      (BitcoinCash.machine (requestedConfig (before ++ after))).evaluate start = .ok last ∧
      Abridges level (rendering.timeless stamp) environment
        (openingRecords (BitcoinCash.machine (requestedConfig (before ++ after))) start) entries last
        (execute (rendering.timeless stamp) { environment, clock } (before ++ after))
        (execute (rendering.timeless stamp) { environment, clock := other }
          (before ++ "--evaluate" :: after)) := by
  obtain ⟨_, last, _, ended, _⟩ := BitcoinCash.exists_ends (requestedConfig (before ++ after)) fits
  obtain ⟨entries, tracing, _⟩ := Machine.exists_trace_eq ended
  have evaluated := Machine.evaluate_eq ended
  have full := (outcome_of_wellFormed noHelp formed).trans
    (outcome_full (evaluateOnly_collect traced) (config_collect _) tracing evaluated)
  have sameConfig : (Options.collect {} (before ++ "--evaluate" :: after)).config =
      requestedConfig (before ++ after) := by
    rw [collect_insert]
    exact config_collect _
  have brief := (outcome_of_wellFormed (not_asksForHelp_insert noHelp) (wellFormed_insert formed)).trans
    (outcome_brief (by rw [collect_insert]) sameConfig evaluated)
  have timeless : Log.Timeless (rendering.timeless stamp) environment := .inr fun _ _ => rfl
  have fullLog := log_execute timeless selects clock (before ++ after)
  have briefLog := log_execute timeless selects other (before ++ "--evaluate" :: after)
  rw [full] at fullLog
  rw [brief] at briefLog
  refine ⟨entries, last, tracing, evaluated, ?_, ?_, ?_, ?_, ?_⟩
  · simp only [execute_eq, full, brief]
  · simp only [execute_eq, brief]
  · simp only [execute_eq, full, brief, text_append]
  · intro above
    rw [fullLog, briefLog, select_traceRecord above]
  · rintro rfl
    rw [fullLog, briefLog, Log.select_debug, Log.select_debug]
    exact ⟨rfl, rfl⟩

/-- Two numbers with an option behind them, at the level that shows everything, on two clocks. -/
theorem trace_of_two_numbers_abridged :
    ∃ entries last,
      (BitcoinCash.machine { enablePushData4 := true }).trace (BitcoinCash.start #[0x51, 0x52]) =
        .ok entries ∧
      entries.length = 3 ∧
      Abridges .debug (Log.Rendering.standard.timeless "[elapsed] ") { level := some "debug" }
        (openingRecords (BitcoinCash.machine { enablePushData4 := true })
          (BitcoinCash.start #[0x51, 0x52])) entries last
        (execute (Log.Rendering.standard.timeless "[elapsed] ")
          { environment := { level := some "debug" }, clock := steadyClock }
          ["5152", "--enable-pushdata4"])
        (execute (Log.Rendering.standard.timeless "[elapsed] ")
          { environment := { level := some "debug" },
            clock := steadyClock.after 0 (Nat.le_refl 0) }
          ["5152", "--evaluate", "--enable-pushdata4"]) := by
  have formed : WellFormed (["5152"] ++ ["--enable-pushdata4"]) (BitcoinCash.start #[0x51, 0x52]) :=
    ⟨by decide, .alone (show Hex.decode "5152" = .ok [0x51, 0x52] from rfl)⟩
  obtain ⟨entries, last, traced, _, abridges⟩ := evaluate_option_only_abridges .standard "[elapsed] "
    { level := some "debug" } .debug steadyClock (steadyClock.after 0 (Nat.le_refl 0)) ["5152"]
    ["--enable-pushdata4"] _ (.named rfl) (by decide) (by simp [AsksForHelp]) formed (by decide)
  refine ⟨entries, last, traced, ?_, abridges⟩
  cases traced
  rfl

end ScriptMachine.CommandLine
