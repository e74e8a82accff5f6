import ScriptMachine.Proofs.CommandEffects
import ScriptMachine.Proofs.ExecutionModes

/-! # Outcomes of commands

Arguments are taken one by one, and the first that does not fit ends the command. What counts in the
end is simple: which arguments there are, and in which order the scripts among them stand. The options
can stand anywhere, before or after the scripts that they concern.
-/

namespace ScriptMachine.CommandLine

variable {options taken : Options} {arguments : List String} {argument : String}
  {start : BitcoinCash.State}

/-- The argument stands for a script, which is all that does not begin with a dash. -/
def isScript (argument : String) : Bool :=
  argument.toList.head? ≠ some '-'

/-- The options of the program. Help is none of them: it counts only where it comes first. -/
def isOption (argument : String) : Bool :=
  argument = "--evaluate" ∨ argument = "-e" ∨ argument = "--enable-pushdata4"

/-- The scripts can be read, and start in this state. -/
inductive StartsIn : List String → BitcoinCash.State → Prop where
  | alone {script bytes} (read : Hex.decode script = .ok bytes) :
      StartsIn [script] (BitcoinCash.start bytes.toArray)
  | joined {unlocking locking unlockingBytes lockingBytes}
      (readUnlocking : Hex.decode unlocking = .ok unlockingBytes)
      (readLocking : Hex.decode locking = .ok lockingBytes) :
      StartsIn [unlocking, locking]
        (BitcoinCash.startJoined unlockingBytes.toArray lockingBytes.toArray)

/-- All arguments are options or scripts, and the scripts start in this state. -/
structure WellFormed (arguments : List String) (start : BitcoinCash.State) : Prop where
  known : ∀ argument ∈ arguments, isOption argument = true ∨ isScript argument = true
  starts : StartsIn (arguments.filter isScript) start

/-- The set-up of the language that the arguments ask for. -/
def requestedConfig (arguments : List String) : BitcoinCash.Config where
  enablePushData4 := arguments.contains "--enable-pushdata4"

/-- The first argument asks for help. -/
def AsksForHelp (arguments : List String) : Prop :=
  arguments.head? = some "--help" ∨ arguments.head? = some "-h"

/-! ## Taking arguments -/

/-- The options after some arguments have been taken into account, all at once. -/
def Options.collect (options : Options) (arguments : List String) : Options where
  scripts := options.scripts ++ arguments.filter isScript
  evaluateOnly := options.evaluateOnly || arguments.any fun argument =>
    argument = "--evaluate" ∨ argument = "-e"
  config := { enablePushData4 :=
    options.config.enablePushData4 || arguments.contains "--enable-pushdata4" }

@[simp]
theorem Options.collect_nil (options : Options) : options.collect [] = options := by
  simp [collect]

theorem Options.collect_cons (options : Options) (argument : String) (arguments : List String) :
    options.collect (argument :: arguments) = (options.collect [argument]).collect arguments := by
  cases script : isScript argument <;> simp [collect, script, Bool.or_assoc]

theorem isScript_of_isOption (option : isOption argument = true) : isScript argument = false := by
  simp only [isOption, decide_eq_true_eq] at option
  rcases option with rfl | rfl | rfl <;> rfl

theorem not_isOption_of_isScript (script : isScript argument = true) : isOption argument = false := by
  cases option : isOption argument with
  | false => rfl
  | true => exact script.symm.trans (isScript_of_isOption option)

theorem take_of_isOption (option : isOption argument = true) :
    options.take argument = .ok (options.collect [argument]) := by
  simp only [isOption, decide_eq_true_eq] at option
  rcases option with rfl | rfl | rfl <;> simp [Options.take, Options.collect, isScript]

theorem take_of_isScript (script : isScript argument = true) :
    options.take argument =
      if options.scripts.length < 2 then .ok (options.collect [argument])
      else .error (.extraScript argument) := by
  have different := not_isOption_of_isScript script
  simp only [isOption, decide_eq_false_iff_not, not_or] at different
  have plain : ¬ argument.toList.head? = some '-' := by simpa [isScript] using script
  simp [Options.take, Options.collect, script, different, plain, eq_comm]

theorem take_of_unknown (noOption : isOption argument = false) (noScript : isScript argument = false) :
    options.take argument = .error (.unexpectedArgument argument) := by
  simp only [isOption, decide_eq_false_iff_not, not_or] at noOption
  have dashed : argument.toList.head? = some '-' := by simpa [isScript] using noScript
  simp [Options.take, noOption, dashed]

/-- Taking arguments one by one gives up exactly at an unknown option or at a third script. -/
theorem foldlM_take_eq_ok_iff (few : options.scripts.length ≤ 2) :
    arguments.foldlM Options.take options = .ok taken ↔
      (∀ argument ∈ arguments, isOption argument = true ∨ isScript argument = true) ∧
      options.scripts.length + (arguments.filter isScript).length ≤ 2 ∧
      options.collect arguments = taken := by
  -- The scripts taken so far count towards the two, so they stay general and are bounded by `few`.
  induction arguments generalizing options with
  | nil => simp [pure, Except.pure, few]
  | cons argument arguments ih =>
      rw [List.foldlM_cons, Options.collect_cons, List.forall_mem_cons]
      cases script : isScript argument with
      | true =>
          have counted : (options.collect [argument]).scripts.length = options.scripts.length + 1 := by
            simp [Options.collect, script]
          rw [take_of_isScript script, List.filter_cons_of_pos script, List.length_cons]
          by_cases room : options.scripts.length < 2
          · rw [if_pos room]
            change arguments.foldlM Options.take (options.collect [argument]) = _ ↔ _
            rw [ih (by omega), counted]
            simp [Nat.add_assoc, Nat.add_comm 1]
          · rw [if_neg room]
            constructor
            · intro refused
              cases refused
            · rintro ⟨_, fitting, _⟩
              omega
      | false =>
          have counted : (options.collect [argument]).scripts.length = options.scripts.length := by
            simp [Options.collect, script]
          rw [List.filter_cons_of_neg (by simp [script])]
          cases option : isOption argument with
          | true =>
              rw [take_of_isOption option]
              change arguments.foldlM Options.take (options.collect [argument]) = _ ↔ _
              rw [ih (by omega), counted]
              simp
          | false =>
              rw [take_of_unknown option script]
              constructor
              · intro refused
                cases refused
              · rintro ⟨⟨known, _⟩, _⟩
                simp at known

/-! ## From scripts to a state -/

theorem start_of_startsIn (starts : StartsIn options.scripts start) : options.start = .ok start := by
  unfold Options.start
  generalize options.scripts = scripts at starts ⊢
  cases starts with
  | alone read => simp [decodeScript, read, bind, Except.bind]
  | joined readUnlocking readLocking =>
      simp [decodeScript, readUnlocking, readLocking, bind, Except.bind]

theorem startsIn_of_start (few : options.scripts.length ≤ 2) (started : options.start = .ok start) :
    StartsIn options.scripts start := by
  unfold Options.start at started
  generalize options.scripts = scripts at few started ⊢
  match scripts with
  | [] => cases started
  | [script] =>
      cases read : Hex.decode script with
      | error error => simp [decodeScript, read, bind, Except.bind] at started
      | ok bytes =>
          simp only [decodeScript, read, bind, Except.bind, Except.ok.injEq] at started
          subst start
          exact .alone read
  | [unlocking, locking] =>
      cases readUnlocking : Hex.decode unlocking with
      | error error => simp [decodeScript, readUnlocking, bind, Except.bind] at started
      | ok unlockingBytes =>
          cases readLocking : Hex.decode locking with
          | error error =>
              simp [decodeScript, readUnlocking, readLocking, bind, Except.bind] at started
          | ok lockingBytes =>
              simp only [decodeScript, readUnlocking, readLocking, bind, Except.bind,
                Except.ok.injEq] at started
              subst start
              exact .joined readUnlocking readLocking
  | _ :: _ :: _ :: _ => simp at few

theorem StartsIn.length_le {scripts : List String} (starts : StartsIn scripts start) :
    scripts.length ≤ 2 := by
  cases starts with
  | alone read => simp
  | joined readUnlocking readLocking => simp

theorem performed_of_wellFormed (formed : WellFormed arguments start) :
    performed arguments = (Options.collect {} arguments).outcome start := by
  have folded : arguments.foldlM Options.take {} = .ok (Options.collect {} arguments) := by
    rw [foldlM_take_eq_ok_iff (by decide)]
    exact ⟨formed.known, by simpa using formed.starts.length_le, rfl⟩
  have started : (Options.collect {} arguments).start = .ok start :=
    start_of_startsIn (by simpa [Options.collect] using formed.starts)
  simp [performed, folded, started]

theorem exists_performed_eq (malformed : ∀ start, ¬ WellFormed arguments start) :
    ∃ problem : Problem, performed arguments = problem.outcome := by
  cases folded : arguments.foldlM Options.take {} with
  | error problem => exact ⟨problem, by simp [performed, folded]⟩
  | ok options =>
      obtain ⟨known, few, rfl⟩ := (foldlM_take_eq_ok_iff (by decide)).mp folded
      cases started : (Options.collect {} arguments).start with
      | error problem => exact ⟨problem, by simp [performed, folded, started]⟩
      | ok start =>
          have starts := startsIn_of_start (by simpa [Options.collect] using few) started
          exact absurd ⟨known, by simpa [Options.collect] using starts⟩ (malformed start)

/-! ## What a run shows -/

theorem Options.shown_cases (options : Options)
    (machine : Machine Item EvalError BitcoinCash.Context) (start : BitcoinCash.State) :
    (∃ last, (options.shown machine start).ended = .ok last ∧ machine.evaluate start = .ok last) ∨
    ∃ fault, options.shown machine start = .ofFault start fault ∧
      machine.evaluate start = .error fault := by
  unfold shown
  cases options.evaluateOnly with
  | true =>
      rw [if_pos rfl]
      cases machine.evaluate start with
      | ok last => exact .inl ⟨last, rfl, rfl⟩
      | error fault => exact .inr ⟨fault, rfl, rfl⟩
  | false =>
      rw [if_neg Bool.false_ne_true, machine.evaluate_eq_map_trace]
      cases machine.trace start with
      | ok entries => exact .inl ⟨_, rfl, rfl⟩
      | error fault => exact .inr ⟨fault, rfl, rfl⟩

theorem Options.exitCode_outcome (options : Options) (start : BitcoinCash.State) :
    (options.outcome start).exitCode =
      match (BitcoinCash.machine options.config).evaluate start with
      | .ok last => if last.error.isSome then 1 else 0
      | .error _ => 1 := by
  obtain ⟨last, ended, evaluated⟩ | ⟨fault, shown, evaluated⟩ :=
    options.shown_cases (BitcoinCash.machine options.config) start
  · simp [outcome, Shown.outcome, ended, evaluated]
  · simp [outcome, Shown.outcome, Shown.ofFault, shown, evaluated]

theorem Options.lines_outcome_ne_nil (options : Options) (start : BitcoinCash.State) :
    (options.outcome start).lines ≠ [] := by
  obtain ⟨last, ended, _⟩ | ⟨fault, shown, _⟩ :=
    options.shown_cases (BitcoinCash.machine options.config) start
  · simp [outcome, Shown.outcome, ended, Report.stateLines]
  · simp [outcome, Shown.outcome, Shown.ofFault, shown, Report.stateLines]

theorem Options.exitCode_outcome_eq_zero_iff (options : Options) (start : BitcoinCash.State) :
    (options.outcome start).exitCode = 0 ↔
      ∃ last, (BitcoinCash.machine options.config).evaluate start = .ok last ∧ last.error = none := by
  rw [exitCode_outcome]
  cases (BitcoinCash.machine options.config).evaluate start with
  | error fault => simp
  | ok last => cases failed : last.error <;> simp [failed]

theorem Options.exitCode_outcome_eq_zero_or_one (options : Options) (start : BitcoinCash.State) :
    (options.outcome start).exitCode = 0 ∨ (options.outcome start).exitCode = 1 := by
  rw [exitCode_outcome]
  cases (BitcoinCash.machine options.config).evaluate start with
  | error fault => exact .inr rfl
  | ok last => cases failed : last.error <;> simp [failed]

theorem text_eq_empty_iff (lines : List String) : Report.text lines = "" ↔ lines = [] := by
  cases lines with
  | nil => simp [Report.text]
  | cons line lines => simp [Report.text]

/-! ## Outcomes -/

theorem not_wellFormed_nil : ¬ WellFormed [] start := by
  rintro ⟨_, starts⟩
  cases starts

theorem config_collect (arguments : List String) :
    (Options.collect {} arguments).config = requestedConfig arguments := by
  simp [Options.collect, requestedConfig]

theorem outcome_of_help (help : AsksForHelp arguments) :
    outcome arguments = { records := [usageRecord], exitCode := 0 } := by
  cases arguments with
  | nil => simp [AsksForHelp] at help
  | cons first later =>
      simp only [AsksForHelp, List.head?_cons, Option.some.injEq] at help
      simp [outcome, isHelp, help]

theorem outcome_of_wellFormed (noHelp : ¬ AsksForHelp arguments) (formed : WellFormed arguments start) :
    outcome arguments = (Options.collect {} arguments).outcome start := by
  cases arguments with
  | nil => exact absurd formed not_wellFormed_nil
  | cons first later =>
      simp only [AsksForHelp, List.head?_cons, Option.some.injEq] at noHelp
      rw [← performed_of_wellFormed formed]
      simp [outcome, isHelp, noHelp]

theorem outcome_of_malformed (noHelp : ¬ AsksForHelp arguments)
    (malformed : ∀ start, ¬ WellFormed arguments start) :
    (outcome arguments).lines = [] ∧ (outcome arguments).exitCode = 1 := by
  cases arguments with
  | nil => exact ⟨rfl, rfl⟩
  | cons first later =>
      obtain ⟨problem, refused⟩ := exists_performed_eq malformed
      simp only [AsksForHelp, List.head?_cons, Option.some.injEq] at noHelp
      simp [outcome, isHelp, noHelp, refused, Problem.outcome]

theorem outcome_cases (arguments : List String) :
    (AsksForHelp arguments ∧ outcome arguments = { records := [usageRecord], exitCode := 0 }) ∨
    (¬ AsksForHelp arguments ∧ (∀ start, ¬ WellFormed arguments start) ∧
      (outcome arguments).lines = [] ∧ (outcome arguments).exitCode = 1) ∨
    (¬ AsksForHelp arguments ∧ ∃ start, WellFormed arguments start ∧
      outcome arguments = (Options.collect {} arguments).outcome start) := by
  by_cases help : AsksForHelp arguments
  · exact .inl ⟨help, outcome_of_help help⟩
  · by_cases formed : ∃ start, WellFormed arguments start
    · obtain ⟨start, formed⟩ := formed
      exact .inr (.inr ⟨help, start, formed, outcome_of_wellFormed help formed⟩)
    · have malformed := not_exists.mp formed
      exact .inr (.inl ⟨help, malformed, outcome_of_malformed help malformed⟩)

theorem exitCode_outcome_eq_zero_iff (arguments : List String) :
    (outcome arguments).exitCode = 0 ↔
      AsksForHelp arguments ∨
      ∃ start last, WellFormed arguments start ∧
        (BitcoinCash.machine (requestedConfig arguments)).evaluate start = .ok last ∧
        last.error = none := by
  rw [← config_collect]
  rcases outcome_cases arguments with
    ⟨help, ran⟩ | ⟨noHelp, malformed, _, failed⟩ | ⟨noHelp, start, formed, ran⟩
  · simp [help, ran]
  · simp [noHelp, malformed, failed]
  · rw [or_iff_right noHelp]
    constructor
    · intro succeeded
      rw [ran, Options.exitCode_outcome_eq_zero_iff] at succeeded
      obtain ⟨last, evaluated, accepted⟩ := succeeded
      exact ⟨start, last, formed, evaluated, accepted⟩
    · rintro ⟨other, last, otherFormed, evaluated, accepted⟩
      rw [outcome_of_wellFormed noHelp otherFormed, Options.exitCode_outcome_eq_zero_iff]
      exact ⟨last, evaluated, accepted⟩

theorem exitCode_outcome_eq_zero_or_one (arguments : List String) :
    (outcome arguments).exitCode = 0 ∨ (outcome arguments).exitCode = 1 := by
  rcases outcome_cases arguments with ⟨_, ran⟩ | ⟨_, _, _, failed⟩ | ⟨_, start, _, ran⟩
  · exact .inl (by rw [ran])
  · exact .inr failed
  · rw [ran]
    exact Options.exitCode_outcome_eq_zero_or_one _ start

theorem lines_outcome_ne_nil_iff (arguments : List String) :
    (outcome arguments).lines ≠ [] ↔ ¬ AsksForHelp arguments ∧ ∃ start, WellFormed arguments start := by
  rcases outcome_cases arguments with
    ⟨help, ran⟩ | ⟨noHelp, malformed, silent, _⟩ | ⟨noHelp, start, formed, ran⟩
  · simp [help, ran]
  · simp [malformed, silent]
  · rw [ran]
    exact ⟨fun _ => ⟨noHelp, start, formed⟩, fun _ => Options.lines_outcome_ne_nil _ start⟩

/-- The exit code is zero exactly for a call for help, and for one or two scripts that can be read,
    among known options only, that are evaluated without an error; it is one for everything else.
    Something is written exactly if a run takes place. None of this depends on the host. -/
theorem exit_code_and_output (rendering : Log.Rendering) (world : World) (arguments : List String) :
    ((execute rendering world arguments).exitCode = 0 ↔
      AsksForHelp arguments ∨
      ∃ start last, WellFormed arguments start ∧
        (BitcoinCash.machine (requestedConfig arguments)).evaluate start = .ok last ∧
        last.error = none) ∧
    ((execute rendering world arguments).exitCode = 0 ∨
      (execute rendering world arguments).exitCode = 1) ∧
    ((execute rendering world arguments).output ≠ "" ↔
      ¬ AsksForHelp arguments ∧ ∃ start, WellFormed arguments start) := by
  rw [execute_eq]
  refine ⟨exitCode_outcome_eq_zero_iff arguments, exitCode_outcome_eq_zero_or_one arguments, ?_⟩
  rw [Ne, text_eq_empty_iff]
  exact lines_outcome_ne_nil_iff arguments

-- Options count wherever they stand, help only where it comes first.
example : (outcome ["51", "--enable-pushdata4", "-e"]).exitCode = 0 := rfl
example : (outcome ["51", "--help"]).exitCode = 1 := rfl

end ScriptMachine.CommandLine
