import ScriptMachine.CommandLine

/-! # What calls of the log come to

Every call asks whether its record is to be written, and only the calls that write one touch the clock.
`Reached` says what has become of the log, and of what it remembers, after any calls whatever: the
pieces that were written are those of the records that the level admits, each with the time since the
first of them. Each call keeps `Reached`, and `Emits` carries this along a whole command, past every
place where it can end.
-/

namespace ScriptMachine

namespace Log

variable {world : World} {records : List Record} {memory : Memory} {session : Session}

/-- The least level to be written in an environment. -/
def Environment.minimum (environment : Environment) : Level :=
  minimumOf environment.level

/-- Whether times are shown in an environment. -/
def Environment.stamped (environment : Environment) : Bool :=
  stampedOf environment.timestamp

/-- The records that matter at least as much as the level asks for. -/
def Level.select (minimum : Level) (records : List Record) : List Record :=
  records.filter fun record => minimum.rank ≤ record.level.rank

/-- A record that was written, and the time since the first one in nanoseconds. -/
structure Entry where
  record : Record
  elapsed : Nat
  deriving DecidableEq

/-- The pieces that an entry is written in. -/
def Entry.pieces (stamped : Bool) (entry : Entry) : List Piece :=
  [.style entry.record.level.style] ++ (if stamped then [.elapsed entry.elapsed] else []) ++
    [.text entry.record.line, .reset]

/-- Records that are written one after the other. The clock is read once to start with, and then once
    for each of them. -/
def Clock.entries (clock : Clock) (records : List Record) : List Entry :=
  records.mapIdx fun index record =>
    { record, elapsed := clock.reading (index + 1) - clock.reading 0 }

/-- What the log remembers of the clock, and how often the clock was read, after `count` records. -/
inductive Clock.Counts (clock : Clock) : (count : Nat) → Option Nat → (readings : Nat) → Prop where
  | unread : Counts clock 0 none 0
  | read (count : Nat) : Counts clock (count + 1) (some (clock.reading 0)) (count + 2)

theorem select_cons (minimum : Level) (record : Record) (later : List Record) :
    minimum.select (record :: later) =
      if minimum.rank ≤ record.level.rank then record :: minimum.select later
      else minimum.select later := by
  simp only [Level.select, List.filter_cons, decide_eq_true_eq]

theorem select_append (minimum : Level) (first second : List Record) :
    minimum.select (first ++ second) = minimum.select first ++ minimum.select second :=
  List.filter_append first second

theorem select_singleton (minimum : Level) (record : Record) :
    minimum.select [record] = if minimum.admits record.level then [record] else [] := by
  simp only [select_cons, Level.admits, decide_eq_true_eq]
  rfl

theorem Clock.entries_concat (clock : Clock) (records : List Record) (record : Record) :
    clock.entries (records ++ [record]) = clock.entries records ++
      [{ record, elapsed := clock.reading (records.length + 1) - clock.reading 0 }] :=
  List.mapIdx_concat

end Log

namespace CommandLine

variable {α β : Type} {world : World} {memory memoryAfter : Log.Memory}
  {session sessionAfter : Session} {lines : List String} {records : List Log.Record}

/-! ## Running parts of commands -/

theorem bind_of_ok {first : Command Simulation α} {next : α → Command Simulation β} {value : α}
    (ran : first memory world session = ((.ok value, memoryAfter), sessionAfter)) :
    (first >>= next) memory world session = next value memoryAfter world sessionAfter := by
  simp only [bind, ExceptT.bind, ExceptT.mk, StateT.bind, ReaderT.bind]
  rw [ran]
  rfl

theorem bind_of_error {first : Command Simulation α} {next : α → Command Simulation β} {code : Nat}
    (ran : first memory world session = ((.error code, memoryAfter), sessionAfter)) :
    (first >>= next) memory world session = ((.error code, memoryAfter), sessionAfter) := by
  simp only [bind, ExceptT.bind, ExceptT.mk, StateT.bind, ReaderT.bind]
  rw [ran]
  rfl

theorem minimum_run (known : ∀ level ∈ memory.minimum, level = world.environment.minimum) :
    (Log.minimum : Command Simulation Log.Level) memory world session =
      ((.ok world.environment.minimum,
        { memory with minimum := some world.environment.minimum }), session) := by
  obtain ⟨_ | level, started, stamped⟩ := memory
  · rfl
  · obtain rfl := known level rfl
    rfl

theorem enabled_run (known : ∀ level ∈ memory.minimum, level = world.environment.minimum)
    (level : Log.Level) (session : Session) :
    (Log.enabled level : Command Simulation Bool) memory world session =
      ((.ok (world.environment.minimum.admits level),
        { memory with minimum := some world.environment.minimum }), session) :=
  bind_of_ok (minimum_run known)

theorem stamped_run (known : ∀ shown ∈ memory.stamped, shown = world.environment.stamped) :
    (Log.stamped : Command Simulation Bool) memory world session =
      ((.ok world.environment.stamped,
        { memory with stamped := some world.environment.stamped }), session) := by
  obtain ⟨minimum, started, _ | shown⟩ := memory
  · rfl
  · obtain rfl := known shown rfl
    rfl

theorem elapsed_run {count : Nat}
    (counts : world.clock.Counts count memory.started session.readings) :
    (Log.elapsed : Command Simulation Nat) memory world session =
      ((.ok (world.clock.reading (count + 1) - world.clock.reading 0),
        { memory with started := some (world.clock.reading 0) }),
        { session with readings := count + 2 }) := by
  obtain ⟨minimum, started, stamped⟩ := memory
  obtain ⟨output, pieces, readings⟩ := session
  cases counts with
  | unread => rfl
  | read count => rfl

/-- What has come of the lines that were printed and the records that were logged so far, whatever
    their level. -/
structure Reached (world : World) (lines : List String) (records : List Log.Record)
    (memory : Log.Memory) (session : Session) : Prop where
  minimum : ∀ level ∈ memory.minimum, level = world.environment.minimum
  stamped : ∀ shown ∈ memory.stamped, shown = world.environment.stamped
  counts : world.clock.Counts (world.environment.minimum.select records).length memory.started
    session.readings
  output : session.output = Report.text lines
  pieces : session.pieces =
    (world.clock.entries (world.environment.minimum.select records)).flatMap
      (·.pieces world.environment.stamped)

namespace Reached

theorem nothing (world : World) : Reached world [] [] {} {} where
  minimum := nofun
  stamped := nofun
  counts := .unread
  output := rfl
  pieces := rfl

theorem remember (reached : Reached world lines records memory session) :
    Reached world lines records { memory with minimum := some world.environment.minimum } session := by
  refine ⟨?_, reached.stamped, reached.counts, reached.output, reached.pieces⟩
  rintro level ⟨⟩
  rfl

theorem passOver {record : Log.Record} (reached : Reached world lines records memory session)
    (low : world.environment.minimum.admits record.level = false) :
    Reached world lines (records ++ [record])
      { memory with minimum := some world.environment.minimum } session := by
  have same : world.environment.minimum.select (records ++ [record]) =
      world.environment.minimum.select records := by
    simp [Log.select_append, Log.select_singleton, low]
  refine ⟨reached.remember.minimum, reached.stamped, ?_, reached.output, ?_⟩
  · rw [same]
    exact reached.counts
  · rw [same]
    exact reached.pieces

theorem write {record : Log.Record} (reached : Reached world lines records memory session)
    (admitted : world.environment.minimum.admits record.level = true) :
    ∃ memoryAfter sessionAfter,
      (Log.write record : Command Simulation Unit) memory world session =
        ((.ok (), memoryAfter), sessionAfter) ∧
      Reached world lines (records ++ [record]) memoryAfter sessionAfter := by
  have grown : world.environment.minimum.select (records ++ [record]) =
      world.environment.minimum.select records ++ [record] := by
    simp [Log.select_append, Log.select_singleton, admitted]
  let entry : Log.Entry :=
    { record
      elapsed := world.clock.reading
        ((world.environment.minimum.select records).length + 1) - world.clock.reading 0 }
  refine ⟨{ memory with
      started := some (world.clock.reading 0)
      stamped := some world.environment.stamped },
    { session with
      readings := (world.environment.minimum.select records).length + 2
      pieces := session.pieces ++ entry.pieces world.environment.stamped },
    ?_, reached.minimum, ?_, ?_, reached.output, ?_⟩
  · unfold Log.write
    refine (bind_of_ok (elapsed_run reached.counts)).trans ?_
    refine (bind_of_ok rfl).trans ?_
    refine (bind_of_ok (stamped_run ?_)).trans ?_
    · exact reached.stamped
    cases world.environment.stamped with
    | false =>
        have joined : session.pieces ++ entry.pieces false =
            session.pieces ++ [.style record.level.style] ++ [.text record.line] ++ [.reset] := by
          simp [Log.Entry.pieces, entry]
        rw [joined]
        rfl
    | true =>
        have joined : session.pieces ++ entry.pieces true =
            session.pieces ++ [.style record.level.style] ++ [.elapsed entry.elapsed] ++
              [.text record.line] ++ [.reset] := by
          simp [Log.Entry.pieces, entry]
        rw [joined]
        rfl
  · rintro shown ⟨⟩
    rfl
  · rw [grown, List.length_append]
    exact .read _
  · rw [grown, Log.Clock.entries_concat, List.flatMap_append, ← reached.pieces]
    simp [entry]

end Reached

/-- Wherever a part of a command begins, it prints these lines, logs these records and ends like
    this. -/
def Emits (world : World) (part : Command Simulation α) (lines : List String)
    (records : List Log.Record) (ended : Except Nat α) : Prop :=
  ∀ ⦃earlierLines earlierRecords memory session⦄,
    Reached world earlierLines earlierRecords memory session →
    ∃ memoryAfter sessionAfter, part memory world session = ((ended, memoryAfter), sessionAfter) ∧
      Reached world (earlierLines ++ lines) (earlierRecords ++ records) memoryAfter sessionAfter

namespace Emits

theorem of_eq {part : Command Simulation α} {ended : Except Nat α} {otherLines : List String}
    {otherRecords : List Log.Record} (emits : Emits world part lines records ended)
    (sameLines : lines = otherLines) (sameRecords : records = otherRecords) :
    Emits world part otherLines otherRecords ended :=
  sameLines ▸ sameRecords ▸ emits

theorem pure (value : α) : Emits world (pure value) [] [] (.ok value) := by
  intro earlierLines earlierRecords memory session reached
  exact ⟨memory, session, rfl, by simpa using reached⟩

theorem exit (code : Nat) : Emits world (exit code : Command Simulation α) [] [] (.error code) := by
  intro earlierLines earlierRecords memory session reached
  exact ⟨memory, session, rfl, by simpa using reached⟩

theorem bind {first : Command Simulation α} {next : α → Command Simulation β} {value : α}
    {ended : Except Nat β} {laterLines : List String} {laterRecords : List Log.Record}
    (before : Emits world first lines records (.ok value))
    (after : Emits world (next value) laterLines laterRecords ended) :
    Emits world (first >>= next) (lines ++ laterLines) (records ++ laterRecords) ended := by
  intro earlierLines earlierRecords memory session reached
  obtain ⟨memoryBetween, sessionBetween, ran, between⟩ := before reached
  obtain ⟨memoryAfter, sessionAfter, ranOn, reachedAfter⟩ := after between
  refine ⟨memoryAfter, sessionAfter, (bind_of_ok ran).trans ranOn, ?_⟩
  rwa [List.append_assoc, List.append_assoc] at reachedAfter

theorem bind_error {first : Command Simulation α} {code : Nat}
    (before : Emits world first lines records (.error code)) (next : α → Command Simulation β) :
    Emits world (first >>= next) lines records (.error code) := by
  intro earlierLines earlierRecords memory session reached
  obtain ⟨memoryAfter, sessionAfter, ran, after⟩ := before reached
  exact ⟨memoryAfter, sessionAfter, bind_of_error ran, after⟩

theorem log (record : Log.Record) : Emits world (Log.log record) [] [record] (.ok ()) := by
  intro earlierLines earlierRecords memory session reached
  have asked := enabled_run reached.minimum record.level session
  rw [List.append_nil]
  unfold Log.log
  cases admitted : world.environment.minimum.admits record.level with
  | false =>
      rw [admitted] at asked
      exact ⟨_, _, bind_of_ok asked, reached.passOver admitted⟩
  | true =>
      rw [admitted] at asked
      obtain ⟨memoryAfter, sessionAfter, written, after⟩ := reached.remember.write admitted
      exact ⟨memoryAfter, sessionAfter, (bind_of_ok asked).trans written, after⟩

/-- A message for debugging is as good as logged, although nothing is logged where it is not made. -/
theorem debug (message : Unit → String) :
    Emits world (Log.debug message) [] [⟨.debug, message ()⟩] (.ok ()) := by
  intro earlierLines earlierRecords memory session reached
  have asked := enabled_run reached.minimum .debug session
  unfold Log.debug
  cases admitted : world.environment.minimum.admits .debug with
  | false =>
      rw [admitted] at asked
      rw [List.append_nil]
      exact ⟨_, _, bind_of_ok asked, reached.passOver admitted⟩
  | true =>
      rw [admitted] at asked
      obtain ⟨memoryAfter, sessionAfter, logged, after⟩ :=
        log ⟨.debug, message ()⟩ reached.remember
      exact ⟨memoryAfter, sessionAfter, (bind_of_ok asked).trans logged, after⟩

theorem printLine (line : String) : Emits world (Host.print (line ++ "\n")) [line] [] (.ok ()) := by
  intro earlierLines earlierRecords memory session reached
  refine ⟨memory, { session with output := session.output ++ (line ++ "\n") }, rfl, ?_⟩
  rw [List.append_nil]
  refine ⟨reached.minimum, reached.stamped, reached.counts, ?_, reached.pieces⟩
  simp [reached.output, Report.text]

theorem printLines (lines : List String) : Emits world (printLines lines) lines [] (.ok ()) := by
  induction lines with
  | nil => exact pure ()
  | cons line later ih => exact bind (printLine line) ih

end Emits

end CommandLine

end ScriptMachine
