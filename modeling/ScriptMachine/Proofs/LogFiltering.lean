import ScriptMachine.Proofs.CommandEffects

/-! # Logs under different environments

The environment decides how a log is written, and nothing else about a command. A higher level takes
whole entries away and leaves the others in their order. Their times are another matter: they count
from the first entry that is written, so the times of a log belong to one run on one clock. What the
times of a log can be is easy to say. They never decrease, and every such list of times is shown on
some clock. Deleting entries keeps this, and so the logs that a command can write under a higher level
are exactly those under a lower level with the entries below the higher one deleted.
-/

namespace ScriptMachine

namespace Log

variable {environment : Environment} {rendering : Rendering} {low high level : Level}
  {entries kept : List Entry} {records : List Record}

/-- The least level to be written, given the value of its variable where that is set. A value that
    is no name of a level asks for the same as no value. -/
inductive Selects : Option String → Level → Prop where
  | named {value level} (known : Level.parse? value = some level) : Selects (some value) level
  | unknown {value} (unknown : Level.parse? value = none) : Selects (some value) .info
  | unset : Selects none .info

/-- No text shows a time, or all times are shown as the same text. -/
def Timeless (rendering : Rendering) (environment : Environment) : Prop :=
  environment.stamped = false ∨ ∀ time other, rendering.elapsed time = rendering.elapsed other

/-- The clock is read once more before all other readings, and shows this time. -/
def Clock.after (clock : Clock) (start : Nat) (late : start ≤ clock.reading 0) : Clock where
  reading index := if index = 0 then start else clock.reading (index - 1)
  monotone := by
    intro earlier later ordered
    by_cases first : earlier = 0
    · by_cases also : later = 0
      · simp [first, also]
      · rw [if_pos first, if_neg also]
        exact Nat.le_trans late (clock.monotone (Nat.zero_le _))
    · have after : ¬ later = 0 := by omega
      rw [if_neg first, if_neg after]
      exact clock.monotone (by omega)

theorem Selects.minimumOf_eq {value : Option String} (selects : Selects value level) :
    minimumOf value = level := by
  cases selects with
  | named known => simp [minimumOf, known]
  | unknown unknown => simp [minimumOf, unknown]
  | unset => rfl

theorem select_debug (records : List Record) : Level.debug.select records = records := by
  rw [Level.select, List.filter_eq_self]
  intro record _
  exact decide_eq_true (Nat.zero_le _)

/-! ## Times -/

theorem map_record_entries (clock : Clock) (records : List Record) :
    (clock.entries records).map (·.record) = records := by
  refine List.ext_getElem (by simp [Clock.entries]) ?_
  intro index _ _
  simp [Clock.entries]

theorem text_eq_join (rendering : Rendering) (environment : Environment) (entries : List Entry) :
    text rendering environment entries = String.join (entries.map fun entry =>
      rendering.text environment.terminal (entry.pieces environment.stamped)) := by
  induction entries with
  | nil => rfl
  | cons entry later ih =>
      rw [List.map_cons, String.join_cons, ← ih, ← List.singleton_append, text_append]
      simp [text]

theorem Timeless.text_congr (timeless : Timeless rendering environment)
    (same : entries.map (·.record) = kept.map (·.record)) :
    text rendering environment entries = text rendering environment kept := by
  have shown (entry : Entry) :
      rendering.text environment.terminal (entry.pieces environment.stamped) =
        rendering.text environment.terminal
          (Entry.pieces environment.stamped { record := entry.record, elapsed := 0 }) := by
    unfold Entry.pieces
    obtain hidden | constant := timeless
    · rw [hidden]
      rfl
    · cases environment.stamped with
      | false => rfl
      | true => simp [Rendering.text, Rendering.piece, constant entry.elapsed 0]
  have logged (entries : List Entry) : text rendering environment entries =
      String.join ((entries.map (·.record)).map fun record =>
        rendering.text environment.terminal
          (Entry.pieces environment.stamped { record, elapsed := 0 })) := by
    rw [text_eq_join, List.map_map]
    congr 1
    exact List.map_congr_left fun entry _ => shown entry
  rw [logged, logged, same]

end Log

namespace CommandLine

/-- The entries in the log of a command, under a level and on a clock. -/
def logged (arguments : List String) (level : Log.Level) (clock : Log.Clock) : List Log.Entry :=
  clock.entries (level.select (outcome arguments).records)

/-- A clock that moves on by five thousandths of a second between two readings. -/
def steadyClock : Log.Clock where
  reading index := index * 5000000
  monotone := Nat.mul_le_mul_right 5000000

end CommandLine

end ScriptMachine
