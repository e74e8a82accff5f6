import ScriptMachine.Proofs.CompleteTraces
import ScriptMachine.Proofs.StepEffects

/-! # Relocation

A run sees of its state the bytes from its position on and the error, and nothing else. So a state
can be moved behind other bytes, onto another stack and into other surroundings, and its run moves
with it, step by step. Its trace moves with it too, and says the same about every operator.
-/

namespace ScriptMachine.BitcoinCash

variable {config : Config} {state : State} {front : Script} {below : List Item} {context : Context}

/-- The state with `front` before its script and `below` under its stack, in the given context. -/
def relocate (front : Script) (below : List Item) (context : Context) (state : State) : State where
  ip := front.size + state.ip
  script := front ++ state.script
  stack := state.stack ++ below
  error := state.error
  context := context

theorem continues_relocate :
    (machine config).continues (relocate front below context state) =
      (machine config).continues state := by
  simp [continues_eq, State.hasMore, State.hasByte, relocate]

theorem Ready.relocate {bytes : List UInt8} (ready : Ready state bytes)
    (fits : front.size + state.script.size < positionBound) :
    Ready (relocate front below context state) bytes := by
  refine ⟨?_, ready.fresh, ?_⟩
  · rw [← ready.ahead]
    simp [BitcoinCash.relocate, List.drop_append]
  · simpa [BitcoinCash.relocate] using fits

theorem step_relocate {stepped : State} (fits : front.size + state.script.size < positionBound)
    (continuing : (machine config).continues state = true)
    (stepping : (machine config).step state = .ok stepped) :
    (machine config).step (relocate front below context state) =
      .ok (relocate front below context stepped) := by
  obtain ⟨bytes, remaining, ready⟩ := exists_ready continuing (by omega)
  rw [ready.step remaining, Except.ok.injEq] at stepping
  rw [(ready.relocate fits).step remaining, ← stepping]
  cases readInstruction config bytes with
  | error error => rfl
  | ok read => simp [relocate, Nat.add_assoc]

theorem ends_relocate {count : Nat} {last : State}
    (fits : front.size + state.script.size < positionBound)
    (ended : (machine config).Ends count state (.ok last)) :
    (machine config).Ends count (relocate front below context state)
      (.ok (relocate front below context last)) := by
  generalize result : Except.ok last = final at ended
  induction ended with
  | stop stopped =>
      cases result
      exact .stop (continues_relocate.trans stopped)
  | fault => cases result
  | step continuing stepping later ih =>
      have same := ((moves config).moves _ _ continuing stepping).2
      exact .step (continues_relocate.trans continuing) (step_relocate fits continuing stepping)
        (ih (by rwa [same]) result)

section Trace

variable {entries : List (TraceEntry Item EvalError Context)}
  {before after : TraceEntry Item EvalError Context}

/-- The entry with its state relocated. What it says about its operator stays. -/
def relocateEntry (front : Script) (below : List Item) (context : Context)
    (entry : TraceEntry Item EvalError Context) : TraceEntry Item EvalError Context :=
  { entry with state := relocate front below context entry.state }

theorem follows_relocate (fits : front.size + before.state.script.size < positionBound)
    (follows : (machine config).Follows before after) :
    (machine config).Follows (relocateEntry front below context before)
      (relocateEntry front below context after) := by
  obtain ⟨continuing, stepping, opcode, reading, explained⟩ := InstructionSet.follows_iff.mp follows
  rw [InstructionSet.follows_iff]
  refine ⟨continues_relocate.trans continuing, step_relocate fits continuing stepping, opcode, ?_, ?_⟩
  · simp only [relocateEntry, relocate]
    rwa [Array.getElem?_append_right (Nat.le_add_right _ _), Nat.add_sub_cancel_left]
  · rw [explain_dispatch] at explained ⊢
    exact explained

theorem complete_relocate (fits : front.size + state.script.size < positionBound)
    (complete : (machine config).Complete state entries) :
    (machine config).Complete (relocate front below context state)
      (entries.map (relocateEntry front below context)) := by
  obtain ⟨starts, chained, stops⟩ := complete
  have script := (moves config).script_of_mem chained starts
  refine ⟨by rw [List.head?_map, starts]; rfl, ?_, ?_⟩
  · rw [List.isChain_map]
    refine List.IsChain.imp_of_mem_imp ?_ chained
    intro before after member _ follows
    exact follows_relocate (by rwa [script before member]) follows
  · intro last ends
    rw [List.getLast?_map] at ends
    obtain ⟨final, atEnd, rfl⟩ := Option.map_eq_some_iff.mp ends
    exact continues_relocate.trans (stops final atEnd)

end Trace

/-- A trace that begins inside of a script, on some stack and in some context, is the trace of the
    bytes ahead by themselves, with every state relocated. -/
theorem trace_of_bytes_ahead (config : Config) (front ahead : Script) (below : List Item)
    (context : Context) (fits : front.size + ahead.size < positionBound) :
    ∃ entries, (machine config).trace (start ahead) = .ok entries ∧
      (machine config).trace
          { ip := front.size, script := front ++ ahead, stack := below, error := none, context } =
        .ok (entries.map (relocateEntry front below context)) := by
  have aheadFits : (start ahead).script.size < positionBound := by
    change ahead.size < positionBound
    omega
  obtain ⟨count, last, _, ended, _⟩ := exists_ends config aheadFits
  obtain ⟨entries, complete, _⟩ := Machine.exists_complete ended
  exact ⟨entries, Machine.trace_eq complete, Machine.trace_eq (complete_relocate fits complete)⟩

/-- A push, a number and a reserved byte, behind a byte that would take the push as its data. -/
theorem trace_behind_truncated_push :
    (#[0x4b] : Script).size + (#[0x01, 0xab, 0x51, 0x50] : Script).size < positionBound ∧
    ∃ entries, (machine {}).trace (start #[0x01, 0xab, 0x51, 0x50]) = .ok entries ∧
      entries.length = 4 ∧
      (machine {}).trace
          { ip := 1, script := #[0x4b] ++ #[0x01, 0xab, 0x51, 0x50], stack := [.number 16],
            error := none, context := { blockHeight := 7 } } =
        .ok (entries.map (relocateEntry #[0x4b] [.number 16] { blockHeight := 7 })) := by
  have fits : (#[0x4b] : Script).size + (#[0x01, 0xab, 0x51, 0x50] : Script).size < positionBound := by
    decide
  obtain ⟨entries, traced, relocated⟩ := trace_of_bytes_ahead {} #[0x4b] #[0x01, 0xab, 0x51, 0x50]
    [.number 16] { blockHeight := 7 } fits
  cases traced
  exact ⟨fits, _, rfl, rfl, relocated⟩

end ScriptMachine.BitcoinCash
