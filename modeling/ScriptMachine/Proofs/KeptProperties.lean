import ScriptMachine.Proofs.ExecutionModes

/-! # Properties that steps keep

Where every step from a state with some property succeeds and leads to a state with the property, no run
from such a state meets a fault, and every state on the way has the property. The induction over the
steps of a run is done here once. That the run ends is a matter of its own: it does where every step moves
on in the script.
-/

namespace ScriptMachine

namespace InstructionSet

variable {Value Error Context : Type}

/-- From a state with the property, a step of a run succeeds and keeps the property. -/
def Keeps (set : InstructionSet Value Error Context)
    (property : State Value Error Context → Prop) : Prop :=
  ∀ state, property state → set.continues state = true →
    ∃ stepped, set.step state = .ok stepped ∧ property stepped

namespace Keeps

variable {set : InstructionSet Value Error Context} {property : State Value Error Context → Prop}
  {state : State Value Error Context}

theorem exists_run (keeps : set.Keeps property) (holds : property state) (limit taken : Nat) :
    ∃ progress, set.run limit { state, taken } = .ok progress ∧ property progress.state := by
  induction limit generalizing state taken with
  | zero => exact ⟨_, rfl, holds⟩
  | succ limit ih =>
      cases continuing : set.continues state with
      | false => exact ⟨{ state, taken }, by simp [InstructionSet.run, continuing], holds⟩
      | true =>
          obtain ⟨stepped, stepping, kept⟩ := keeps state holds continuing
          obtain ⟨progress, ran, later⟩ := ih kept (taken + 1)
          exact ⟨progress, (run_succ_of_step continuing stepping taken).trans ran, later⟩

theorem of_mem (keeps : set.Keeps property) {entries : List (TraceEntry Value Error Context)}
    {first : TraceEntry Value Error Context} (chained : List.IsChain set.Follows entries)
    (starts : entries.head? = some first) (holds : property first.state) :
    ∀ entry ∈ entries, property entry.state := by
  apply chained.induction (fun entry => property entry.state)
  · intro before after follows held
    obtain ⟨stepped, stepping, kept⟩ := keeps before.state held follows.continuing
    obtain rfl : stepped = after.state := by simpa [stepping] using follows.stepping
    exact kept
  · intro nonempty
    obtain rfl : entries.head nonempty = first := by
      simpa [List.head?_eq_some_head nonempty] using starts
    exact holds

theorem exists_ends (keeps : set.Keeps property) (moving : set.Moves) (holds : property state) :
    ∃ count last, set.Ends count state (.ok last) ∧ property last := by
  induction left : state.script.size - state.ip using Nat.strongRecOn generalizing state with
  | ind left ih =>
      cases continuing : set.continues state with
      | false => exact ⟨0, state, .stop continuing, holds⟩
      | true =>
          obtain ⟨stepped, stepping, kept⟩ := keeps state holds continuing
          obtain ⟨further, same⟩ := moving.moves state stepped continuing stepping
          have inside := moving.inside state continuing
          obtain ⟨count, last, ended, later⟩ := ih _ (by simp only [same]; omega) kept rfl
          exact ⟨count + 1, last, .step continuing stepping ended, later⟩

end Keeps

end InstructionSet

namespace Machine

variable {Value Error Context : Type} {machine : Machine Value Error Context}
  {property : State Value Error Context → Prop} {state : State Value Error Context}

/-- A property that steps keep holds of everything that a complete run shows. -/
theorem exists_results (keeps : machine.Keeps property) (moving : machine.Moves)
    (holds : property state) :
    ∃ last entries, machine.evaluate state = .ok last ∧ machine.continues last = false ∧
      property last ∧ machine.trace state = .ok entries ∧
      ∀ entry ∈ entries, property entry.state := by
  obtain ⟨count, last, ended, atEnd⟩ := keeps.exists_ends moving holds
  obtain ⟨entries, traced, _, first, chained, _⟩ := exists_trace_eq ended
  exact ⟨last, entries, evaluate_eq ended, ended.stopped, atEnd, traced,
    keeps.of_mem chained (List.head?_eq_getElem?.trans first) holds⟩

end Machine

end ScriptMachine
