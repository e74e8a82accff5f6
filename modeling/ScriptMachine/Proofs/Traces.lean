import ScriptMachine.Proofs.ExecutionModes

/-! # Traces of instruction sets that move

Where every step moves on in the same script, the entries of a trace all hold that script, and their
positions cut the bytes between the first and the last entry into one range for each step. The ranges
are those that the steps have passed: every byte lies in exactly one of them.
-/

namespace ScriptMachine

namespace InstructionSet

variable {Value Error Context : Type} {set : InstructionSet Value Error Context}
  {entries : List (TraceEntry Value Error Context)} {first last : TraceEntry Value Error Context}

theorem exists_follows_of_mem_dropLast (chained : List.IsChain set.Follows entries)
    {entry : TraceEntry Value Error Context} (member : entry ∈ entries.dropLast) :
    ∃ after, set.Follows entry after := by
  obtain ⟨index, small, rfl⟩ := List.getElem_of_mem member
  rw [List.length_dropLast] at small
  rw [List.getElem_dropLast]
  exact ⟨_, chained.getElem index (by omega)⟩

/-- The step after the entry at `index` passed this position of the script. -/
def Passed (entries : List (TraceEntry Value Error Context)) (index position : Nat) : Prop :=
  ∃ before after, entries[index]? = some before ∧ entries[index + 1]? = some after ∧
    before.state.ip ≤ position ∧ position < after.state.ip

theorem exists_passed {position : Nat} (starts : entries.head? = some first)
    (ends : entries.getLast? = some last) (low : first.state.ip ≤ position)
    (high : position < last.state.ip) : ∃ index, Passed entries index position := by
  induction entries generalizing first with
  | nil => cases starts
  | cons before later ih =>
      cases starts
      cases later with
      | nil =>
          obtain rfl : before = last := by simpa using ends
          omega
      | cons after later =>
          by_cases here : position < after.state.ip
          · exact ⟨0, before, after, rfl, rfl, low, here⟩
          · obtain ⟨index, found⟩ := ih rfl (by simpa using ends) (Nat.not_lt.mp here)
            exact ⟨index + 1, found⟩

namespace Moves

variable (moving : set.Moves) (chained : List.IsChain set.Follows entries)

include moving chained

theorem script_of_mem (starts : entries.head? = some first) :
    ∀ entry ∈ entries, entry.state.script = first.state.script := by
  refine chained.induction (fun entry => entry.state.script = first.state.script) _ ?_ ?_
  · intro before after follows same
    rw [(moving.moves _ _ follows.continuing follows.stepping).2, same]
  · intro nonempty
    rw [List.head?_eq_some_head nonempty] at starts
    rw [Option.some.inj starts]

theorem pairwise_ip : entries.Pairwise fun before after => before.state.ip < after.state.ip := by
  have positions : (entries.map (·.state.ip)).IsChain (· < ·) :=
    List.isChain_map_of_isChain _
      (fun _ _ follows => (moving.moves _ _ follows.continuing follows.stepping).1) chained
  exact List.pairwise_map.mp positions.pairwise

theorem ip_le_ip {index other : Nat} (ordered : index ≤ other)
    {before after : TraceEntry Value Error Context} (atIndex : entries[index]? = some before)
    (atOther : entries[other]? = some after) : before.state.ip ≤ after.state.ip := by
  obtain rfl | earlier := Nat.eq_or_lt_of_le ordered
  · rw [Option.some.inj (atIndex.symm.trans atOther)]
  · obtain ⟨_, rfl⟩ := List.getElem?_eq_some_iff.mp atIndex
    obtain ⟨_, rfl⟩ := List.getElem?_eq_some_iff.mp atOther
    exact Nat.le_of_lt (List.pairwise_iff_getElem.mp (moving.pairwise_ip chained) _ _ _ _ earlier)

theorem exists_passed_iff (starts : entries.head? = some first) (ends : entries.getLast? = some last)
    (position : Nat) :
    (∃ index, Passed entries index position) ↔
      first.state.ip ≤ position ∧ position < last.state.ip := by
  constructor
  · rintro ⟨index, before, after, atBefore, atAfter, low, high⟩
    rw [List.head?_eq_getElem?] at starts
    rw [List.getLast?_eq_getElem?] at ends
    obtain ⟨inside, _⟩ := List.getElem?_eq_some_iff.mp atAfter
    have fromFirst := moving.ip_le_ip chained (Nat.zero_le index) starts atBefore
    have toLast := moving.ip_le_ip chained (Nat.le_sub_one_of_lt inside) atAfter ends
    omega
  · rintro ⟨low, high⟩
    exact exists_passed starts ends low high

theorem passed_unique {position index other : Nat} (passed : Passed entries index position)
    (again : Passed entries other position) : index = other := by
  have ordered {index other : Nat} (passed : Passed entries index position)
      (again : Passed entries other position) : ¬ index < other := by
    intro earlier
    obtain ⟨_, after, _, atAfter, _, high⟩ := passed
    obtain ⟨before, _, atBefore, _, low, _⟩ := again
    have behind := moving.ip_le_ip chained earlier atAfter atBefore
    omega
  exact Nat.le_antisymm (Nat.not_lt.mp (ordered again passed)) (Nat.not_lt.mp (ordered passed again))

theorem getLast?_filter_of_passed {position index : Nat} (passed : Passed entries index position)
    (unmarked : ∀ entry ∈ entries, entry.state.ip ≠ position) :
    (entries.filter fun entry => entry.state.ip < position).getLast? = entries[index]? := by
  obtain ⟨before, after, atBefore, atAfter, low, high⟩ := passed
  obtain ⟨inside, here⟩ := List.getElem?_eq_some_iff.mp atBefore
  have below : before.state.ip < position :=
    Nat.lt_of_le_of_ne low (unmarked before (List.mem_of_getElem? atBefore))
  have later : (entries.drop (index + 1)).filter (fun entry => entry.state.ip < position) = [] := by
    rw [List.filter_eq_nil_iff]
    intro entry member
    obtain ⟨further, small, rfl⟩ := List.getElem_of_mem member
    rw [List.length_drop] at small
    rw [List.getElem_drop, decide_eq_true_eq]
    have behind := moving.ip_le_ip chained (Nat.le_add_right (index + 1) further) atAfter
      (List.getElem?_eq_getElem (by omega))
    omega
  have split : entries = entries.take index ++ before :: entries.drop (index + 1) := by
    rw [← here, ← List.drop_eq_getElem_cons inside, List.take_append_drop]
  have kept : entries.filter (fun entry => entry.state.ip < position) =
      (entries.take index).filter (fun entry => entry.state.ip < position) ++ [before] := by
    conv_lhs => rw [split]
    rw [List.filter_append, List.filter_cons_of_pos (by simpa using below), later]
  rw [kept, List.getLast?_append_cons, atBefore]
  rfl

end Moves

end InstructionSet

end ScriptMachine
