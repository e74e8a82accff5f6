import Mathlib.Data.Nat.Find
import ScriptMachine.Proofs.CompleteTraces
import ScriptMachine.Proofs.StepEffects

/-! # Switching off the four-byte push

With the four-byte push switched off, a run takes the steps that it takes with it switched on, up to
the first one that executes `0x4e` as an opcode. That step fails, and nothing that it would have read
shows in the state. Bytes `0x4e` inside of data make no difference, since no step executes them.
-/

namespace ScriptMachine.BitcoinCash

variable {config other : Config} {opcode : UInt8} {state : State}
  {entries : List (TraceEntry Item EvalError Context)}
  {before after : TraceEntry Item EvalError Context} {k : Nat}

/-- The step after the entry at `index` executed this opcode. -/
def Executed (entries : List (TraceEntry Item EvalError Context)) (index : Nat) (opcode : UInt8) :
    Prop :=
  ∃ before after, entries[index]? = some before ∧ entries[index + 1]? = some after ∧
    before.state.script[before.state.ip]? = some opcode

theorem Executed.of_take {limit : Nat} (executed : Executed (entries.take limit) k opcode) :
    k + 1 < limit ∧ Executed entries k opcode := by
  obtain ⟨before, after, atBefore, atAfter, reading⟩ := executed
  obtain ⟨inside, _⟩ := List.getElem?_eq_some_iff.mp atAfter
  have small : k + 1 < limit := by
    rw [List.length_take] at inside
    omega
  rw [List.getElem?_take_of_lt (by omega)] at atBefore
  rw [List.getElem?_take_of_lt small] at atAfter
  exact ⟨small, before, after, atBefore, atAfter, reading⟩

theorem primitive_eq_of_ne (config other : Config) (different : opcode ≠ 0x4e) :
    (language config).primitive opcode = (language other).primitive opcode := by
  simp [PushLanguage.primitive, language, table, variableTable, different]

theorem follows_of_ne (fits : before.state.script.size < positionBound)
    (follows : (machine config).Follows before after)
    (different : before.state.script[before.state.ip]? ≠ some 0x4e) :
    (machine other).Follows before after := by
  obtain ⟨continuing, stepping, opcode, reading, explained⟩ := InstructionSet.follows_iff.mp follows
  have plain : opcode ≠ 0x4e := by
    rintro rfl
    exact different reading
  have room := room_of_continues continuing fits
  rw [InstructionSet.follows_iff]
  refine ⟨continues_iff.mpr (continues_iff.mp continuing), ?_, opcode, reading, ?_⟩
  · rw [step_of_opcode reading room, primitive_eq_of_ne other config plain,
      ← step_of_opcode reading room]
    exact stepping
  · rw [explain_dispatch, primitive_eq_of_ne other config plain, ← explain_dispatch]
    exact explained

/-- Where the four-byte push is switched off, a step that executes it fails. The trace still explains
    it in the words of the push. -/
theorem follows_halt (fits : before.state.script.size < positionBound)
    (reading : before.state.script[before.state.ip]? = some 0x4e)
    (follows : (machine { enablePushData4 := true }).Follows before after) :
    (machine { enablePushData4 := false }).Follows before
      { explanation := after.explanation, state := halt before.state .nonMinimalPush } := by
  obtain ⟨continuing, _, opcode, read, explained⟩ := InstructionSet.follows_iff.mp follows
  obtain rfl : opcode = 0x4e := Option.some.inj (read.symm.trans reading)
  have room := room_of_continues continuing fits
  rw [InstructionSet.follows_iff]
  refine ⟨continues_iff.mpr (continues_iff.mp continuing), ?_, 0x4e, reading, ?_⟩
  · rw [step_of_opcode reading room, (Meaning.disabled rfl).primitive_eq]
    rfl
  · rw [explain_dispatch, (Meaning.pushData4 rfl).primitive_eq] at explained
    rw [explain_dispatch, (Meaning.disabled rfl).primitive_eq, explained]
    rfl

theorem isChain_of_not_executed (fits : ∀ entry ∈ entries, entry.state.script.size < positionBound)
    (chained : List.IsChain (machine config).Follows entries)
    (plain : ∀ k, ¬ Executed entries k 0x4e) : List.IsChain (machine other).Follows entries := by
  rw [List.isChain_iff_getElem] at chained ⊢
  intro k inside
  apply follows_of_ne (fits _ (List.getElem_mem _)) (chained k inside)
  intro reading
  exact plain k ⟨_, _, List.getElem?_eq_getElem (by omega), List.getElem?_eq_getElem inside, reading⟩

theorem fits_of_mem (fits : state.script.size < positionBound)
    (complete : (machine config).Complete state entries) :
    ∀ entry ∈ entries, entry.state.script.size < positionBound := by
  intro entry member
  rw [(moves config).script_of_mem complete.chained complete.starts entry member]
  exact fits

theorem complete_of_not_executed (fits : state.script.size < positionBound)
    (complete : (machine config).Complete state entries) (plain : ∀ k, ¬ Executed entries k 0x4e) :
    (machine other).Complete state entries := by
  refine ⟨complete.starts, isChain_of_not_executed (fits_of_mem fits complete) complete.chained plain, ?_⟩
  intro last ends
  have stopped := complete.stops last ends
  rw [continues_eq] at stopped ⊢
  exact stopped

theorem complete_cut (fits : state.script.size < positionBound)
    (complete : (machine { enablePushData4 := true }).Complete state entries)
    (atBefore : entries[k]? = some before) (atAfter : entries[k + 1]? = some after)
    (reading : before.state.script[before.state.ip]? = some 0x4e)
    (earlier : ∀ j < k, ¬ Executed entries j 0x4e) :
    (machine { enablePushData4 := false }).Complete state
      (entries.take (k + 1) ++
        [{ explanation := after.explanation, state := halt before.state .nonMinimalPush }]) := by
  have allFit := fits_of_mem fits complete
  obtain ⟨starts, chained, _⟩ := complete
  have follows : (machine { enablePushData4 := true }).Follows before after := by
    obtain ⟨inside, rfl⟩ := List.getElem?_eq_some_iff.mp atAfter
    obtain ⟨_, rfl⟩ := List.getElem?_eq_some_iff.mp atBefore
    exact chained.getElem k inside
  refine ⟨?_, ?_, ?_⟩
  · rw [List.head?_append, List.head?_take, if_neg (Nat.succ_ne_zero k), starts]
    rfl
  · rw [List.isChain_append]
    refine ⟨?_, .singleton _, ?_⟩
    · apply isChain_of_not_executed (fun entry member => allFit entry (List.mem_of_mem_take member))
        (chained.take (k + 1))
      intro j executed
      obtain ⟨small, whole⟩ := executed.of_take
      exact earlier j (by omega) whole
    · intro last ends cut atCut
      have located : (entries.take (k + 1)).getLast? = some before := by
        rw [List.getLast?_take, if_neg (Nat.succ_ne_zero k), Nat.add_sub_cancel, atBefore]
        rfl
      obtain rfl : before = last := Option.some.inj (located.symm.trans ends)
      cases atCut
      exact follows_halt (allFit before (List.mem_of_getElem? atBefore)) reading follows
  · intro last ends
    rw [List.getLast?_append, List.getLast?_singleton, Option.some_or, Option.some.injEq] at ends
    subst last
    rw [continues_eq]
    rfl

/-- The second trace is the first up to the entry at `k`. Then it ends, in a step that is explained as
    in the first but failed, and passed its opcode alone. -/
structure CutAt (on off : List (TraceEntry Item EvalError Context)) (k : Nat) : Prop where
  length : off.length = k + 2
  agrees : ∀ j ≤ k, off[j]? = on[j]?
  fails : ∃ before after, on[k]? = some before ∧ on[k + 1]? = some after ∧
    off[k + 1]? = some
      { explanation := after.explanation
        state := { before.state with ip := before.state.ip + 1, error := some .nonMinimalPush } }

theorem cutAt_take_append (atBefore : entries[k]? = some before)
    (atAfter : entries[k + 1]? = some after) :
    CutAt entries
      (entries.take (k + 1) ++
        [{ explanation := after.explanation, state := halt before.state .nonMinimalPush }]) k := by
  obtain ⟨inside, _⟩ := List.getElem?_eq_some_iff.mp atAfter
  have length : (entries.take (k + 1)).length = k + 1 := by
    rw [List.length_take]
    omega
  refine ⟨?_, ?_, before, after, atBefore, atAfter, ?_⟩
  · rw [List.length_append, length, List.length_singleton]
  · intro j within
    rw [List.getElem?_append_left (by omega), List.getElem?_take_of_lt (by omega)]
  · rw [List.getElem?_append_right (by omega), length, Nat.sub_self]
    rfl

/-- The trace with the four-byte push switched off is the trace with it switched on, cut off at the
    first step that executes `0x4e`, if there is one. So whatever is accepted with the push switched
    off is accepted with it switched on, and ends in the same state. -/
theorem switched_off_trace_is_cut_off (state : State) (fits : state.script.size < positionBound) :
    ∃ on off, (machine { enablePushData4 := true }).trace state = .ok on ∧
      (machine { enablePushData4 := false }).trace state = .ok off ∧
      ((∀ k, ¬ Executed on k 0x4e) → off = on) ∧
      (∀ k, Executed on k 0x4e → (∀ j < k, ¬ Executed on j 0x4e) → CutAt on off k) ∧
      ∀ last, (machine { enablePushData4 := false }).evaluate state = .ok last → last.error = none →
        (machine { enablePushData4 := true }).evaluate state = .ok last := by
  obtain ⟨count, final, _, ended, _⟩ := exists_ends { enablePushData4 := true } fits
  obtain ⟨on, complete, _⟩ := Machine.exists_complete ended
  have traced := Machine.trace_eq complete
  by_cases any : ∃ k, Executed on k 0x4e
  · obtain ⟨k, executed, earlier⟩ :
        ∃ k, Executed on k 0x4e ∧ ∀ j < k, ¬ Executed on j 0x4e := by
      classical
      exact ⟨Nat.find any, Nat.find_spec any, fun _ => Nat.find_min any⟩
    have ⟨before, after, atBefore, atAfter, reading⟩ := executed
    have cut := complete_cut fits complete atBefore atAfter reading earlier
    refine ⟨on, _, traced, Machine.trace_eq cut, fun plain => absurd executed (plain k), ?_, ?_⟩
    · intro again repeated first
      obtain rfl : again = k := by
        apply Nat.le_antisymm
        · exact Nat.not_lt.mp fun later => first k later executed
        · exact Nat.not_lt.mp fun sooner => earlier again sooner repeated
      exact cutAt_take_append atBefore atAfter
    · intro last evaluated accepted
      have failed := Machine.evaluate_eq_getLast cut List.getLast?_concat
      rw [Except.ok.inj (evaluated.symm.trans failed)] at accepted
      cases accepted
  · have plain := not_exists.mp any
    have same : (machine { enablePushData4 := false }).Complete state on :=
      complete_of_not_executed fits complete plain
    refine ⟨on, on, traced, Machine.trace_eq same, fun _ => rfl,
      fun k executed => absurd executed (plain k), ?_⟩
    intro last evaluated _
    obtain ⟨_, atEnd, _, ends⟩ := complete.exists_later
    rw [Machine.evaluate_eq_getLast complete ends, ← evaluated, Machine.evaluate_eq_getLast same ends]

/-- A byte `0x4e` as data, and then as the opcode of a push that lacks its length. With the push
    switched on that push lacks bytes, with the push switched off it is not minimal. -/
theorem cut_off_after_data :
    (#[0x01, 0x4e, 0x4e, 0xff] : Script).size < positionBound ∧
    ∃ on off, (machine { enablePushData4 := true }).trace (start #[0x01, 0x4e, 0x4e, 0xff]) = .ok on ∧
      (machine { enablePushData4 := false }).trace (start #[0x01, 0x4e, 0x4e, 0xff]) = .ok off ∧
      ¬ Executed on 0 0x4e ∧ Executed on 1 0x4e ∧ off.length = 3 ∧
      on[2]?.bind (·.state.error) = some .malformedPush ∧
      off[2]?.bind (·.state.error) = some .nonMinimalPush := by
  have fits : (#[0x01, 0x4e, 0x4e, 0xff] : Script).size < positionBound := by decide
  obtain ⟨on, off, tracedOn, tracedOff, _, cut, _⟩ :=
    switched_off_trace_is_cut_off (start #[0x01, 0x4e, 0x4e, 0xff]) fits
  have data : ∀ j < 1, ¬ Executed on j 0x4e := by
    rintro j small ⟨before, after, atBefore, _, reading⟩
    obtain rfl := Nat.lt_one_iff.mp small
    cases tracedOn
    cases atBefore
    cases reading
  have executed : Executed on 1 0x4e := by
    cases tracedOn
    exact ⟨_, _, rfl, rfl, rfl⟩
  have malformed : on[2]?.bind (·.state.error) = some .malformedPush := by
    cases tracedOn
    rfl
  obtain ⟨length, _, before, after, _, _, atCut⟩ := cut 1 executed data
  refine ⟨fits, on, off, tracedOn, tracedOff, data 0 Nat.one_pos, executed, length, malformed, ?_⟩
  rw [atCut]
  rfl

end ScriptMachine.BitcoinCash
