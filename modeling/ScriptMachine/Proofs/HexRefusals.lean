import ScriptMachine.Proofs.HexRoundTrip

/-! # Refused hexadecimal text

A text is refused for its length, or else for its first character that is no digit. `FirstForeign` says
which character that is by positions alone. Reading is also spelled out here pair by pair: every position
is put together from the number of pairs before it and from the half of a pair, and the first refusal
ends the reading. Both readings give the same bytes and the same refusals.
-/

namespace ScriptMachine.Hex

/-- The character at this position is no digit, and all characters before it are digits. -/
structure FirstForeign (chars : List Char) (c : Char) (position : Nat) : Prop where
  located : chars[position]? = some c
  foreign : ¬ IsDigit c
  digitsBefore : ∀ earlier < position, ∀ d, chars[earlier]? = some d → IsDigit d

/-- The value of the character at a position. -/
def digitAt (position : Nat) (c : Char) : Except Error Nat :=
  match digitValue? c with
  | some value => .ok value
  | none => .error (.invalidCharacter c position)

/-- Read the digits behind a number of pairs, up to the first character that is none. -/
def readPairs (pairs : Nat) : List Char → Except Error (List UInt8)
  | high :: low :: rest => do
      let highValue ← digitAt (2 * pairs) high
      let lowValue ← digitAt (2 * pairs + 1) low
      let later ← readPairs (pairs + 1) rest
      .ok (UInt8.ofNat (16 * highValue + lowValue) :: later)
  | _ => .ok []

/-- Read hexadecimal text pair by pair. -/
def decodeInPairs (text : String) : Except Error (List UInt8) :=
  let chars := (Text.trimmed text).toList
  if chars.length % 2 = 1 then .error (.oddLength chars.length) else readPairs 0 chars

variable {chars rest : List Char} {c d : Char} {position : Nat}

/-! ## The first character that is no digit -/

namespace FirstForeign

theorem head (foreign : ¬ IsDigit c) : FirstForeign (c :: rest) c 0 :=
  ⟨rfl, foreign, by simp⟩

theorem cons (digit : IsDigit d) (first : FirstForeign rest c position) :
    FirstForeign (d :: rest) c (position + 1) := by
  constructor
  · simpa using first.located
  · exact first.foreign
  · intro earlier before found atEarlier
    cases earlier with
    | zero =>
        obtain rfl : d = found := by simpa using atEarlier
        exact digit
    | succ earlier =>
        apply first.digitsBefore earlier (by omega)
        simpa using atEarlier

theorem cases_cons (first : FirstForeign (d :: rest) c position) :
    (c = d ∧ position = 0) ∨
      ∃ before, position = before + 1 ∧ IsDigit d ∧ FirstForeign rest c before := by
  obtain ⟨located, foreign, digitsBefore⟩ := first
  cases position with
  | zero => exact .inl ⟨by simpa using located.symm, rfl⟩
  | succ before =>
      have digit : IsDigit d := digitsBefore 0 (by omega) d rfl
      refine .inr ⟨before, rfl, digit, by simpa using located, foreign, ?_⟩
      intro earlier small found atEarlier
      apply digitsBefore (earlier + 1) (by omega)
      simpa using atEarlier

theorem find?_eq (first : FirstForeign chars c position) :
    chars.find? isForeign = some c ∧ chars.findIdx isForeign = position := by
  induction chars generalizing position with
  | nil => simpa using first.located
  | cons d rest ih =>
      obtain ⟨rfl, rfl⟩ | ⟨before, rfl, digit, later⟩ := first.cases_cons
      · have foreign : isForeign c = true := by
          simpa [← isForeign_eq_false_iff] using first.foreign
        simp [foreign, List.findIdx_cons]
      · simp [isForeign_eq_false_iff.mpr digit, List.findIdx_cons, ih later]

end FirstForeign

theorem digits_or_firstForeign (chars : List Char) :
    (∀ c ∈ chars, IsDigit c) ∨ ∃ c position, FirstForeign chars c position := by
  induction chars with
  | nil => exact .inl (by simp)
  | cons d rest ih =>
      by_cases digit : IsDigit d
      · obtain digits | ⟨c, position, first⟩ := ih
        · exact .inl (by simpa [digit] using digits)
        · exact .inr ⟨c, position + 1, first.cons digit⟩
      · exact .inr ⟨d, 0, .head digit⟩

/-! ## Reading pair by pair -/

theorem digitAt_of_isDigit (digit : IsDigit c) :
    digitAt position c = .ok ((digitValue? c).getD 0) := by
  have known := isForeign_eq_false_iff.mpr digit
  unfold isForeign at known
  cases found : digitValue? c with
  | none => simp [found] at known
  | some value => simp [digitAt, found]

theorem digitAt_of_not_isDigit (foreign : ¬ IsDigit c) :
    digitAt position c = .error (.invalidCharacter c position) := by
  have unknown : digitValue? c = none := by
    simpa [← isForeign_eq_false_iff, isForeign] using foreign
  simp [digitAt, unknown]

theorem readPairs_of_digits (pairs : Nat) (digits : ∀ c ∈ chars, IsDigit c) :
    readPairs pairs chars = .ok (pairUp chars) := by
  fun_induction readPairs pairs chars with
  | case1 pairs high low rest ih =>
      simp only [List.mem_cons, forall_eq_or_imp] at digits
      obtain ⟨highDigit, lowDigit, later⟩ := digits
      simp only [digitAt_of_isDigit highDigit, digitAt_of_isDigit lowDigit, ih later, bind,
        Except.bind, pairUp, byteOf]
  | case2 chars pairs short =>
      obtain _ | ⟨high, _ | ⟨low, rest⟩⟩ := chars
      · rfl
      · rfl
      · exact absurd rfl (short high low rest)

/-- A refusal counts from the first pair, so the pairs that are read already are added. -/
theorem readPairs_of_firstForeign (pairs : Nat) (even : chars.length % 2 = 0)
    (first : FirstForeign chars c position) :
    readPairs pairs chars = .error (.invalidCharacter c (2 * pairs + position)) := by
  fun_induction readPairs pairs chars generalizing position with
  | case1 pairs high low rest ih =>
      obtain ⟨rfl, rfl⟩ | ⟨_, rfl, highDigit, behindHigh⟩ := first.cases_cons
      · simp only [digitAt_of_not_isDigit first.foreign, bind, Except.bind, Nat.add_zero]
      obtain ⟨rfl, rfl⟩ | ⟨before, rfl, lowDigit, behindLow⟩ := behindHigh.cases_cons
      · simp only [digitAt_of_isDigit highDigit, digitAt_of_not_isDigit first.foreign, bind,
          Except.bind]
      have evenRest : rest.length % 2 = 0 := by
        simp only [List.length_cons] at even
        omega
      have sum : 2 * (pairs + 1) + before = 2 * pairs + (before + 1 + 1) := by omega
      simp only [digitAt_of_isDigit highDigit, digitAt_of_isDigit lowDigit,
        ih evenRest behindLow, sum, bind, Except.bind]
  | case2 chars pairs short =>
      obtain _ | ⟨high, _ | ⟨low, rest⟩⟩ := chars
      · simpa using first.located
      · simp at even
      · exact absurd rfl (short high low rest)

/-! ## Refusals -/

theorem decodeChars_of_odd (odd : chars.length % 2 = 1) :
    decodeChars chars = .error (.oddLength chars.length) := by
  simp [decodeChars, odd]

theorem decodeChars_of_firstForeign (even : chars.length % 2 = 0)
    (first : FirstForeign chars c position) :
    decodeChars chars = .error (.invalidCharacter c position) := by
  obtain ⟨found, index⟩ := first.find?_eq
  simp [decodeChars, even, found, index]

theorem decodeChars_eq_readPairs (even : chars.length % 2 = 0) :
    decodeChars chars = readPairs 0 chars := by
  obtain digits | ⟨c, position, first⟩ := digits_or_firstForeign chars
  · have read : decodeChars chars = .ok (pairUp chars) :=
      decodeChars_eq_ok_iff.mpr ⟨even, digits, rfl⟩
    exact read.trans (readPairs_of_digits 0 digits).symm
  · have refused := readPairs_of_firstForeign 0 even first
    simp only [Nat.mul_zero, Nat.zero_add] at refused
    exact (decodeChars_of_firstForeign even first).trans refused.symm

theorem decodeChars_cases (chars : List Char) :
    (chars.length % 2 = 1 ∧ decodeChars chars = .error (.oddLength chars.length)) ∨
    (chars.length % 2 = 0 ∧ ∃ c position, FirstForeign chars c position ∧
      decodeChars chars = .error (.invalidCharacter c position)) ∨
    ∃ bytes, decodeChars chars = .ok bytes := by
  obtain even | odd := Nat.mod_two_eq_zero_or_one chars.length
  · obtain digits | ⟨c, position, first⟩ := digits_or_firstForeign chars
    · exact .inr (.inr ⟨_, decodeChars_eq_ok_iff.mpr ⟨even, digits, rfl⟩⟩)
    · exact .inr (.inl ⟨even, c, position, first, decodeChars_of_firstForeign even first⟩)
  · exact .inl ⟨odd, decodeChars_of_odd odd⟩

theorem decodeChars_eq_invalidCharacter_iff :
    decodeChars chars = .error (.invalidCharacter c position) ↔
      chars.length % 2 = 0 ∧ FirstForeign chars c position := by
  constructor
  · intro refused
    obtain ⟨_, known⟩ | ⟨even, _, _, first, known⟩ | ⟨_, known⟩ := decodeChars_cases chars
    · simp [known] at refused
    · obtain ⟨rfl, rfl⟩ : _ = c ∧ _ = position := by simpa [known] using refused
      exact ⟨even, first⟩
    · simp [known] at refused
  · rintro ⟨even, first⟩
    exact decodeChars_of_firstForeign even first

theorem decodeChars_eq_oddLength_iff {length : Nat} :
    decodeChars chars = .error (.oddLength length) ↔
      chars.length % 2 = 1 ∧ length = chars.length := by
  constructor
  · intro refused
    obtain ⟨odd, known⟩ | ⟨_, _, _, _, known⟩ | ⟨_, known⟩ := decodeChars_cases chars
    · exact ⟨odd, by simpa [known] using refused.symm⟩
    · simp [known] at refused
    · simp [known] at refused
  · rintro ⟨odd, rfl⟩
    exact decodeChars_of_odd odd

/-- A text of odd length is refused for its length, whatever its characters are, and a text of even
    length for its first character that is no digit. There is no other refusal, and reading the text
    pair by pair up to the first refusal gives the same. -/
theorem refusals_are_exact (text : String) :
    (∀ length, decode text = .error (.oddLength length) ↔
      (Text.trimmed text).length % 2 = 1 ∧ length = (Text.trimmed text).length) ∧
    (∀ c position, decode text = .error (.invalidCharacter c position) ↔
      (Text.trimmed text).length % 2 = 0 ∧ FirstForeign (Text.trimmed text).toList c position) ∧
    ((∃ bytes, decode text = .ok bytes) ∨
      (∃ length, decode text = .error (.oddLength length)) ∨
      ∃ c position, decode text = .error (.invalidCharacter c position)) ∧
    decodeInPairs text = decode text := by
  have same : decode text = decodeChars (Text.trimmed text).toList := by
    simp [decode, Text.trimmed]
  rw [same, ← String.length_toList]
  refine ⟨fun length => decodeChars_eq_oddLength_iff,
    fun c position => decodeChars_eq_invalidCharacter_iff, ?_, ?_⟩
  · obtain ⟨_, refused⟩ | ⟨_, c, position, _, refused⟩ | read :=
      decodeChars_cases (Text.trimmed text).toList
    · exact .inr (.inl ⟨_, refused⟩)
    · exact .inr (.inr ⟨c, position, refused⟩)
    · exact .inl read
  · simp only [decodeInPairs]
    split
    next odd => exact (decodeChars_of_odd odd).symm
    next even => exact (decodeChars_eq_readPairs (by omega)).symm

-- Positions count characters, not bytes, and the blanks in front are not counted.
example : decode "\t00é0zz\n" = .error (.invalidCharacter 'é' 2) := rfl
example : decode "0é0" = .error (.oddLength 3) := rfl

end ScriptMachine.Hex
