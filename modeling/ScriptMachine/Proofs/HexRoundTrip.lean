import ScriptMachine.Script

/-! # Hexadecimal text and back

Bytes are written in one way, and read from any text that differs from it by blanks at the ends and
by the case of its letters. Reading therefore undoes writing, and writing what was read gives the text
in lower case and without the blanks.
-/

namespace ScriptMachine.Hex

/-- The character is a hexadecimal digit, in either case. -/
def IsDigit (c : Char) : Prop :=
  ('0' ≤ c ∧ c ≤ '9') ∨ ('a' ≤ c ∧ c ≤ 'f') ∨ ('A' ≤ c ∧ c ≤ 'F')

instance : DecidablePred IsDigit :=
  fun _ => inferInstanceAs (Decidable (_ ∨ _))

/-- The digit in lower case. All other characters stay as they are. -/
def lowerDigit (c : Char) : Char :=
  if 'A' ≤ c ∧ c ≤ 'F' then Char.ofNat (c.toNat + 32) else c

variable {chars : List Char} {bytes : List UInt8} {c high low : Char}

/-! ## Digits -/

/-- What holds of every digit can be seen from the characters up to the last one. -/
theorem of_isDigit (property : Char → Prop)
    (each : ∀ code < 0x67, IsDigit (Char.ofNat code) → property (Char.ofNat code))
    (digit : IsDigit c) : property c := by
  have small : c.toNat < 0x67 := by
    simp only [IsDigit, Char.le_def, UInt32.le_iff_toNat_le] at digit
    change (_ ∧ c.toNat ≤ 0x39) ∨ (_ ∧ c.toNat ≤ 0x66) ∨ (_ ∧ c.toNat ≤ 0x46) at digit
    omega
  have same := c.ofNat_toNat
  rw [← same] at digit ⊢
  exact each c.toNat small digit

theorem isForeign_eq_false_iff : isForeign c = false ↔ IsDigit c := by
  constructor
  · intro known
    unfold isForeign digitValue? at known
    split at known
    · exact .inl ‹_›
    · split at known
      · exact .inr (.inl ‹_›)
      · split at known
        · exact .inr (.inr ‹_›)
        · cases known
  · exact of_isDigit (isForeign · = false) (by decide)

theorem not_isBlank_of_isDigit (digit : IsDigit c) : Text.isBlank c = false :=
  of_isDigit (Text.isBlank · = false) (by decide) digit

theorem lowerDigit_eq_toLower (digit : IsDigit c) : lowerDigit c = c.toLower :=
  of_isDigit (fun c => lowerDigit c = c.toLower) (by decide) digit

theorem digitValue_of_isDigit (digit : IsDigit c) :
    (digitValue? c).getD 0 < 16 ∧ Nat.digitChar ((digitValue? c).getD 0) = lowerDigit c :=
  of_isDigit
    (fun c => (digitValue? c).getD 0 < 16 ∧ Nat.digitChar ((digitValue? c).getD 0) = lowerDigit c)
    (by decide) digit

theorem isDigit_digitChar {value : Nat} (small : value < 16) :
    IsDigit (Nat.digitChar value) ∧ digitValue? (Nat.digitChar value) = some value := by
  revert value
  decide

/-! ## Bytes -/

theorem digitPair_byteOf (highDigit : IsDigit high) (lowDigit : IsDigit low) :
    digitPair (byteOf high low) = [lowerDigit high, lowerDigit low] := by
  obtain ⟨highSmall, highChar⟩ := digitValue_of_isDigit highDigit
  obtain ⟨lowSmall, lowChar⟩ := digitValue_of_isDigit lowDigit
  rw [digitPair, byteOf, UInt8.toNat_ofNat_of_lt' (by simp only [UInt8.size]; omega), ← highChar,
    ← lowChar]
  congr 3 <;> omega

theorem byteOf_digitPair (byte : UInt8) :
    byteOf (Nat.digitChar (byte.toNat / 16)) (Nat.digitChar (byte.toNat % 16)) = byte := by
  have bound := byte.toNat_lt
  have high := (isDigit_digitChar (show byte.toNat / 16 < 16 by omega)).2
  have low := (isDigit_digitChar (show byte.toNat % 16 < 16 by omega)).2
  rw [byteOf, high, low, Option.getD_some, Option.getD_some, Nat.div_add_mod, UInt8.ofNat_toNat]

theorem isDigit_of_mem_flatMap (member : c ∈ bytes.flatMap digitPair) : IsDigit c := by
  obtain ⟨byte, _, inPair⟩ := List.mem_flatMap.mp member
  have bound := byte.toNat_lt
  simp only [digitPair, List.mem_cons, List.not_mem_nil, or_false] at inPair
  rcases inPair with rfl | rfl
  · exact (isDigit_digitChar (by omega)).1
  · exact (isDigit_digitChar (by omega)).1

theorem length_flatMap_digitPair (bytes : List UInt8) :
    (bytes.flatMap digitPair).length = 2 * bytes.length := by
  induction bytes with
  | nil => rfl
  | cons byte bytes ih =>
      rw [List.flatMap_cons, List.length_append, ih, List.length_cons, digitPair]
      simp only [List.length_cons, List.length_nil]
      omega

theorem pairUp_flatMap (bytes : List UInt8) : pairUp (bytes.flatMap digitPair) = bytes := by
  induction bytes with
  | nil => rfl
  | cons byte bytes ih =>
      rw [List.flatMap_cons, digitPair, List.cons_append, List.cons_append, List.nil_append, pairUp,
        byteOf_digitPair, ih]

theorem flatMap_pairUp (even : chars.length % 2 = 0) (digits : ∀ c ∈ chars, IsDigit c) :
    (pairUp chars).flatMap digitPair = chars.map lowerDigit := by
  fun_induction pairUp chars with
  | case1 high low rest ih =>
      simp only [List.mem_cons, forall_eq_or_imp] at digits
      obtain ⟨highDigit, lowDigit, later⟩ := digits
      rw [List.length_cons, List.length_cons, Nat.add_assoc, Nat.add_mod_right] at even
      rw [List.flatMap_cons, digitPair_byteOf highDigit lowDigit, ih even later]
      rfl
  | case2 chars short =>
      match chars with
      | [] => rfl
      | [_] => simp at even
      | high :: low :: rest => exact absurd rfl (short high low rest)

/-! ## Texts -/

theorem decodeChars_eq_ok_iff :
    decodeChars chars = .ok bytes ↔
      chars.length % 2 = 0 ∧ (∀ c ∈ chars, IsDigit c) ∧ pairUp chars = bytes := by
  have known : chars.find? isForeign = none ↔ ∀ c ∈ chars, IsDigit c := by
    simp only [List.find?_eq_none, Bool.not_eq_true, isForeign_eq_false_iff]
  rw [← known, decodeChars]
  by_cases odd : chars.length % 2 = 1
  · simp [odd]
  · have even : chars.length % 2 = 0 := by omega
    cases chars.find? isForeign <;> simp [even]

theorem decode_eq_ok_iff {text : String} :
    decode text = .ok bytes ↔
      (Text.trimmed text).length % 2 = 0 ∧ (∀ c ∈ (Text.trimmed text).toList, IsDigit c) ∧
        pairUp (Text.trimmed text).toList = bytes := by
  rw [decode, decodeChars_eq_ok_iff, Text.trimmed, ← String.length_toList, String.toList_ofList]

theorem encode_of_decode {text : String} (decoded : decode text = .ok bytes) :
    encode bytes = (Text.trimmed text).map lowerDigit := by
  obtain ⟨even, digits, rfl⟩ := decode_eq_ok_iff.mp decoded
  rw [← String.length_toList] at even
  rw [encode, flatMap_pairUp even digits, ← String.toList_map, String.ofList_toList]

theorem encode_injective {first second : List UInt8} (same : encode first = encode second) :
    first = second := by
  rw [encode, encode, String.ofList_inj] at same
  rw [← pairUp_flatMap first, same, pairUp_flatMap]

theorem map_lowerDigit_of_decode {text : String} (decoded : decode text = .ok bytes) :
    (Text.trimmed text).map lowerDigit = (Text.trimmed text).toLower := by
  obtain ⟨_, digits, _⟩ := decode_eq_ok_iff.mp decoded
  change (Text.trimmed text).map lowerDigit = (Text.trimmed text).map Char.toLower
  rw [← String.toList_inj, String.toList_map, String.toList_map]
  exact List.map_congr_left fun c member => lowerDigit_eq_toLower (digits c member)

/-- Reading undoes writing, whatever blanks stand around the digits, and writing what was read gives
    the digits in lower case without the blanks. So exactly the texts of an even number of digits can
    be read, and two of them are read as the same bytes if they differ by blanks and by case only. -/
theorem reading_and_writing_invert :
    (∀ before bytes after, (∀ c ∈ before.toList, Text.isBlank c = true) →
      (∀ c ∈ after.toList, Text.isBlank c = true) →
      decode (before ++ encode bytes ++ after) = .ok bytes) ∧
    (∀ text bytes, decode text = .ok bytes → encode bytes = (Text.trimmed text).map lowerDigit) ∧
    (∀ text, (∃ bytes, decode text = .ok bytes) ↔
      (Text.trimmed text).length % 2 = 0 ∧ ∀ c ∈ (Text.trimmed text).toList, IsDigit c) ∧
    ∀ first second bytes others, decode first = .ok bytes → decode second = .ok others →
      (bytes = others ↔ (Text.trimmed first).toLower = (Text.trimmed second).toLower) := by
  refine ⟨?_, fun text bytes => encode_of_decode, ?_, ?_⟩
  · intro before bytes after blankBefore blankAfter
    have digits : ∀ c ∈ bytes.flatMap digitPair, IsDigit c := fun _ => isDigit_of_mem_flatMap
    have solid : ∀ c ∈ bytes.flatMap digitPair, Text.isBlank c = false := fun c member =>
      not_isBlank_of_isDigit (digits c member)
    rw [decode, String.toList_append, String.toList_append,
      Text.trim_append_of_blank blankBefore blankAfter, encode, String.toList_ofList,
      Text.trim_of_not_blank solid, decodeChars_eq_ok_iff, length_flatMap_digitPair]
    exact ⟨Nat.mul_mod_right 2 _, digits, pairUp_flatMap bytes⟩
  · intro text
    simp [decode_eq_ok_iff]
  · intro first second bytes others readFirst readSecond
    rw [← map_lowerDigit_of_decode readFirst, ← map_lowerDigit_of_decode readSecond,
      ← encode_of_decode readFirst, ← encode_of_decode readSecond]
    exact ⟨fun same => by rw [same], encode_injective⟩

/-- Three bytes in upper case between blanks, one of which is no ASCII character. -/
theorem reading_and_writing_three_bytes :
    decode ("\t\u00a0" ++ encode [0x00, 0x0f, 0xab] ++ "\u3000\n") = .ok [0x00, 0x0f, 0xab] ∧
    encode [0x00, 0x0f, 0xab] = (Text.trimmed " 000FaB\n").map lowerDigit ∧
    ((Text.trimmed " 000FaB\n").toLower = (Text.trimmed "000fab").toLower) := by
  obtain ⟨undoes, lowers, _, agree⟩ := reading_and_writing_invert
  have mixed : decode " 000FaB\n" = .ok [0x00, 0x0f, 0xab] := rfl
  have plain : decode "000fab" = .ok [0x00, 0x0f, 0xab] := rfl
  exact ⟨undoes _ _ _ (List.all_eq_true.mp rfl) (List.all_eq_true.mp rfl), lowers _ _ mixed,
    (agree _ _ _ _ mixed plain).mp rfl⟩

end ScriptMachine.Hex
