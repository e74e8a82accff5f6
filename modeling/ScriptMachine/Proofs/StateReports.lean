import Mathlib
import ScriptMachine.CommandLine
import ScriptMachine.Proofs.HexRoundTrip

/-! # Reports tell states apart

The report of a state is a text without quotes or escapes, yet it can be read in one way only. No line
but the first can hold an end of line, so the text falls into its lines; the first line gives the position
and how many of the lines behind it are items; and every item line gives its item. The label of the report
is the same text in front of both reports, so nothing is asked of it.
-/

namespace ScriptMachine

/-! ## Texts -/

namespace Text

/-- The text holds no end of line. -/
def OneLine (text : String) : Prop :=
  '\n' ∉ text.toList

@[simp] theorem oneLine_append {first second : String} :
    OneLine (first ++ second) ↔ OneLine first ∧ OneLine second := by
  simp [OneLine]

@[simp] theorem oneLine_spaces (count : Nat) : OneLine (spaces count) := by
  simp [OneLine, spaces]

theorem length_pad_left {width : Nat} {text : String} (narrow : text.length ≤ width) :
    (pad .left width text).toList.length = width := by
  simp only [pad, spaces, String.toList_append, List.length_append, String.length_toList,
    String.toList_ofList, List.length_replicate]
  omega

theorem eq_and_eq_of_append_cons {mark : Char} {before after others rest : List Char}
    (unmarked : mark ∉ before) (alsoUnmarked : mark ∉ others)
    (same : before ++ mark :: after = others ++ mark :: rest) : before = others ∧ after = rest := by
  induction before generalizing others with
  | nil =>
      cases others with
      | nil => simpa using same
      | cons d others =>
          obtain ⟨rfl, _⟩ : mark = d ∧ _ := by simpa using same
          simp at alsoUnmarked
  | cons c before ih =>
      cases others with
      | nil =>
          obtain ⟨rfl, _⟩ : c = mark ∧ _ := by simpa using same
          simp at unmarked
      | cons d others =>
          obtain ⟨rfl, behind⟩ : c = d ∧ before ++ mark :: after = others ++ mark :: rest := by
            simpa using same
          simp only [List.mem_cons, not_or] at unmarked alsoUnmarked
          obtain ⟨rfl, rfl⟩ := ih unmarked.2 alsoUnmarked.2 behind
          exact ⟨rfl, rfl⟩

/-! ## Numbers -/

theorem isDigit_of_mem_toString {number : Nat} {c : Char} (member : c ∈ (toString number).toList) :
    c.isDigit = true := by
  simp only [Nat.toString_eq_repr, Nat.toList_repr] at member
  exact Nat.isDigit_of_mem_toDigits (by decide) (by decide) member

theorem isDigit_or_minus_of_mem_toString {number : Int} {c : Char}
    (member : c ∈ (toString number).toList) : c.isDigit = true ∨ c = '-' := by
  rw [Int.toString_eq_repr, Int.repr_eq_if] at member
  split at member
  · exact .inl (isDigit_of_mem_toString member)
  · simp only [String.toList_append, List.mem_append] at member
    obtain sign | digit := member
    · exact .inr (by simpa using sign)
    · exact .inl (isDigit_of_mem_toString digit)

@[simp] theorem oneLine_repr_nat (number : Nat) : OneLine number.repr := by
  intro member
  simpa using isDigit_of_mem_toString member

@[simp] theorem oneLine_repr_int (number : Int) : OneLine number.repr := by
  intro member
  simpa using isDigit_or_minus_of_mem_toString member

theorem space_not_mem_toString (number : Nat) : ' ' ∉ (toString number).toList := by
  intro member
  simpa using isDigit_of_mem_toString member

theorem dropWhile_space_pad (width number : Nat) (rest : List Char) :
    ((pad .right width (toString number)).toList ++ rest).dropWhile (· == ' ') =
      (toString number).toList ++ rest := by
  have nonempty : (toString number).toList ≠ [] := by
    simp [Nat.toList_repr, Nat.toDigits_ne_nil]
  obtain ⟨first, later, split⟩ := List.exists_cons_of_ne_nil nonempty
  have solid : first ≠ ' ' := by
    rintro rfl
    exact space_not_mem_toString number (split ▸ List.mem_cons_self)
  have blank : ∀ c ∈ (spaces (width - (toString number).length)).toList, (c == ' ') = true := by
    simp [spaces]
  simp only [pad, String.toList_append, List.append_assoc]
  rw [List.dropWhile_append_of_pos blank, split, List.cons_append,
    List.dropWhile_cons_of_neg (by simpa using solid)]

end Text

/-! ## Items and errors -/

theorem Item.text_bytes (content : List UInt8) :
    (Item.bytes content).text = "0x" ++ Hex.encode content := by
  have written (shown : String) :
      content.foldl (fun shown byte => shown ++ .ofList (Hex.digitPair byte)) shown =
        shown ++ Hex.encode content := by
    induction content generalizing shown with
    | nil => simp [Hex.encode]
    | cons byte later ih =>
        rw [List.foldl_cons, ih]
        simp [Hex.encode, String.append_assoc]
  exact written "0x"

theorem Item.text_injective {first second : Item} (same : first.text = second.text) :
    first = second := by
  have differ (value : Int) (content : List UInt8) :
      (Item.number value).text ≠ (Item.bytes content).text := by
    intro alike
    have shown : 'x' ∈ (Item.bytes content).text.toList := by simp [Item.text_bytes]
    exact absurd (Text.isDigit_or_minus_of_mem_toString (alike ▸ shown)) (by decide)
  cases first with
  | number value =>
      cases second with
      | number other => exact congrArg Item.number (Int.repr_injective same)
      | bytes content => exact absurd same (differ value content)
  | bytes content =>
      cases second with
      | number value => exact absurd same.symm (differ value content)
      | bytes other =>
          rw [text_bytes, text_bytes] at same
          exact congrArg Item.bytes (Hex.encode_injective ((String.append_right_inj "0x").mp same))

theorem Item.oneLine_text (item : Item) : Text.OneLine item.text := by
  cases item with
  | number value => exact Text.oneLine_repr_int value
  | bytes content =>
      have digits : Text.OneLine (Hex.encode content) := by
        intro member
        rw [Hex.encode, String.toList_ofList] at member
        exact absurd (Hex.isDigit_of_mem_flatMap member) (by decide)
      simpa [Item.text_bytes, Text.OneLine] using digits

theorem EvalError.message_injective {first second : EvalError}
    (same : first.message = second.message) : first = second := by
  cases first <;> cases second <;> simp [EvalError.message] at same ⊢

theorem EvalError.oneLine_message (error : EvalError) : Text.OneLine error.message := by
  cases error <;> simp [EvalError.message, Text.OneLine]

namespace Report

/-! ## Lines -/

theorem toList_text_cons (line : String) (later : List String) :
    (text (line :: later)).toList = line.toList ++ '\n' :: (text later).toList := by
  simp [text]

theorem text_injective {lines others : List String} (single : ∀ line ∈ lines, Text.OneLine line)
    (alsoSingle : ∀ line ∈ others, Text.OneLine line) (same : text lines = text others) :
    lines = others := by
  induction lines generalizing others with
  | nil =>
      cases others with
      | nil => rfl
      | cons other later => simp [text] at same
  | cons line lines ih =>
      cases others with
      | nil => simp [text] at same
      | cons other others =>
          have chars := congrArg String.toList same
          simp only [toList_text_cons] at chars
          simp only [List.mem_cons, forall_eq_or_imp] at single alsoSingle
          obtain ⟨first, later⟩ := Text.eq_and_eq_of_append_cons single.1 alsoSingle.1 chars
          have heads : line = other := String.toList_inj.mp first
          have tails : lines = others := ih single.2 alsoSingle.2 (String.toList_inj.mp later)
          simp [heads, tails]

/-- The part of the first line that tells of the state: the position and the size of the stack. -/
def countLine (state : BitcoinCash.State) : String :=
  Text.pad .right 4 (toString state.ip) ++ "  stack: " ++ toString state.stack.length

/-- The lines behind the first one. -/
def bodyLines (state : BitcoinCash.State) : List String :=
  state.stack.mapIdx itemLine ++ (state.error.map errorLine).toList

variable {first second : BitcoinCash.State}

theorem text_stateLines (label : String) (state : BitcoinCash.State) :
    text (stateLines label state) =
      "      " ++ Text.pad .left 8 label ++ " ip: " ++ text (countLine state :: bodyLines state) := by
  simp [text, stateLines, headLine, countLine, bodyLines, String.append_assoc]

theorem countLine_injective (same : countLine first = countLine second) :
    first.ip = second.ip ∧ first.stack.length = second.stack.length := by
  have opened : "  stack: ".toList = ' ' :: " stack: ".toList := rfl
  have chars := congrArg (fun line => line.toList.dropWhile (· == ' ')) same
  simp only [countLine, String.append_assoc, String.toList_append, Text.dropWhile_space_pad, opened,
    List.cons_append] at chars
  obtain ⟨position, behind⟩ := Text.eq_and_eq_of_append_cons (Text.space_not_mem_toString _)
    (Text.space_not_mem_toString _) chars
  have size := List.append_cancel_left behind
  exact ⟨Nat.repr_injective (String.toList_inj.mp position),
    Nat.repr_injective (String.toList_inj.mp size)⟩

theorem itemLine_injective {depth : Nat} {item other : Item}
    (same : itemLine depth item = itemLine depth other) : item = other := by
  -- The kinds are padded to one width, so the texts of the items begin at the same place.
  have width (item : Item) : (Text.pad .left 6 item.kindName).toList.length = 6 := by
    apply Text.length_pad_left
    cases item <;> simp [Item.kindName, ← String.length_toList]
  simp only [itemLine, String.append_assoc, String.append_right_inj] at same
  have chars := congrArg String.toList same
  simp only [String.toList_append] at chars
  have texts := (List.append_inj chars ((width item).trans (width other).symm)).2
  exact Item.text_injective (String.toList_inj.mp (List.append_cancel_left texts))

theorem errorLine_injective {error other : EvalError} (same : errorLine error = errorLine other) :
    error = other :=
  EvalError.message_injective ((String.append_right_inj _).mp same)

theorem oneLine_countLine (state : BitcoinCash.State) : Text.OneLine (countLine state) := by
  have words : Text.OneLine "  stack: " := by simp [Text.OneLine]
  simp [countLine, Text.pad, words]

theorem oneLine_itemLine (depth : Nat) (item : Item) : Text.OneLine (itemLine depth item) := by
  have opening : Text.OneLine "        [" := by simp [Text.OneLine]
  have closing : Text.OneLine "] " := by simp [Text.OneLine]
  have space : Text.OneLine " " := by simp [Text.OneLine]
  have kind : Text.OneLine item.kindName := by cases item <;> simp [Item.kindName, Text.OneLine]
  simp [itemLine, Text.pad, opening, closing, space, kind, item.oneLine_text]

theorem oneLine_errorLine (error : EvalError) : Text.OneLine (errorLine error) := by
  have words : Text.OneLine "        error: " := by simp [Text.OneLine]
  exact Text.oneLine_append.mpr ⟨words, error.oneLine_message⟩

theorem oneLine_of_mem (state : BitcoinCash.State) :
    ∀ line ∈ countLine state :: bodyLines state, Text.OneLine line := by
  intro line member
  simp only [bodyLines, List.mem_cons, List.mem_append, List.mem_mapIdx, Option.mem_toList,
    Option.map_eq_some_iff] at member
  obtain rfl | ⟨depth, _, rfl⟩ | ⟨error, _, rfl⟩ := member
  · exact oneLine_countLine state
  · exact oneLine_itemLine depth _
  · exact oneLine_errorLine error

/-- The lines behind the first one tell the stack and the error, once it is known how many of them are
    items. -/
theorem bodyLines_injective (sizes : first.stack.length = second.stack.length)
    (same : bodyLines first = bodyLines second) :
    first.stack = second.stack ∧ first.error = second.error := by
  obtain ⟨items, errors⟩ := List.append_inj same (by simpa using sizes)
  constructor
  · apply List.ext_getElem sizes
    intro depth inside alsoInside
    have lines := congrArg (·[depth]?) items
    simp only [List.getElem?_mapIdx, List.getElem?_eq_getElem inside,
      List.getElem?_eq_getElem alsoInside, Option.map_some, Option.some.injEq] at lines
    exact itemLine_injective lines
  · have shown : first.error.map errorLine = second.error.map errorLine := by
      simpa using congrArg List.head? errors
    exact Option.map_injective (fun _ _ => errorLine_injective) shown

/-- Two reports with the same label are the same text exactly if the states have the same position,
    the same stack and the same error. Items can be told apart by their texts alone, and bytes are
    shown in hexadecimal. -/
theorem reports_tell_states_apart :
    (∀ (label : String) (first second : BitcoinCash.State),
      text (stateLines label first) = text (stateLines label second) ↔
        first.ip = second.ip ∧ first.stack = second.stack ∧ first.error = second.error) ∧
    (∀ first second : Item, first.text = second.text ↔ first = second) ∧
    ∀ content, (Item.bytes content).text = "0x" ++ Hex.encode content := by
  refine ⟨fun label first second => ⟨?_, ?_⟩, fun first second => ⟨Item.text_injective, ?_⟩,
    Item.text_bytes⟩
  · intro same
    simp only [text_stateLines, String.append_right_inj] at same
    have lines := text_injective (oneLine_of_mem first) (oneLine_of_mem second) same
    obtain ⟨head, body⟩ := List.cons.inj lines
    obtain ⟨position, sizes⟩ := countLine_injective head
    exact ⟨position, bodyLines_injective sizes body⟩
  · rintro ⟨position, stack, error⟩
    simp [stateLines, headLine, position, stack, error]
  · rintro rfl
    rfl

end Report

end ScriptMachine
