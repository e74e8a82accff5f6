import Mathlib.Data.List.Induction
import ScriptMachine.Message

/-! # Templates by their pieces

A template is put together from pieces: text without braces, doubled braces, and placeholders. Two
scans read it, one character after the other and each by rules of its own, and neither knows of the
pieces. Both are shown here to go through a template piece by piece. So they cannot get out of step:
the names that one of them collects are the names that the other one marks, and every value that is
passed to a template is one that the template asks for.
-/

namespace ScriptMachine.Message

/-- Whether the character is no brace. -/
def isPlain (c : Char) : Bool :=
  c ≠ opening && c ≠ closing

def isNameChar (c : Char) : Bool :=
  isPlain c && c ≠ ':' && !Text.isBlank c

abbrev PlainText := { text : String // ∀ c ∈ text.toList, isPlain c = true }

/-- The name of a placeholder, which can be missing. -/
abbrev PlaceholderName := { name : String // ∀ c ∈ name.toList, isNameChar c = true }

/-- One piece of a template. A doubled brace stands for the brace itself. -/
inductive Piece where
  | literal (text : PlainText)
  | doubledOpening
  | doubledClosing
  | placeholder (name : PlaceholderName) (format : Option PlainText)

/-- What stands behind the name of a placeholder. -/
def formatChars : Option PlainText → List Char
  | none => [closing]
  | some format => ':' :: (format.val.toList ++ [closing])

namespace Piece

/-- The piece as it stands in a template. -/
def chars : Piece → List Char
  | .literal text => text.val.toList
  | .doubledOpening => [opening, opening]
  | .doubledClosing => [closing, closing]
  | .placeholder name format => opening :: (name.val.toList ++ formatChars format)

def name? : Piece → Option String
  | .placeholder name _ => some name.val
  | _ => none

end Piece

def render (pieces : List Piece) : String :=
  String.ofList (pieces.flatMap Piece.chars)

def names (pieces : List Piece) : List String :=
  pieces.filterMap Piece.name?

/-! ## Characters -/

variable {chars rest reversed name : List Char} {c : Char}

theorem ne_opening_of_isPlain (plain : isPlain c = true) : c ≠ opening := by
  rintro rfl
  cases plain

theorem ne_opening_of_endsName (ends : endsName c = true) : c ≠ opening := by
  rintro rfl
  cases ends

theorem not_isDigit_of_endsName (ends : endsName c = true) : c.isDigit = false := by
  simp only [endsName, Bool.or_eq_true, decide_eq_true_eq] at ends
  rcases ends with rfl | rfl <;> rfl

theorem isNameChar_iff :
    isNameChar c = true ↔ c ≠ opening ∧ endsName c = false ∧ Text.isBlank c = false := by
  simp [isNameChar, isPlain, endsName, and_assoc]

/-- Behind the name of a placeholder stands a character that ends it, and no further placeholder. -/
theorem exists_formatChars (format : Option PlainText) :
    ∃ ending tail, formatChars format = ending :: tail ∧ endsName ending = true ∧
      ∀ c ∈ tail, c ≠ opening := by
  cases format with
  | none => exact ⟨closing, [], rfl, rfl, by simp⟩
  | some format =>
      refine ⟨':', format.val.toList ++ [closing], rfl, rfl, ?_⟩
      intro c member
      rcases List.mem_append.mp member with inside | last
      · exact ne_opening_of_isPlain (format.property c inside)
      · rw [List.mem_singleton.mp last]
        decide

/-! ## Collecting names -/

theorem rawNames_plain (plain : ∀ c ∈ chars, c ≠ opening) :
    rawNames .text (chars ++ rest) = rawNames .text rest := by
  induction chars with
  | nil => rfl
  | cons c chars ih =>
      obtain ⟨here, later⟩ := List.forall_mem_cons.mp plain
      rw [List.cons_append, rawNames, if_neg here, ih later]

theorem rawNames_name (inside : ∀ c ∈ name, endsName c = false) (ends : endsName c = true) :
    rawNames (.name reversed) (name ++ c :: rest) =
      (reversed.reverse ++ name) :: rawNames .text rest := by
  induction name generalizing reversed with
  | nil => rw [List.nil_append, rawNames, if_pos ends, List.append_nil]
  | cons first name ih =>
      obtain ⟨here, later⟩ := List.forall_mem_cons.mp inside
      rw [List.cons_append, rawNames, if_neg (by simp [here]), ih later]
      simp

theorem rawNames_brace (inside : ∀ c ∈ name, isNameChar c = true) (ends : endsName c = true) :
    rawNames .brace (name ++ c :: rest) = name :: rawNames .text rest := by
  cases name with
  | nil => rw [List.nil_append, rawNames, if_neg (ne_opening_of_endsName ends), if_pos ends]
  | cons first name =>
      obtain ⟨here, later⟩ := List.forall_mem_cons.mp inside
      obtain ⟨single, within, _⟩ := isNameChar_iff.mp here
      rw [List.cons_append, rawNames, if_neg single, if_neg (by simp [within]),
        rawNames_name (fun c member => (isNameChar_iff.mp (later c member)).2.1) ends]
      rfl

theorem rawNames_piece (piece : Piece) :
    rawNames .text (piece.chars ++ rest) =
      (piece.name?.map String.toList).toList ++ rawNames .text rest := by
  cases piece with
  | literal text =>
      exact rawNames_plain fun c member => ne_opening_of_isPlain (text.property c member)
  | doubledOpening => rfl
  | doubledClosing => rfl
  | placeholder name format =>
      obtain ⟨ending, tail, split, ends, plain⟩ := exists_formatChars format
      rw [Piece.chars, split, List.cons_append, List.append_assoc, rawNames, if_pos rfl,
        List.cons_append, rawNames_brace name.property ends, rawNames_plain plain]
      rfl

theorem rawNames_render (pieces : List Piece) :
    rawNames .text (pieces.flatMap Piece.chars) = (names pieces).map String.toList := by
  induction pieces with
  | nil => rfl
  | cons piece pieces ih =>
      rw [List.flatMap_cons, rawNames_piece, ih, names, names, List.filterMap_cons]
      cases piece.name? <;> rfl

theorem forall_mem_names (pieces : List Piece) :
    ∀ name ∈ names pieces, ∀ c ∈ name.toList, isNameChar c = true := by
  intro name member
  obtain ⟨piece, _, named⟩ := List.mem_filterMap.mp member
  cases piece with
  | placeholder name format =>
      cases named
      exact name.property
  | literal | doubledOpening | doubledClosing => cases named

theorem placeholders?_render (pieces : List Piece) :
    placeholders? (render pieces) =
      if "" ∈ names pieces then none else some (names pieces).eraseDups := by
  have trimmed : (rawNames .text (render pieces).toList).map
      (fun name => String.ofList (Text.trim name)) = names pieces := by
    rw [render, String.toList_ofList, rawNames_render, List.map_map]
    refine (List.map_congr_left ?_).trans (List.map_id _)
    intro name member
    have solid : ∀ c ∈ name.toList, Text.isBlank c = false := fun c inside =>
      (isNameChar_iff.mp (forall_mem_names pieces name member c inside)).2.2
    rw [Function.comp_apply, Text.trim_of_not_blank solid, String.ofList_toList]
    rfl
  simp only [placeholders?, trimmed]

/-! ## Marking positions -/

/-- A name with an underscore in front if it begins with a digit. -/
def markName (name : String) : String :=
  if name.toList.head?.any Char.isDigit then "_" ++ name else name

def PlaceholderName.marked (name : PlaceholderName) : PlaceholderName :=
  ⟨markName name.val, by
    unfold markName
    split
    · rw [String.toList_append]
      exact List.forall_mem_append.mpr ⟨List.all_eq_true.mp rfl, name.property⟩
    · exact name.property⟩

/-- The piece with such an underscore in its name. Nothing but a placeholder changes. -/
def Piece.marked : Piece → Piece
  | .placeholder name format => .placeholder name.marked format
  | piece => piece

theorem markPositions_plain (plain : ∀ c ∈ chars, c ≠ opening) :
    markPositions false (chars ++ rest) = chars ++ markPositions false rest := by
  induction chars with
  | nil => rfl
  | cons c chars ih =>
      obtain ⟨here, later⟩ := List.forall_mem_cons.mp plain
      simp [markPositions, here, ih later]

theorem markPositions_name (name : PlaceholderName) (ends : endsName c = true) :
    markPositions true (name.val.toList ++ c :: rest) =
      name.marked.val.toList ++ c :: markPositions false rest := by
  have single := ne_opening_of_endsName ends
  obtain ⟨name, inside⟩ := name
  simp only [PlaceholderName.marked, markName]
  cases split : name.toList with
  | nil => simp [split, markPositions, not_isDigit_of_endsName ends]
  | cons first others =>
      rw [split] at inside
      have plain : ∀ d ∈ others, d ≠ opening := fun d member =>
        (isNameChar_iff.mp (inside d (List.mem_cons_of_mem first member))).1
      cases digit : first.isDigit <;>
        simp [split, markPositions, digit, markPositions_plain plain, single]

theorem markPositions_piece (piece : Piece) :
    markPositions false (piece.chars ++ rest) =
      piece.marked.chars ++ markPositions false rest := by
  cases piece with
  | literal text =>
      exact markPositions_plain fun c member => ne_opening_of_isPlain (text.property c member)
  | doubledOpening => rfl
  | doubledClosing => rfl
  | placeholder name format =>
      obtain ⟨ending, tail, split, ends, plain⟩ := exists_formatChars format
      rw [Piece.chars, Piece.marked, Piece.chars, split]
      simp [markPositions, markPositions_name name ends, markPositions_plain plain]

theorem nameByPosition_render (pieces : List Piece) :
    nameByPosition (render pieces) = render (pieces.map Piece.marked) := by
  have marked : markPositions false (pieces.flatMap Piece.chars) =
      (pieces.map Piece.marked).flatMap Piece.chars := by
    induction pieces with
    | nil => rfl
    | cons piece pieces ih =>
        rw [List.flatMap_cons, markPositions_piece, ih, List.map_cons, List.flatMap_cons]
  rw [nameByPosition, render, String.toList_ofList, marked, render]

theorem names_marked (pieces : List Piece) :
    names (pieces.map Piece.marked) = (names pieces).map markName := by
  rw [names, names, List.filterMap_map, List.map_filterMap]
  congr 1
  funext piece
  cases piece <;> rfl

theorem markName_toString (position : Nat) :
    markName (toString position) = positionName position := by
  have digits : (toString position).toList = Nat.toDigits 10 position := Nat.toList_repr
  cases split : Nat.toDigits 10 position with
  | nil => exact absurd split Nat.toDigits_ne_nil
  | cons first others =>
      have digit : first.isDigit = true :=
        Nat.isDigit_of_mem_toDigits (by decide) (Nat.le_refl 10) (split ▸ List.mem_cons_self)
      rw [markName, digits, split, List.head?_cons, Option.any_some, if_pos digit, positionName]

/-! ## Arms -/

/-- The members of a list without repetitions, in the order in which they first appear in it. -/
structure FirstAppearances (all found : List String) : Prop where
  mem_iff : ∀ name, name ∈ found ↔ name ∈ all
  ordered : found.Pairwise fun earlier later => all.idxOf earlier < all.idxOf later

theorem firstAppearances_eraseDups (all : List String) : FirstAppearances all all.eraseDups := by
  refine ⟨fun name => List.mem_eraseDups, ?_⟩
  induction all using List.reverseRecOn with
  | nil => exact List.Pairwise.nil
  | append_singleton all last ih =>
      have before {name : String} (member : name ∈ all.eraseDups) :
          (all ++ [last]).idxOf name = all.idxOf name := by
        rw [List.idxOf_append, if_pos (List.mem_eraseDups.mp member)]
      have kept : all.eraseDups.Pairwise fun earlier later =>
          (all ++ [last]).idxOf earlier < (all ++ [last]).idxOf later := by
        refine ih.imp_of_mem ?_
        intro earlier later inside alsoInside lower
        rwa [before inside, before alsoInside]
      rw [List.eraseDups_append]
      by_cases seen : last ∈ all
      · simpa [List.removeAll, seen] using kept
      · have added : ([last].removeAll all).eraseDups = [last] := by
          simp [List.removeAll, seen, List.eraseDups_cons]
        rw [added, List.pairwise_append]
        refine ⟨kept, List.pairwise_singleton _ _, ?_⟩
        intro earlier inside later atEnd
        rw [List.mem_singleton.mp atEnd, before inside, List.idxOf_append, if_neg seen]
        have := List.idxOf_lt_length_of_mem (List.mem_eraseDups.mp inside)
        omega

/-- The scan of a template that is written finds each of the arguments that are passed to it. -/
def AsksFor (template : String) (arguments : List String) : Prop :=
  ∃ asked, placeholders? template = some asked ∧ ∀ argument ∈ arguments, argument ∈ asked

variable {pieces : List Piece} {arguments : List String}

theorem asksFor_render (named : "" ∉ names pieces)
    (occurring : ∀ argument ∈ arguments, argument ∈ names pieces) :
    AsksFor (render pieces) arguments := by
  refine ⟨_, by rw [placeholders?_render, if_neg named], ?_⟩
  intro argument member
  exact List.mem_eraseDups.mpr (occurring argument member)

/-- An underscore more does not take a name away. -/
theorem empty_not_mem_names_marked (named : "" ∉ names pieces) :
    "" ∉ names (pieces.map Piece.marked) := by
  rw [names_marked, List.mem_map]
  rintro ⟨name, member, empty⟩
  unfold markName at empty
  split at empty
  · simp at empty
  · exact named (empty ▸ member)

theorem makeArm_refused (unnamed : "" ∈ names pieces) (path : String) (fields : Fields) :
    makeArm path fields (render pieces) = .error (.implicitPlaceholder (render pieces)) := by
  simp only [makeArm, placeholders?_render, if_pos unnamed]

theorem makeArm_unit (named : "" ∉ names pieces) (path : String) :
    makeArm path .unit (render pieces) =
      .ok { path, pattern := .unit, template := render pieces, arguments := [] } := by
  simp only [makeArm, placeholders?_render, if_neg named]

theorem makeArm_named (named : "" ∉ names pieces) (path : String) (declared : List String) :
    makeArm path (.named declared) (render pieces) =
      .ok
        { path
          pattern := .named (declared.filter (· ∈ names pieces))
          template := render pieces
          arguments := declared.filter (· ∈ names pieces) } := by
  simp only [makeArm, placeholders?_render, if_neg named, List.mem_eraseDups]

theorem makeArm_tuple (named : "" ∉ names pieces) (path : String) (count : Nat) :
    makeArm path (.tuple count) (render pieces) =
      .ok
        { path
          pattern := .tuple ((List.range count).map positionName)
          template := render (pieces.map Piece.marked)
          arguments :=
            ((List.range count).filter (toString · ∈ names pieces)).map positionName } := by
  simp only [makeArm, placeholders?_render, if_neg named, List.mem_eraseDups, nameByPosition_render]

theorem positionName_mem_names_marked {position : Nat} (asked : toString position ∈ names pieces) :
    positionName position ∈ names (pieces.map Piece.marked) := by
  rw [names_marked, ← markName_toString]
  exact List.mem_map_of_mem asked

/-- Whatever pieces a template is made of, the two scans of it agree. One refuses it exactly if a
    placeholder has no name, and collects the distinct names otherwise; the other changes nothing but
    the names that begin with a digit. So an arm passes exactly the fields that its template names,
    in order, and each of them is named in the template that is written. -/
theorem scans_agree_on_pieces (pieces : List Piece) :
    (placeholders? (render pieces) = none ↔ "" ∈ names pieces) ∧
    ("" ∉ names pieces → ∃ found,
      placeholders? (render pieces) = some found ∧ FirstAppearances (names pieces) found) ∧
    nameByPosition (render pieces) = render (pieces.map Piece.marked) ∧
    ("" ∈ names pieces → ∀ path fields,
      makeArm path fields (render pieces) = .error (.implicitPlaceholder (render pieces))) ∧
    ("" ∉ names pieces → ∀ path,
      (∀ count, ∃ arm, makeArm path (.tuple count) (render pieces) = .ok arm ∧
        arm.template = render (pieces.map Piece.marked) ∧
        arm.arguments = ((List.range count).filter fun position =>
          toString position ∈ names pieces).map (fun position => "_" ++ toString position) ∧
        (∀ argument ∈ arm.arguments, argument ∈ names (pieces.map Piece.marked)) ∧
        AsksFor arm.template arm.arguments) ∧
      (∀ declared, ∃ arm, makeArm path (.named declared) (render pieces) = .ok arm ∧
        arm.template = render pieces ∧
        arm.arguments = declared.filter (· ∈ names pieces) ∧
        AsksFor arm.template arm.arguments) ∧
      ∃ arm, makeArm path .unit (render pieces) = .ok arm ∧
        arm.template = render pieces ∧ arm.arguments = []) := by
  refine ⟨?_, ?_, nameByPosition_render pieces, fun unnamed => makeArm_refused unnamed, ?_⟩
  · simp [placeholders?_render]
  · intro named
    exact ⟨_, by rw [placeholders?_render, if_neg named], firstAppearances_eraseDups _⟩
  · intro named path
    refine ⟨?_, ?_, _, makeArm_unit named path, rfl, rfl⟩
    · intro count
      have occurring : ∀ argument ∈ ((List.range count).filter
          (toString · ∈ names pieces)).map positionName,
          argument ∈ names (pieces.map Piece.marked) := by
        intro argument member
        obtain ⟨position, kept, rfl⟩ := List.mem_map.mp member
        exact positionName_mem_names_marked (by simpa using (List.mem_filter.mp kept).2)
      exact ⟨_, makeArm_tuple named path count, rfl, rfl, occurring,
        asksFor_render (empty_not_mem_names_marked named) occurring⟩
    · intro declared
      have occurring : ∀ field ∈ declared.filter (· ∈ names pieces), field ∈ names pieces := by
        intro field member
        simpa using (List.mem_filter.mp member).2
      exact ⟨_, makeArm_named named path declared, rfl, rfl, asksFor_render named occurring⟩

/-- Three opening braces in a row are a doubled one and a placeholder. -/
theorem scans_agree_behind_doubled_brace :
    ∃ found arm,
      placeholders? "\x7b\x7b\x7b0:?\x7d\x7d\x7d of \x7bwidth\x7d" = some found ∧
      FirstAppearances ["0", "width"] found ∧
      makeArm "Self" (.tuple 2) "\x7b\x7b\x7b0:?\x7d\x7d\x7d of \x7bwidth\x7d" = .ok arm ∧
      arm.template = "\x7b\x7b\x7b_0:?\x7d\x7d\x7d of \x7bwidth\x7d" ∧
      arm.arguments = ["_0"] := by
  obtain ⟨_, collects, _, _, arms⟩ := scans_agree_on_pieces
    [.doubledOpening,
      .placeholder ⟨"0", List.all_eq_true.mp rfl⟩ (some ⟨"?", List.all_eq_true.mp rfl⟩),
      .doubledClosing, .literal ⟨" of ", List.all_eq_true.mp rfl⟩,
      .placeholder ⟨"width", List.all_eq_true.mp rfl⟩ none]
  have named : "" ∉ ["0", "width"] := by decide
  obtain ⟨found, collected, appearances⟩ := collects named
  obtain ⟨arm, made, template, arguments, _⟩ := (arms named "Self").1 2
  exact ⟨found, arm, collected, appearances, made, template, arguments⟩

end ScriptMachine.Message
