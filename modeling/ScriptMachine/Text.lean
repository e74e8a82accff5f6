import ScriptMachine.Text.Unprintable

/-! # Texts

How texts are laid out in columns, freed from blanks, and shown between quotes.
-/

namespace ScriptMachine.Text

/-! ## Aligned columns

Padding a text with spaces to a least width. A text that is already wide enough is never cut.
-/

/-- Where a padded text stands in its column. -/
inductive Alignment where
  /-- Spaces go after the text. -/
  | left
  /-- Spaces go before the text. -/
  | right
  /-- Spaces go to both sides, an odd one after the text. -/
  | center
  deriving Repr, DecidableEq

def spaces (count : Nat) : String :=
  String.ofList (List.replicate count ' ')

/-- Pad a text with spaces to at least `width` characters. -/
def pad (alignment : Alignment) (width : Nat) (text : String) : String :=
  let missing := width - text.length
  match alignment with
  | .left => text ++ spaces missing
  | .right => spaces missing ++ text
  | .center => spaces (missing / 2) ++ text ++ spaces (missing - missing / 2)

/-! ## Blank characters

The characters with the Unicode property White_Space, and texts with those taken off both ends.
The separators U+001C to U+001F, the zero width space and the byte order mark do not have the
property, so they stay.
-/

/-- Whether the character has the Unicode property White_Space. -/
def isBlank (c : Char) : Bool :=
  let code := c.toNat
  (0x09 ≤ code && code ≤ 0x0D) || code == 0x20 || code == 0x85 || code == 0xA0 ||
    code == 0x1680 || (0x2000 ≤ code && code ≤ 0x200A) || code == 0x2028 || code == 0x2029 ||
    code == 0x202F || code == 0x205F || code == 0x3000

/-- The characters without the blanks at either end. -/
def trim (chars : List Char) : List Char :=
  ((chars.dropWhile isBlank).reverse.dropWhile isBlank).reverse

def trimmed (text : String) : String :=
  String.ofList (trim text.toList)

theorem dropWhile_of_not_blank {chars : List Char} (solid : ∀ c ∈ chars, isBlank c = false) :
    chars.dropWhile isBlank = chars := by
  cases chars with
  | nil => rfl
  | cons c rest => exact List.dropWhile_cons_of_neg (by simp [solid c List.mem_cons_self])

theorem trim_of_not_blank {chars : List Char} (solid : ∀ c ∈ chars, isBlank c = false) :
    trim chars = chars := by
  rw [trim, dropWhile_of_not_blank solid, dropWhile_of_not_blank (by simpa using solid),
    List.reverse_reverse]

/-- Blanks at the ends make no difference. -/
theorem trim_append_of_blank {before chars after : List Char}
    (blankBefore : ∀ c ∈ before, isBlank c = true) (blankAfter : ∀ c ∈ after, isBlank c = true) :
    trim (before ++ chars ++ after) = trim chars := by
  have front : (before ++ chars ++ after).dropWhile isBlank = (chars ++ after).dropWhile isBlank := by
    rw [List.append_assoc, List.dropWhile_append_of_pos blankBefore]
  rw [trim, trim, front, List.dropWhile_append]
  cases leading : chars.dropWhile isBlank with
  | nil =>
      have all : after.dropWhile isBlank = [] := by
        rw [← List.append_nil after, List.dropWhile_append_of_pos blankAfter, List.dropWhile_nil]
      rw [List.isEmpty_nil, if_pos rfl, all]
  | cons first rest =>
      have back : (first :: rest ++ after).reverse.dropWhile isBlank =
          (first :: rest).reverse.dropWhile isBlank := by
        rw [List.reverse_append, List.dropWhile_append_of_pos (by simpa using blankAfter)]
      rw [List.isEmpty_cons, if_neg Bool.false_ne_true, back]

/-! ## Quoted characters and texts

A character or text between quotes, in a form that shows every character: the usual escapes for
NUL, tab, return, newline, backslash and the quote in use, and the code point in hexadecimal for a
character without a glyph of its own.
-/

/-- The code point of a character between braces, in lower-case hexadecimal without leading zeros. -/
def escapeByNumber (c : Char) : String :=
  "\\u\x7b" ++ String.ofList (Nat.toDigits 16 c.toNat) ++ "\x7d"

/-- One character as it stands between two `quote` characters. -/
def escape (quote c : Char) : String :=
  if c = Char.ofNat 0 then "\\0"
  else if c = '\t' then "\\t"
  else if c = '\r' then "\\r"
  else if c = '\n' then "\\n"
  else if c = '\\' ∨ c = quote then String.ofList ['\\', c]
  else if isUnprintable c then escapeByNumber c
  else String.singleton c

def quoteChar (c : Char) : String :=
  "'" ++ escape '\x27' c ++ "'"

def quoteText (text : String) : String :=
  "\"" ++ String.join (text.toList.map (escape '\x22')) ++ "\""

end ScriptMachine.Text
