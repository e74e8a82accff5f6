import ScriptMachine.Text

/-! # Messages of error types

The messages of an error type are derived from its declaration.
-/

namespace ScriptMachine.Message

/-! ## Declarations of error types

What the derivation of messages sees of a type: its attributes, its variants and its fields.
-/

/-- How an attribute is written behind its path. -/
inductive AttributeForm where
  /-- One text between parentheses. -/
  | text (text : String)
  /-- Anything else between parentheses. -/
  | tokens (source : String)
  /-- A text after an equals sign. -/
  | value (text : String)
  /-- Nothing. -/
  | bare
  deriving Repr, DecidableEq

/-- An attribute of a type or of a variant. -/
structure Attribute where
  path : String
  form : AttributeForm
  deriving Repr, DecidableEq

/-- The fields of a struct or of a variant. -/
inductive Fields where
  /-- No fields, and no place for any. -/
  | unit
  /-- Fields with names. -/
  | named (names : List String)
  /-- Fields that go by their position. -/
  | tuple (count : Nat)
  deriving Repr, DecidableEq

/-- A variant of an enum. -/
structure Variant where
  name : String
  attributes : List Attribute
  fields : Fields
  deriving Repr, DecidableEq

/-- The declaration of a type. -/
inductive Declaration where
  | enum (attributes : List Attribute) (variants : List Variant)
  | struct (attributes : List Attribute) (fields : Fields)
  | union (attributes : List Attribute) (fields : Fields)
  deriving Repr, DecidableEq

/-! ## Message templates

A message template is a text with placeholders between braces: a name, and after a colon how the value
is to be shown. A doubled opening brace stands for the brace itself. Two scans read templates: one
collects the names of the placeholders, the other marks the names that are positions.
-/

/-- The character that opens a placeholder. -/
def opening : Char := '\x7b'

/-- The character that closes a placeholder. -/
def closing : Char := '\x7d'

/-- Whether the character ends the name of a placeholder. -/
def endsName (c : Char) : Bool :=
  c = closing || c = ':'

/-- Where a scan for names stands. -/
inductive Place where
  /-- Outside of every placeholder. -/
  | text
  /-- Behind an opening brace that may be the first of two. -/
  | brace
  /-- Inside the name of a placeholder, of which the characters so far are given backwards. -/
  | name (reversed : List Char)
  deriving Repr, DecidableEq

/-- The names of the placeholders as they stand between the braces, in order. A template that ends
    inside a name ends the name. -/
def rawNames : Place → List Char → List (List Char)
  | .text, [] => []
  | .text, c :: rest => if c = opening then rawNames .brace rest else rawNames .text rest
  | .brace, [] => [[]]
  | .brace, c :: rest =>
      if c = opening then rawNames .text rest
      else if endsName c then [] :: rawNames .text rest
      else rawNames (.name [c]) rest
  | .name reversed, [] => [reversed.reverse]
  | .name reversed, c :: rest =>
      if endsName c then reversed.reverse :: rawNames .text rest
      else rawNames (.name (c :: reversed)) rest

/-- The distinct names of a template's placeholders without the blanks around them, in the order in
    which they first appear. There is no result if a placeholder has no name. -/
def placeholders? (template : String) : Option (List String) :=
  let names := (rawNames .text template.toList).map fun name => String.ofList (Text.trim name)
  if "" ∈ names then none else some names.eraseDups

/-- Put an underscore in front of every placeholder that begins with a digit. `opened` tells that the
    character before is an opening brace, and not the second of two. -/
def markPositions (opened : Bool) : List Char → List Char
  | [] => []
  | c :: rest =>
      if opened then
        if c.isDigit then '_' :: c :: markPositions false rest else c :: markPositions false rest
      else c :: markPositions (c = opening) rest

/-- The template in which positions are names, so that the values can be given by name. -/
def nameByPosition (template : String) : String :=
  String.ofList (markPositions false template.toList)

/-! ## Deriving messages

An error type gets its messages from `error` attributes: one on every variant of an enum, one on a
struct. The expansion of a declaration is a match with one arm for each message, in the order of the
declaration, or the first thing wrong with the declaration in that order.
-/

/-- What a message belongs to. -/
inductive Target where
  | variant
  | struct
  deriving Repr, DecidableEq

def Target.name : Target → String
  | .variant => "variant"
  | .struct => "struct"

/-- Why a declaration has no expansion. -/
inductive Error where
  /-- There is no `error` attribute. -/
  | missingMessage (target : Target)
  /-- What the attribute has between its parentheses is no single text. -/
  | notOneText
  /-- The attribute has no parentheses. -/
  | noArguments
  /-- A placeholder of the template has no name. -/
  | implicitPlaceholder (template : String)
  /-- Unions have no messages. -/
  | union
  deriving Repr, DecidableEq

def Error.message : Error → String
  | .missingMessage target =>
      "missing #[error(\"...\")] on " ++ target.name ++ "; every error needs a message"
  | .notOneText => "expected a string literal, e.g. #[error(\"bad push\")]"
  | .noArguments => "expected #[error(\"message\")]"
  | .implicitPlaceholder template =>
      "implicit `\x7b\x7d` placeholder in \"" ++ template ++ "\"; name the field, e.g. \x7b0\x7d"
  | .union => "`Error` cannot be derived for unions"

/-- How an arm takes its value apart, with the names that it binds. -/
inductive Pattern where
  | unit
  | named (bound : List String)
  | tuple (bound : List String)
  deriving Repr, DecidableEq

/-- The names that a pattern binds, in order. -/
def Pattern.bound : Pattern → List String
  | .unit => []
  | .named bound => bound
  | .tuple bound => bound

/-- One arm of the match that writes messages. -/
structure Arm where
  /-- What the arm matches. -/
  path : String
  pattern : Pattern
  /-- The template that is written. -/
  template : String
  /-- The bound names that are given to the template. -/
  arguments : List String
  deriving Repr, DecidableEq

/-- The code that is derived for a declaration. -/
structure Expansion where
  arms : List Arm
  deriving Repr, DecidableEq

namespace Expansion

/-- The interfaces that the derived code implements. -/
def interfaces : List String :=
  ["std::fmt::Display", "std::error::Error"]

/-- What the match is on. A match without arms is on the value itself, which cannot exist. -/
def subject (expansion : Expansion) : String :=
  if expansion.arms.isEmpty then "*self" else "self"

end Expansion

/-- The template of the first `error` attribute. -/
def findTemplate (target : Target) (attributes : List Attribute) : Except Error String :=
  match attributes.find? (·.path = "error") with
  | none => .error (.missingMessage target)
  | some found =>
      match found.form with
      | .text template => .ok template
      | .tokens _ => .error .notOneText
      | .value _ | .bare => .error .noArguments

/-- The name that the field at a position is bound to. -/
def positionName (position : Nat) : String :=
  "_" ++ toString position

/-- The arm that writes a template with the fields that it names. -/
def makeArm (path : String) (fields : Fields) (template : String) : Except Error Arm :=
  match placeholders? template with
  | none => .error (.implicitPlaceholder template)
  | some names =>
      match fields with
      | .unit => .ok { path, pattern := .unit, template, arguments := [] }
      | .named declared =>
          let used := declared.filter (· ∈ names)
          .ok { path, pattern := .named used, template, arguments := used }
      | .tuple count =>
          let positions := List.range count
          .ok
            { path
              pattern := .tuple (positions.map positionName)
              template := nameByPosition template
              arguments := (positions.filter (toString · ∈ names)).map positionName }

def Variant.arm (variant : Variant) : Except Error Arm := do
  let template ← findTemplate .variant variant.attributes
  makeArm ("Self::" ++ variant.name) variant.fields template

def Declaration.expand : Declaration → Except Error Expansion
  | .enum _ variants => do
      let arms ← variants.mapM Variant.arm
      .ok { arms }
  | .struct attributes fields => do
      let template ← findTemplate .struct attributes
      let arm ← makeArm "Self" fields template
      .ok { arms := [arm] }
  | .union _ _ => .error .union

end ScriptMachine.Message
