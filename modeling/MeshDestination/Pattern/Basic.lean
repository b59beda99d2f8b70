/-!
# Patterns

The structure of a path pattern as far as it decides whether the pattern can be used: what repeats,
what groups, what stands in a bracketed class, and where flags change.
-/

namespace MeshDestination.Pattern

/-- A flag of a pattern. -/
inductive Flag where
  | caseInsensitive
  | multiLine
  | dotMatchesLineEnd
  | swapGreed
  | unicode
  | carriageReturn
  | ignoreBlank
  deriving DecidableEq

/-- A list of flags, each set or cleared. -/
abbrev FlagList := List (Flag × Bool)

/-- Whether a list of flags sets or clears a flag. -/
def FlagList.state? (fs : FlagList) (f : Flag) : Option Bool :=
  (fs.find? (·.1 == f)).map (·.2)

/-- A character as it is written: itself, or a byte by two hexadecimal digits. -/
structure Literal where
  char : Char
  isByte : Bool := false

/-- The three classes that have a letter, digits, blanks and word characters. -/
inductive Shorthand where
  | digit
  | space
  | word

/-- An item of a bracketed class. -/
inductive ClassItem where
  | literal (l : Literal)
  | range (first last : Literal)
  | shorthand (s : Shorthand) (negated : Bool)
  | ascii (negated : Bool)
  | named
  | nested (negated : Bool) (items : List ClassItem)
  /-- An operator between what stands before and after it. -/
  | operator

/-- A pattern. -/
inductive Node where
  | empty
  | flags (fs : FlagList)
  | literal (l : Literal)
  | dot
  | assertion
  | shorthand (s : Shorthand) (negated : Bool)
  | named
  | class (negated : Bool) (items : List ClassItem)
  | repeated (min : Nat) (max : Option Nat) (body : Node)
  | group (fs : FlagList) (body : Node)
  | either (branches : List Node)
  | sequence (parts : List Node)

/-- Parts in a row. -/
def Node.ofParts : List Node → Node
  | [] => .empty
  | [n] => n
  | ns => .sequence ns

/-- Alternatives. -/
def Node.ofBranches : List Node → Node
  | [n] => n
  | ns => .either ns

end MeshDestination.Pattern
