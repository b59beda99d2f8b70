import MeshDestination.Pattern.Parser
import MeshDestination.Pattern.Limits

/-!
# Path patterns

A pattern is kept as its text together with the fact that the text can be used as one. Two patterns
are the same when their texts are.
-/

namespace MeshDestination

/-- Whether a text reads as a pattern that can be used. -/
def Pattern.isValid (s : String) : Bool :=
  match Pattern.parse? s.toList with
  | some n => n.isUsable
  | none => false

/-- A usable pattern. -/
structure Pattern where
  text : String
  valid : Pattern.isValid text = true
  deriving DecidableEq

namespace Pattern

/-- The pattern of a text, if it is one. -/
def ofText? (s : String) : Option Pattern :=
  if h : isValid s = true then some ⟨s, h⟩ else none

/-- A text as the pattern that matches exactly it: every character that has a meaning of its own
gets a backslash. -/
def escapeText (s : String) : String :=
  String.ofList (s.toList.flatMap fun c => if isMeta c then ['\\', c] else [c])

end Pattern

end MeshDestination
