/-!
# Request methods

A method is a non-empty token of ASCII characters. Case matters.
-/

namespace MeshDestination.Http

/-- Characters that a token is written with. -/
def isTokenChar (c : Char) : Bool :=
  c.isAlphanum || "!#$%&'*+-.^_\x60|~".toList.contains c

/-- A request method. -/
structure Method where
  token : String
  valid : token.toList ≠ [] ∧ token.toList.all isTokenChar = true
  deriving DecidableEq

/-- The method of a text, if that is a token. -/
def Method.ofText? (s : String) : Option Method :=
  if h : s.toList ≠ [] ∧ s.toList.all isTokenChar = true then some ⟨s, h⟩ else none

/-- The methods that have a number of their own in discovery messages, in the order of the numbers.
-/
def registeredMethods : List String :=
  ["GET", "POST", "PUT", "DELETE", "PATCH", "OPTIONS", "CONNECT", "HEAD", "TRACE"]

/-- The number of a registered method. -/
def Method.number? (m : Method) : Option Nat :=
  registeredMethods.findIdx? (· == m.token)

end MeshDestination.Http
