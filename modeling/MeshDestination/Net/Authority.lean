import MeshDestination.Net.Ip

/-!
# The authority part of a target

Optional user information before the last `@`, a host, which may be a bracketed address, and an
optional port after a colon. Only ASCII characters that a target may hold are admitted, a percent
sign only in the user information.
-/

namespace MeshDestination.Net

/-- ASCII characters that may stand anywhere in a target, the percent sign apart. -/
def isTargetChar (c : Char) : Bool :=
  c.isAlphanum || "!#$&'()*+,-./:;=?@[]_~".toList.contains c

/-- The most colons outside brackets and user information before the text is refused. -/
def maxColons : Nat := 8

/-- What a left-to-right pass over an authority remembers. -/
structure AuthorityScan where
  colons : Nat := 0
  opened : Bool := false
  closed : Bool := false
  percent : Bool := false
  /-- Whether the last character was an `@`. -/
  atEnd : Bool := false

/-- One character further. Brackets close and user information ends what was counted before. -/
def AuthorityScan.step (st : AuthorityScan) (c : Char) : Option AuthorityScan :=
  if c = '/' ∨ c = '?' ∨ c = '#' then none
  else if c = ':' then
    if maxColons ≤ st.colons then none
    else some { st with colons := st.colons + 1, atEnd := false }
  else if c = '[' then
    if st.percent || st.opened then none else some { st with opened := true, atEnd := false }
  else if c = ']' then
    if !st.opened || st.closed then none
    else some { st with closed := true, colons := 0, percent := false, atEnd := false }
  else if c = '@' then some { st with colons := 0, percent := false, atEnd := true }
  else if c = '%' then some { st with percent := true, atEnd := false }
  else if isTargetChar c then some { st with atEnd := false }
  else none

/-- Whether a text is an authority. -/
def isAuthority (s : List Char) : Bool :=
  !s.isEmpty &&
    match s.foldlM AuthorityScan.step {} with
    | some st => st.opened == st.closed && st.colons ≤ 1 && !st.atEnd && !st.percent
    | none => false

/-- The text after the last occurrence of a character, the whole text if there is none. -/
def afterLast (sep : Char) (s : List Char) : List Char :=
  (s.reverse.takeWhile (· != sep)).reverse

/-- The host of an authority, brackets included. -/
def authorityHost (s : List Char) : List Char :=
  let hostPort := afterLast '@' s
  match hostPort with
  | '[' :: _ => hostPort.takeWhile (· != ']') ++ [']']
  | _ => hostPort.takeWhile (· != ':')

/-- A port in decimal, which may be written with a plus sign. -/
def signedPort? (s : List Char) : Option Nat :=
  match s with
  | '+' :: r => decimal? 65535 r
  | r => decimal? 65535 r

/-- The port after the last colon of an authority, if that is a number of 16 bits. -/
def authorityPort? (s : List Char) : Option Nat :=
  if s.contains ':' then signedPort? (afterLast ':' s) else none

end MeshDestination.Net
