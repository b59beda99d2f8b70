import MeshDestination.Net.Ip

/-!
# Socket addresses

An IP address with a port, and for IPv6 a numeric zone. Text puts an IPv6 address in brackets. Order
is by address, then port, then zone.
-/

namespace MeshDestination.Net

/-- An address and a port. The zone is zero for IPv4 and for IPv6 addresses written without one. -/
structure SocketAddr where
  ip : Ip
  port : UInt16
  zone : UInt32 := 0
  deriving DecidableEq

namespace SocketAddr

instance : Ord SocketAddr :=
  ⟨compareLex (compareOn ip) (compareLex (compareOn port) (compareOn zone))⟩

instance : Std.TransOrd SocketAddr :=
  inferInstanceAs
    (Std.TransCmp (compareLex (compareOn ip) (compareLex (compareOn port) (compareOn zone))))

instance : Std.LawfulEqOrd SocketAddr where
  toReflCmp := inferInstance
  eq_of_compare {a b} h := by
    have h : compareLex (compareOn ip) (compareLex (compareOn port) (compareOn zone)) a b = .eq := h
    rw [compareLex_eq_eq, compareLex_eq_eq] at h
    obtain ⟨h₁, h₂, h₃⟩ := h
    have e₁ : a.ip = b.ip := Std.LawfulEqOrd.eq_of_compare h₁
    have e₂ : a.port = b.port := Std.LawfulEqOrd.eq_of_compare h₂
    have e₃ : a.zone = b.zone := Std.LawfulEqOrd.eq_of_compare h₃
    cases a; cases b
    simp_all

/-- A port in decimal. Leading zeros are allowed. -/
def port? (s : List Char) : Option UInt16 :=
  (decimal? 65535 s).map UInt16.ofNat

/-- What follows the bracketed address: a zone, if any, then the port. -/
def bracketed? (inside after : List Char) : Option SocketAddr :=
  match after with
  | ':' :: digits => do
    let port ← port? digits
    match inside.span (· != '%') with
    | (addr, []) => do
      let b ← colons? addr
      some ⟨.v6 b, port, 0⟩
    | (addr, _ :: zone) => do
      let b ← colons? addr
      let z ← decimal? 4294967295 zone
      some ⟨.v6 b, port, UInt32.ofNat z⟩
  | _ => none

/-- Reads a socket address. -/
def ofText? (s : String) : Option SocketAddr :=
  match s.toList with
  | '[' :: r =>
    match r.span (· != ']') with
    | (inside, _ :: after) => bracketed? inside after
    | (_, []) => none
  | r =>
    match r.span (· != ':') with
    | (addr, _ :: digits) => do
      let b ← dotted? addr
      let port ← port? digits
      some ⟨.v4 b, port, 0⟩
    | (_, []) => none

/-- The text of a socket address. -/
def text (a : SocketAddr) : String :=
  match a.ip with
  | .v4 b => dotted b ++ ":" ++ toString a.port.toNat
  | .v6 b =>
    let zone := if a.zone = 0 then "" else "%" ++ toString a.zone.toNat
    "[" ++ colons b ++ zone ++ "]:" ++ toString a.port.toNat

end SocketAddr

end MeshDestination.Net
