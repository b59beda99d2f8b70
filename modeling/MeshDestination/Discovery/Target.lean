import MeshDestination.Net.Authority
import MeshDestination.Service

/-!
# Targets

A client asks for a service port by the service's fully qualified name, with a port if it is not 80.
The name may end in dots.
-/

namespace MeshDestination.Discovery

open Net

/-- What a client asks for. -/
structure Target where
  service : ServiceRef
  port : Port
  deriving DecidableEq

/-- What is left of a list in front of an ending, if the list has that ending. -/
def stripSuffix? (ending s : List Char) : Option (List Char) :=
  if ending.isSuffixOf s then some (s.take (s.length - ending.length)) else none

/-- A text without the dots at its end. -/
def trimDots (s : List Char) : List Char := (s.reverse.dropWhile (· == '.')).reverse

/-- The service of a fully qualified name in a cluster domain. -/
def serviceOf? (clusterDomain host : List Char) : Option ServiceRef := do
  let labels ← (stripSuffix? clusterDomain (trimDots host)).bind (stripSuffix? ['.'])
  match pieces '.' labels with
  | [name, ns, svc] =>
    if name.isEmpty || ns.isEmpty || svc ≠ "svc".toList then none
    else some ⟨String.ofList ns, String.ofList name⟩
  | _ => none

/-- The port that a target's text asks for. Whatever stands beside the host must be a port. -/
def portOf? (s : List Char) : Option Port :=
  match authorityPort? s with
  | some n => Port.ofNat? n
  | none => if (authorityHost s).length < s.length then none else some Port.http

/-- Reads a target. -/
def Target.ofText? (clusterDomain path : String) : Option Target := do
  let s := path.toList
  if isAuthority s then
    let port ← portOf? s
    let service ← serviceOf? clusterDomain.toList (authorityHost s)
    some { service, port }
  else none

/-- What is answered to a text that is no target. -/
def invalidTarget (clusterDomain path : String) : String :=
  "destination must be of the form <name>.<namespace>.svc." ++ clusterDomain ++ "[:<port>]: " ++
    path

end MeshDestination.Discovery
