import MeshDestination.Net.Url
import MeshDestination.Text.Quoted
import MeshDestination.Traffic.Sample

/-!
# Clients of the metrics system

A client is made for a base address, which must be a URL.
-/

namespace MeshDestination.Traffic

open Net Text

/-- A client. -/
structure Client where
  /-- The scheme of the address that queries are sent to. -/
  scheme : String

/-- The path that queries are sent to. -/
def queryPath : String := "/api/v1/query"

/-- A text without the slashes at its end. -/
def trimSlashes (s : String) : String :=
  String.ofList ((s.toList.reverse.dropWhile (· == '/')).reverse)

/-- A client for a base address. -/
def Client.ofUrl (base : String) : Except QueryError Client :=
  match urlScheme (trimSlashes base ++ queryPath) with
  | .ok scheme => .ok ⟨scheme⟩
  | .error e => .error (.invalid ("invalid Prometheus URL " ++ quoted base ++ ": " ++ e.message))

end MeshDestination.Traffic
