import MeshDestination.Discovery.Target

/-!
# Lookups

A client's lookup finds its target and subscribes to it. Each lookup is counted under its result,
and each stream that it opens is counted while it is open and when it is finished.
-/

namespace MeshDestination.Discovery

/-- The kinds of lookup. -/
inductive Rpc where
  | get
  | getProfile
  deriving DecidableEq

/-- The name of a kind of lookup. -/
def Rpc.name : Rpc → String
  | .get => "Get"
  | .getProfile => "GetProfile"

/-- Why a lookup is refused. -/
inductive Rejection where
  /-- The text is no target in the cluster's domain. -/
  | invalidTarget (clusterDomain path : String)
  /-- The target cannot be subscribed to. -/
  | failed (reason : String)
  deriving DecidableEq

/-- The wording of a refusal. -/
def Rejection.message : Rejection → String
  | .invalidTarget clusterDomain path => Discovery.invalidTarget clusterDomain path
  | .failed reason => "lookup failed: " ++ reason

/-- What is counted of one kind of lookup. -/
structure LookupCounters where
  subscribed : Nat := 0
  invalidPath : Nat := 0
  failed : Nat := 0
  /-- Streams that are open. -/
  streams : Nat := 0
  /-- Messages sent on all streams. -/
  updates : Nat := 0
  /-- Streams that are over. -/
  finished : Nat := 0
  deriving DecidableEq

namespace LookupCounters

/-- Counts a refused lookup. -/
def reject (c : LookupCounters) : Rejection → LookupCounters
  | .invalidTarget .. => { c with invalidPath := c.invalidPath + 1 }
  | .failed _ => { c with failed := c.failed + 1 }

/-- Counts a lookup that opens a stream. -/
def open_ (c : LookupCounters) : LookupCounters :=
  { c with subscribed := c.subscribed + 1, streams := c.streams + 1 }

/-- Counts messages that are sent. -/
def send (c : LookupCounters) (n : Nat) : LookupCounters := { c with updates := c.updates + n }

/-- Counts the end of a stream. -/
def finish (c : LookupCounters) : LookupCounters :=
  { c with streams := c.streams - 1, finished := c.finished + 1 }

/-- All lookups counted. -/
def lookups (c : LookupCounters) : Nat := c.subscribed + c.invalidPath + c.failed

/-- The lines that report lookups, those of results that occurred. -/
def lookupLines (c : LookupCounters) (scope : String) (rpc : Rpc) : List String :=
  let line (result : String) (n : Nat) :=
    if n = 0 then []
    else [scope ++ "lookups_total\x7brpc=\"" ++ rpc.name ++ "\",result=\"" ++ result ++ "\"\x7d " ++
      toString n]
  line "Failed" c.failed ++ line "InvalidPath" c.invalidPath ++ line "Subscribed" c.subscribed

/-- The lines that report streams. -/
def streamLines (c : LookupCounters) (scope : String) (rpc : Rpc) : List String :=
  let line (name : String) (n : Nat) :=
    scope ++ name ++ "\x7brpc=\"" ++ rpc.name ++ "\"\x7d " ++ toString n
  [line "stream_duration_seconds_count" c.finished, line "streams" c.streams,
    line "updates_total" c.updates]

end LookupCounters

/-- Looks a target up and subscribes to it. -/
def lookup (clusterDomain path : String) (subscribe : Target → Except String α) :
    Except Rejection α :=
  match Target.ofText? clusterDomain path with
  | none => .error (.invalidTarget clusterDomain path)
  | some target => (subscribe target).mapError .failed

end MeshDestination.Discovery
