import MeshDestination.Index.Port
import MeshDestination.Profile

/-!
# Messages to clients

What clients are sent for the events of a subscription. A change of endpoints is sent as what to
forget, then what to add, each only if there is something; every address comes with labels for
metrics.
-/

namespace MeshDestination.Discovery

open Net

/-! ## Endpoints -/

/-- An address with its weight and the labels that requests to it are counted under. -/
structure WeightedAddr where
  addr : SocketAddr
  weight : Nat
  labels : List (String × String)
  deriving DecidableEq

/-- The weight of every address: all share alike. -/
def uniformWeight : Nat := 10000

/-- The labels of an address. A workload is named under its kind; a pod that is its own workload is
named once. -/
def ownerLabels : Option Owner → List (String × String)
  | none => []
  | some o => ("pod", o.pod) :: if o.kind = "pod" then [] else [(o.kind, o.name)]

/-- An endpoint as it is sent. -/
def WeightedAddr.ofEndpoint (e : Endpoint) : WeightedAddr :=
  ⟨e.addr, uniformWeight, ownerLabels e.owner⟩

/-- A message about endpoints. -/
inductive Update where
  /-- Add or replace addresses. The labels are those of all of them. -/
  | add (addrs : List WeightedAddr) (labels : List (String × String))
  | remove (addrs : List SocketAddr)
  | noEndpoints (exists_ : Bool)
  deriving DecidableEq

/-- The labels of a service. -/
def serviceLabels (s : ServiceRef) : List (String × String) :=
  [("namespace", s.ns), ("service", s.name)]

/-- The messages for an event. -/
def Update.ofEvent (service : ServiceRef) : EndpointsEvent → List Update
  | .update added removed =>
    (if removed.isEmpty then [] else [.remove (removed.map (·.addr))]) ++
      if added.isEmpty then []
      else [.add (added.map WeightedAddr.ofEndpoint) (serviceLabels service)]
  | .noEndpoints exists_ => [.noEndpoints exists_]

/-! ## Profiles -/

/-- A request method as it is sent: by number, or by name if it has none. -/
inductive MethodMessage where
  | registered (number : Nat)
  | unregistered (name : String)
  deriving DecidableEq

/-- A method as it is sent. -/
def MethodMessage.ofMethod (m : Http.Method) : MethodMessage :=
  match m.number? with
  | some n => .registered n
  | none => .unregistered m.token

/-- A condition on a request as it is sent. -/
inductive RequestMatchMessage where
  | all (ms : List RequestMatchMessage)
  | any (ms : List RequestMatchMessage)
  | not (m : RequestMatchMessage)
  | path (regex : String)
  | method (m : MethodMessage)

/-- A condition on a response as it is sent. -/
inductive ResponseMatchMessage where
  | all (ms : List ResponseMatchMessage)
  | any (ms : List ResponseMatchMessage)
  | not (m : ResponseMatchMessage)
  | status (min max : Nat)

/-- A response class as it is sent. -/
structure ResponseClassMessage where
  condition : ResponseMatchMessage
  isFailure : Bool

/-- A route as it is sent. -/
structure RouteMessage where
  condition : RequestMatchMessage
  responseClasses : List ResponseClassMessage
  labels : List (String × String)
  isRetryable : Bool
  timeout : Option Duration

/-- A retry budget as it is sent. -/
structure RetryBudgetMessage where
  retryRatio : Number.Binary
  minRetriesPerSecond : Nat
  ttl : Option Duration

/-- A message about a profile. A service without a profile has neither routes nor a budget. -/
structure ProfileMessage where
  fullyQualifiedName : String
  routes : List RouteMessage := []
  retryBudget : Option RetryBudgetMessage := none

mutual
/-- A request condition as it is sent. -/
def RequestMatchMessage.ofMatch : RequestMatch → RequestMatchMessage
  | .all ms => .all (RequestMatchMessage.ofMatches ms)
  | .any ms => .any (RequestMatchMessage.ofMatches ms)
  | .not m => .not (RequestMatchMessage.ofMatch m)
  | .path p => .path p.text
  | .method m => .method (.ofMethod m)

def RequestMatchMessage.ofMatches : List RequestMatch → List RequestMatchMessage
  | [] => []
  | m :: r => RequestMatchMessage.ofMatch m :: RequestMatchMessage.ofMatches r
end

mutual
/-- A response condition as it is sent. -/
def ResponseMatchMessage.ofMatch : ResponseMatch → ResponseMatchMessage
  | .all ms => .all (ResponseMatchMessage.ofMatches ms)
  | .any ms => .any (ResponseMatchMessage.ofMatches ms)
  | .not m => .not (ResponseMatchMessage.ofMatch m)
  | .status min max => .status min max

def ResponseMatchMessage.ofMatches : List ResponseMatch → List ResponseMatchMessage
  | [] => []
  | m :: r => ResponseMatchMessage.ofMatch m :: ResponseMatchMessage.ofMatches r
end

/-- The most seconds a duration that is sent can have. -/
def maxSentSeconds : Nat := 0x7FFFFFFFFFFFFFFF

/-- A duration as it is sent: one that is too long is left out. -/
def sentDuration? (d : Duration) : Option Duration :=
  if d.seconds ≤ maxSentSeconds then some d else none

/-- A response class as it is sent. -/
def ResponseClassMessage.ofClass (c : ResponseClass) : ResponseClassMessage :=
  ⟨.ofMatch c.condition, c.isFailure⟩

/-- A route as it is sent. -/
def RouteMessage.ofRoute (r : RouteSpec) : RouteMessage where
  condition := .ofMatch r.condition
  responseClasses := r.responseClasses.map .ofClass
  labels := [("route", r.name)]
  isRetryable := r.isRetryable
  timeout := r.timeout.bind sentDuration?

/-- A retry budget as it is sent. -/
def RetryBudgetMessage.ofBudget (b : RetryBudget) : RetryBudgetMessage :=
  ⟨b.retryRatio, b.minRetriesPerSecond, sentDuration? b.ttl⟩

/-- The message for a service's profile. -/
def ProfileMessage.ofProfile (fullyQualifiedName : String) : Option Profile → ProfileMessage
  | none => { fullyQualifiedName }
  | some p => {
      fullyQualifiedName
      routes := p.routes.map .ofRoute
      retryBudget := p.retryBudget.map .ofBudget }

end MeshDestination.Discovery
