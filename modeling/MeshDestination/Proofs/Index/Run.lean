import MeshDestination.Index
import MeshDestination.Proofs.Subscription

/-!
# Runs of the index

A run performs operations one after the other, from an index that knows nothing but its cluster. An
operation records or forgets a resource, subscribes, or is an action of a subscriber or a listener
on one of the subscriptions; the actions stand for all that happens between two changes of the
index, so that a run is any interleaving of them. What a run has applied and not deleted since
(`applied`) is read off its operations alone.
-/

namespace MeshDestination

open Cluster

namespace Cluster.Resource

/-- The key under which a resource is known, if it has a name. -/
def key? (r : Resource) : Option ObjectKey :=
  r.meta_.name.map fun name => ⟨r.meta_.namespaceName, name⟩

/-- The resource as a service. -/
def service? : Resource → Option ServiceObject
  | .service o => some o
  | _ => none

/-- The resource as an endpoints resource. -/
def endpoints? : Resource → Option EndpointsObject
  | .endpoints o => some o
  | _ => none

end Cluster.Resource

namespace Index

/-- What can be done to the index. -/
inductive Operation where
  | apply (r : Resource)
  | delete (kind : Kind) (ns name : String)
  | subscribeEndpoints (s : ServiceRef) (p : Port)
  | subscribeProfile (s : ServiceRef)
  /-- An action on the subscription to endpoints that has a ticket. -/
  | onEndpoints (ticket : Nat) (a : Subscription.Action)
  /-- An action on the subscription to a profile that has a ticket. -/
  | onProfile (ticket : Nat) (a : Subscription.Action)

/-- Performs an operation. -/
def perform (ix : Index) : Operation → Index
  | .apply r => (ix.apply r).1
  | .delete kind ns name => ix.delete kind ns name
  | .subscribeEndpoints s p => (ix.subscribeEndpoints s p).1
  | .subscribeProfile s => (ix.subscribeProfile s).1
  | .onEndpoints ticket a =>
    { ix with endpointSubs := ix.endpointSubs.modify ticket (·.perform a) }
  | .onProfile ticket a => { ix with profileSubs := ix.profileSubs.modify ticket (·.perform a) }

/-- Performs operations in order. -/
def run (ix : Index) (ops : List Operation) : Index := ops.foldl perform ix

/-- The index of a cluster of which nothing is known yet. -/
def start (c : ClusterInfo) : Index := { cluster := c }

theorem run_concat (ix : Index) (ops : List Operation) (op : Operation) :
    ix.run (ops ++ [op]) = (ix.run ops).perform op := by
  rw [run, List.foldl_append]
  rfl

/-- What every operation of a kind keeps, a run of such operations keeps. -/
theorem run_invariant_of {P : Index → Prop} {Q : Operation → Prop}
    (step : ∀ ix op, Q op → P ix → P (ix.perform op)) :
    ∀ (ops : List Operation) {ix : Index}, (∀ op ∈ ops, Q op) → P ix → P (ix.run ops)
  | [], _, _, h => h
  | op :: ops, ix, hops, h =>
    run_invariant_of step ops (fun op' hop' => hops op' (List.mem_cons_of_mem op hop'))
      (step ix op (hops op List.mem_cons_self) h)

/-- What every operation keeps, a run keeps. -/
theorem run_invariant {P : Index → Prop} (step : ∀ ix op, P ix → P (ix.perform op))
    (ops : List Operation) {ix : Index} (h : P ix) : P (ix.run ops) :=
  run_invariant_of (Q := fun _ => True) (fun ix op _ => step ix op) ops (fun _ _ => trivial) h

/-! ## Applied resources -/

variable {α : Type}

/-- What is applied under a key after an operation; `pick` reads resources of the kind. -/
def record (pick : Resource → Option α) (kind : Kind) (key : ObjectKey) (current : Option α) :
    Operation → Option α
  | .apply r => if r.key? = some key then (pick r).or current else current
  | .delete k ns name => if k = kind ∧ key = ⟨ns, name⟩ then none else current
  | _ => current

/-- What is applied under a key and not deleted since. -/
def applied (pick : Resource → Option α) (kind : Kind) (key : ObjectKey) (ops : List Operation) :
    Option α := ops.foldl (record pick kind key) none

theorem applied_concat (pick : Resource → Option α) (kind : Kind) (key : ObjectKey)
    (ops : List Operation) (op : Operation) :
    applied pick kind key (ops ++ [op]) = record pick kind key (applied pick kind key ops) op := by
  rw [applied, List.foldl_append]
  rfl

/-- The service resource of a service that is applied and not deleted since. -/
def appliedService (ops : List Operation) (s : ServiceRef) : Option ServiceObject :=
  applied Resource.service? .service ⟨s.ns, s.name⟩ ops

/-- The endpoints resource of a service that is applied and not deleted since. -/
def appliedEndpoints (ops : List Operation) (s : ServiceRef) : Option EndpointsObject :=
  applied Resource.endpoints? .endpoints ⟨s.ns, s.name⟩ ops

end Index

/-! ## A small cluster -/

namespace Sample

/-- The service `ns/web`. -/
def web : ServiceRef := ⟨"ns", "web"⟩

/-- Its service resource declares port 80. -/
def service : ServiceObject := ⟨{ name := some "web", ns := some "ns" }, [⟨80, none⟩]⟩

/-- Its endpoints resource lists one address. -/
def endpoints : EndpointsObject :=
  ⟨{ name := some "web", ns := some "ns", resourceVersion := some "7" },
    [⟨[⟨"10.0.0.1", none⟩], [⟨none, 80⟩]⟩]⟩

/-- The address that the endpoints resource lists. -/
def backend : Net.SocketAddr := ⟨.v4 0x0a000001#32, 80, 0⟩

end Sample

end MeshDestination
